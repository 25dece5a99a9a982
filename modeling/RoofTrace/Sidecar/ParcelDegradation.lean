import RoofTrace.Sidecar.Regrid

/-!
# Parcels that are not there

When Regrid's reply has no usable polygon, `resolve` is to go on without one and to say so. It
does for every failure of the request and for every reply that holds what its types promise; a
reply with a value of another type, or with a polygon that is not one, ends in an exception.
-/

namespace Sidecar

open Outcome PyValue

/-! ### Replies -/

namespace PyValue

/-- A value that `or {}` makes an object of. -/
def IsDictOrFalsy (v : PyValue) : Prop := v.truthy = true → v.isDict = true

/-- The features of a reply. -/
def features (data : PyValue) : PyValue := (data.item "parcels").item "features"

/-- The polygon of a geometry that has coordinates: its own, or the one of a `MultiPolygon` with
the most vertices. -/
def PolygonOf (geom coords : PyValue) : Prop :=
  (geom.item "coordinates").truthy = true ∧
    (geom.item "type" = .str "Polygon" ∧ geom.item "coordinates" = coords ∨
      geom.item "type" = .str "MultiPolygon" ∧
        largestPolygon (geom.item "coordinates") = .ok coords)

/-- The geometry of a feature holds what its types promise. -/
structure GeometryWellTyped (feature : PyValue) : Prop where
  geometry : (feature.item "geometry").IsDictOrFalsy
  multiPolygon : ((feature.item "geometry").item "coordinates").truthy = true →
    (feature.item "geometry").item "type" = .str "MultiPolygon" →
      ∃ coords, largestPolygon ((feature.item "geometry").item "coordinates") = .ok coords
  properties : ∀ coords, PolygonOf (feature.item "geometry") coords →
    (feature.item "properties").IsDictOrFalsy

/-- A reply holds what its types promise, as far as it is read. -/
structure WellTyped (data : PyValue) : Prop where
  dict : data.isDict = true
  parcels : (data.item "parcels").IsDictOrFalsy
  feature : data.features.truthy = true →
    ∃ feature, data.features.first = .ok feature ∧ feature.isDict = true ∧
      GeometryWellTyped feature

/-- The polygon of a reply. -/
def HasPolygon (data coords : PyValue) : Prop :=
  data.features.truthy = true ∧
    ∃ feature, data.features.first = .ok feature ∧ PolygonOf (feature.item "geometry") coords

end PyValue

namespace Surroundings

variable {σ : Type} (s : Surroundings σ)

/-- A polygon is usable when the contract takes it and, unless the footprints are cached, Shapely
takes it and compares it with every footprint of the tile. -/
structure Usable (coords : PyValue) : Prop where
  contract : ∃ polygon, s.parcelPolygon coords = .ok polygon
  shape : s.cached = none → ∃ shape, s.polygonToShapely coords = .ok shape ∧
    ∀ footprint ∈ s.tile, ∃ b, s.intersects footprint shape = .ok b

/-- A reply has a JSON value as its body. -/
inductive Body : RegridReply → PyValue → Prop where
  | intro (data : PyValue) : Body (.response 200 (.ok data)) data

/-- A reply contains a usable polygon. -/
def HasUsable (reply : RegridReply) : Prop :=
  s.keySet = true ∧ ∃ data, Body reply data ∧ ∃ coords, data.HasPolygon coords ∧ s.Usable coords

/-- A reply can be read: if it has a body, that holds what its types promise, and a polygon that it
has is usable. -/
def Readable (reply : RegridReply) : Prop :=
  s.keySet = true → ∀ data, Body reply data →
    data.WellTyped ∧ ∀ coords, data.HasPolygon coords → s.Usable coords

/-- The footprints that are found without a parcel. -/
def withoutParcel : List Rings := s.cached.getD (s.tile.filter s.nearby)

/-- Footprints are well formed when the contract takes each. -/
def WellFormed : Prop :=
  ∀ footprints, (footprints = s.tile ∨ s.cached = some footprints) →
    ∀ footprint ∈ footprints, ∃ polygon, polygonFromCoords footprint = .ok polygon

/-- Without a usable polygon the footprints are returned with a warning and no parcel, and nothing
is raised but that there are none. -/
structure Degrades (reply : RegridReply) : Prop where
  raises : ∀ e, s.resolveParcelAndFootprints reply = .error e →
    e = unprocessable "No building footprints found for this address."
  unusable : ¬ s.HasUsable reply → ∃ message : String,
    s.resolveParcelAndFootprints reply =
      (footprintPolygons s.withoutParcel).map
        (⟨none, [s!"parcel_unavailable: {message}"], ·⟩)

end Surroundings

/-! ### The extraction -/

namespace PyValue

/-- Of what `or {}` makes of a value one may read members exactly when the value is an object or
is falsy. -/
theorem orElse_getKey {v w : PyValue} {name : String} :
  (v.orElse (.obj [])).getKey name = .ok w ↔ v.IsDictOrFalsy ∧ v.item name = w
  := by
  rw [getKey_eq_ok, orElse]
  by_cases truthy : v.truthy = true
  · rw [if_pos truthy]
    constructor
    · exact fun ⟨dict, item⟩ => ⟨fun _ => dict, item⟩
    · exact fun ⟨dict, item⟩ => ⟨dict truthy, item⟩
  · rw [if_neg truthy]
    have none : v.item name = .null := by
      cases v with
      | obj members =>
          cases members with
          | nil => rfl
          | cons => exact absurd rfl truthy
      | _ => rfl
    rw [none]
    exact and_congr_left fun _ => ⟨fun _ h => absurd h truthy, fun _ => rfl⟩

theorem orElse_truthy {v : PyValue} :
  (v.orElse (.arr [])).truthy = true ↔ v.truthy = true
  := by
  rw [orElse]
  split
  · rfl
  · next h => exact iff_of_false nofun h

theorem orElse_of_truthy {v : PyValue} (h : v.truthy = true) (default : PyValue) :
  v.orElse default = v
  := by
  rw [orElse, if_pos h]

/-- The coordinates that are taken are those of the polygon of the geometry. -/
theorem polygonOfType_eq_ok {geom : PyValue} (truthy : (geom.item "coordinates").truthy = true)
    {chosen : Option PyValue}
    (h : polygonOfType (geom.item "type") (geom.item "coordinates") = .ok chosen) (coords : PyValue) :
  PolygonOf geom coords ↔ chosen = some coords
  := by
  rw [PolygonOf, and_iff_right truthy]
  rw [polygonOfType.eq_def] at h
  split at h
  · next type =>
    obtain ⟨largest, hl, rfl⟩ := map_eq_ok.mp h
    rw [type, hl]
    simp
  · next type =>
    cases h
    rw [type]
    simp
  · next notMulti notPolygon =>
    cases h
    apply iff_of_false
    · rintro (⟨type, -⟩ | ⟨type, -⟩)
      · exact notPolygon type
      · exact notMulti type
    · nofun

theorem polygonOfType_ok {geom : PyValue}
    (h : geom.item "type" = .str "MultiPolygon" →
      ∃ coords, largestPolygon (geom.item "coordinates") = .ok coords) :
  ∃ chosen, polygonOfType (geom.item "type") (geom.item "coordinates") = .ok chosen
  := by
  rw [polygonOfType.eq_def]
  split
  · next hs =>
    obtain ⟨coords, hc⟩ := h hs
    exact ⟨some coords, by rw [hc]; rfl⟩
  · exact ⟨_, rfl⟩
  · exact ⟨_, rfl⟩

/-- What is extracted of a feature is the polygon of its geometry. -/
theorem extractFeature_eq_ok {feature : PyValue} {result : Option RegridParcel}
    (h : extractFeature feature = .ok result) :
  feature.isDict = true ∧ GeometryWellTyped feature ∧
    ∀ coords, PolygonOf (feature.item "geometry") coords ↔
      result.map (·.polygonCoords) = some coords
  := by
  obtain ⟨geometry, hg, h⟩ := bind_eq_ok.mp h
  obtain ⟨dict, rfl⟩ := getKey_eq_ok.mp hg
  obtain ⟨properties, hp, h⟩ := bind_eq_ok.mp h
  obtain ⟨-, rfl⟩ := getKey_eq_ok.mp hp
  obtain ⟨coords, hc, h⟩ := bind_eq_ok.mp h
  obtain ⟨geom, rfl⟩ := orElse_getKey.mp hc
  use dict
  split at h
  · next truthy =>
    obtain ⟨type, ht, h⟩ := bind_eq_ok.mp h
    obtain ⟨-, rfl⟩ := orElse_getKey.mp ht
    obtain ⟨chosen, ho, h⟩ := bind_eq_ok.mp h
    have polygon := polygonOfType_eq_ok truthy ho
    have measured : (feature.item "geometry").item "type" = .str "MultiPolygon" →
        ∃ coords, largestPolygon ((feature.item "geometry").item "coordinates") = .ok coords := by
      intro type
      rw [type] at ho
      obtain ⟨coords, hl, -⟩ := map_eq_ok.mp ho
      exact ⟨coords, hl⟩
    cases chosen with
    | none =>
        cases h
        constructor
        · exact ⟨geom, fun _ => measured, fun coords h => nomatch (polygon coords).mp h⟩
        · exact polygon
    | some coords =>
        obtain ⟨uuid, hu, h⟩ := bind_eq_ok.mp h
        obtain ⟨props, -⟩ := orElse_getKey.mp hu
        obtain ⟨id, -, h⟩ := bind_eq_ok.mp h
        obtain ⟨address, -, h⟩ := bind_eq_ok.mp h
        obtain ⟨headline, -, h⟩ := bind_eq_ok.mp h
        cases h
        constructor
        · exact ⟨geom, fun _ => measured, fun _ _ => props⟩
        · exact polygon
  · next falsy =>
    cases h
    have none (coords : PyValue) : ¬ PolygonOf (feature.item "geometry") coords :=
      fun h => falsy h.1
    constructor
    · exact ⟨geom, fun truthy => absurd truthy falsy, fun coords h => absurd h (none coords)⟩
    · exact fun coords => iff_of_false (none coords) nofun

/-- A computation goes on with the result of its first part. -/
theorem bind_ok {α β : Type} {m : Except Exception α} {f : α → Except Exception β} {a : α}
    (hm : m = .ok a) (hf : ∃ b, f a = .ok b) :
  ∃ b, m >>= f = .ok b
  := by
  rw [hm]
  exact hf

/-- A feature that holds what its types promise can be extracted. -/
theorem extractFeature_ok {feature : PyValue} (dict : feature.isDict = true)
    (h : GeometryWellTyped feature) :
  ∃ result, extractFeature feature = .ok result
  := by
  have item (name : String) : feature.getKey name = .ok (feature.item name) :=
    getKey_eq_ok.mpr ⟨dict, rfl⟩
  have geom (name : String) :
      ((feature.item "geometry").orElse (.obj [])).getKey name =
        .ok ((feature.item "geometry").item name) :=
    orElse_getKey.mpr ⟨h.geometry, rfl⟩
  apply bind_ok (item "geometry")
  apply bind_ok (item "properties")
  apply bind_ok (geom "coordinates")
  split
  · next truthy =>
    apply bind_ok (geom "type")
    obtain ⟨chosen, hc⟩ := polygonOfType_ok (h.multiPolygon truthy)
    apply bind_ok hc
    cases chosen with
    | none => exact ⟨none, rfl⟩
    | some coords =>
        have props (name : String) :
            ((feature.item "properties").orElse (.obj [])).getKey name =
              .ok ((feature.item "properties").item name) :=
          orElse_getKey.mpr
            ⟨h.properties coords ((polygonOfType_eq_ok truthy hc coords).mpr rfl), rfl⟩
        apply bind_ok (props "ll_uuid")
        apply bind_ok (props "id")
        apply bind_ok (props "address")
        apply bind_ok (props "headline")
        exact ⟨_, rfl⟩
  · exact ⟨none, rfl⟩

/-- What is extracted of a reply is its polygon. -/
theorem extractParcel_eq_ok {data : PyValue} {result : Option RegridParcel}
    (h : extractParcel data = .ok result) :
  WellTyped data ∧ ∀ coords, HasPolygon data coords ↔ result.map (·.polygonCoords) = some coords
  := by
  obtain ⟨parcels, hp, h⟩ := bind_eq_ok.mp h
  obtain ⟨dict, rfl⟩ := getKey_eq_ok.mp hp
  obtain ⟨features, hf, h⟩ := bind_eq_ok.mp h
  obtain ⟨parcels, rfl⟩ := orElse_getKey.mp hf
  change (if (data.features.orElse (.arr [])).truthy then _ else _) = _ at h
  split at h
  · next truthy =>
    rw [orElse_truthy] at truthy
    obtain ⟨feature, first, h⟩ := bind_eq_ok.mp h
    have first : data.features.first = .ok feature :=
      (congrArg PyValue.first (orElse_of_truthy truthy _)).symm.trans first
    obtain ⟨dict', wellTyped, polygon⟩ := extractFeature_eq_ok h
    constructor
    · exact ⟨dict, parcels, fun _ => ⟨feature, first, dict', wellTyped⟩⟩
    · intro coords
      rw [← polygon coords, HasPolygon, and_iff_right truthy]
      constructor
      · rintro ⟨other, ho, has⟩
        obtain rfl := Except.ok.inj (first.symm.trans ho)
        exact has
      · exact fun has => ⟨feature, first, has⟩
  · next falsy =>
    rw [orElse_truthy] at falsy
    cases h
    constructor
    · exact ⟨dict, parcels, fun truthy => absurd truthy falsy⟩
    · exact fun coords => iff_of_false (fun has => falsy has.1) nofun

/-- A reply that holds what its types promise can be extracted. -/
theorem extractParcel_ok {data : PyValue} (h : WellTyped data) :
  ∃ result, extractParcel data = .ok result
  := by
  apply bind_ok (getKey_eq_ok.mpr ⟨h.dict, rfl⟩)
  apply bind_ok (orElse_getKey.mpr ⟨h.parcels, rfl⟩)
  change ∃ result, (if (data.features.orElse (.arr [])).truthy then _ else _) = Except.ok result
  split
  · next truthy =>
    rw [orElse_truthy] at truthy
    obtain ⟨feature, first, dict, wellTyped⟩ := h.feature truthy
    have first : (data.features.orElse (.arr [])).first = .ok feature :=
      (congrArg PyValue.first (orElse_of_truthy truthy _)).trans first
    apply bind_ok first
    exact extractFeature_ok dict wellTyped
  · exact ⟨none, rfl⟩

end PyValue

/-! ### Exceptions -/

/-- A computation does not raise an `HTTPException`. -/
def Plain {α : Type} (m : Except Exception α) : Prop :=
  ∀ statusCode detail, m ≠ .error (.http statusCode detail)

namespace Plain

variable {α β : Type}

theorem ok (a : α) : Plain (.ok a) := nofun

theorem bind {m : Except Exception α} {f : α → Except Exception β} (hm : Plain m)
    (hf : ∀ a, Plain (f a)) :
  Plain (m >>= f)
  := by
  intro statusCode detail h
  obtain h | ⟨a, -, h⟩ := bind_eq_error.mp h
  · exact hm statusCode detail h
  · exact hf a statusCode detail h

theorem mapM {f : α → Except Exception β} (hf : ∀ a, Plain (f a)) (as : List α) :
  Plain (as.mapM f)
  := by
  intro statusCode detail h
  obtain ⟨a, -, h⟩ := mapM_eq_error h
  exact hf a statusCode detail h

theorem validated (p : α → Prop) [DecidablePred p] (a : α) : Plain (validated p a) := by
  rw [Sidecar.validated]
  split <;> rintro _ _ ⟨⟩

theorem getKey (v : PyValue) (name : String) : Plain (v.getKey name) := by
  rw [PyValue.getKey]
  intro statusCode detail h
  split at h <;> cases h

theorem first (v : PyValue) : Plain v.first := by
  unfold PyValue.first
  split
  case h_3 => split <;> nofun
  all_goals nofun

theorem len (v : PyValue) : Plain v.len := by
  unfold PyValue.len
  split <;> nofun

theorem elements (v : PyValue) : Plain v.elements := by
  unfold PyValue.elements
  split <;> nofun

theorem exteriorLength (poly : PyValue) : Plain (exteriorLength poly) := by
  rw [Sidecar.exteriorLength]
  split
  · apply bind (first poly)
    intro exterior
    split
    · exact len exterior
    · exact ok 0
  · exact ok 0

theorem largestPolygon (coords : PyValue) : Plain (largestPolygon coords) := by
  rw [Sidecar.largestPolygon]
  apply bind (elements coords)
  intro polys
  apply bind
  · apply mapM
    intro poly
    exact bind (exteriorLength poly) fun length => ok (poly, length)
  · intro measured
    split <;> nofun

theorem extractFeature (feature : PyValue) : Plain (extractFeature feature) := by
  apply bind (getKey _ _)
  intro geom
  apply bind (getKey _ _)
  intro props
  apply bind (getKey _ _)
  intro coords
  split
  · apply bind (getKey _ _)
    intro geomType
    apply bind
    · unfold polygonOfType
      split
      · exact bind (largestPolygon coords) fun coords => ok (some coords)
      · exact ok _
      · exact ok _
    · intro chosen
      cases chosen with
      | none => exact ok _
      | some coords =>
          apply bind (getKey _ _)
          intro uuid
          apply bind (getKey _ _)
          intro id
          apply bind (getKey _ _)
          intro address
          apply bind (getKey _ _)
          exact fun headline => ok _
  · exact ok _

theorem extractParcel (data : PyValue) : Plain (extractParcel data) := by
  apply bind (getKey _ _)
  intro parcels
  apply bind (getKey _ _)
  intro features
  dsimp only
  split
  · exact bind (first _) fun feature => extractFeature feature
  · exact ok _

theorem listField (v : PyValue) : Plain (Surroundings.listField v) := by
  unfold Surroundings.listField
  split <;> nofun

theorem shapely (m : Except String α) : Plain (Surroundings.shapely m) := by
  cases m <;> nofun

variable {σ : Type} (s : Surroundings σ)

theorem floatField (v : PyValue) : Plain (s.floatField v) := by
  unfold Surroundings.floatField
  split
  case h_2 n => cases floatOfInt n <;> nofun
  case h_4 text => cases s.floatOfString text <;> nofun
  all_goals nofun

theorem parcelPolygon (coords : PyValue) : Plain (s.parcelPolygon coords) := by
  apply bind (listField _)
  intro rings
  apply bind
  · apply mapM
    intro ring
    apply bind (listField _)
    intro positions
    apply bind
    · apply mapM
      intro position
      apply bind (listField _)
      intro xs
      apply bind (mapM (floatField s) xs)
      exact fun xs => validated _ xs
    · exact fun positions => validated _ positions
  · intro rings
    exact bind (validated _ rings) fun coordinates => ok _

theorem polygonToShapely (coords : PyValue) : Plain (s.polygonToShapely coords) := by
  apply bind (first _)
  intro exterior
  apply bind (elements _)
  exact fun holes => shapely _

end Plain

/-! ### The lookup -/

namespace Surroundings

variable {σ : Type} (s : Surroundings σ)

/-- When Regrid is not asked, or its reply is none that is extracted, there is no parcel and a
warning. -/
theorem parcelOf_none (reply : RegridReply) (h : s.keySet = true → ∀ data, ¬ Body reply data) :
  ∃ message : String, s.parcelOf reply = .ok (none, [s!"parcel_unavailable: {message}"])
  := by
  rw [parcelOf, fetchParcel.eq_def]
  cases hk : s.keySet with
  | false => exact ⟨"REGRID_API_KEY not set", rfl⟩
  | true =>
      cases reply with
      | timedOut type => exact ⟨_, rfl⟩
      | failed type => exact ⟨_, rfl⟩
      | response statusCode json =>
          simp only [if_true]
          split_ifs with auth status
          · exact ⟨_, rfl⟩
          · exact ⟨_, rfl⟩
          · cases json with
            | error e => exact ⟨_, rfl⟩
            | ok data =>
                have : statusCode = 200 := not_not.mp status
                subst this
                exact absurd (.intro data) (h hk data)

/-- Of a body, the parcel that is extracted. -/
theorem parcelOf_body (hk : s.keySet = true) (data : PyValue) :
  (∀ e, extractParcel data = .error e → s.parcelOf (.response 200 (.ok data)) = .error e) ∧
    (∀ parcel, extractParcel data = .ok (some parcel) →
      s.parcelOf (.response 200 (.ok data)) = .ok (some parcel, [])) ∧
    (extractParcel data = .ok none → ∃ message : String,
      s.parcelOf (.response 200 (.ok data)) = .ok (none, [s!"parcel_unavailable: {message}"]))
  := by
  rw [parcelOf, fetchParcel, hk]
  refine ⟨?_, ?_, ?_⟩
  · intro e he
    rw [he]
    rfl
  · intro parcel hp
    rw [hp]
    rfl
  · intro hn
    rw [hn]
    exact ⟨"Regrid found no parcel for this location", rfl⟩

/-! ### The steps -/

/-- Well-formed footprints give their polygons, when there are any. -/
theorem footprintPolygons_error {footprints : List Rings}
    (h : ∀ footprint ∈ footprints, ∃ polygon, polygonFromCoords footprint = .ok polygon)
    {e : Exception} (he : footprintPolygons footprints = .error e) :
  e = unprocessable "No building footprints found for this address."
  := by
  cases footprints with
  | nil =>
      cases he
      rfl
  | cons footprint rest =>
      obtain ⟨polygons, hp⟩ := exists_mapM_eq_ok_iff.mpr h
      cases hp.symm.trans he

variable {s}

theorem withoutParcel_wellFormed (h : s.WellFormed) :
  ∀ footprint ∈ s.withoutParcel, ∃ polygon, polygonFromCoords footprint = .ok polygon
  := by
  rw [withoutParcel]
  cases hc : s.cached with
  | some footprints => exact h footprints (.inr hc)
  | none =>
      intro footprint hf
      exact h s.tile (.inl rfl) footprint (List.mem_of_mem_filter hf)

/-- Without a parcel, the footprints are returned with the warning. -/
theorem resolve_none {reply : RegridReply} {message : String}
    (h : s.parcelOf reply = .ok (none, [s!"parcel_unavailable: {message}"])) :
  s.resolveParcelAndFootprints reply =
    (footprintPolygons s.withoutParcel).map (⟨none, [s!"parcel_unavailable: {message}"], ·⟩)
  := by
  rw [resolveParcelAndFootprints, h, withoutParcel]
  cases hc : s.cached with
  | some footprints => rfl
  | none => rfl

/-- With well-formed footprints nothing is raised but that there are none. -/
theorem raises_of_footprints {reply : RegridReply} {footprints : List Rings}
    {result : List Contract.Polygon → Found}
    (h : s.resolveParcelAndFootprints reply = (footprintPolygons footprints).map result)
    (wellFormed : ∀ footprint ∈ footprints, ∃ polygon, polygonFromCoords footprint = .ok polygon)
    (e : Exception) (he : s.resolveParcelAndFootprints reply = .error e) :
  e = unprocessable "No building footprints found for this address."
  := by
  rw [h] at he
  cases hp : footprintPolygons footprints with
  | ok polygons =>
      rw [hp] at he
      cases he
  | error e' =>
      rw [hp] at he
      cases he
      exact footprintPolygons_error wellFormed hp

theorem degrades_none (wellFormed : s.WellFormed) {reply : RegridReply} {message : String}
    (h : s.parcelOf reply = .ok (none, [s!"parcel_unavailable: {message}"])) :
  s.Degrades reply
  where
  raises := raises_of_footprints (resolve_none h) (withoutParcel_wellFormed wellFormed)
  unusable := fun _ => ⟨message, resolve_none h⟩

/-- Another exception than that of `footprintPolygons` is no graceful answer. -/
theorem not_degrades {reply : RegridReply} {e : Exception}
    (he : s.resolveParcelAndFootprints reply = .error e)
    (plain : ∀ statusCode detail, e ≠ .http statusCode detail) :
  ¬ s.Degrades reply
  := fun h => plain _ _ (h.raises e he)

/-- The footprints that a usable parcel selects are some of the tile. -/
theorem fetchFootprints_ok {coords : PyValue} (usable : s.Usable coords) (hc : s.cached = none) :
  ∃ footprints, s.fetchFootprints (some coords) = .ok footprints ∧ footprints ⊆ s.tile
  := by
  obtain ⟨shape, hs, compares⟩ := usable.shape hc
  have pairs : ∀ footprint ∈ s.tile, ∃ pair, (do
      return (footprint, ← shapely (s.intersects footprint shape))) = Except.ok pair := by
    intro footprint hf
    obtain ⟨b, hb⟩ := compares footprint hf
    exact ⟨(footprint, b), by rw [hb]; rfl⟩
  obtain ⟨compared, hm⟩ := exists_mapM_eq_ok_iff.mpr pairs
  use (compared.filter (·.2)).map (·.1)
  constructor
  · rw [fetchFootprints]
    apply bind_eq_ok.mpr ⟨shape, hs, _⟩
    exact bind_eq_ok.mpr ⟨compared, hm, rfl⟩
  · intro footprint hf
    obtain ⟨pair, hp, rfl⟩ := List.mem_map.mp hf
    obtain ⟨other, ho, h⟩ := (mapM_eq_ok hm).2 pair (List.mem_of_mem_filter hp)
    obtain ⟨b, -, h⟩ := bind_eq_ok.mp h
    cases h
    exact ho

/-- A polygon of which footprints can be selected is one that Shapely takes. -/
theorem shape_of_fetchFootprints {coords : PyValue} {footprints : List Rings}
    (h : s.fetchFootprints (some coords) = .ok footprints) :
  ∃ shape, s.polygonToShapely coords = .ok shape ∧
    ∀ footprint ∈ s.tile, ∃ b, s.intersects footprint shape = .ok b
  := by
  obtain ⟨shape, hs, h⟩ := bind_eq_ok.mp h
  obtain ⟨compared, hm, -⟩ := bind_eq_ok.mp h
  use shape, hs
  intro footprint hf
  obtain ⟨pair, -, h⟩ := (mapM_eq_ok hm).1 footprint hf
  obtain ⟨b, hb, -⟩ := bind_eq_ok.mp h
  use b
  cases hi : s.intersects footprint shape with
  | ok b' =>
      rw [hi] at hb
      cases hb
      rfl
  | error type =>
      rw [hi] at hb
      cases hb

theorem fetchFootprints_plain (coords : PyValue) : Plain (s.fetchFootprints (some coords)) := by
  apply Plain.bind (Plain.polygonToShapely s coords)
  intro shape
  apply Plain.bind
  · apply Plain.mapM
    intro footprint
    exact Plain.bind (Plain.shapely _) fun b => Plain.ok _
  · exact fun compared => Plain.ok _

/-- With a parcel, `resolve` answers gracefully exactly when its polygon is usable. -/
theorem degrades_some (wellFormed : s.WellFormed) {reply : RegridReply} {parcel : RegridParcel}
    (h : s.parcelOf reply = .ok (some parcel, []))
    (has : s.Usable parcel.polygonCoords → s.HasUsable reply) :
  s.Degrades reply ↔ s.Usable parcel.polygonCoords
  := by
  cases hp : s.parcelPolygon parcel.polygonCoords with
  | error e =>
      have raised : s.resolveParcelAndFootprints reply = .error e := by
        rw [resolveParcelAndFootprints, h]
        change (do
          let parcelPolygon ← some <$> s.parcelPolygon parcel.polygonCoords
          _) = _
        rw [hp]
        rfl
      apply iff_of_false
      · apply not_degrades raised
        rintro statusCode detail rfl
        exact Plain.parcelPolygon s _ statusCode detail hp
      · intro usable
        obtain ⟨polygon, hq⟩ := usable.contract
        cases hp.symm.trans hq
  | ok polygon =>
      cases hc : s.cached with
      | some footprints =>
          have resolved : s.resolveParcelAndFootprints reply =
              (footprintPolygons footprints).map (⟨some polygon, [], ·⟩) := by
            rw [resolveParcelAndFootprints, h, hc]
            change (do
              let parcelPolygon ← some <$> s.parcelPolygon parcel.polygonCoords
              _) = _
            rw [hp]
            rfl
          have usable : s.Usable parcel.polygonCoords :=
            ⟨⟨polygon, hp⟩, fun none => nomatch hc.symm.trans none⟩
          apply iff_of_true _ usable
          exact ⟨raises_of_footprints resolved (wellFormed footprints (.inr hc)),
            fun unusable => absurd (has usable) unusable⟩
      | none =>
          have resolved : s.resolveParcelAndFootprints reply = (do
              let footprints ← s.fetchFootprints (some parcel.polygonCoords)
              (footprintPolygons footprints).map (⟨some polygon, [], ·⟩)) := by
            rw [resolveParcelAndFootprints, h, hc]
            change (do
              let parcelPolygon ← some <$> s.parcelPolygon parcel.polygonCoords
              _) = _
            rw [hp]
            rfl
          cases hf : s.fetchFootprints (some parcel.polygonCoords) with
          | error e =>
              rw [hf] at resolved
              apply iff_of_false
              · apply not_degrades resolved
                rintro statusCode detail rfl
                exact fetchFootprints_plain _ statusCode detail hf
              · intro usable
                obtain ⟨footprints, ho, -⟩ := fetchFootprints_ok usable hc
                cases hf.symm.trans ho
          | ok footprints =>
              rw [hf] at resolved
              have usable : s.Usable parcel.polygonCoords :=
                ⟨⟨polygon, hp⟩, fun _ => shape_of_fetchFootprints hf⟩
              obtain ⟨selected, ho, some⟩ := fetchFootprints_ok usable hc
              obtain rfl := Except.ok.inj (hf.symm.trans ho)
              apply iff_of_true _ usable
              have tile : ∀ footprint ∈ footprints,
                  ∃ polygon, polygonFromCoords footprint = .ok polygon :=
                fun footprint hm => wellFormed s.tile (.inl rfl) footprint (some hm)
              exact ⟨raises_of_footprints resolved tile,
                fun unusable => absurd (has usable) unusable⟩

/-- `resolve` degrades gracefully exactly on the replies that can be read: on those without a body,
and on those whose members have the types that are taken for granted and whose polygon, if there is
one, is usable. -/
theorem degrades_iff (wellFormed : s.WellFormed) (reply : RegridReply) :
  s.Degrades reply ↔ s.Readable reply
  := by
  by_cases hb : s.keySet = true ∧ ∃ data, Body reply data
  · obtain ⟨hk, data, ⟨⟩⟩ := hb
    obtain ⟨raises, finds, misses⟩ := s.parcelOf_body hk data
    have readable : s.Readable (.response 200 (.ok data)) ↔
        data.WellTyped ∧ ∀ coords, data.HasPolygon coords → s.Usable coords := by
      constructor
      · exact fun h => h hk data (.intro data)
      · rintro h - _ ⟨⟩
        exact h
    rw [readable]
    cases he : extractParcel data with
    | error e =>
        apply iff_of_false
        · apply not_degrades
          · rw [resolveParcelAndFootprints, raises e he]
            rfl
          · rintro statusCode detail rfl
            exact Plain.extractParcel data statusCode detail he
        · rintro ⟨wellTyped, -⟩
          obtain ⟨result, hr⟩ := extractParcel_ok wellTyped
          cases he.symm.trans hr
    | ok result =>
        obtain ⟨wellTyped, polygon⟩ := extractParcel_eq_ok he
        rw [and_iff_right wellTyped]
        cases result with
        | none =>
            obtain ⟨message, hm⟩ := misses he
            apply iff_of_true (degrades_none wellFormed hm)
            exact fun coords has => nomatch (polygon coords).mp has
        | some parcel =>
            have hasPolygon := (polygon parcel.polygonCoords).mpr rfl
            rw [degrades_some wellFormed (finds parcel he)]
            · constructor
              · intro usable coords has
                rw [← Option.some.inj ((polygon coords).mp has)]
                exact usable
              · exact fun usable => usable _ hasPolygon
            · exact fun usable => ⟨hk, data, .intro data, _, hasPolygon, usable⟩
  · have none : s.keySet = true → ∀ data, ¬ Body reply data :=
      fun hk data body => hb ⟨hk, data, body⟩
    obtain ⟨message, hm⟩ := s.parcelOf_none reply none
    apply iff_of_true (degrades_none wellFormed hm)
    exact fun hk data body => absurd body (none hk data)

/-- A key, and a tile with one footprint, which is near. -/
def oneFootprint : Surroundings Unit where
  keySet := true
  floatOfString := fun _ => none
  shapelyPolygon := fun _ _ => .ok ()
  tile := [[[[0, 0], [1, 0], [1, 1], [0, 0]]]]
  nearby := fun _ => true
  intersects := fun _ _ => .ok true
  cached := none

theorem oneFootprint_wellFormed : oneFootprint.WellFormed := by
  rintro footprints (rfl | h) footprint hf
  · obtain rfl := List.mem_singleton.mp hf
    exact ⟨_, rfl⟩
  · cases h

/-- When the request times out, the footprint is returned without a parcel. -/
theorem timeout_degrades : oneFootprint.Degrades (.timedOut "ReadTimeout")
  := (degrades_iff oneFootprint_wellFormed _).mpr fun _ _ body => nomatch body

/-- A reply that is a list, not an object, is not read gracefully. -/
theorem list_reply_raises :
  ¬ ∀ (s : Surroundings Unit) (reply : RegridReply), s.WellFormed → s.Degrades reply
  := by
  intro degrades
  have raised : oneFootprint.resolveParcelAndFootprints (.response 200 (.ok (.arr []))) =
      .error .attributeError := rfl
  cases (degrades oneFootprint _ oneFootprint_wellFormed).raises _ raised

end Surroundings

end Sidecar
