import Mathlib.Data.List.Induction
import RoofTrace.Sidecar.ParcelDegradation
import RoofTrace.Sidecar.MsFootprints

/-!
# Runs of address resolutions

The caches of `resolve` outlive the requests. The footprints of an address depend on its location,
on its parcel and on the tile, and are cached under the address alone, also when there are none: a
run of calls answers with the footprints of the parcel that each response carries as long as no
call is served footprints that were fetched for another location or parcel, or from another tile.
-/

namespace Sidecar

namespace ResolveRuns

open Contract Outcome MsFootprints

/-! ### The footprints of a tile -/

section Tile

variable {σ K : Type} [Neg K] [LinearOrder K] {reader : TileReader σ K} {shape : σ}

/-- The footprints of lines are the polygons that meet the shape. -/
theorem mem_footprintsOf_iff {lines : List (List Char)} {footprints : List PyValue}
    (h : footprintsOf reader shape lines = .ok footprints) (coords : PyValue) :
  coords ∈ footprints ↔ ∃ line ∈ lines, ∃ footprint, PolygonOf reader line coords footprint ∧
    reader.intersects footprint shape = .ok true
  := by
  obtain ⟨scored, hscored, h⟩ := bind_eq_ok.mp h
  cases h
  obtain ⟨hlines, hmade⟩ := mapM_eq_ok hscored
  simp only [List.mem_map, Sorting.Sorter.mem_sort, List.mem_filterMap, id]
  constructor
  · rintro ⟨x, ⟨_, hx, rfl⟩, rfl⟩
    obtain ⟨line, hline, hlineFootprint⟩ := hmade _ hx
    obtain ⟨footprint, hpolygon, hmeets, -⟩ := polygonOf_of_lineFootprint hlineFootprint
    exact ⟨line, hline, footprint, hpolygon, hmeets⟩
  · rintro ⟨line, hline, footprint, hpolygon, hmeets⟩
    obtain ⟨made, hmem, hlineFootprint⟩ := hlines line hline
    rw [lineFootprint_of_polygonOf hpolygon, scoredOf, hmeets] at hlineFootprint
    cases hlineFootprint
    exact ⟨_, ⟨_, hmem, rfl⟩, rfl⟩

end Tile

/-! ### Exceptions of a tile -/

section PlainTile

variable {σ K : Type} [Neg K] [LinearOrder K] (reader : TileReader σ K) (shape : σ)

omit [Neg K] [LinearOrder K] in
theorem plain_escape {α : Type} (e : Raised) : Plain (escape e : Except Exception α) := by
  rintro _ _ ⟨⟩

theorem plain_decode (bytes : List UInt8) : Plain (decode bytes) := by
  rw [decode]
  cases Utf8.decode bytes
  · rintro _ _ ⟨⟩
  · exact Plain.ok _

omit [Neg K] in
theorem plain_tileText (raw : List UInt8) : Plain (tileText reader raw) := by
  rw [tileText]
  split
  · exact plain_decode _
  · split
    · exact plain_decode raw
    · exact plain_escape _

omit [Neg K] in
theorem plain_parseLine (line : List Char) : Plain (parseLine reader line) := by
  rw [parseLine]
  split
  · exact Plain.ok _
  · split
    · exact Plain.ok _
    · split
      · exact Plain.ok _
      · exact plain_escape _

omit [Neg K] in
theorem plain_polygonToShapely (coords : PyValue) :
  Plain (MsFootprints.polygonToShapely reader coords)
  := by
  rw [MsFootprints.polygonToShapely]
  split
  · next e he =>
    split
    · exact Plain.ok _
    · rintro statusCode detail ⟨⟩
      exact Plain.first coords statusCode detail he
  · apply Plain.bind (Plain.elements coords)
    intro holes
    split
    · exact Plain.ok _
    · split
      · exact Plain.ok _
      · exact plain_escape _

theorem plain_scoredOf (coords : PyValue) (footprint : σ) :
  Plain (scoredOf reader shape coords footprint)
  := by
  rw [scoredOf]
  split
  · rintro _ _ ⟨⟩
  · exact Plain.ok _
  · exact Plain.ok _

theorem plain_scoredFootprint (feature : PyValue) :
  Plain (scoredFootprint reader shape feature)
  := by
  apply Plain.bind (Plain.getKey _ _)
  intro geometry
  apply Plain.bind (Plain.getKey _ _)
  intro type
  split
  · apply Plain.bind (Plain.getKey _ _)
    intro coords
    split
    · apply Plain.bind (plain_polygonToShapely reader coords)
      intro made
      cases made with
      | none => exact Plain.ok _
      | some footprint => exact plain_scoredOf reader shape coords footprint
    · exact Plain.ok _
  · exact Plain.ok _

/-- A tile raises no `HTTPException`. -/
theorem plain_tileFootprints (raw : List UInt8) : Plain (tileFootprints reader shape raw) := by
  apply Plain.bind (plain_tileText reader raw)
  intro text
  apply Plain.bind
  · apply Plain.mapM
    intro line
    apply Plain.bind (plain_parseLine reader line)
    intro parsed
    cases parsed with
    | none => exact Plain.ok _
    | some feature => exact plain_scoredFootprint reader shape feature
  · exact fun scored => Plain.ok _

end PlainTile

/-! ### Calls -/

/-- What a service answers to a call, where an exception that is none of its own is given by the
name of its type. -/
inductive Answer (α : Type) where
  | found (value : α)
  | failed (message : String)
  | raised (type : String)

def Answer.lookup {α : Type} : Answer α → Lookup α
  | .found value => .found value
  | .failed message => .failed message
  | .raised type => .raised (.other type)

/-- What is particular to a call. -/
structure Call where
  rawAddress : String
  geocode : Answer GeocodedLocation
  regrid : Answer (Option Rings)
  regridKeySet : Bool
  /-- The content of the tile, if there is one. -/
  tile : Answer (Option (List UInt8))
  nowIso : Fin 3 → String
  readAt : Fin 3 → ℚ
  madeAt : Fin 3 → ℚ

/-- What footprints are selected by. -/
structure Origin where
  location : GeocodedLocation
  parcel : Option Rings

/-- What stays the same from call to call. -/
structure Ground (σ K : Type) [LinearOrder K] where
  normalizeAddress : String → String
  parcelKey : GeocodedLocation → String
  /-- The distances are those from a location. -/
  reader : GeocodedLocation → TileReader σ K
  /-- `_polygon_to_shapely`, of a parcel. -/
  parcelShape : Rings → Except String σ
  /-- `fallback_zone` -/
  fallbackZone : GeocodedLocation → σ
  /-- The rings that are read from coordinates. -/
  rings : PyValue → Rings

namespace Ground

variable {σ K : Type} [Neg K] [LinearOrder K] (g : Ground σ K)

/-- The shape that footprints have to meet. -/
def shape (origin : Origin) : Except String σ :=
  match origin.parcel with
  | some parcel => g.parcelShape parcel
  | none => .ok (g.fallbackZone origin.location)

/-- The footprints of a tile. -/
def selected (origin : Origin) (tile : Option (List UInt8)) : Except Exception (List Rings) :=
  match tile with
  | none => return []
  | some raw => do
      let shape ← Surroundings.shapely (g.shape origin)
      return (← tileFootprints (g.reader origin.location) shape raw).map g.rings

/-- `fetch_footprints` -/
def fetchFootprints (call : Call) (location : GeocodedLocation) (parcel : Option Rings) :
    Lookup (List Rings) :=
  match call.tile with
  | .failed message => .failed message
  | .raised type => .raised (.other type)
  | .found tile =>
      match g.selected ⟨location, parcel⟩ tile with
      | .ok footprints => .found footprints
      | .error e => .raised e

/-- The services of a call. -/
def services (call : Call) : ResolveServices where
  normalizeAddress := g.normalizeAddress
  parcelKey := g.parcelKey
  geocode _ := call.geocode.lookup
  fetchParcel _ := call.regrid.lookup
  fetchFootprints := g.fetchFootprints call
  regridKeySet := call.regridKeySet
  nowIso := call.nowIso
  readAt := call.readAt
  madeAt := call.madeAt

/-- A call of `resolve`. -/
def resolve (call : Call) : ResolveM ResolveAddressResponse :=
  Sidecar.resolve (g.services call) call.rawAddress

/-- The key under which the footprints of a call are cached. -/
def footprintKey (call : Call) : String := s!"ms:{g.normalizeAddress call.rawAddress}"

/-- The footprints that a call is served from the cache. -/
def served (c : ResolveCaches) (call : Call) : Option (List Rings) :=
  (c.footprint.get (call.readAt 2) (g.footprintKey call)).1

/-- The location of a call, from the cache or from the geocoder. -/
def location (c : ResolveCaches) (call : Call) : Option GeocodedLocation :=
  match (c.geocode.get (call.readAt 0) (g.normalizeAddress call.rawAddress)).1, call.geocode with
  | some location, _ => some location
  | none, .found location => some location
  | none, _ => none

/-- The parcel of a call, from the cache or from Regrid, if its lookup does not raise. -/
def parcel (c : ResolveCaches) (call : Call) (location : GeocodedLocation) :
    Option (Option Rings) :=
  match (c.parcel.get (call.readAt 1) (g.parcelKey location)).1, call.regrid with
  | some parcel, _ => some (some parcel)
  | none, .found parcel => some parcel
  | none, .failed _ => some none
  | none, .raised _ => none

/-- The location and the parcel of a call. -/
def origin (c : ResolveCaches) (call : Call) : Option Origin := do
  let location ← g.location c call
  let parcel ← g.parcel c call location
  return ⟨location, parcel⟩

/-- A footprint of the tile meets the parcel, or the zone when there is no parcel. -/
def Meets (origin : Origin) (tile : Option (List UInt8)) (footprint : Rings) : Prop :=
  ∃ raw shape text, tile = some raw ∧ g.shape origin = .ok shape ∧
    tileText (g.reader origin.location) raw = .ok text ∧ ∃ line ∈ splitlines text,
      ∃ coords polygon, PolygonOf (g.reader origin.location) line coords polygon ∧
        (g.reader origin.location).intersects polygon shape = .ok true ∧ g.rings coords = footprint

/-- What is selected are the footprints that meet the parcel or the zone. -/
theorem mem_selected_iff {origin : Origin} {tile : Option (List UInt8)} {footprints : List Rings}
    (h : g.selected origin tile = .ok footprints) (footprint : Rings) :
  footprint ∈ footprints ↔ g.Meets origin tile footprint
  := by
  cases tile with
  | none =>
    cases h
    apply iff_of_false
    · exact List.not_mem_nil
    · rintro ⟨_, -, -, ⟨⟩, -⟩
  | some raw =>
    obtain ⟨shape, hshape, h⟩ := bind_eq_ok.mp h
    obtain ⟨coordinates, hcoordinates, h⟩ := bind_eq_ok.mp h
    obtain ⟨text, htext, hcoordinates⟩ := bind_eq_ok.mp hcoordinates
    cases h
    have hshape : g.shape origin = .ok shape := by
      cases hs : g.shape origin with
      | error type =>
          rw [hs] at hshape
          cases hshape
      | ok shape' =>
          rw [hs] at hshape
          cases hshape
          rfl
    rw [List.mem_map]
    constructor
    · rintro ⟨coords, hmem, rfl⟩
      obtain ⟨line, hline, polygon, hpolygon, hmeets⟩ :=
        (mem_footprintsOf_iff hcoordinates coords).mp hmem
      exact ⟨raw, shape, text, rfl, hshape, htext, line, hline, coords, polygon, hpolygon,
        hmeets, rfl⟩
    · rintro ⟨_, shape', text', ⟨⟩, hshape', htext', line, hline, coords, polygon, hpolygon,
        hmeets, rfl⟩
      obtain rfl := Except.ok.inj (hshape.symm.trans hshape')
      obtain rfl := Except.ok.inj (htext.symm.trans htext')
      exact ⟨coords, (mem_footprintsOf_iff hcoordinates coords).mpr
        ⟨line, hline, polygon, hpolygon, hmeets⟩, rfl⟩

end Ground

/-! ### The steps of a call -/

/-- The exception of a call that finds no footprints. -/
def noFootprints : Exception := unprocessable "No building footprints found for this address."

theorem ne_noFootprints {α : Type} {m : Except Exception α} (h : Plain m) :
  m ≠ .error noFootprints
  := h 422 _

/-- A message that begins otherwise is another exception. -/
theorem unprocessable_ne_noFootprints {front rest : String} {c : Char} {cs : List Char}
    (hfront : front.toList = c :: cs) (hc : c ≠ 'N') :
  unprocessable (front ++ rest) ≠ noFootprints
  := by
  intro heq
  rw [unprocessable, noFootprints, unprocessable, Exception.http.injEq] at heq
  have hlist := congrArg (List.head? ∘ String.toList) heq.2
  rw [Function.comp_apply, String.toList_append, hfront] at hlist
  exact hc (Option.some.inj hlist)

theorem plain_polygonFromCoords (rings : Rings) : Plain (polygonFromCoords rings) := by
  apply Plain.bind
  · apply Plain.mapM
    intro ring
    apply Plain.bind (Plain.mapM (Plain.validated _) ring)
    exact fun positions => Plain.validated _ positions
  · intro rings
    exact Plain.bind (Plain.validated _ rings) fun coordinates => Plain.ok _

/-- There are no footprints when none are given. -/
theorem footprintPolygons_eq_noFootprints {footprints : List Rings}
    (h : footprintPolygons footprints = .error noFootprints) :
  footprints = []
  := by
  cases footprints with
  | nil => rfl
  | cons rings rest => exact absurd h (ne_noFootprints (Plain.mapM plain_polygonFromCoords _))

/-- The polygons of a response are those of the footprints. -/
theorem footprintPolygons_eq_ok {footprints : List Rings} {polygons : List Polygon}
    (h : footprintPolygons footprints = .ok polygons) :
  footprints.mapM polygonFromCoords = .ok polygons
  := by
  cases footprints with
  | nil => cases h
  | cons rings rest => exact h

namespace Ground

variable {σ K : Type} [Neg K] [LinearOrder K] (g : Ground σ K)

theorem plain_selected (origin : Origin) (tile : Option (List UInt8)) :
  Plain (g.selected origin tile)
  := by
  unfold selected
  split
  · exact Plain.ok _
  · apply Plain.bind (Plain.shapely _)
    intro shape
    exact Plain.bind (plain_tileFootprints _ _ _) fun footprints => Plain.ok _

/-- The location of a call is found, or the call ends, and not without footprints. -/
theorem resolveGeocode_spec (c : ResolveCaches) (call : Call) :
  (resolveGeocode (g.services call) call.rawAddress c).2.footprint = c.footprint ∧
    (resolveGeocode (g.services call) call.rawAddress c).2.parcel = c.parcel ∧
    ((∃ e, (resolveGeocode (g.services call) call.rawAddress c).1 = .error e ∧
        e ≠ noFootprints) ∨
      ∃ location cached, g.location c call = some location ∧
        (resolveGeocode (g.services call) call.rawAddress c).1 = .ok (location, cached))
  := by
  unfold resolveGeocode location
  rw [ResolveM.read_bind]
  cases hget : (c.geocode.get (call.readAt 0) (g.normalizeAddress call.rawAddress)).1 with
  | some location =>
      have hread : (c.getGeocode ((g.services call).readAt 0)
        ((g.services call).normalizeAddress call.rawAddress)).1 = some location := hget
      simp only [hread]
      exact ⟨rfl, rfl, .inr ⟨location, true, rfl, rfl⟩⟩
  | none =>
      have hread : (c.getGeocode ((g.services call).readAt 0)
        ((g.services call).normalizeAddress call.rawAddress)).1 = none := hget
      have hgeocode : (g.services call).geocode call.rawAddress = call.geocode.lookup := rfl
      simp only [hread, hgeocode]
      cases hanswer : call.geocode with
      | found location => exact ⟨rfl, rfl, .inr ⟨location, false, rfl, rfl⟩⟩
      | failed message =>
          refine ⟨rfl, rfl, .inl ⟨_, rfl, ?_⟩⟩
          exact unprocessable_ne_noFootprints (rfl : "Geocode failed: ".toList = _) (by decide)
      | raised type =>
          refine ⟨rfl, rfl, .inl ⟨_, rfl, ?_⟩⟩
          rintro ⟨⟩

/-- The stage of the parcel leaves the footprints in the cache alone, and ends with the parcel from
the cache or the provider, or otherwise than for want of footprints. -/
theorem resolveParcel_spec (c : ResolveCaches) (call : Call) (location : GeocodedLocation) :
  (resolveParcel (g.services call) location c).2.footprint = c.footprint ∧
    ((∃ e, (resolveParcel (g.services call) location c).1 = .error e ∧ e ≠ noFootprints) ∨
      ∃ parcel cached warnings, g.parcel c call location = some parcel ∧
        (resolveParcel (g.services call) location c).1 = .ok (parcel, cached, warnings))
  := by
  unfold resolveParcel parcel
  rw [ResolveM.read_bind]
  cases hget : (c.parcel.get (call.readAt 1) (g.parcelKey location)).1 with
  | some parcel =>
      have hread : (c.getParcel ((g.services call).readAt 1)
        ((g.services call).parcelKey location)).1 = some parcel := hget
      simp only [hread]
      exact ⟨rfl, .inr ⟨some parcel, true, _, rfl, rfl⟩⟩
  | none =>
      have hread : (c.getParcel ((g.services call).readAt 1)
        ((g.services call).parcelKey location)).1 = none := hget
      have hregrid : (g.services call).fetchParcel location = call.regrid.lookup := rfl
      simp only [hread, hregrid]
      cases hanswer : call.regrid with
      | found parcel =>
          cases parcel with
          | some parcel => exact ⟨rfl, .inr ⟨some parcel, false, _, rfl, rfl⟩⟩
          | none =>
              simp only [Answer.lookup]
              split_ifs
              · exact ⟨rfl, .inr ⟨none, false, _, rfl, rfl⟩⟩
              · exact ⟨rfl, .inr ⟨none, false, _, rfl, rfl⟩⟩
      | failed message => exact ⟨rfl, .inr ⟨none, false, _, rfl, rfl⟩⟩
      | raised type =>
          refine ⟨rfl, .inl ⟨_, rfl, ?_⟩⟩
          rintro ⟨⟩

/-- The footprints of a call are those that it is served from the cache, where they stay as they
are, or those that are selected, which are cached; or the call ends, and not without footprints,
and caches nothing. -/
theorem resolveFootprints_spec (c : ResolveCaches) (call : Call) (origin : Origin) :
  (∃ footprints, g.served c call = some footprints ∧
      resolveFootprints (g.services call) call.rawAddress origin.location origin.parcel c =
        (.ok (footprints, true), c)) ∨
    g.served c call = none ∧
    ((∃ e c', resolveFootprints (g.services call) call.rawAddress origin.location origin.parcel c =
        (.error e, c') ∧ e ≠ noFootprints ∧
          ∀ key entry, c'.footprint.store key = some entry →
            key ≠ g.footprintKey call ∧ c.footprint.store key = some entry) ∨
      ∃ tile footprints c', call.tile = .found tile ∧ g.selected origin tile = .ok footprints ∧
        resolveFootprints (g.services call) call.rawAddress origin.location origin.parcel c =
          (.ok (footprints, false), c') ∧
        ∀ key entry, c'.footprint.store key = some entry →
          if key = g.footprintKey call then entry.1 = footprints
          else c.footprint.store key = some entry)
  := by
  have hkey : s!"ms:{(g.services call).normalizeAddress call.rawAddress}" = g.footprintKey call :=
    rfl
  unfold resolveFootprints served
  simp only [hkey]
  rw [ResolveM.read_bind]
  cases hget : (c.footprint.get (call.readAt 2) (g.footprintKey call)).1 with
  | some footprints =>
      have hread : (c.getFootprint ((g.services call).readAt 2) (g.footprintKey call)).1 =
        some footprints := hget
      simp only [hread]
      refine .inl ⟨footprints, rfl, ?_⟩
      have hkept := (InMemoryTTLCache.get_eq_some hget).2
      change (Except.ok (footprints, true), { c with
        footprint := (c.footprint.get (call.readAt 2) (g.footprintKey call)).2 }) = _
      rw [hkept]
  | none =>
      have hread : (c.getFootprint ((g.services call).readAt 2) (g.footprintKey call)).1 = none :=
        hget
      have hleft := @InMemoryTTLCache.store_of_get_eq_none _ _ _ _ hget
      have hfetch : (g.services call).fetchFootprints origin.location origin.parcel =
        g.fetchFootprints call origin.location origin.parcel := rfl
      right
      use rfl
      simp only [hread, hfetch]
      rw [fetchFootprints]
      cases htile : call.tile with
      | failed message =>
          refine .inl ⟨_, _, rfl, ?_, fun _ _ h => hleft h⟩
          exact unprocessable_ne_noFootprints
            (rfl : "Building footprint fetch failed: ".toList = _) (by decide)
      | raised type =>
          refine .inl ⟨_, _, rfl, ?_, fun _ _ h => hleft h⟩
          rintro ⟨⟩
      | found tile =>
          dsimp only
          cases hselected : g.selected origin tile with
          | error e =>
              refine .inl ⟨e, _, rfl, ?_, fun _ _ h => hleft h⟩
              rintro rfl
              exact ne_noFootprints (g.plain_selected origin tile) hselected
          | ok footprints =>
              refine .inr ⟨tile, footprints, _, rfl, hselected, rfl, ?_⟩
              intro key entry hentry
              change (if key = g.footprintKey call then some (footprints, _)
                else (c.footprint.get (call.readAt 2) (g.footprintKey call)).2.store key) =
                  some entry at hentry
              split_ifs at hentry ⊢ with heq
              · cases hentry
                rfl
              · exact (hleft hentry).2

/-- What is made of footprints: a response has their polygons and the polygon of the parcel, and
there are none if the call fails for want of them. -/
structure AnsweredBy (origin : Origin) (footprints : List Rings)
    (result : Except Exception ResolveAddressResponse) : Prop where
  response : ∀ r, result = .ok r → origin.parcel.mapM polygonFromCoords = .ok r.parcelPolygon ∧
    footprints.mapM polygonFromCoords = .ok r.buildingPolygons.val
  empty : result = .error noFootprints → footprints = []

/-- How a call ends, and what is then cached of footprints. -/
inductive Ended (c : ResolveCaches) (call : Call) :
    Except Exception ResolveAddressResponse × ResolveCaches → Prop where
  | failed {e : Exception} {c' : ResolveCaches} (message : e ≠ noFootprints)
      (kept : ∀ key entry, c'.footprint.store key = some entry →
        c.footprint.store key = some entry) :
      Ended c call (.error e, c')
  | served {origin : Origin} {footprints : List Rings}
      {result : Except Exception ResolveAddressResponse} {c' : ResolveCaches}
      (located : g.origin c call = some origin) (cached : g.served c call = some footprints)
      (kept : c'.footprint = c.footprint) (answered : AnsweredBy origin footprints result) :
      Ended c call (result, c')
  | fetched {origin : Origin} {tile : Option (List UInt8)} {footprints : List Rings}
      {result : Except Exception ResolveAddressResponse} {c' : ResolveCaches}
      (located : g.origin c call = some origin) (fetched : call.tile = .found tile)
      (selected : g.selected origin tile = .ok footprints)
      (stored : ∀ key entry, c'.footprint.store key = some entry →
        if key = g.footprintKey call then entry.1 = footprints
        else c.footprint.store key = some entry)
      (answered : AnsweredBy origin footprints result) :
      Ended c call (result, c')

/-- The end of a call, from its footprints on. -/
def answer (call : Call) (location : GeocodedLocation) (geoFromCache : Bool)
    (parcelPolygon : Option Polygon) (parcelFromCache : Bool) (warnings : List String)
    (found : List Rings × Bool) : Except Exception ResolveAddressResponse := do
  let buildingPolygons ← footprintPolygons found.1
  assembleResolve (g.services call) call.rawAddress location geoFromCache parcelPolygon
    parcelFromCache warnings buildingPolygons found.2

theorem answeredBy_answer {call : Call} {origin : Origin} {geoFromCache : Bool}
    {parcelPolygon : Option Polygon} {parcelFromCache : Bool} {warnings : List String}
    (hparcel : origin.parcel.mapM polygonFromCoords = .ok parcelPolygon)
    (found : List Rings × Bool) :
  AnsweredBy origin found.1
    (g.answer call origin.location geoFromCache parcelPolygon parcelFromCache warnings found)
  := by
  constructor
  · intro r h
    obtain ⟨polygons, hpolygons, h⟩ := bind_eq_ok.mp h
    obtain ⟨lat, -, h⟩ := bind_eq_ok.mp h
    obtain ⟨lon, -, h⟩ := bind_eq_ok.mp h
    obtain ⟨buildings, hvalid, h⟩ := bind_eq_ok.mp h
    cases h
    refine ⟨hparcel, ?_⟩
    change _ = Except.ok buildings.val
    rw [← validated_eq_ok_iff.mp hvalid]
    exact footprintPolygons_eq_ok hpolygons
  · intro h
    obtain h | ⟨polygons, -, h⟩ := bind_eq_error.mp h
    · exact footprintPolygons_eq_noFootprints h
    · refine absurd h (ne_noFootprints ?_)
      apply Plain.bind (Plain.validated _ _)
      intro lat
      apply Plain.bind (Plain.validated _ _)
      intro lon
      exact Plain.bind (Plain.validated _ _) fun buildings => Plain.ok _

/-- Every call ends in one of the ways. -/
theorem ended_resolve (c : ResolveCaches) (call : Call) :
  Ended g c call (g.resolve call c)
  := by
  rw [resolve, Sidecar.resolve]
  obtain ⟨hfootprint, hparcel, ⟨e, herror, he⟩ | ⟨location, geoFromCache, hlocation, hok⟩⟩ :=
    g.resolveGeocode_spec c call
  · rw [ResolveM.bind_of_error herror]
    apply Ended.failed he
    rw [hfootprint]
    exact fun _ _ h => h
  rw [ResolveM.bind_of_ok hok]
  dsimp only
  generalize (resolveGeocode (g.services call) call.rawAddress c).2 = c₁ at hfootprint hparcel ⊢
  obtain ⟨hfootprint₁, ⟨e, herror, he⟩ | ⟨parcel, parcelFromCache, warnings, hfound, hok⟩⟩ :=
    g.resolveParcel_spec c₁ call location
  · rw [ResolveM.bind_of_error herror]
    apply Ended.failed he
    rw [hfootprint₁, hfootprint]
    exact fun _ _ h => h
  rw [ResolveM.bind_of_ok hok]
  dsimp only
  generalize (resolveParcel (g.services call) location c₁).2 = c₂ at hfootprint₁ ⊢
  have horigin : g.origin c call = some ⟨location, parcel⟩ := by
    rw [Ground.parcel, hparcel] at hfound
    rw [origin, hlocation]
    exact congrArg (·.bind fun parcel => some (Origin.mk location parcel)) hfound
  cases hpolygon : parcel.mapM polygonFromCoords with
  | error e =>
      rw [ResolveM.bind_of_error rfl]
      apply Ended.failed
      · rintro rfl
        cases parcel with
        | none => cases hpolygon
        | some rings =>
            exact ne_noFootprints
              (Plain.bind (plain_polygonFromCoords rings) fun polygon => Plain.ok _) hpolygon
      · change ∀ key entry, c₂.footprint.store key = some entry → _
        rw [hfootprint₁, hfootprint]
        exact fun _ _ h => h
  | ok parcelPolygon =>
      rw [ResolveM.bind_of_ok rfl]
      change Ended g c call
        ((resolveFootprints (g.services call) call.rawAddress location parcel >>= fun found =>
          ResolveM.lift (footprintPolygons found.1) >>= fun buildingPolygons =>
          ResolveM.lift (assembleResolve (g.services call) call.rawAddress location geoFromCache
            parcelPolygon parcelFromCache warnings buildingPolygons found.2)) c₂)
      have hcaches : c₂.footprint = c.footprint := hfootprint₁.trans hfootprint
      obtain ⟨footprints, hcached, hresult⟩ | ⟨-, ⟨e, c', hresult, he, hkept⟩ |
        ⟨tile, footprints, c', htile, hselected, hresult, hstored⟩⟩ :=
          g.resolveFootprints_spec c₂ call ⟨location, parcel⟩
      · rw [ResolveM.bind_of_ok (congrArg Prod.fst hresult), hresult, ResolveM.lift_bind_lift]
        rw [served, hcaches] at hcached
        exact Ended.served horigin hcached hcaches (g.answeredBy_answer hpolygon (footprints, true))
      · rw [ResolveM.bind_of_error (congrArg Prod.fst hresult), hresult]
        rw [hcaches] at hkept
        exact Ended.failed he fun key entry h => (hkept key entry h).2
      · rw [ResolveM.bind_of_ok (congrArg Prod.fst hresult), hresult, ResolveM.lift_bind_lift]
        rw [hcaches] at hstored
        exact Ended.fetched horigin htile hselected hstored
          (g.answeredBy_answer hpolygon (footprints, false))

/-! ### Runs -/

/-- The caches after calls, from empty ones. -/
def cachesAfter (calls : List Call) : ResolveCaches :=
  calls.foldl (fun c call => (g.resolve call c).2)
    ⟨⟨fun _ => none⟩, ⟨fun _ => none⟩, ⟨fun _ => none⟩⟩

theorem cachesAfter_concat (calls : List Call) (call : Call) :
  g.cachesAfter (calls ++ [call]) = (g.resolve call (g.cachesAfter calls)).2
  := by
  rw [cachesAfter, List.foldl_append]
  rfl

/-- Among calls is one for the same address, that was made for an origin and was sent a tile. -/
def MadeBy (calls : List Call) (key : String) (origin : Origin) (tile : Option (List UInt8)) :
    Prop :=
  ∃ before maker between, calls = before ++ maker :: between ∧ g.footprintKey maker = key ∧
    g.origin (g.cachesAfter before) maker = some origin ∧ maker.tile = .found tile

theorem MadeBy.concat {calls : List Call} {key : String} {origin : Origin}
    {tile : Option (List UInt8)} (h : g.MadeBy calls key origin tile) (call : Call) :
  g.MadeBy (calls ++ [call]) key origin tile
  := by
  obtain ⟨before, maker, between, rfl, hmaker⟩ := h
  exact ⟨before, maker, between ++ [call], by simp, hmaker⟩

/-- The footprints that are cached for an address were selected by the origin of a call for it,
from the tile that was sent to this call. -/
theorem madeBy_of_store (calls : List Call) :
  ∀ key entry, (g.cachesAfter calls).footprint.store key = some entry →
    ∃ origin tile, g.MadeBy calls key origin tile ∧ g.selected origin tile = .ok entry.1
  := by
  induction calls using List.reverseRecOn with
  | nil =>
      rintro key entry ⟨⟩
  | append_singleton calls call ih =>
      intro key entry hentry
      have hlater : (g.cachesAfter calls).footprint.store key = some entry →
          ∃ origin tile, g.MadeBy (calls ++ [call]) key origin tile ∧
            g.selected origin tile = .ok entry.1 := by
        intro hstore
        obtain ⟨origin, tile, hmade, hselected⟩ := ih key entry hstore
        exact ⟨origin, tile, hmade.concat g call, hselected⟩
      rw [cachesAfter_concat] at hentry
      have hended := g.ended_resolve (g.cachesAfter calls) call
      generalize g.resolve call (g.cachesAfter calls) = result at hentry hended
      cases hended with
      | failed message kept => exact hlater (kept key entry hentry)
      | served located cached kept answered =>
          rw [kept] at hentry
          exact hlater hentry
      | @fetched origin tile footprints outcome c' located fetched selected stored answered =>
          have hstored := stored key entry hentry
          split_ifs at hstored with hkey
          · subst hstored
            exact ⟨origin, tile, ⟨calls, call, [], rfl, hkey.symm, located, fetched⟩, selected⟩
          · exact hlater hstored

/-- The footprints of an answer are exactly those that meet the parcel or the zone, of the call and
its tile, or of those of an earlier call for the same address. -/
structure Traced (calls : List Call) (call : Call)
    (result : Except Exception ResolveAddressResponse) (own made : Origin)
    (tile : Option (List UInt8)) (footprints : List Rings) : Prop where
  located : g.origin (g.cachesAfter calls) call = some own
  answered : AnsweredBy own footprints result
  exact : ∀ footprint, footprint ∈ footprints ↔ g.Meets made tile footprint
  made : made = own ∧ call.tile = .found tile ∨ g.MadeBy calls (g.footprintKey call) made tile

/-- In every run, what a call answers can be traced, unless it ends otherwise than for want of
footprints; when the earlier calls for the address had its location and parcel, and were sent the
tile that it would be sent, it is traced to these. -/
theorem answers_traced (calls : List Call) (call : Call) :
  (∃ e, (g.resolve call (g.cachesAfter calls)).1 = .error e ∧ e ≠ noFootprints) ∨
    ∃ own made tile footprints,
      g.Traced calls call (g.resolve call (g.cachesAfter calls)).1 own made tile footprints ∧
        ∀ current, call.tile = .found current →
          (∀ origin tile', g.MadeBy calls (g.footprintKey call) origin tile' →
            origin = own ∧ tile' = current) →
            made = own ∧ tile = current
  := by
  have hended := g.ended_resolve (g.cachesAfter calls) call
  generalize hresult : g.resolve call (g.cachesAfter calls) = result at hended ⊢
  cases hended with
  | @failed e c' message kept => exact .inl ⟨e, rfl, message⟩
  | @served origin footprints outcome c' located cached kept answered =>
      obtain ⟨expiry, hstore⟩ := (InMemoryTTLCache.get_eq_some cached).1
      obtain ⟨made, tile, hmade, hselected⟩ := g.madeBy_of_store calls _ _ hstore
      refine .inr ⟨origin, made, tile, footprints, ?_,
        fun _ _ hsteady => hsteady made tile hmade⟩
      exact ⟨located, answered, g.mem_selected_iff hselected, .inr hmade⟩
  | @fetched origin tile footprints outcome c' located fetched selected stored answered =>
      refine .inr ⟨origin, origin, tile, footprints, ?_, ?_⟩
      · exact ⟨located, answered, g.mem_selected_iff selected, .inl ⟨rfl, fetched⟩⟩
      · intro current hcurrent _
        rw [fetched] at hcurrent
        cases hcurrent
        exact ⟨rfl, rfl⟩

end Ground

end ResolveRuns

end Sidecar
