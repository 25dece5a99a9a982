import RoofTrace.Numbers.Literals
import RoofTrace.Sidecar.Pipeline

/-!
# Address resolution

`resolve_address/service.py`: geocode an address, look up the parcel, fetch the building
footprints and assemble the response. The three lookups go through the caches of
`resolve_address/cache.py`, which outlive the request, so `resolve` is a computation over their
state; an exception leaves the entries made before it.
-/

namespace Sidecar

open Contract Outcome

structure GeocodedLocation where
  lat : ℚ
  lon : ℚ
  formattedAddress : String

/-- The coordinate rings of a polygon, as they were received. -/
abbrev Rings : Type := List (List (List ℚ))

/-! ### Caches -/

/-- `InMemoryTTLCache` -/
structure InMemoryTTLCache (V : Type) where
  /-- The value of a key and its expiry. -/
  store : String → Option (V × ℚ)

namespace InMemoryTTLCache

variable {V : Type} (cache : InMemoryTTLCache V)

/-- `get`, at a time: an entry that has expired is deleted. -/
def get (now : ℚ) (key : String) : Option V × InMemoryTTLCache V :=
  match cache.store key with
  | none => (none, cache)
  | some (value, expiry) =>
      if expiry < now then (none, ⟨fun k => if k = key then none else cache.store k⟩)
      else (some value, cache)

/-- `set`, at a time -/
def set (now : ℚ) (key : String) (value : V) (ttl : ℚ) : InMemoryTTLCache V :=
  ⟨fun k => if k = key then some (value, now + ttl) else cache.store k⟩

variable {cache}

/-- A value that is read is an entry, and the cache stays as it is. -/
theorem get_eq_some {now : ℚ} {key : String} {value : V}
    (h : (cache.get now key).1 = some value) :
  (∃ expiry, cache.store key = some (value, expiry)) ∧ (cache.get now key).2 = cache
  := by
  unfold get at h ⊢
  split at h
  · cases h
  · next value' expiry hstore =>
    split_ifs at h with hexpired
    cases h
    rw [hstore]
    exact ⟨⟨expiry, rfl⟩, if_neg hexpired ▸ rfl⟩

/-- When no value is read, no entry is left at the key, and the others stay. -/
theorem store_of_get_eq_none {now : ℚ} {key : String} (h : (cache.get now key).1 = none)
    {key' : String} {entry : V × ℚ} (hentry : (cache.get now key).2.store key' = some entry) :
  key' ≠ key ∧ cache.store key' = some entry
  := by
  unfold get at h hentry
  split at h
  · next hstore =>
    rw [hstore] at hentry
    refine ⟨?_, hentry⟩
    rintro rfl
    cases hstore.symm.trans hentry
  · next value expiry hstore =>
    split_ifs at h with hexpired
    simp only [hstore, if_pos hexpired] at hentry
    split_ifs at hentry with hkey
    exact ⟨hkey, hentry⟩

end InMemoryTTLCache

/-- `GEOCODE_TTL` -/
def geocodeTtl : ℚ := 7 * 24 * 3600

/-- `PARCEL_TTL` -/
def parcelTtl : ℚ := 7 * 24 * 3600

/-- `FOOTPRINT_TTL` -/
def footprintTtl : ℚ := 30 * 24 * 3600

/-- The three caches. -/
structure ResolveCaches where
  geocode : InMemoryTTLCache GeocodedLocation
  /-- The rings of a parcel. -/
  parcel : InMemoryTTLCache Rings
  footprint : InMemoryTTLCache (List Rings)

/-! ### Services -/

/-- What a lookup service answers: a value, a failure it reports with an exception of its
own, or another exception. -/
inductive Lookup (α : Type) where
  | found (value : α)
  | failed (message : String)
  | raised (e : Exception)

structure ResolveServices where
  normalizeAddress : String → String
  /-- `f"{lat:.6f},{lon:.6f}"` -/
  parcelKey : GeocodedLocation → String
  geocode : String → Lookup GeocodedLocation
  fetchParcel : GeocodedLocation → Lookup (Option Rings)
  fetchFootprints : GeocodedLocation → Option Rings → Lookup (List Rings)
  regridKeySet : Bool
  /-- `_now_iso`, at the three places where it is read. -/
  nowIso : Fin 3 → String
  /-- `time.monotonic`, at the three places where a cache is read. -/
  readAt : Fin 3 → ℚ
  /-- `time.monotonic`, at the three places where an entry is made. -/
  madeAt : Fin 3 → ℚ

/-- A computation over the caches. -/
abbrev ResolveM (α : Type) : Type := ResolveCaches → Except Exception α × ResolveCaches

instance : Monad ResolveM where
  pure a := fun c => (.ok a, c)
  bind m f := fun c =>
    match m c with
    | (.ok a, c') => f a c'
    | (.error e, c') => (.error e, c')

namespace ResolveCaches

variable (c : ResolveCaches)

/-- `geocode_cache.get(key)` -/
def getGeocode (now : ℚ) (key : String) : Option GeocodedLocation × ResolveCaches :=
  ((c.geocode.get now key).1, { c with geocode := (c.geocode.get now key).2 })

/-- `parcel_cache.get(key)` -/
def getParcel (now : ℚ) (key : String) : Option Rings × ResolveCaches :=
  ((c.parcel.get now key).1, { c with parcel := (c.parcel.get now key).2 })

/-- `footprint_cache.get(key)` -/
def getFootprint (now : ℚ) (key : String) : Option (List Rings) × ResolveCaches :=
  ((c.footprint.get now key).1, { c with footprint := (c.footprint.get now key).2 })

end ResolveCaches

namespace ResolveM

def throw {α : Type} (e : Exception) : ResolveM α := fun c => (.error e, c)

def lift {α : Type} (m : Except Exception α) : ResolveM α := fun c => (m, c)

/-- A value is read from the caches, which may be changed by it. -/
def read {α : Type} (f : ResolveCaches → α × ResolveCaches) : ResolveM α :=
  fun c => (.ok (f c).1, (f c).2)

def modify (f : ResolveCaches → ResolveCaches) : ResolveM Unit := fun c => (.ok (), f c)

theorem bind_eq_ok {α β : Type} {m : ResolveM α} {f : α → ResolveM β} {c c' : ResolveCaches}
    {b : β} :
  (m >>= f) c = (.ok b, c') ↔ ∃ a c₁, m c = (.ok a, c₁) ∧ f a c₁ = (.ok b, c')
  := by
  change (match m c with
    | (.ok a, c₁) => f a c₁
    | (.error e, c₁) => (.error e, c₁)) = (.ok b, c') ↔ _
  rcases m c with ⟨e | a, c₁⟩
  · simp
  · constructor
    · intro h
      use a, c₁
    · rintro ⟨a', c₂, heq, h⟩
      cases heq
      apply h

theorem bind_of_ok {α β : Type} {m : ResolveM α} {c : ResolveCaches} {a : α}
    (h : (m c).1 = .ok a) (f : α → ResolveM β) :
  (m >>= f) c = f a (m c).2
  := by
  change (match m c with
    | (.ok a, c₁) => f a c₁
    | (.error e, c₁) => (.error e, c₁)) = _
  generalize m c = result at h ⊢
  obtain ⟨outcome, c₁⟩ := result
  subst h
  rfl

theorem bind_of_error {α β : Type} {m : ResolveM α} {c : ResolveCaches} {e : Exception}
    (h : (m c).1 = .error e) (f : α → ResolveM β) :
  (m >>= f) c = (.error e, (m c).2)
  := by
  change (match m c with
    | (.ok a, c₁) => f a c₁
    | (.error e, c₁) => (.error e, c₁)) = _
  generalize m c = result at h ⊢
  obtain ⟨outcome, c₁⟩ := result
  subst h
  rfl

theorem lift_bind_lift {α β : Type} (m : Except Exception α) (f : α → Except Exception β)
    (c : ResolveCaches) :
  (lift m >>= fun a => lift (f a)) c = (m >>= f, c)
  := by
  cases m with
  | error e => rfl
  | ok a => rfl

theorem read_bind {α β : Type} (f : ResolveCaches → α × ResolveCaches) (k : α → ResolveM β)
    (c : ResolveCaches) :
  (read f >>= k) c = k (f c).1 (f c).2
  := rfl

theorem lift_eq_ok {α : Type} {m : Except Exception α} {c c' : ResolveCaches} {a : α} :
  lift m c = (.ok a, c') ↔ m = .ok a ∧ c = c'
  := by
  rw [lift, Prod.mk.injEq]

end ResolveM

/-- `_polygon_from_coords` -/
def polygonFromCoords (rings : Rings) : Except Exception Polygon := do
  let rings ← rings.mapM fun ring => do
    let positions ← ring.mapM (validated fun xs => 2 ≤ xs.length ∧ xs.length ≤ 3)
    validated (4 ≤ ·.length) positions
  let coordinates ← validated (1 ≤ ·.length) rings
  return {
    coordinates
    source := some .imagery
    confidence := some ⟨9 / 10, confidence_nine_tenths⟩ }

def nominatimAttribution : AttributionItem where
  name := "Nominatim / OpenStreetMap"
  license := some "ODbL 1.0"
  url := some "https://nominatim.org/"

def msFootprintsAttribution : AttributionItem where
  name := "Microsoft Building Footprints"
  license := some "ODbL 1.0"
  url := some "https://github.com/microsoft/GlobalMLBuildingFootprints"

def regridAttribution : AttributionItem where
  name := "Regrid"
  url := some "https://regrid.com/"

/-- The location of an address, and whether it was cached. -/
def resolveGeocode (s : ResolveServices) (rawAddress : String) :
    ResolveM (GeocodedLocation × Bool) := do
  let normalized := s.normalizeAddress rawAddress
  match ← ResolveM.read (·.getGeocode (s.readAt 0) normalized) with
  | some geo => return (geo, true)
  | none =>
      match s.geocode rawAddress with
      | .failed message => ResolveM.throw (unprocessable s!"Geocode failed: {message}")
      | .raised e => ResolveM.throw e
      | .found geo => do
          ResolveM.modify fun c =>
            { c with geocode := c.geocode.set (s.madeAt 0) normalized geo geocodeTtl }
          return (geo, false)

/-- The parcel of a location, whether it was cached, and the warnings of the lookup. -/
def resolveParcel (s : ResolveServices) (geo : GeocodedLocation) :
    ResolveM (Option Rings × Bool × List String) := do
  let key := s.parcelKey geo
  match ← ResolveM.read (·.getParcel (s.readAt 1) key) with
  | some parcel => return (some parcel, true, [])
  | none =>
      match s.fetchParcel geo with
      | .failed message => return (none, false, [s!"parcel_unavailable: {message}"])
      | .raised e => ResolveM.throw e
      | .found none =>
          if s.regridKeySet then
            return (none, false,
              ["parcel_unavailable: Regrid found no parcel for this location"])
          else
            return (none, false, ["parcel_unavailable: REGRID_API_KEY not set"])
      | .found (some parcel) => do
          ResolveM.modify fun c =>
            { c with parcel := c.parcel.set (s.madeAt 1) key parcel parcelTtl }
          return (some parcel, false, [])

/-- The footprints at a location, and whether they were cached. -/
def resolveFootprints (s : ResolveServices) (rawAddress : String) (geo : GeocodedLocation)
    (parcel : Option Rings) : ResolveM (List Rings × Bool) := do
  let key := s!"ms:{s.normalizeAddress rawAddress}"
  match ← ResolveM.read (·.getFootprint (s.readAt 2) key) with
  | some footprints => return (footprints, true)
  | none =>
      match s.fetchFootprints geo parcel with
      | .failed message =>
          ResolveM.throw (unprocessable s!"Building footprint fetch failed: {message}")
      | .raised e => ResolveM.throw e
      | .found footprints => do
          ResolveM.modify fun c =>
            { c with footprint := c.footprint.set (s.madeAt 2) key footprints footprintTtl }
          return (footprints, false)

/-- The polygons of the footprints, of which there is at least one. -/
def footprintPolygons (footprints : List Rings) : Except Exception (List Polygon) :=
  match footprints with
  | [] => throw (unprocessable "No building footprints found for this address.")
  | footprints => footprints.mapM polygonFromCoords

/-- The response from what was found. -/
def assembleResolve (s : ResolveServices) (rawAddress : String) (geo : GeocodedLocation)
    (geoFromCache : Bool) (parcelPolygon : Option Polygon) (parcelFromCache : Bool)
    (warnings : List String) (buildingPolygons : List Polygon) (footprintsFromCache : Bool) :
    Except Exception ResolveAddressResponse := do
  let nominatimAttr :=
    { nominatimAttribution with
      retrievedAt := if geoFromCache then none else some (s.nowIso 0) }
  let regridAttr := parcelPolygon.map fun _ =>
    { regridAttribution with
      retrievedAt := if parcelFromCache then none else some (s.nowIso 1) }
  let msAttr :=
    { msFootprintsAttribution with
      retrievedAt := if footprintsFromCache then none else some (s.nowIso 2) }
  let lat ← validated (fun x => -90 ≤ x ∧ x ≤ 90) geo.lat
  let lon ← validated (fun x => -180 ≤ x ∧ x ≤ 180) geo.lon
  let buildingPolygons ← validated (1 ≤ ·.length) buildingPolygons
  return {
    pipelineSchemaVersion
    geocode :=
      { raw := rawAddress
        normalized := some geo.formattedAddress
        lat := some lat
        lon := some lon
        source := some .imagery
        confidence := some ⟨95 / 100, by norm_num⟩ }
    parcelPolygon
    buildingPolygons
    attribution := [nominatimAttr, msAttr] ++ regridAttr.toList
    warnings }

/-- `resolve` -/
def resolve (s : ResolveServices) (rawAddress : String) : ResolveM ResolveAddressResponse := do
  let (geo, geoFromCache) ← resolveGeocode s rawAddress
  let (parcel, parcelFromCache, warnings) ← resolveParcel s geo
  let parcelPolygon ← ResolveM.lift (parcel.mapM polygonFromCoords)
  let (footprints, footprintsFromCache) ← resolveFootprints s rawAddress geo parcel
  let buildingPolygons ← ResolveM.lift (footprintPolygons footprints)
  ResolveM.lift (assembleResolve s rawAddress geo geoFromCache parcelPolygon parcelFromCache
    warnings buildingPolygons footprintsFromCache)

/-! ### The response -/

/-- Every polygon is built with its source and its confidence. -/
theorem polygonFromCoords_set {rings : Rings} {p : Polygon}
    (h : polygonFromCoords rings = .ok p) :
  p.source.isSome ∧ p.confidence.isSome
  := by
  obtain ⟨rings', -, h⟩ := bind_eq_ok.mp h
  obtain ⟨coordinates, -, h⟩ := bind_eq_ok.mp h
  cases h
  use rfl
  rfl

theorem mapM_polygonFromCoords_set {footprints : List Rings} {ps : List Polygon}
    (h : footprints.mapM polygonFromCoords = .ok ps) :
  ∀ p ∈ ps, p.source.isSome ∧ p.confidence.isSome
  := by
  induction footprints generalizing ps with
  | nil =>
      cases h
      simp
  | cons rings footprints ih =>
      rw [List.mapM_cons] at h
      obtain ⟨p, hp, h⟩ := bind_eq_ok.mp h
      obtain ⟨rest, hrest, h⟩ := bind_eq_ok.mp h
      cases h
      intro q hq
      obtain rfl | hmem := List.mem_cons.mp hq
      · apply polygonFromCoords_set hp
      · apply ih hrest q hmem

theorem footprintPolygons_set {footprints : List Rings} {ps : List Polygon}
    (h : footprintPolygons footprints = .ok ps) :
  ∀ p ∈ ps, p.source.isSome ∧ p.confidence.isSome
  := by
  cases footprints with
  | nil => cases h
  | cons rings footprints => apply mapM_polygonFromCoords_set h

theorem parcelPolygon_set {parcel : Option Rings} {polygon : Option Polygon}
    (h : parcel.mapM polygonFromCoords = .ok polygon) :
  ∀ p ∈ polygon, p.source.isSome ∧ p.confidence.isSome
  := by
  intro p hp
  cases parcel with
  | none =>
      cases h
      cases hp
  | some rings =>
      obtain ⟨q, hq, h⟩ := bind_eq_ok.mp h
      cases h
      cases hp
      apply polygonFromCoords_set hq

/-- A response carries the source and the confidence of its address and of each of its
polygons, and its timestamps are readings of the clock. -/
structure ResolvedBy (s : ResolveServices) (r : ResolveAddressResponse) : Prop where
  geocode : r.geocode.source.isSome ∧ r.geocode.confidence.isSome
  parcel : ∀ p ∈ r.parcelPolygon, p.source.isSome ∧ p.confidence.isSome
  buildings : ∀ p ∈ r.buildingPolygons.val, p.source.isSome ∧ p.confidence.isSome
  retrievedAt : ∀ a ∈ r.attribution, ∀ t ∈ a.retrievedAt, ∃ i, t = s.nowIso i

theorem resolve_resolvedBy {s : ResolveServices} {rawAddress : String} {c c' : ResolveCaches}
    {r : ResolveAddressResponse} (h : resolve s rawAddress c = (.ok r, c')) :
  ResolvedBy s r
  := by
  obtain ⟨⟨geo, geoFromCache⟩, c₁, -, h⟩ := ResolveM.bind_eq_ok.mp h
  obtain ⟨⟨parcel, parcelFromCache, warnings⟩, c₂, -, h⟩ := ResolveM.bind_eq_ok.mp h
  obtain ⟨parcelPolygon, c₃, hparcel, h⟩ := ResolveM.bind_eq_ok.mp h
  obtain ⟨⟨footprints, footprintsFromCache⟩, c₄, -, h⟩ := ResolveM.bind_eq_ok.mp h
  obtain ⟨buildingPolygons, c₅, hbuildings, h⟩ := ResolveM.bind_eq_ok.mp h
  obtain ⟨lat, -, h⟩ := bind_eq_ok.mp (ResolveM.lift_eq_ok.mp h).1
  obtain ⟨lon, -, h⟩ := bind_eq_ok.mp h
  obtain ⟨buildings, hvalid, h⟩ := bind_eq_ok.mp h
  cases h
  constructor
  · use rfl
    rfl
  · apply parcelPolygon_set (ResolveM.lift_eq_ok.mp hparcel).1
  · rw [← validated_eq_ok_iff.mp hvalid]
    apply footprintPolygons_set (ResolveM.lift_eq_ok.mp hbuildings).1
  · intro a ha t ht
    simp only [List.cons_append, List.nil_append, List.mem_cons, Option.mem_toList] at ha
    obtain rfl | rfl | hregrid := ha
    · use 0
      cases geoFromCache <;> simp_all
    · use 2
      cases footprintsFromCache <;> simp_all
    · use 1
      cases parcelPolygon with
      | none => cases hregrid
      | some polygon =>
          cases hregrid
          cases parcelFromCache <;> simp_all

end Sidecar
