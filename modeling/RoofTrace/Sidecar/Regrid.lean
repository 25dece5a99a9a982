import RoofTrace.Json.Value
import RoofTrace.Numbers.Double
import RoofTrace.Sidecar.ResolveAddress

/-!
# Parcels

`resolve_address/regrid.py`, and what `service.py` and `ms_footprints.py` do with a parcel. The
reply of the service is any JSON value; a parcel keeps the coordinates as they were received, and
Pydantic and Shapely see them first outside of the `try`.
-/

namespace Sidecar

/-! ### JSON values in Python -/

/-- A number as `json.loads` reads it. -/
inductive PyNumber where
  | int (n : ℤ)
  | float (x : Double)
deriving DecidableEq

/-- A value that `json.loads` has read. -/
abbrev PyValue : Type := Json PyNumber

namespace PyValue

def truthy : PyValue → Bool
  | .null => false
  | .bool b => b
  | .num (.int n) => n ≠ 0
  | .num (.float x) => x ≠ .finite 0
  | .str s => s ≠ ""
  | .arr elements => !elements.isEmpty
  | .obj members => !members.isEmpty

/-- `v or default` -/
def orElse (v default : PyValue) : PyValue := if v.truthy then v else default

def isDict : PyValue → Bool
  | .obj _ => true
  | _ => false

/-- The value of a key of an object, `None` when there is none. -/
def item (v : PyValue) (name : String) : PyValue := Json.get v name

/-- `v.get(name)` -/
def getKey (v : PyValue) (name : String) : Except Exception PyValue :=
  if v.isDict then return v.item name else throw .attributeError

/-- A member is read of an object alone. -/
theorem getKey_eq_ok {v w : PyValue} {name : String} :
  v.getKey name = .ok w ↔ v.isDict = true ∧ v.item name = w
  := by
  rw [getKey]
  split
  · next h => simp [h, pure, Except.pure]
  · next h => simp [h, throw, throwThe, MonadExceptOf.throw]

/-- The characters of a string, each a string. -/
def chars (s : String) : List PyValue := s.toList.map fun c => .str (String.singleton c)

/-- `v[0]` -/
def first : PyValue → Except Exception PyValue
  | .arr (x :: _) => return x
  | .arr [] => throw (.other "IndexError")
  | .str s =>
      match chars s with
      | c :: _ => return c
      | [] => throw (.other "IndexError")
  | .obj _ => throw (.other "KeyError")
  | .null | .bool _ | .num _ => throw (.other "TypeError")

/-- `len(v)` -/
def len : PyValue → Except Exception ℕ
  | .arr elements => return elements.length
  | .obj members => return members.length
  | .str s => return s.length
  | .null | .bool _ | .num _ => throw (.other "TypeError")

/-- `list(v)` -/
def elements : PyValue → Except Exception (List PyValue)
  | .arr elements => return elements
  | .obj members => return members.map fun member => .str member.1
  | .str s => return chars s
  | .null | .bool _ | .num _ => throw (.other "TypeError")

end PyValue

/-! ### The lookup -/

/-- `RegridParcel`: `parcelId` is the value of which `str` is taken. -/
structure RegridParcel where
  parcelId : PyValue
  polygonCoords : PyValue
  address : PyValue

/-- The key by which the polygons of a `MultiPolygon` are compared. -/
def exteriorLength (poly : PyValue) : Except Exception ℕ := do
  if poly.truthy then
    let exterior ← poly.first
    if exterior.truthy then exterior.len else return 0
  else return 0

/-- `max(polys, key=...)`, of a list with the keys of its elements: the first of the greatest. -/
def firstGreatest : List (PyValue × ℕ) → Option PyValue
  | [] => none
  | (poly, length) :: rest =>
      some (rest.foldl (fun best next => if best.2 < next.2 then next else best)
        (poly, length)).1

def largestPolygon (coords : PyValue) : Except Exception PyValue := do
  let measured ← (← coords.elements).mapM fun poly => do
    return (poly, ← exteriorLength poly)
  match firstGreatest measured with
  | some poly => return poly
  | none => throw (.valueError "max() iterable argument is empty")

/-- The coordinates of one polygon, if the geometry is of a type that has them. -/
def polygonOfType (geomType coords : PyValue) : Except Exception (Option PyValue) :=
  match geomType with
  | .str "MultiPolygon" => some <$> largestPolygon coords
  | .str "Polygon" => return some coords
  | _ => return none

/-- `_extract_parcel`, of the first feature. -/
def extractFeature (feature : PyValue) : Except Exception (Option RegridParcel) := do
  let geom := (← feature.getKey "geometry").orElse (.obj [])
  let props := (← feature.getKey "properties").orElse (.obj [])
  let coords ← geom.getKey "coordinates"
  if coords.truthy then
    match ← polygonOfType (← geom.getKey "type") coords with
    | none => return none
    | some coords => do
        let parcelId :=
          ((← props.getKey "ll_uuid").orElse (← props.getKey "id")).orElse (.str "unknown")
        let address := (← props.getKey "address").orElse (← props.getKey "headline")
        return some ⟨parcelId, coords, address⟩
  else return none

/-- `_extract_parcel` -/
def extractParcel (data : PyValue) : Except Exception (Option RegridParcel) := do
  let parcels := (← data.getKey "parcels").orElse (.obj [])
  let features := (← parcels.getKey "features").orElse (.arr [])
  if features.truthy then extractFeature (← features.first) else return none

/-- How the request to Regrid ends. -/
inductive RegridReply where
  | timedOut (type : String)
  | failed (type : String)
  /-- A response, and what `resp.json()` gives: a value or the text of an exception. -/
  | response (statusCode : ℤ) (json : Except String PyValue)

/-- `fetch_parcel`, with a key or without one. -/
def fetchParcel (keySet : Bool) (reply : RegridReply) : Lookup (Option RegridParcel) :=
  if keySet then
    match reply with
    | .timedOut type => .failed s!"Regrid request timed out ({type})"
    | .failed type => .failed s!"Regrid request failed ({type})"
    | .response statusCode json =>
        if statusCode = 401 ∨ statusCode = 403 then
          .failed s!"Regrid authentication failed (HTTP {statusCode})"
        else if statusCode ≠ 200 then .failed s!"Regrid returned HTTP {statusCode}"
        else
          match json with
          | .error e => .failed s!"Regrid returned invalid JSON: {e}"
          | .ok data =>
              match extractParcel data with
              | .ok parcel => .found parcel
              | .error e => .raised e
  else .found none

/-! ### The polygon of a parcel -/

/-- The contract polygon of a parcel, with its coordinates as floats. -/
structure ParcelPolygon where
  coordinates :
    { rings : List { ring : List { xs : List Double // 2 ≤ xs.length ∧ xs.length ≤ 3 } //
      4 ≤ ring.length } // 1 ≤ rings.length }

/-- `float(n)` overflows from half a unit in the last place above the greatest float on. -/
def floatOfInt (n : ℤ) : Option Double :=
  if |n| < 2 ^ 1024 - 2 ^ 970 then some (.finite n) else none

/-- What `resolve` uses of its surroundings after the lookup. -/
structure Surroundings (σ : Type) where
  /-- Whether there is a key for Regrid. -/
  keySet : Bool
  /-- The float that Pydantic reads from a string. -/
  floatOfString : String → Option Double
  /-- `ShapelyPolygon(exterior, holes)`, or the type of the exception that it raises. -/
  shapelyPolygon : PyValue → List PyValue → Except String σ
  /-- The footprints of the tile, by their scores. -/
  tile : List Rings
  /-- `footprint.intersects(fallback_zone)` -/
  nearby : Rings → Bool
  /-- `footprint.intersects(parcel_shape)` -/
  intersects : Rings → σ → Except String Bool
  /-- The footprints that are cached for the address. -/
  cached : Option (List Rings)

namespace Surroundings

variable {σ : Type} (s : Surroundings σ)

/-- A float field in lax mode. -/
def floatField : PyValue → Except Exception Double
  | .num (.float x) => return x
  | .num (.int n) => (floatOfInt n).elim (throw .validationError) pure
  | .bool b => return .finite (if b then 1 else 0)
  | .str text => (s.floatOfString text).elim (throw .validationError) pure
  | .null | .arr _ | .obj _ => throw .validationError

/-- A list field. -/
def listField : PyValue → Except Exception (List PyValue)
  | .arr elements => return elements
  | _ => throw .validationError

/-- `_polygon_from_coords`, of coordinates as they were received. -/
def parcelPolygon (coords : PyValue) : Except Exception ParcelPolygon := do
  let rings ← (← listField coords).mapM fun ring => do
    let positions ← (← listField ring).mapM fun position => do
      validated (fun xs => 2 ≤ xs.length ∧ xs.length ≤ 3)
        (← (← listField position).mapM s.floatField)
    validated (4 ≤ ·.length) positions
  return ⟨← validated (1 ≤ ·.length) rings⟩

/-- An exception of Shapely. -/
def shapely {α : Type} : Except String α → Except Exception α
  | .ok a => .ok a
  | .error type => .error (.other type)

/-- `_polygon_to_shapely` -/
def polygonToShapely (coords : PyValue) : Except Exception σ := do
  let exterior ← coords.first
  let holes ← PyValue.elements coords
  shapely (s.shapelyPolygon exterior holes.tail)

/-- `fetch_footprints`, of a tile that has been read. -/
def fetchFootprints (parcelCoords : Option PyValue) : Except Exception (List Rings) :=
  match parcelCoords with
  | none => return s.tile.filter s.nearby
  | some coords => do
      let parcelShape ← s.polygonToShapely coords
      let compared ← s.tile.mapM fun footprint => do
        return (footprint, ← shapely (s.intersects footprint parcelShape))
      return (compared.filter (·.2)).map (·.1)

/-- What `resolve` has found before it assembles the response. -/
structure Found where
  parcelPolygon : Option ParcelPolygon
  warnings : List String
  buildingPolygons : List Contract.Polygon

/-- The parcel, and the warnings of the lookup. -/
def parcelOf (reply : RegridReply) : Except Exception (Option RegridParcel × List String) :=
  match fetchParcel s.keySet reply with
  | .found (some parcel) => return (some parcel, [])
  | .found none =>
      if s.keySet then
        return (none, ["parcel_unavailable: Regrid found no parcel for this location"])
      else return (none, ["parcel_unavailable: REGRID_API_KEY not set"])
  | .failed message => return (none, [s!"parcel_unavailable: {message}"])
  | .raised e => throw e

/-- The parcel and footprint steps of `resolve`, for a location whose parcel is not cached. -/
def resolveParcelAndFootprints (reply : RegridReply) : Except Exception Found := do
  let (parcel, warnings) ← s.parcelOf reply
  let parcelPolygon ← parcel.mapM fun parcel => s.parcelPolygon parcel.polygonCoords
  let footprints ←
    match s.cached with
    | some footprints => pure footprints
    | none => s.fetchFootprints (parcel.map (·.polygonCoords))
  let buildingPolygons ← footprintPolygons footprints
  return ⟨parcelPolygon, warnings, buildingPolygons⟩

end Surroundings

end Sidecar
