import RoofTrace.Bytes.Utf8
import RoofTrace.Effects.Outcome
import RoofTrace.Numbers.Sorting
import RoofTrace.Sidecar.Regrid

/-!
# Footprints of a tile

`_parse_geojsonl` and `fetch_footprints` of `resolve_address/ms_footprints.py`: the bytes of a tile
are decompressed and decoded, each line is read as a feature, and the footprints that meet the
parcel or the zone are sorted by their scores. A line adds a footprint or nothing to those of the
others, or raises: the fetch returns exactly when the tile can be decoded and every line is
harmless. The others keep their order as far as the scores can be compared, which NaN cannot.
-/

namespace Sidecar

namespace MsFootprints

open Outcome

/-! ### The surroundings -/

/-- An exception, by the name of its type, and whether it is of a type that the handler around its
call names. -/
structure Raised where
  type : String
  handled : Bool

/-- A footprint that matches, with its score: its distance, the distance of its centroid and its
negated area, of which each may be NaN (`none`). -/
structure Scored (K : Type) where
  score : List (Option K)
  coords : PyValue
deriving DecidableEq

/-- `a[:3] < b[:3]` -/
def Scored.less {K : Type} [LinearOrder K] (a b : Scored K) : Bool :=
  Sorting.tupleLess a.score b.score

/-- What is used of the standard library and of Shapely. -/
structure TileReader (σ K : Type) [LinearOrder K] where
  /-- `gzip.decompress`; an `OSError` is handled. -/
  decompress : List UInt8 → Except Raised (List UInt8)
  /-- `json.loads`; a `JSONDecodeError` is handled. -/
  loads : String → Except Raised PyValue
  /-- `ShapelyPolygon(exterior, holes)`; a `ValueError`, `TypeError` or `ShapelyError` is
  handled. -/
  shapelyPolygon : PyValue → List PyValue → Except Raised σ
  /-- `footprint.intersects(shape)`, or the type of the exception that it raises. -/
  intersects : σ → σ → Except String Bool
  /-- `footprint.distance(center)` -/
  distance : σ → Option K
  /-- `footprint.centroid.distance(center)` -/
  centroidDistance : σ → Option K
  area : σ → Option K
  /-- `scored_results.sort` -/
  sorter : Sorting.Sorter (Scored.less : Scored K → Scored K → Bool)

/-- `FootprintError` is `failed`, and an exception of another type is `raised`. -/
abbrev Fetched : Type := Lookup (List PyValue)

/-- What becomes of the request for a tile, when the index is loaded. -/
inductive TileReply where
  | absent
  | served (raw : List UInt8)
  | httpStatus (statusCode : ℕ)
  | requestError (type : String)

/-! ### Lines -/

/-- A character that ends a line for `str.splitlines`. -/
def lineBreak (c : Char) : Bool :=
  [0x0A, 0x0B, 0x0C, 0x0D, 0x1C, 0x1D, 0x1E, 0x85, 0x2028, 0x2029].contains c.toNat

/-- A character that `str.strip` removes. -/
def isSpace (c : Char) : Bool :=
  [0x09, 0x0A, 0x0B, 0x0C, 0x0D, 0x1C, 0x1D, 0x1E, 0x1F, 0x20, 0x85, 0xA0, 0x1680, 0x2028, 0x2029,
    0x202F, 0x205F, 0x3000].contains c.toNat || (0x2000 ≤ c.toNat && c.toNat ≤ 0x200A)

/-- The lines of a text, of which `line` has been read. -/
def linesFrom (line : List Char) : List Char → List (List Char)
  | [] => if line.isEmpty then [] else [line]
  | '\r' :: '\n' :: rest => line :: linesFrom [] rest
  | c :: rest =>
      if lineBreak c then line :: linesFrom [] rest else linesFrom (line ++ [c]) rest

/-- `text.splitlines()` -/
def splitlines (text : String) : List (List Char) := linesFrom [] text.toList

/-- `line.strip()` -/
def strip (line : List Char) : String :=
  String.ofList ((line.dropWhile isSpace).reverse.dropWhile isSpace).reverse

/-! ### Footprints -/

section Footprints

variable {σ K : Type} [Neg K] [LinearOrder K] (reader : TileReader σ K) (shape : σ)

/-- An exception that is not handled. -/
def escape {α : Type} (e : Raised) : Except Exception α := throw (.other e.type)

/-- `raw.decode("utf-8")` -/
def decode (bytes : List UInt8) : Except Exception String :=
  (Utf8.decode bytes).elim (throw (.other "UnicodeDecodeError")) pure

/-- The text of a tile. -/
def tileText (raw : List UInt8) : Except Exception String :=
  match reader.decompress raw with
  | .ok bytes => decode bytes
  | .error e => if e.handled then decode raw else escape e

/-- The feature of a line, if it has one. -/
def parseLine (line : List Char) : Except Exception (Option PyValue) :=
  if strip line = "" then return none
  else
    match reader.loads (strip line) with
    | .ok feature => return some feature
    | .error e => if e.handled then return none else escape e

/-- `_polygon_to_shapely`, and the handler around its call. -/
def polygonToShapely (coords : PyValue) : Except Exception (Option σ) :=
  match coords.first with
  | .error e => if e.typeName = "TypeError" then return none else throw e
  | .ok exterior => do
      let holes ← coords.elements
      match reader.shapelyPolygon exterior holes.tail with
      | .ok footprint => return some footprint
      | .error e => if e.handled then return none else escape e

/-- The score of a footprint. -/
def scoreOf (footprint : σ) : List (Option K) :=
  [reader.distance footprint, reader.centroidDistance footprint,
    (reader.area footprint).map (- ·)]

/-- What is made of a footprint that has been constructed: it is kept with its score if it meets
the shape. -/
def scoredOf (coords : PyValue) (footprint : σ) : Except Exception (Option (Scored K)) :=
  match reader.intersects footprint shape with
  | .error type => throw (.other type)
  | .ok false => return none
  | .ok true => return some ⟨scoreOf reader footprint, coords⟩

/-- What is made of coordinates. -/
def scoredPolygon (coords : PyValue) : Except Exception (Option (Scored K)) := do
  match ← polygonToShapely reader coords with
  | none => return none
  | some footprint => scoredOf reader shape coords footprint

/-- What is made of a geometry. -/
def scoredGeometry (geomData : PyValue) : Except Exception (Option (Scored K)) := do
  if (← geomData.getKey "type") = .str "Polygon" then
    let coords ← geomData.getKey "coordinates"
    if coords.truthy then scoredPolygon reader shape coords else return none
  else return none

/-- The body of the loop of `fetch_footprints`, where `shape` is the parcel or the zone. -/
def scoredFootprint (feature : PyValue) : Except Exception (Option (Scored K)) := do
  let geometry ← feature.getKey "geometry"
  scoredGeometry reader shape (geometry.orElse feature)

/-- What a line adds. -/
def lineFootprint (line : List Char) : Except Exception (Option (Scored K)) := do
  match ← parseLine reader line with
  | none => return none
  | some feature => scoredFootprint reader shape feature

/-- The footprints of lines, by their scores. -/
def footprintsOf (lines : List (List Char)) : Except Exception (List PyValue) := do
  let scored ← lines.mapM (lineFootprint reader shape)
  return (reader.sorter.sort (scored.filterMap id)).map (·.coords)

/-- The footprints of a tile. -/
def tileFootprints (raw : List UInt8) : Except Exception (List PyValue) := do
  footprintsOf reader shape (splitlines (← tileText reader raw))

/-- `fetch_footprints` -/
def fetchFootprints : TileReply → Fetched
  | .absent => .found []
  | .httpStatus statusCode =>
      if statusCode = 404 then .found []
      else .failed s!"MS Building Footprints tile fetch failed: HTTP {statusCode}"
  | .requestError type => .failed s!"MS Building Footprints tile request failed: {type}"
  | .served raw =>
      match tileFootprints reader shape raw with
      | .ok footprints => .found footprints
      | .error e => .raised e

/-! ### Harmless lines -/

/-- Coordinates that are no object, and of which Shapely raises nothing but what is handled. -/
def HarmlessCoordinates (coords : PyValue) : Prop :=
  coords.isDict = false ∧ ∀ exterior holes, coords.first = .ok exterior →
    coords.elements = .ok holes →
      match reader.shapelyPolygon exterior holes.tail with
      | .error e => e.handled = true
      | .ok footprint => ∃ matches', reader.intersects footprint shape = .ok matches'

/-- The geometry of a feature, or the feature itself. -/
def geometryOf (feature : PyValue) : PyValue := (feature.item "geometry").orElse feature

/-- A feature that is an object, as is its geometry, whose coordinates are harmless if it is a
polygon. -/
structure HarmlessFeature (feature : PyValue) : Prop where
  isDict : feature.isDict = true
  geometry : (geometryOf feature).isDict = true
  coordinates : (geometryOf feature).item "type" = .str "Polygon" →
    ((geometryOf feature).item "coordinates").truthy = true →
      HarmlessCoordinates reader shape ((geometryOf feature).item "coordinates")

/-- A line that is blank, is not JSON, or is a harmless feature. -/
def HarmlessLine (line : List Char) : Prop :=
  strip line = "" ∨
    match reader.loads (strip line) with
    | .error e => e.handled = true
    | .ok feature => HarmlessFeature reader shape feature

/-- A tile that can be decoded, whose lines are harmless. -/
def HarmlessTile (raw : List UInt8) : Prop :=
  ∃ text, ((∃ bytes, reader.decompress raw = .ok bytes ∧ Utf8.decode bytes = some text) ∨
      ∃ e, reader.decompress raw = .error e ∧ e.handled = true ∧ Utf8.decode raw = some text) ∧
    ∀ line ∈ splitlines text, HarmlessLine reader shape line

/-! ### When a fetch returns -/

variable {reader shape}

theorem getKey_of_isDict {v : PyValue} (h : v.isDict = true) (name : String) :
  v.getKey name = .ok (v.item name)
  := if_pos h

theorem getKey_of_not_isDict {v : PyValue} (h : ¬ v.isDict = true) (name : String) :
  v.getKey name = .error .attributeError
  := if_neg h

/-- Coordinates that count as true and are no object have a first element, or are not a list at
all, which is handled. -/
theorem first_cases {coords : PyValue} (htruthy : coords.truthy = true)
    (hdict : coords.isDict = false) :
  (∃ exterior holes, coords.first = .ok exterior ∧ coords.elements = .ok holes) ∨
    coords.first = .error (.other "TypeError")
  := by
  cases coords with
  | arr elements =>
      cases elements with
      | nil => cases htruthy
      | cons x xs => exact .inl ⟨x, x :: xs, rfl, rfl⟩
  | str s =>
      left
      cases hchars : PyValue.chars s with
      | nil =>
          rw [PyValue.chars, List.map_eq_nil_iff, String.toList_eq_nil_iff] at hchars
          rw [hchars] at htruthy
          cases htruthy
      | cons c cs =>
          refine ⟨c, c :: cs, ?_, ?_⟩
          · rw [PyValue.first, hchars]
            rfl
          · rw [PyValue.elements, hchars]
            rfl
  | obj members => cases hdict
  | null => exact .inr rfl
  | bool b => exact .inr rfl
  | num n => exact .inr rfl

theorem exists_scoredOf_iff {coords : PyValue} {footprint : σ} :
  (∃ r, scoredOf reader shape coords footprint = .ok r) ↔
    ∃ matches', reader.intersects footprint shape = .ok matches'
  := by
  rw [scoredOf]
  cases reader.intersects footprint shape with
  | error type =>
      constructor
      · rintro ⟨_, ⟨⟩⟩
      · rintro ⟨_, ⟨⟩⟩
  | ok matches' =>
      apply iff_of_true
      · cases matches'
        · exact ⟨_, rfl⟩
        · exact ⟨_, rfl⟩
      · exact ⟨_, rfl⟩

theorem exists_scoredPolygon_iff {coords : PyValue} (htruthy : coords.truthy = true) :
  (∃ r, scoredPolygon reader shape coords = .ok r) ↔ HarmlessCoordinates reader shape coords
  := by
  cases hdict : coords.isDict with
  | true =>
      apply iff_of_false
      · obtain ⟨members, rfl⟩ : ∃ members, coords = .obj members := by
          cases coords <;> first | exact ⟨_, rfl⟩ | cases hdict
        rintro ⟨_, ⟨⟩⟩
      · intro h
        have hnot := h.1
        rw [hdict] at hnot
        cases hnot
  | false =>
      rw [HarmlessCoordinates, and_iff_right hdict]
      rcases first_cases htruthy hdict with ⟨exterior, holes, hfirst, helements⟩ | htype
      · have hpolygon : polygonToShapely reader coords =
            match reader.shapelyPolygon exterior holes.tail with
            | .ok footprint => .ok (some footprint)
            | .error e => if e.handled then .ok none else escape e := by
          rw [polygonToShapely, hfirst]
          simp only [helements]
          rfl
        rw [scoredPolygon, hpolygon]
        constructor
        · rintro hreturns exterior' holes' hfirst' helements'
          rw [hfirst] at hfirst'
          rw [helements] at helements'
          cases hfirst'
          cases helements'
          cases hshapely : reader.shapelyPolygon exterior holes.tail with
          | error e =>
              rw [hshapely] at hreturns
              simp only
              by_contra hunhandled
              simp only [if_neg hunhandled] at hreturns
              obtain ⟨_, ⟨⟩⟩ := hreturns
          | ok footprint =>
              rw [hshapely] at hreturns
              exact exists_scoredOf_iff.mp hreturns
        · intro hharmless
          have h := hharmless exterior holes hfirst helements
          cases hshapely : reader.shapelyPolygon exterior holes.tail with
          | error e =>
              rw [hshapely] at h
              simp only [if_pos h]
              exact ⟨none, rfl⟩
          | ok footprint =>
              rw [hshapely] at h
              exact exists_scoredOf_iff.mpr h
      · apply iff_of_true
        · rw [scoredPolygon, polygonToShapely, htype]
          exact ⟨none, rfl⟩
        · intro exterior holes hfirst
          rw [htype] at hfirst
          cases hfirst

/-- A feature is scored or passed over exactly when it is harmless. -/
theorem exists_scoredFootprint_iff {feature : PyValue} :
  (∃ r, scoredFootprint reader shape feature = .ok r) ↔ HarmlessFeature reader shape feature
  := by
  by_cases hdict : feature.isDict = true
  · have hfeature : scoredFootprint reader shape feature =
        scoredGeometry reader shape (geometryOf feature) := by
      rw [scoredFootprint, getKey_of_isDict hdict]
      rfl
    rw [hfeature]
    by_cases hgeometry : (geometryOf feature).isDict = true
    · have hmembers : scoredGeometry reader shape (geometryOf feature) =
          if (geometryOf feature).item "type" = .str "Polygon" then
            if ((geometryOf feature).item "coordinates").truthy = true then
              scoredPolygon reader shape ((geometryOf feature).item "coordinates")
            else .ok none
          else .ok none := by
        rw [scoredGeometry, getKey_of_isDict hgeometry, getKey_of_isDict hgeometry]
        rfl
      rw [hmembers]
      split_ifs with hpolygon hcoords
      · rw [exists_scoredPolygon_iff hcoords]
        constructor
        · exact fun h => ⟨hdict, hgeometry, fun _ _ => h⟩
        · exact fun h => h.coordinates hpolygon hcoords
      · apply iff_of_true ⟨none, rfl⟩
        exact ⟨hdict, hgeometry, fun _ h => absurd h hcoords⟩
      · apply iff_of_true ⟨none, rfl⟩
        exact ⟨hdict, hgeometry, fun h => absurd h hpolygon⟩
    · rw [scoredGeometry, getKey_of_not_isDict hgeometry]
      apply iff_of_false
      · rintro ⟨_, ⟨⟩⟩
      · exact fun h => hgeometry h.geometry
  · rw [scoredFootprint, getKey_of_not_isDict hdict]
    apply iff_of_false
    · rintro ⟨_, ⟨⟩⟩
    · exact fun h => hdict h.isDict

/-- A line adds a footprint or nothing exactly when it is harmless. -/
theorem exists_lineFootprint_iff {line : List Char} :
  (∃ r, lineFootprint reader shape line = .ok r) ↔ HarmlessLine reader shape line
  := by
  rw [lineFootprint, parseLine, HarmlessLine]
  by_cases hblank : strip line = ""
  · rw [if_pos hblank]
    exact iff_of_true ⟨none, rfl⟩ (.inl hblank)
  · rw [if_neg hblank, or_iff_right hblank]
    cases reader.loads (strip line) with
    | ok feature => exact exists_scoredFootprint_iff
    | error e =>
        simp only
        split_ifs with hhandled
        · exact iff_of_true ⟨none, rfl⟩ hhandled
        · apply iff_of_false _ hhandled
          rintro ⟨_, ⟨⟩⟩

theorem exists_footprintsOf_iff {lines : List (List Char)} :
  (∃ footprints, footprintsOf reader shape lines = .ok footprints) ↔
    ∀ line ∈ lines, HarmlessLine reader shape line
  := by
  simp only [← exists_lineFootprint_iff]
  rw [← exists_mapM_eq_ok_iff, footprintsOf]
  constructor
  · rintro ⟨_, h⟩
    obtain ⟨scored, hscored, -⟩ := bind_eq_ok.mp h
    exact ⟨scored, hscored⟩
  · rintro ⟨scored, hscored⟩
    rw [hscored]
    exact ⟨_, rfl⟩

omit [Neg K] in
/-- The text of a tile is decoded from what is decompressed, or from the tile itself. -/
theorem tileText_eq_ok_iff {raw : List UInt8} {text : String} :
  tileText reader raw = .ok text ↔
    (∃ bytes, reader.decompress raw = .ok bytes ∧ Utf8.decode bytes = some text) ∨
      ∃ e, reader.decompress raw = .error e ∧ e.handled = true ∧ Utf8.decode raw = some text
  := by
  have hdecode {bytes : List UInt8} : decode bytes = .ok text ↔ Utf8.decode bytes = some text := by
    rw [decode]
    cases Utf8.decode bytes with
    | none =>
        constructor
        · rintro ⟨⟩
        · rintro ⟨⟩
    | some text' =>
        constructor
        · rintro ⟨⟩
          rfl
        · rintro ⟨⟩
          rfl
  rw [tileText]
  cases hdecompress : reader.decompress raw with
  | ok bytes =>
      rw [hdecode]
      constructor
      · exact fun h => .inl ⟨bytes, rfl, h⟩
      · rintro (⟨_, ⟨⟩, h⟩ | ⟨_, ⟨⟩, _⟩)
        exact h
  | error e =>
      simp only
      split_ifs with hhandled
      · rw [hdecode]
        constructor
        · exact fun h => .inr ⟨e, rfl, hhandled, h⟩
        · rintro (⟨_, ⟨⟩, _⟩ | ⟨_, ⟨⟩, -, h⟩)
          exact h
      · constructor
        · rintro ⟨⟩
        · rintro (⟨_, ⟨⟩, _⟩ | ⟨_, ⟨⟩, h, -⟩)
          exact absurd h hhandled

theorem exists_tileFootprints_iff {raw : List UInt8} :
  (∃ footprints, tileFootprints reader shape raw = .ok footprints) ↔
    HarmlessTile reader shape raw
  := by
  rw [tileFootprints, HarmlessTile]
  simp only [← tileText_eq_ok_iff]
  constructor
  · rintro ⟨footprints, h⟩
    obtain ⟨text, htext, hfootprints⟩ := bind_eq_ok.mp h
    exact ⟨text, htext, exists_footprintsOf_iff.mp ⟨footprints, hfootprints⟩⟩
  · rintro ⟨text, htext, hlines⟩
    rw [htext]
    exact exists_footprintsOf_iff.mpr hlines

/-! ### Lines with polygons -/

/-- A line has a polygon with coordinates that are those of a footprint. -/
structure PolygonOf (reader : TileReader σ K) (line : List Char) (coords : PyValue)
    (footprint : σ) : Prop where
  geometry : ∃ feature, parseLine reader line = .ok (some feature) ∧ feature.isDict = true ∧
    (geometryOf feature).isDict = true ∧ (geometryOf feature).item "type" = .str "Polygon" ∧
      (geometryOf feature).item "coordinates" = coords
  truthy : coords.truthy = true
  footprint : polygonToShapely reader coords = .ok (some footprint)

/-- What is made of a line with a polygon. -/
theorem lineFootprint_of_polygonOf {line : List Char} {coords : PyValue} {footprint : σ}
    (h : PolygonOf reader line coords footprint) :
  lineFootprint reader shape line = scoredOf reader shape coords footprint
  := by
  obtain ⟨⟨feature, hparse, hdict, hgeometry, htype, rfl⟩, htruthy, hfootprint⟩ := h
  have hscored : scoredFootprint reader shape feature =
      scoredGeometry reader shape (geometryOf feature) := by
    rw [scoredFootprint, getKey_of_isDict hdict]
    rfl
  have hpolygon : scoredGeometry reader shape (geometryOf feature) =
      scoredPolygon reader shape ((geometryOf feature).item "coordinates") := by
    rw [scoredGeometry, getKey_of_isDict hgeometry, getKey_of_isDict hgeometry, htype]
    exact if_pos htruthy
  rw [lineFootprint, hparse]
  change scoredFootprint reader shape feature = _
  rw [hscored, hpolygon, scoredPolygon, hfootprint]
  rfl

/-- What is added by a line is a polygon of it that meets the shape, with its score. -/
theorem polygonOf_of_lineFootprint {line : List Char} {scored : Scored K}
    (h : lineFootprint reader shape line = .ok (some scored)) :
  ∃ footprint, PolygonOf reader line scored.coords footprint ∧
    reader.intersects footprint shape = .ok true ∧ scored.score = scoreOf reader footprint
  := by
  obtain ⟨parsed, hparse, h⟩ := bind_eq_ok.mp h
  cases parsed with
  | none => cases h
  | some feature =>
      obtain ⟨geometry, hgeometry, h⟩ := bind_eq_ok.mp h
      obtain ⟨hdict, rfl⟩ := PyValue.getKey_eq_ok.mp hgeometry
      obtain ⟨type, htype, h⟩ := bind_eq_ok.mp h
      obtain ⟨hdict', rfl⟩ := PyValue.getKey_eq_ok.mp htype
      split_ifs at h with hpolygon
      · obtain ⟨coords, hcoords, h⟩ := bind_eq_ok.mp h
        obtain ⟨-, rfl⟩ := PyValue.getKey_eq_ok.mp hcoords
        split_ifs at h with htruthy
        · obtain ⟨made, hmade, h⟩ := bind_eq_ok.mp h
          cases made with
          | none => cases h
          | some footprint =>
              have hscored : reader.intersects footprint shape = .ok true ∧
                  scored = ⟨scoreOf reader footprint,
                    (geometryOf feature).item "coordinates"⟩ := by
                change scoredOf reader shape ((geometryOf feature).item "coordinates") footprint =
                  .ok (some scored) at h
                rw [scoredOf] at h
                split at h
                · cases h
                · cases h
                · next hmeets =>
                  cases h
                  exact ⟨hmeets, rfl⟩
              obtain ⟨hmeets, rfl⟩ := hscored
              exact ⟨footprint, ⟨⟨feature, hparse, hdict, hdict', hpolygon, rfl⟩, htruthy, hmade⟩,
                hmeets, rfl⟩
        · cases h
      · cases h

/-- The coordinates of a footprint determine its score. -/
theorem score_eq_of_coords_eq {line line' : List Char} {a b : Scored K}
    (ha : lineFootprint reader shape line = .ok (some a))
    (hb : lineFootprint reader shape line' = .ok (some b)) (h : a.coords = b.coords) :
  a.score = b.score
  := by
  obtain ⟨footprint, hpolygon, -, hscore⟩ := polygonOf_of_lineFootprint ha
  obtain ⟨footprint', hpolygon', -, hscore'⟩ := polygonOf_of_lineFootprint hb
  have heq := hpolygon.footprint
  rw [h, hpolygon'.footprint] at heq
  cases heq
  exact hscore.trans hscore'.symm

/-! ### Lines apart -/

/-- What lines add, if they are harmless. -/
def scores (reader : TileReader σ K) (shape : σ) (lines : Set (List Char)) : Set (Scored K) :=
  {scored | ∃ line ∈ lines, lineFootprint reader shape line = .ok (some scored)}

/-- Of two footprints of lines of which one is scored less than the other, each third one is
scored less than the one or more than the other. -/
def Comparable (reader : TileReader σ K) (shape : σ) (lines : Set (List Char)) : Prop :=
  ∀ a ∈ scores reader shape lines, ∀ b ∈ scores reader shape lines,
    ∀ x ∈ scores reader shape lines,
      b.less a = true → x.less a = true ∨ b.less x = true

/-- What is left when a line is left out of a tile of some lines is in the same order. -/
def OrderKept (reader : TileReader σ K) (shape : σ) (lines : Set (List Char)) : Prop :=
  ∀ before line after, (∀ l ∈ before ++ line :: after, l ∈ lines) → ∀ footprints others,
    footprintsOf reader shape (before ++ line :: after) = .ok footprints →
      footprintsOf reader shape (before ++ after) = .ok others → others.Sublist footprints

omit [Neg K] in
theorem Scored.less_asymm {a b : Scored K} (h : a.less b = true) :
  b.less a = false
  := Sorting.tupleLess_asymm h

/-- Scores without a NaN can be compared. -/
theorem comparable_of_numbers {lines : Set (List Char)}
    (h : ∀ scored ∈ scores reader shape lines, none ∉ scored.score) :
  Comparable reader shape lines
  := (Sorting.weaklyOrders_tupleLess h).negTrans

/-- The lines of a tile, one by one. -/
theorem footprintsOf_split {line : List Char} {before after : List (List Char)}
    {footprints : List PyValue}
    (h : footprintsOf reader shape (before ++ line :: after) = .ok footprints) :
  ∃ first added last, before.mapM (lineFootprint reader shape) = .ok first ∧
    lineFootprint reader shape line = .ok added ∧
      after.mapM (lineFootprint reader shape) = .ok last ∧
        footprints = (reader.sorter.sort ((first ++ added :: last).filterMap id)).map (·.coords) ∧
          footprintsOf reader shape (before ++ after) =
            .ok ((reader.sorter.sort ((first ++ last).filterMap id)).map (·.coords))
  := by
  obtain ⟨scored, hscored, hfootprints⟩ := bind_eq_ok.mp h
  cases hfootprints
  rw [List.mapM_append] at hscored
  obtain ⟨first, hfirst, hscored⟩ := bind_eq_ok.mp hscored
  obtain ⟨rest, hrest, hscored⟩ := bind_eq_ok.mp hscored
  cases hscored
  rw [List.mapM_cons] at hrest
  obtain ⟨added, hadded, hrest⟩ := bind_eq_ok.mp hrest
  obtain ⟨last, hlast, hrest⟩ := bind_eq_ok.mp hrest
  cases hrest
  refine ⟨first, added, last, hfirst, hadded, hlast, rfl, ?_⟩
  rw [footprintsOf, List.mapM_append, hfirst, hlast]
  rfl

omit [Neg K] [LinearOrder K] in
theorem filterMap_sublist_insert (first last : List (Option (Scored K)))
    (added : Option (Scored K)) :
  ((first ++ last).filterMap id).Sublist ((first ++ added :: last).filterMap id)
  := by
  apply List.Sublist.filterMap
  exact List.Sublist.append_left (List.sublist_cons_self _ _) _

/-- A line that is added takes no footprint of the others away, and leaves them as they are if it
adds none. -/
theorem footprintsOf_insert {line : List Char} {before after : List (List Char)}
    {footprints : List PyValue}
    (h : footprintsOf reader shape (before ++ line :: after) = .ok footprints) :
  ∃ others, footprintsOf reader shape (before ++ after) = .ok others ∧
    others.Subperm footprints ∧
      (lineFootprint reader shape line = .ok none → others = footprints)
  := by
  obtain ⟨first, added, last, -, hadded, -, rfl, hothers⟩ := footprintsOf_split h
  refine ⟨_, hothers, ?_, ?_⟩
  · have hsublist := (filterMap_sublist_insert first last added).map (·.coords)
    have hothers := ((reader.sorter.perm ((first ++ last).filterMap id)).map (·.coords)).subperm
    have hall := (reader.sorter.perm ((first ++ added :: last).filterMap id)).map (·.coords)
    exact hothers.trans (hsublist.subperm.trans hall.symm.subperm)
  · intro hnone
    rw [hnone] at hadded
    cases hadded
    rw [List.filterMap_append, List.filterMap_append]
    rfl

/-- What is kept of lines is among their scores. -/
theorem mem_scores {lines : Set (List Char)} {some' : List (List Char)}
    {scored : List (Option (Scored K))} (hlines : ∀ l ∈ some', l ∈ lines)
    (h : some'.mapM (lineFootprint reader shape) = .ok scored) {a : Scored K}
    (ha : a ∈ scored.filterMap id) :
  a ∈ scores reader shape lines
  := by
  obtain ⟨made, hmade, rfl⟩ := List.mem_filterMap.mp ha
  obtain ⟨line, hline, heq⟩ := (mapM_eq_ok h).2 _ hmade
  exact ⟨line, hlines line hline, heq⟩

/-- A line whose score cannot be compared with those of two others turns their order round. -/
theorem footprintsOf_incomparable {first line second : List Char} {a x b : Scored K}
    (ha : lineFootprint reader shape first = .ok (some a))
    (hx : lineFootprint reader shape line = .ok (some x))
    (hb : lineFootprint reader shape second = .ok (some b)) (hba : b.less a = true)
    (hxa : x.less a = false) (hbx : b.less x = false) :
  footprintsOf reader shape ([first] ++ [second]) = .ok [b.coords, a.coords] ∧
    footprintsOf reader shape ([first] ++ line :: [second]) = .ok [a.coords, x.coords, b.coords]
  := by
  have htwo : reader.sorter.sort [a, b] = [b, a] := reader.sorter.pair Scored.less_asymm hba
  have hthree : reader.sorter.sort [a, x, b] = [a, x, b] :=
    reader.sorter.run _ (.cons_cons hxa (.cons_cons hbx (.singleton b)))
  constructor
  · have hscored : ([first] ++ [second]).mapM (lineFootprint reader shape) =
        .ok [some a, some b] := by
      rw [List.mapM_append, List.mapM_cons, List.mapM_cons, ha, hb]
      rfl
    rw [footprintsOf, hscored]
    exact congrArg (fun sorted => Except.ok (sorted.map (·.coords))) htwo
  · have hscored : ([first] ++ line :: [second]).mapM (lineFootprint reader shape) =
        .ok [some a, some x, some b] := by
      rw [List.mapM_append, List.mapM_cons, List.mapM_cons, List.mapM_cons, ha, hx, hb]
      rfl
    rw [footprintsOf, hscored]
    exact congrArg (fun sorted => Except.ok (sorted.map (·.coords))) hthree

/-- The order is kept in all tiles of some lines exactly when their scores can be compared. -/
theorem orderKept_iff {lines : Set (List Char)} :
  OrderKept reader shape lines ↔ Comparable reader shape lines
  := by
  constructor
  · rintro hkept a ⟨first, hfirst, ha⟩ b ⟨second, hsecond, hb⟩ x ⟨line, hline, hx⟩ hba
    by_contra! hincomparable
    obtain ⟨hxa, hbx⟩ := hincomparable
    obtain ⟨htwo, hthree⟩ := footprintsOf_incomparable ha hx hb hba
      (Bool.eq_false_of_not_eq_true hxa) (Bool.eq_false_of_not_eq_true hbx)
    have hlines : ∀ l ∈ [first] ++ line :: [second], l ∈ lines := by
      intro l hl
      simp only [List.cons_append, List.nil_append, List.mem_cons, List.not_mem_nil, or_false] at hl
      rcases hl with rfl | rfl | rfl <;> assumption
    have hsublist := hkept [first] line [second] hlines _ _ hthree htwo
    have hcoords : b.coords = a.coords := by
      rcases List.sublist_cons_iff.mp hsublist with h | ⟨rest, heq, -⟩
      · rcases List.sublist_cons_iff.mp h with h | ⟨rest, heq, hrest⟩
        · exact absurd h.length_le (by decide : ¬ 2 ≤ 1)
        · obtain ⟨-, rfl⟩ := List.cons.inj heq
          exact (List.mem_singleton.mp (List.singleton_sublist.mp hrest)).symm
      · exact (List.cons.inj heq).1
    have hscore := score_eq_of_coords_eq hb ha hcoords
    have hirrefl : b.less a = false := by
      rw [Scored.less, hscore]
      exact Sorting.tupleLess_irrefl _
    exact Bool.false_ne_true (hirrefl.symm.trans hba)
  · intro hcomparable before line after hlines footprints others hfootprints hothers
    obtain ⟨first, added, last, hfirst, hadded, hlast, rfl, hothers'⟩ :=
      footprintsOf_split hfootprints
    cases hothers.symm.trans hothers'
    apply List.Sublist.map
    apply reader.sorter.sublist (filterMap_sublist_insert first last added)
    have hscored : (before ++ line :: after).mapM (lineFootprint reader shape) =
        .ok (first ++ added :: last) := by
      rw [List.mapM_append, List.mapM_cons, hfirst, hadded, hlast]
      rfl
    have hmem : ∀ scored ∈ (first ++ added :: last).filterMap id,
        scored ∈ scores reader shape lines := fun _ => mem_scores hlines hscored
    constructor
    · exact fun _ _ _ _ => Scored.less_asymm
    · exact fun a ha b hb x hx => hcomparable a (hmem a ha) b (hmem b hb) x (hmem x hx)

/-- A fetch returns a list for a tile, and raises nothing, exactly when the tile can be decoded and
its lines are harmless. A line that is added takes none of the footprints of the others away, and
changes nothing if it adds none; and it leaves the others in their order, whatever tile is made of
some lines, exactly when the scores of these can be compared, as they can when none is NaN. -/
theorem fetch_total_iff (reader : TileReader σ K) (shape : σ) (raw : List UInt8) :
  ((∀ e, fetchFootprints reader shape (.served raw) ≠ .raised e) ↔
    HarmlessTile reader shape raw) ∧
  (∀ before line after footprints,
    footprintsOf reader shape (before ++ line :: after) = .ok footprints →
      ∃ others, footprintsOf reader shape (before ++ after) = .ok others ∧
        others.Subperm footprints ∧
          (lineFootprint reader shape line = .ok none → others = footprints)) ∧
  ∀ lines, (OrderKept reader shape lines ↔ Comparable reader shape lines) ∧
    ((∀ scored ∈ scores reader shape lines, none ∉ scored.score) → Comparable reader shape lines)
  := by
  refine ⟨?_, fun _ _ _ _ h => footprintsOf_insert h,
    fun lines => ⟨orderKept_iff, comparable_of_numbers⟩⟩
  rw [← exists_tileFootprints_iff, fetchFootprints]
  cases tileFootprints reader shape raw with
  | ok footprints => exact iff_of_true (fun _ => nofun) ⟨footprints, rfl⟩
  | error e =>
      apply iff_of_false
      · exact fun h => h e rfl
      · rintro ⟨_, ⟨⟩⟩

end Footprints

/-! ### Two readers -/

/-- The reading of bytes that are not compressed, whose lines are `null` or no JSON. -/
def plainReader : TileReader Unit ℚ where
  decompress _ := .error ⟨"BadGzipFile", true⟩
  loads s := if s = "null" then .ok .null else .error ⟨"JSONDecodeError", true⟩
  shapelyPolygon _ _ := .error ⟨"ValueError", true⟩
  intersects _ _ := .ok false
  distance _ := some 0
  centroidDistance _ := some 0
  area _ := some 0
  sorter := Sorting.byInsertion _

theorem tileFootprints_plain (text : String) :
  tileFootprints plainReader () (Utf8.encode text) =
    footprintsOf plainReader () (splitlines text)
  := by
  have htext : tileText plainReader (Utf8.encode text) = .ok text := by
    rw [tileText_eq_ok_iff]
    exact .inr ⟨_, rfl, rfl, Utf8.decode_encode text⟩
  rw [tileFootprints, htext]
  rfl

/-- The coordinates of a ring that is named by a line. -/
def ringOf (name : String) : PyValue := .arr [.str name]

/-- The reading of lines that name their rings: those of `near`, of `far`, and of another one with
a NaN among its coordinates. -/
def ringReader : TileReader PyValue ℚ where
  decompress _ := .error ⟨"BadGzipFile", true⟩
  loads name := .ok (.obj [("type", .str "Polygon"), ("coordinates", ringOf name)])
  shapelyPolygon exterior _ := .ok exterior
  intersects _ _ := .ok true
  distance
    | .str "near" => some 1
    | .str "far" => some 2
    | _ => none
  centroidDistance _ := some 3
  area _ := some 1
  sorter := Sorting.byInsertion _

/-- A line that is no JSON does no harm, and leaves what there is; a ring with a NaN turns the
order of two others round. -/
theorem fetch_total_malformed :
  (∀ e, fetchFootprints plainReader () (.served (Utf8.encode "x")) ≠ .raised e) ∧
    (∃ others, footprintsOf plainReader () ([] ++ []) = .ok others ∧ others.Subperm [] ∧
      (lineFootprint plainReader () ['x'] = .ok none → others = [])) ∧
    OrderKept ringReader .null {"far".toList, "near".toList} ∧
    ¬ OrderKept ringReader .null {"far".toList, "nan".toList, "near".toList}
  := by
  have hline : footprintsOf plainReader () (splitlines "x") = .ok [] := by decide +kernel
  have htotal := fetch_total_iff plainReader () (Utf8.encode "x")
  have hrings := fetch_total_iff ringReader .null []
  have hfar : lineFootprint ringReader .null "far".toList =
      .ok (some ⟨[some 2, some 3, some (-1)], ringOf "far"⟩) := by decide +kernel
  have hnear : lineFootprint ringReader .null "near".toList =
      .ok (some ⟨[some 1, some 3, some (-1)], ringOf "near"⟩) := by decide +kernel
  have hnan : lineFootprint ringReader .null "nan".toList =
      .ok (some ⟨[none, some 3, some (-1)], ringOf "nan"⟩) := by decide +kernel
  refine ⟨?_, htotal.2.1 [] ['x'] [] [] hline, ?_, ?_⟩
  · apply htotal.1.mpr
    apply exists_tileFootprints_iff.mp
    rw [tileFootprints_plain]
    exact ⟨[], hline⟩
  · apply (hrings.2.2 _).1.mpr
    apply (hrings.2.2 _).2
    rintro scored ⟨line, rfl | rfl, hscored⟩
    · cases hfar.symm.trans hscored
      decide
    · cases hnear.symm.trans hscored
      decide
  · rw [(hrings.2.2 _).1]
    intro hcomparable
    have h := hcomparable _ ⟨_, .inl rfl, hfar⟩ _ ⟨_, .inr (.inr rfl), hnear⟩ _
      ⟨_, .inr (.inl rfl), hnan⟩ (by decide)
    revert h
    decide

/-- The line `null` is JSON, and has no member `geometry`. -/
theorem fetch_raises_null :
  ¬ ∀ e, fetchFootprints plainReader () (.served (Utf8.encode "null")) ≠ .raised e
  := by
  have hline : footprintsOf plainReader () (splitlines "null") = .error .attributeError := by
    decide +kernel
  intro htotal
  apply htotal .attributeError
  rw [fetchFootprints, tileFootprints_plain, hline]

end MsFootprints

end Sidecar
