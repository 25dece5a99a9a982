import RoofTrace.Json.Value
import RoofTrace.Numbers.Interleaving
import Mathlib.Tactic.Positivity

/-!
# Quadkeys

The tiles of `resolve_address/ms_footprints.py`: a tile is named by the quadkey of its coordinates,
and the index of the dataset, read once from its rows, gives the address of a quadkey. The
projection of a latitude and a longitude is a pair of integers here, before it is clamped.
-/

namespace Sidecar

namespace Quadkeys

/-! ### The quadkey of a tile -/

/-- The last lines of `_lat_lon_to_tile_xy`: a projected coordinate is clamped to the tiles. -/
def clampToTiles (zoom : ℕ) (coordinate : ℤ) : ℕ :=
  (max 0 (min (2 ^ zoom - 1) coordinate)).toNat

/-- `digit` of a round of the loop. -/
def quadkeyDigit (tileX tileY i : ℕ) : ℕ :=
  let mask := 1 <<< (i - 1)
  (if tileX &&& mask ≠ 0 then 1 else 0) + (if tileY &&& mask ≠ 0 then 2 else 0)

/-- `_tile_xy_to_quadkey` -/
def tileXYToQuadkey (tileX tileY zoom : ℕ) : String :=
  String.join ((List.range' 1 zoom).reverse.map fun i => toString (quadkeyDigit tileX tileY i))

/-- `lat_lon_to_quadkey`, of a location with these projected coordinates. -/
def latLonToQuadkey (x y : ℤ) (zoom : ℕ) : String :=
  tileXYToQuadkey (clampToTiles zoom x) (clampToTiles zoom y) zoom

/-! ### The index of the dataset -/

/-- A row that `csv.DictReader` has read. -/
structure DatasetRow where
  location : Option String
  quadKey : Option String
  url : Option String

/-- A dictionary, its keys in the order they were inserted. -/
abbrev Dict (α : Type) : Type := List (String × α)

/-- `d[key] = value` -/
def Dict.assign {α : Type} (d : Dict α) (key : String) (value : α) : Dict α :=
  if d.any (·.1 == key) then d.map fun entry => if entry.1 = key then (key, value) else entry
  else d ++ [(key, value)]

/-- A string that is neither absent nor empty. -/
def nonempty (s : Option String) : Option String := s.filter (· ≠ "")

/-- A round of the loop of `_parse_dataset_index`. -/
def indexRow (index : Dict (Dict String)) (row : DatasetRow) : Dict (Dict String) :=
  match nonempty row.quadKey, nonempty row.url, nonempty row.location with
  | some quadkey, some url, some region =>
      index.assign quadkey (Dict.assign ((index.lookup quadkey).getD []) region url)
  | _, _, _ => index

/-- `_parse_dataset_index`, of the rows of the CSV. -/
def parseDatasetIndex (rows : List DatasetRow) : Dict (Dict String) := rows.foldl indexRow []

def preferredRegions : List String := ["UnitedStates"]

/-- `_resolve_tile_url`, with the index that is loaded. -/
def resolveTileUrl (index : Dict (Dict String)) (quadkey : String) : Option String :=
  match index.lookup quadkey with
  | none | some [] => none
  | some ((region, url) :: regions) =>
      match preferredRegions.find? fun preferred => ((region, url) :: regions).any (·.1 == preferred)
      with
      | some preferred => ((region, url) :: regions).lookup preferred
      | none => some url

/-! ### Digits -/

theorem clampToTiles_lt (zoom : ℕ) (coordinate : ℤ) :
  clampToTiles zoom coordinate < 2 ^ zoom
  := by
  have hpos : (0 : ℤ) < 2 ^ zoom := by positivity
  have hcast : ((2 ^ zoom : ℕ) : ℤ) = 2 ^ zoom := by push_cast; rfl
  unfold clampToTiles
  omega

theorem and_mask_ne_zero_iff (n i : ℕ) :
  n &&& 1 <<< i ≠ 0 ↔ n.testBit i = true
  := by
  rw [Nat.one_shiftLeft, Nat.and_two_pow]
  cases n.testBit i <;> simp

/-- A digit interleaves the bits below the mask. -/
theorem quadkeyDigit_succ (tileX tileY i : ℕ) :
  quadkeyDigit tileX tileY (i + 1) = Interleaving.digit tileX tileY i
  := by
  unfold quadkeyDigit Interleaving.digit
  simp only [Nat.add_sub_cancel, and_mask_ne_zero_iff]
  cases tileX.testBit i <;> cases tileY.testBit i <;> rfl

theorem toList_toString {d : ℕ} (h : d < 4) :
  (toString d).toList = [Nat.digitChar d]
  := by
  have hd : d = 0 ∨ d = 1 ∨ d = 2 ∨ d = 3 := by omega
  rcases hd with rfl | rfl | rfl | rfl <;> rfl

/-- A quadkey spells the interleaved bits of its tile. -/
theorem toList_tileXYToQuadkey (tileX tileY zoom : ℕ) :
  (tileXYToQuadkey tileX tileY zoom).toList =
    (Interleaving.digits tileX tileY zoom).map Nat.digitChar
  := by
  have hlevels : (List.range' 1 zoom).reverse = (List.range zoom).reverse.map (· + 1) := by
    rw [List.range'_eq_map_range, ← List.map_reverse]
    apply List.map_congr_left
    intro i _
    exact Nat.add_comm 1 i
  rw [tileXYToQuadkey, String.toList_join, hlevels, List.map_map, List.flatMap_map,
    Interleaving.digits, List.map_map, List.map_eq_flatMap]
  apply List.flatMap_congr
  intro i _
  rw [Function.comp_apply, quadkeyDigit_succ]
  exact toList_toString (Interleaving.digit_lt _ _ _)

theorem digitChar_mem {d : ℕ} (h : d < 4) :
  Nat.digitChar d ∈ ['0', '1', '2', '3']
  := by
  have hd : d = 0 ∨ d = 1 ∨ d = 2 ∨ d = 3 := by omega
  rcases hd with rfl | rfl | rfl | rfl <;> simp [Nat.digitChar]

theorem digitChar_injOn {d e : ℕ} (hd : d < 4) (he : e < 4)
    (h : Nat.digitChar d = Nat.digitChar e) :
  d = e
  := by
  have hd' : d = 0 ∨ d = 1 ∨ d = 2 ∨ d = 3 := by omega
  have he' : e = 0 ∨ e = 1 ∨ e = 2 ∨ e = 3 := by omega
  rcases hd' with rfl | rfl | rfl | rfl <;> rcases he' with rfl | rfl | rfl | rfl <;>
    first | rfl | exact absurd h (by decide)

/-- Two lists of digits that are spelled alike are the same. -/
theorem eq_of_map_digitChar {ds es : List ℕ} (hds : ∀ d ∈ ds, d < 4) (hes : ∀ e ∈ es, e < 4)
    (h : ds.map Nat.digitChar = es.map Nat.digitChar) :
  ds = es
  := by
  induction ds generalizing es with
  | nil => exact (List.map_eq_nil_iff.mp h.symm).symm
  | cons d ds ih =>
      cases es with
      | nil => cases h
      | cons e es =>
          obtain ⟨hhead, htail⟩ := List.cons.inj h
          rw [digitChar_injOn (hds d (by simp)) (hes e (by simp)) hhead,
            ih (fun d hd => hds d (by simp [hd])) (fun e he => hes e (by simp [he])) htail]

theorem lt_of_mem_digits {tileX tileY zoom : ℕ} :
  ∀ d ∈ Interleaving.digits tileX tileY zoom, d < 4
  := by
  intro d hd
  obtain ⟨i, -, rfl⟩ := List.mem_map.mp hd
  exact Interleaving.digit_lt tileX tileY i

/-! ### Tiles -/

@[simp] theorem length_tileXYToQuadkey (tileX tileY zoom : ℕ) :
  (tileXYToQuadkey tileX tileY zoom).toList.length = zoom
  := by
  rw [toList_tileXYToQuadkey, List.length_map, Interleaving.length_digits]

theorem mem_tileXYToQuadkey {tileX tileY zoom : ℕ} :
  ∀ c ∈ (tileXYToQuadkey tileX tileY zoom).toList, c ∈ ['0', '1', '2', '3']
  := by
  intro c hc
  rw [toList_tileXYToQuadkey] at hc
  obtain ⟨d, hd, rfl⟩ := List.mem_map.mp hc
  exact digitChar_mem (lt_of_mem_digits d hd)

/-- Without its last digit, a quadkey is that of the parent tile. -/
theorem dropLast_tileXYToQuadkey (tileX tileY zoom : ℕ) :
  (tileXYToQuadkey tileX tileY (zoom + 1)).toList.dropLast =
    (tileXYToQuadkey (tileX / 2) (tileY / 2) zoom).toList
  := by
  rw [toList_tileXYToQuadkey, toList_tileXYToQuadkey, Interleaving.digits_succ, List.map_append]
  exact List.dropLast_concat

/-- A tile and its zoom level. -/
structure Tile where
  x : ℕ
  y : ℕ
  zoom : ℕ
  x_lt : x < 2 ^ zoom
  y_lt : y < 2 ^ zoom

namespace Tile

def quadkey (tile : Tile) : String := tileXYToQuadkey tile.x tile.y tile.zoom

/-- Tiles with the same quadkey are the same, also across the levels. -/
theorem quadkey_injective : Function.Injective quadkey
  := by
  rintro ⟨x, y, zoom, hx, hy⟩ ⟨x', y', zoom', hx', hy'⟩ h
  change tileXYToQuadkey x y zoom = tileXYToQuadkey x' y' zoom' at h
  have hzoom : zoom = zoom' := by
    rw [← length_tileXYToQuadkey x y zoom, h, length_tileXYToQuadkey]
  subst hzoom
  have hlist := congrArg String.toList h
  rw [toList_tileXYToQuadkey, toList_tileXYToQuadkey] at hlist
  have hdigits := eq_of_map_digitChar lt_of_mem_digits lt_of_mem_digits hlist
  obtain ⟨rfl, rfl⟩ := Interleaving.eq_of_digits_eq hx hy hx' hy' hdigits
  rfl

end Tile

/-- The quadkey of a location is that of a tile. -/
theorem exists_tile_latLonToQuadkey (x y : ℤ) (zoom : ℕ) :
  ∃ tile : Tile, tile.zoom = zoom ∧ latLonToQuadkey x y zoom = tile.quadkey
  := ⟨⟨clampToTiles zoom x, clampToTiles zoom y, zoom, clampToTiles_lt zoom x,
    clampToTiles_lt zoom y⟩, rfl, rfl⟩

/-! ### Lookups -/

theorem mem_assign {α : Type} {d : Dict α} {key : String} {value : α} {entry : String × α}
    (h : entry ∈ d.assign key value) :
  entry = (key, value) ∨ entry ∈ d
  := by
  unfold Dict.assign at h
  split_ifs at h
  · obtain ⟨old, hold, hentry⟩ := List.mem_map.mp h
    split_ifs at hentry
    · exact Or.inl hentry.symm
    · exact Or.inr (hentry ▸ hold)
  · rcases List.mem_append.mp h with hold | hnew
    · exact Or.inr hold
    · exact Or.inl (List.mem_singleton.mp hnew)

/-- Every address of the index is that of a row with its quadkey. -/
def FromRows (rows : List DatasetRow) (index : Dict (Dict String)) : Prop :=
  ∀ entry ∈ index, ∀ address ∈ entry.2,
    ∃ row ∈ rows, row.quadKey = some entry.1 ∧ row.url = some address.2

theorem eq_some_of_nonempty {s : Option String} {text : String} (h : nonempty s = some text) :
  s = some text
  := (Option.filter_eq_some_iff.mp h).1

theorem fromRows_indexRow {rows : List DatasetRow} {index : Dict (Dict String)} {row : DatasetRow}
    (hrow : row ∈ rows) (h : FromRows rows index) :
  FromRows rows (indexRow index row)
  := by
  unfold indexRow
  split
  · rename_i quadkey url region hquadkey hurl _
    intro entry hentry address haddress
    rcases mem_assign hentry with rfl | hold
    · rcases mem_assign haddress with rfl | hregions
      · exact ⟨row, hrow, eq_some_of_nonempty hquadkey, eq_some_of_nonempty hurl⟩
      · cases hlookup : index.lookup quadkey with
        | none =>
            rw [hlookup] at hregions
            cases hregions
        | some regions =>
            rw [hlookup] at hregions
            exact h _ (Json.mem_of_lookup hlookup) address hregions
    · exact h entry hold address haddress
  · exact h

theorem fromRows_parseDatasetIndex (rows : List DatasetRow) :
  FromRows rows (parseDatasetIndex rows)
  := by
  have hfold : ∀ (more : List DatasetRow) (index : Dict (Dict String)), more ⊆ rows →
      FromRows rows index → FromRows rows (more.foldl indexRow index) := by
    intro more
    induction more with
    | nil => exact fun index _ h => h
    | cons row more ih =>
        intro index hsubset h
        obtain ⟨hrow, hmore⟩ := List.cons_subset.mp hsubset
        exact ih _ hmore (fromRows_indexRow hrow h)
  apply hfold rows [] (List.Subset.refl rows)
  intro entry hentry
  cases hentry

theorem mem_of_resolveTileUrl {index : Dict (Dict String)} {quadkey url : String}
    (h : resolveTileUrl index quadkey = some url) :
  ∃ regions, (quadkey, regions) ∈ index ∧ ∃ region, (region, url) ∈ regions
  := by
  unfold resolveTileUrl at h
  split at h
  · cases h
  · cases h
  · rename_i region first regions hlookup
    refine ⟨_, Json.mem_of_lookup hlookup, ?_⟩
    split at h
    · exact ⟨_, Json.mem_of_lookup h⟩
    · exact ⟨region, by simp [Option.some.inj h]⟩

/-- Quadkeys identify tiles: a quadkey has a digit for each level, its tile is the only one with
it, the quadkey of the parent tile is what is left without the last digit, and the address that is
looked up for a tile comes from a row of the tile and of no other tile. -/
theorem quadkeys_identify_tiles :
  (∀ zoom x y, x < 2 ^ zoom → y < 2 ^ zoom →
    (tileXYToQuadkey x y zoom).toList.length = zoom ∧
      ∀ c ∈ (tileXYToQuadkey x y zoom).toList, c ∈ ['0', '1', '2', '3']) ∧
  (∀ zoom x y x' y', x < 2 ^ zoom → y < 2 ^ zoom → x' < 2 ^ zoom → y' < 2 ^ zoom →
    tileXYToQuadkey x y zoom = tileXYToQuadkey x' y' zoom → x = x' ∧ y = y') ∧
  (∀ zoom x y, x < 2 ^ (zoom + 1) → y < 2 ^ (zoom + 1) →
    (tileXYToQuadkey x y (zoom + 1)).toList.dropLast =
      (tileXYToQuadkey (x / 2) (y / 2) zoom).toList ∧
        x / 2 < 2 ^ zoom ∧ y / 2 < 2 ^ zoom) ∧
  ∀ (rows : List DatasetRow) (tile : Tile) (url : String),
    resolveTileUrl (parseDatasetIndex rows) tile.quadkey = some url →
      ∃ row ∈ rows, row.url = some url ∧ row.quadKey = some tile.quadkey ∧
        ∀ other : Tile, row.quadKey = some other.quadkey → other = tile
  := by
  refine ⟨?digits, ?distinct, ?parent, ?lookup⟩
  case digits =>
    intro zoom x y _ _
    exact ⟨length_tileXYToQuadkey x y zoom, mem_tileXYToQuadkey⟩
  case distinct =>
    intro zoom x y x' y' hx hy hx' hy' h
    have htile := @Tile.quadkey_injective ⟨x, y, zoom, hx, hy⟩ ⟨x', y', zoom, hx', hy'⟩ h
    exact ⟨congrArg Tile.x htile, congrArg Tile.y htile⟩
  case parent =>
    intro zoom x y hx hy
    exact ⟨dropLast_tileXYToQuadkey x y zoom, by omega, by omega⟩
  case lookup =>
    intro rows tile url h
    obtain ⟨regions, hindex, region, hregions⟩ := mem_of_resolveTileUrl h
    obtain ⟨row, hrow, hquadKey, hurl⟩ :=
      fromRows_parseDatasetIndex rows _ hindex _ hregions
    refine ⟨row, hrow, hurl, hquadKey, ?_⟩
    intro other hother
    apply Tile.quadkey_injective
    exact Option.some.inj (hother.symm.trans hquadKey)

/-- The quadkey of a tile, that of its parent and the row of the index that has it. -/
theorem quadkeys_identify_tiles_213 :
  ((tileXYToQuadkey 3 5 3).toList.length = 3 ∧
    ∀ c ∈ (tileXYToQuadkey 3 5 3).toList, c ∈ ['0', '1', '2', '3']) ∧
  (tileXYToQuadkey 3 5 3 = tileXYToQuadkey 3 5 3 → 3 = 3 ∧ 5 = 5) ∧
  (tileXYToQuadkey 3 5 3).toList.dropLast = (tileXYToQuadkey 1 2 2).toList ∧
  ∃ row : DatasetRow, row.url = some "tile.csv.gz" ∧ row.quadKey = some "213"
  := by
  obtain ⟨hdigits, hdistinct, hparent, hlookup⟩ := quadkeys_identify_tiles
  refine ⟨hdigits 3 3 5 (by decide) (by decide), ?_, (hparent 2 3 5 (by decide) (by decide)).1, ?_⟩
  · exact hdistinct 3 3 5 3 5 (by decide) (by decide) (by decide) (by decide)
  · obtain ⟨row, -, hurl, hquadKey, -⟩ := hlookup
      [⟨some "UnitedStates", some "213", some "tile.csv.gz"⟩]
      ⟨3, 5, 3, by decide, by decide⟩ "tile.csv.gz" (by decide +kernel)
    exact ⟨row, hurl, hquadKey.trans (by decide +kernel)⟩

end Quadkeys

end Sidecar
