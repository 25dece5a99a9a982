import RoofTrace.Numbers.Runs
import Mathlib.Analysis.Convex.Combination
import Mathlib.Analysis.Convex.Segment
import Mathlib.Data.Real.Basic
import Mathlib.Order.CompletePartialOrder
import Mathlib.Topology.Order.DenselyOrdered
import Mathlib.Topology.Instances.Real.Lemmas

/-!
# The strips of a mask

`_mask_to_polygon` of `outline/router.py`, up to the union: the runs of each row of a mask become
rectangles one pixel high. The rectangles do not overlap, and together they cover exactly the
pixels of the mask.
-/

namespace Sidecar

namespace MaskStrips

/-- A mask, row by row. -/
abbrev Mask : Type := List (List Bool)

/-- The corners of a `ShapelyPolygon`, in pixels. -/
abbrev Strip : Type := List (ℕ × ℕ)

/-! ### Strips -/

/-- `row.astype(np.int8)` -/
def toInt8 (row : List Bool) : List ℤ := row.map fun pixel => if pixel then 1 else 0

/-- `np.diff(values, prepend=0, append=0)` -/
def diff (values : List ℤ) : List ℤ := List.zipWith (· - ·) (values ++ [0]) (0 :: values)

/-- `np.where(changes == value)[0]`, where the first index is `k`. -/
def whereEqual (value : ℤ) : ℕ → List ℤ → List ℕ
  | _, [] => []
  | k, change :: changes =>
      if change = value then k :: whereEqual value (k + 1) changes
      else whereEqual value (k + 1) changes

/-- The rectangle of a run. -/
def strip (rowIdx : ℕ) (run : ℕ × ℕ) : Strip :=
  [(run.1, rowIdx), (run.2, rowIdx), (run.2, rowIdx + 1), (run.1, rowIdx + 1)]

/-- The strips of a row. -/
def rowStrips (rowIdx : ℕ) (row : List Bool) : List Strip :=
  if row.any id then
    let changes := diff (toInt8 row)
    let starts := whereEqual 1 0 changes
    let ends := whereEqual (-1) 0 changes
    (starts.zip ends).map (strip rowIdx)
  else []

/-- The strips of the rows from `rowIdx` on. -/
def stripsFrom : ℕ → Mask → List Strip
  | _, [] => []
  | rowIdx, row :: mask => rowStrips rowIdx row ++ stripsFrom (rowIdx + 1) mask

/-- The `strips` of `_mask_to_polygon`, or the message of the `ValueError`. -/
def maskStrips (mask : Mask) : Except String (List Strip) :=
  if mask.any (·.any id) then
    let strips := stripsFrom 0 mask
    if strips.isEmpty then throw "no pixels in mask" else return strips
  else throw "empty mask — cannot convert to polygon"

/-! ### Runs -/

/-- The differences of the rest of a row, after a pixel. -/
def diffFrom (previous : Bool) (row : List Bool) : List ℤ :=
  List.zipWith (· - ·) (toInt8 row ++ [0]) (toInt8 (previous :: row))

/-- The starts that are still to come are those of runs, with the one that has begun before. -/
theorem zip_whereEqual_diffFrom (k : ℕ) (start : Option ℕ) (row : List Bool) :
  (start.toList ++ whereEqual 1 k (diffFrom start.isSome row)).zip
      (whereEqual (-1) k (diffFrom start.isSome row)) = Runs.runsFrom k start row
  := by
  induction k, start, row using Runs.runsFrom.induct with
  | case1 k => rfl
  | case2 k s => rfl
  | case3 k row ih => exact ih
  | case4 k s row ih => exact ih
  | case5 k row ih => exact ih
  | case6 k s row ih => exact congrArg ((s, k) :: ·) ih

/-- The starts and the ends of a row, paired by their position, are its runs. -/
theorem zip_starts_ends (row : List Bool) :
  (whereEqual 1 0 (diff (toInt8 row))).zip (whereEqual (-1) 0 (diff (toInt8 row))) = Runs.runs row
  := zip_whereEqual_diffFrom 0 none row

/-- The strips of a row are the rectangles of its runs. -/
theorem rowStrips_eq (rowIdx : ℕ) (row : List Bool) :
  rowStrips rowIdx row = (Runs.runs row).map (strip rowIdx)
  := by
  unfold rowStrips
  dsimp only
  rw [zip_starts_ends]
  split_ifs with hany
  · rfl
  · cases hruns : Runs.runs row with
    | nil => rfl
    | cons run rest =>
        have hrun : run ∈ Runs.runs row := hruns ▸ List.mem_cons_self
        have htrue := (Runs.exists_within_runs_iff row run.1).mp
          ⟨run, hrun, Nat.le_refl _, Runs.lt_of_mem_runs hrun⟩
        exact absurd (List.any_eq_true.mpr ⟨true, List.mem_of_getElem? htrue, rfl⟩) hany

theorem mem_stripsFrom_iff {k : ℕ} {mask : Mask} {s : Strip} :
  s ∈ stripsFrom k mask ↔
    ∃ r row, mask[r]? = some row ∧ ∃ run ∈ Runs.runs row, s = strip (k + r) run
  := by
  induction mask generalizing k with
  | nil => simp [stripsFrom]
  | cons first mask ih =>
      rw [stripsFrom, List.mem_append, ih, rowStrips_eq, List.mem_map]
      constructor
      · rintro (⟨run, hrun, rfl⟩ | ⟨r, row, hrow, run, hrun, rfl⟩)
        · exact ⟨0, first, rfl, run, hrun, rfl⟩
        · refine ⟨r + 1, row, hrow, run, hrun, ?_⟩
          rw [Nat.add_assoc, Nat.add_comm 1 r]
      · rintro ⟨r, row, hrow, run, hrun, rfl⟩
        cases r with
        | zero =>
            obtain rfl : first = row := Option.some.inj hrow
            exact Or.inl ⟨run, hrun, rfl⟩
        | succ r =>
            refine Or.inr ⟨r, row, hrow, run, hrun, ?_⟩
            rw [Nat.add_assoc, Nat.add_comm 1 r]

/-! ### Regions -/

/-- The points of a strip: its ring is convex. -/
def region (s : Strip) : Set (ℝ × ℝ) :=
  convexHull ℝ {v | ∃ corner ∈ s, v = ((corner.1 : ℝ), (corner.2 : ℝ))}

/-- The unit square of a pixel. -/
def unitSquare (rowIdx column : ℕ) : Set (ℝ × ℝ) :=
  Set.Icc (column : ℝ) (column + 1) ×ˢ Set.Icc (rowIdx : ℝ) (rowIdx + 1)

theorem region_strip {run : ℕ × ℕ} (rowIdx : ℕ) (h : run.1 < run.2) :
  region (strip rowIdx run) =
    Set.Icc (run.1 : ℝ) run.2 ×ˢ Set.Icc (rowIdx : ℝ) (rowIdx + 1)
  := by
  have hcorners : {v : ℝ × ℝ | ∃ corner ∈ strip rowIdx run, v = ((corner.1 : ℝ), (corner.2 : ℝ))} =
      ({(run.1 : ℝ), (run.2 : ℝ)} : Set ℝ) ×ˢ ({(rowIdx : ℝ), (rowIdx : ℝ) + 1} : Set ℝ) := by
    ext ⟨x, y⟩
    simp only [strip, List.mem_cons, List.not_mem_nil, or_false, exists_eq_or_imp, exists_eq_left,
      Set.mem_ofPred_eq, Prod.mk.injEq, Set.mem_prod, Set.mem_insert_iff, Set.mem_singleton_iff,
      Nat.cast_add, Nat.cast_one]
    tauto
  have hrun : (run.1 : ℝ) ≤ run.2 := by exact_mod_cast h.le
  rw [region, hcorners, convexHull_prod, convexHull_pair, convexHull_pair, segment_eq_Icc hrun,
    segment_eq_Icc (by linarith)]

/-- The points of a strip are those of the pixels of its run. -/
theorem mem_region_strip_iff {run : ℕ × ℕ} (rowIdx : ℕ) (h : run.1 < run.2) (v : ℝ × ℝ) :
  v ∈ region (strip rowIdx run) ↔ ∃ column, Runs.Within run column ∧ v ∈ unitSquare rowIdx column
  := by
  rw [region_strip rowIdx h]
  constructor
  · rintro ⟨⟨hleft, hright⟩, hrow⟩
    -- The right end of the run belongs to its last pixel.
    by_cases hlast : v.1 < run.2
    · have hnonneg : (0 : ℝ) ≤ v.1 := le_trans (Nat.cast_nonneg run.1) hleft
      refine ⟨⌊v.1⌋₊, ⟨Nat.le_floor hleft, (Nat.floor_lt hnonneg).mpr hlast⟩, ⟨?_, ?_⟩, hrow⟩
      · exact Nat.floor_le hnonneg
      · exact (Nat.lt_floor_add_one v.1).le
    · have hend : v.1 = run.2 := le_antisymm hright (not_lt.mp hlast)
      have hcast : ((run.2 - 1 : ℕ) : ℝ) + 1 = run.2 := by
        exact_mod_cast Nat.sub_add_cancel (Nat.one_le_of_lt h)
      refine ⟨run.2 - 1, ⟨by omega, by omega⟩, ⟨?_, ?_⟩, hrow⟩
      · linarith
      · linarith
  · rintro ⟨column, ⟨hle, hlt⟩, ⟨hleft, hright⟩, hrow⟩
    have hbegin : (run.1 : ℝ) ≤ column := by exact_mod_cast hle
    have hend : (column : ℝ) + 1 ≤ run.2 := by exact_mod_cast hlt
    exact ⟨⟨by linarith, by linarith⟩, hrow⟩

theorem interior_region_strip {run : ℕ × ℕ} (rowIdx : ℕ) (h : run.1 < run.2) :
  interior (region (strip rowIdx run)) =
    Set.Ioo (run.1 : ℝ) run.2 ×ˢ Set.Ioo (rowIdx : ℝ) (rowIdx + 1)
  := by
  rw [region_strip rowIdx h, interior_prod_eq, interior_Icc, interior_Icc]

/-! ### Exactness -/

/-- Strips whose interiors have no point in common. -/
def Apart (s t : Strip) : Prop := Disjoint (interior (region s)) (interior (region t))

theorem apart_of_row_lt {r r' : ℕ} {run run' : ℕ × ℕ} (h : run.1 < run.2) (h' : run'.1 < run'.2)
    (hr : r < r') :
  Apart (strip r run) (strip r' run')
  := by
  rw [Apart, interior_region_strip r h, interior_region_strip r' h', Set.disjoint_left]
  rintro v ⟨-, hv⟩ ⟨-, hv'⟩
  have hrow : (r : ℝ) + 1 ≤ r' := by exact_mod_cast hr
  linarith [hv.2, hv'.1]

theorem apart_of_run_lt {r : ℕ} {run run' : ℕ × ℕ} (h : run.1 < run.2) (h' : run'.1 < run'.2)
    (hrun : run.2 < run'.1) :
  Apart (strip r run) (strip r run')
  := by
  rw [Apart, interior_region_strip r h, interior_region_strip r h', Set.disjoint_left]
  rintro v ⟨hv, -⟩ ⟨hv', -⟩
  have hgap : (run.2 : ℝ) < run'.1 := by exact_mod_cast hrun
  linarith [hv.2, hv'.1]

theorem pairwise_apart_rowStrips (rowIdx : ℕ) (row : List Bool) :
  (rowStrips rowIdx row).Pairwise Apart
  := by
  rw [rowStrips_eq, List.pairwise_map]
  apply (Runs.pairwise_runs row).imp_of_mem
  intro run run' hrun hrun' hgap
  exact apart_of_run_lt (Runs.lt_of_mem_runs hrun) (Runs.lt_of_mem_runs hrun') hgap

theorem pairwise_apart_stripsFrom (k : ℕ) (mask : Mask) :
  (stripsFrom k mask).Pairwise Apart
  := by
  induction mask generalizing k with
  | nil => exact List.Pairwise.nil
  | cons row mask ih =>
      rw [stripsFrom, List.pairwise_append]
      refine ⟨pairwise_apart_rowStrips k row, ih (k + 1), ?_⟩
      intro s hs t ht
      rw [rowStrips_eq, List.mem_map] at hs
      obtain ⟨run, hrun, rfl⟩ := hs
      obtain ⟨r, row', -, run', hrun', rfl⟩ := mem_stripsFrom_iff.mp ht
      exact apart_of_row_lt (Runs.lt_of_mem_runs hrun) (Runs.lt_of_mem_runs hrun') (by omega)

/-- The pixels of a mask. -/
def Pixel (mask : Mask) (rowIdx column : ℕ) : Prop :=
  ∃ row, mask[rowIdx]? = some row ∧ row[column]? = some true

theorem exists_mem_region_iff (mask : Mask) (v : ℝ × ℝ) :
  (∃ s ∈ stripsFrom 0 mask, v ∈ region s) ↔
    ∃ rowIdx column, Pixel mask rowIdx column ∧ v ∈ unitSquare rowIdx column
  := by
  constructor
  · rintro ⟨s, hs, hv⟩
    obtain ⟨r, row, hrow, run, hrun, rfl⟩ := mem_stripsFrom_iff.mp hs
    rw [Nat.zero_add] at hv
    obtain ⟨column, hcolumn, hsquare⟩ :=
      (mem_region_strip_iff r (Runs.lt_of_mem_runs hrun) v).mp hv
    have hpixel := (Runs.exists_within_runs_iff row column).mp ⟨run, hrun, hcolumn⟩
    exact ⟨r, column, ⟨row, hrow, hpixel⟩, hsquare⟩
  · rintro ⟨r, column, ⟨row, hrow, hpixel⟩, hsquare⟩
    obtain ⟨run, hrun, hcolumn⟩ := (Runs.exists_within_runs_iff row column).mpr hpixel
    refine ⟨strip (0 + r) run, mem_stripsFrom_iff.mpr ⟨r, row, hrow, run, hrun, rfl⟩, ?_⟩
    rw [Nat.zero_add, mem_region_strip_iff r (Runs.lt_of_mem_runs hrun)]
    exact ⟨column, hcolumn, hsquare⟩

/-- A mask with a pixel raises neither `ValueError`. -/
theorem maskStrips_of_pixel {mask : Mask} {rowIdx column : ℕ} (h : Pixel mask rowIdx column) :
  maskStrips mask = .ok (stripsFrom 0 mask)
  := by
  obtain ⟨row, hrow, hpixel⟩ := h
  have hany : mask.any (·.any id) = true :=
    List.any_eq_true.mpr ⟨row, List.mem_of_getElem? hrow,
      List.any_eq_true.mpr ⟨true, List.mem_of_getElem? hpixel, rfl⟩⟩
  obtain ⟨run, hrun, -⟩ := (Runs.exists_within_runs_iff row column).mpr hpixel
  have hstrip : strip (0 + rowIdx) run ∈ stripsFrom 0 mask :=
    mem_stripsFrom_iff.mpr ⟨rowIdx, row, hrow, run, hrun, rfl⟩
  rw [maskStrips, if_pos hany]
  dsimp only
  rw [if_neg (by simpa using List.ne_nil_of_mem hstrip)]
  rfl

/-- The strips of a mask do not overlap, and their union is that of the pixels. Every mask with a
pixel is given these strips. -/
theorem strips_exact (mask : Mask) :
  ((stripsFrom 0 mask).Pairwise fun s t => Disjoint (interior (region s)) (interior (region t))) ∧
  (⋃ s ∈ stripsFrom 0 mask, region s) =
    (⋃ (rowIdx : ℕ) (column : ℕ) (_ : Pixel mask rowIdx column), unitSquare rowIdx column) ∧
  ((∃ rowIdx column, Pixel mask rowIdx column) → maskStrips mask = .ok (stripsFrom 0 mask))
  := by
  use pairwise_apart_stripsFrom 0 mask
  constructor
  · ext v
    simp only [Set.mem_iUnion, exists_prop]
    exact exists_mem_region_iff mask v
  · rintro ⟨rowIdx, column, hpixel⟩
    exact maskStrips_of_pixel hpixel

end MaskStrips

end Sidecar
