import RoofTrace.Sidecar.Topology
import Mathlib.Analysis.SpecialFunctions.Trigonometric.Inverse

/-!
# The merge of coplanar facets

Over the reals, the merge ends with planes of which no two are to be merged, and keeps their
normals: two planes that are merged are never opposed, as their normals are within 75 degrees of
the vertical and within 5 degrees of each other, so their average is a vector that can be
normalised and that stays in the cone.
-/

namespace Sidecar

namespace Topology

open Cone Real

/-- The functions on the reals. -/
noncomputable def exact : Numpy ℝ where
  sqrt := Real.sqrt
  arccos := Real.arccos
  tan := Real.tan
  degrees := fun x => x * 180 / π

def maxRoofPitchDeg : ℝ := 75

/-- The normal of a roof plane: an upward unit vector whose pitch is below that of walls. -/
structure IsRoofNormal (normal : Vec3 ℝ) : Prop where
  unit : dot normal normal = 1
  upward : 0 ≤ normal 2
  pitch : pitchDegreesFromNormal exact normal < maxRoofPitchDeg

/-- A plane that has been fitted to points. -/
structure IsRoofPlane (p : FittedPlane ℝ) : Prop where
  normal : IsRoofNormal p.normal
  inliers : p.inlierIndices ≠ []

/-! ### Angles -/

theorem clip01_mem (x : ℝ) : 0 ≤ clip01 x ∧ clip01 x ≤ 1 :=
  ⟨le_min (le_max_right _ _) zero_le_one, min_le_right _ _⟩

/-- An angle is below another one when its cosine exceeds the other's. -/
theorem degrees_arccos_lt {x a : ℝ} (hx : 0 ≤ x ∧ x ≤ 1) (ha : 0 ≤ a) (hπ : a ≤ 180) :
  exact.degrees (exact.arccos x) < a ↔ cos (a * π / 180) < x
  := by
  have angle : arccos x * 180 / π < a ↔ arccos x < a * π / 180 := by
    rw [div_lt_iff₀ pi_pos, lt_div_iff₀ (by norm_num)]
  have range : a * π / 180 ∈ Set.Icc 0 π := by
    constructor
    · positivity
    · rw [div_le_iff₀ (by norm_num)]
      nlinarith [pi_pos]
  have inverse := strictAntiOn_cos.lt_iff_gt range ⟨arccos_nonneg x, arccos_le_pi x⟩
  rw [cos_arccos (by linarith) hx.2] at inverse
  exact angle.trans inverse.symm

/-- The bound of the third component of roof normals. -/
noncomputable def steepest : ℝ := cos (maxRoofPitchDeg * π / 180)

theorem steepest_pos : 0 < steepest := by
  apply cos_pos_of_mem_Ioo
  constructor
  · have := pi_pos
    rw [maxRoofPitchDeg]
    linarith
  · have := pi_pos
    rw [maxRoofPitchDeg]
    linarith

theorem le_one_of_unit {v : Vec3 ℝ} (hv : dot v v = 1) : v 2 ≤ 1 := by
  simp only [dot] at hv
  nlinarith [mul_self_nonneg (v 0), mul_self_nonneg (v 1)]

/-- An upward unit vector is a roof normal exactly when its third component is large enough. -/
theorem pitch_iff {v : Vec3 ℝ} (hv : dot v v = 1) (up : 0 ≤ v 2) :
  pitchDegreesFromNormal exact v < maxRoofPitchDeg ↔ steepest < v 2
  := by
  have clipped : clip01 |v 2| = v 2 := by
    rw [abs_of_nonneg up, clip01, max_eq_left up, min_eq_left (le_one_of_unit hv)]
  rw [pitchDegreesFromNormal, clipped]
  apply degrees_arccos_lt
  · exact ⟨up, le_one_of_unit hv⟩
  · rw [maxRoofPitchDeg]
    norm_num
  · rw [maxRoofPitchDeg]
    norm_num

theorem double_steepest : 2 * (steepest * steepest) - 1 = -cos (30 * π / 180) := by
  have double : 2 * (75 * π / 180) = π - 30 * π / 180 := by ring
  rw [steepest, maxRoofPitchDeg, ← pow_two, ← cos_two_mul, double, cos_pi_sub]

theorem IsRoofNormal.steepest_lt {v : Vec3 ℝ} (h : IsRoofNormal v) : steepest < v 2
  := (pitch_iff h.unit h.upward).mp h.pitch

/-- Roof normals that are to be merged are at an acute angle. -/
theorem acute {v w : Vec3 ℝ} (hv : IsRoofNormal v) (hw : IsRoofNormal w)
    (close : angleBetweenNormals exact v w < maxNormalAngleDeg) :
  0 < dot v w
  := by
  by_contra opposed
  rw [angleBetweenNormals, maxNormalAngleDeg,
    degrees_arccos_lt (clip01_mem _) (by norm_num) (by norm_num)] at close
  have apart := lt_dot steepest_pos.le hv.unit hw.unit hv.steepest_lt hw.steepest_lt
  rw [double_steepest] at apart
  have absolute : |dot v w| = -dot v w := abs_of_nonpos (not_lt.mp opposed)
  have clipped : clip01 |dot v w| ≤ |dot v w| :=
    min_le_of_left_le (max_eq_left (abs_nonneg _)).le
  have wider : cos (30 * π / 180) < cos (5 * π / 180) := by
    apply cos_lt_cos_of_nonneg_of_le_pi
    · positivity
    · linarith [pi_pos]
    · linarith [pi_pos]
  linarith

/-! ### Merging two planes -/

/-- The average of roof normals at an acute angle, when normalised, is a roof normal. -/
theorem renormalise_isRoofNormal {v w : Vec3 ℝ} {a b : ℝ} (hv : IsRoofNormal v)
    (hw : IsRoofNormal w) (acute : 0 < dot v w) (ha : 0 < a) (hb : 0 < b) :
  IsRoofNormal (renormalise exact (average v w a b))
  := by
  let m := average v w a b
  have long : 1 / 2 ≤ dot m m := half_le_dot_average hv.unit hw.unit acute.le ha hb
  have short : dot m m ≤ 1 := dot_average_le hv.unit hw.unit ha hb
  have square : norm exact m * norm exact m = dot m m := mul_self_sqrt (by linarith)
  have positive : 1 / 10 ^ 9 < norm exact m := by
    apply lt_sqrt_of_sq_lt
    norm_num
    linarith
  have unit_le : norm exact m ≤ 1 := sqrt_le_one.mpr short
  have cone : steepest < m 2 := lt_average ha hb hv.steepest_lt hw.steepest_lt
  have pos : 0 < norm exact m := lt_trans (by norm_num) positive
  have normal : renormalise exact m = fun i => m i / norm exact m := by
    rw [renormalise, if_pos positive]
  have unit : dot (renormalise exact m) (renormalise exact m) = 1 := by
    rw [normal, dot_div, square, div_self (by linarith)]
  have inside : steepest < renormalise exact m 2 := by
    rw [normal]
    exact lt_div_length steepest_pos.le cone pos unit_le
  have upward := (steepest_pos.trans inside).le
  exact ⟨unit, upward, (pitch_iff unit upward).mpr inside⟩

theorem unique_ne_nil {xs ys : List ℕ} (h : xs ≠ []) : unique xs ys ≠ [] := by
  obtain ⟨x, hx⟩ := List.exists_mem_of_ne_nil xs h
  have : x ∈ unique xs ys := by
    rw [unique, Finset.mem_sort, List.mem_toFinset]
    exact List.mem_append_left ys hx
  exact List.ne_nil_of_mem this

/-- Two planes that are to be merged give a roof plane. -/
theorem mergeTwo_isRoofPlane {p q : MergedPlane ℝ} (hp : IsRoofPlane p.toFittedPlane)
    (hq : IsRoofPlane q.toFittedPlane) (should : shouldMerge exact p q = true) :
  IsRoofPlane (mergeTwo exact p q).toFittedPlane
  := by
  have close : angleBetweenNormals exact p.normal q.normal < maxNormalAngleDeg := by
    rw [shouldMerge] at should
    split at should
    · cases should
    · next close => exact not_le.mp close
  have wp : (0 : ℝ) < p.inlierIndices.length :=
    Nat.cast_pos.mpr (List.length_pos_of_ne_nil hp.inliers)
  have wq : (0 : ℝ) < q.inlierIndices.length :=
    Nat.cast_pos.mpr (List.length_pos_of_ne_nil hq.inliers)
  have normal := renormalise_isRoofNormal hp.normal hq.normal (acute hp.normal hq.normal close)
    wp wq
  constructor
  · rw [mergeTwo]
    dsimp only
    rw [if_neg normal.upward.not_gt]
    exact normal
  · exact unique_ne_nil hp.inliers

/-! ### The merge -/

theorem shouldMerge_comm (p q : MergedPlane ℝ) : shouldMerge exact p q = shouldMerge exact q p := by
  have angle : angleBetweenNormals exact p.normal q.normal =
      angleBetweenNormals exact q.normal p.normal := by
    rw [angleBetweenNormals, angleBetweenNormals]
    congr 4
    simp only [dot]
    ring
  rw [shouldMerge, shouldMerge, angle, min_comm]

/-- The planes before the merge. -/
def toMerged (planes : List (FittedPlane ℝ)) : List (MergedPlane ℝ) :=
  planes.mapIdx fun i p => { toFittedPlane := p, mergedFrom := [i] }

/-- Of planes that have been fitted to points, the merge makes as many passes as there are planes
less in the end, and leaves planes with unit normals that are upward and below the pitch of walls,
of which no two are to be merged. -/
theorem merge_fixpoint (planes : List (FittedPlane ℝ)) (h : ∀ p ∈ planes, IsRoofPlane p) :
  (∃ passes, passes + (mergeCoplanarFacets exact planes).length = planes.length ∧
      (Option.bind · (Merging.pass (shouldMerge exact) (mergeTwo exact)))^[passes]
        (some (toMerged planes)) = some (mergeCoplanarFacets exact planes)) ∧
    (mergeCoplanarFacets exact planes).Pairwise
      (fun p q => shouldMerge exact p q = false ∧ shouldMerge exact q p = false) ∧
    ∀ p ∈ mergeCoplanarFacets exact planes, dot p.normal p.normal = 1 ∧ 0 < p.normal 2 ∧
      pitchDegreesFromNormal exact p.normal < maxRoofPitchDeg
  := by
  refine ⟨?_, ?_, ?_⟩
  · obtain ⟨passes, length, iterates⟩ := Merging.loop_passes (shouldMerge exact) (mergeTwo exact)
      (toMerged planes)
    use passes
    rw [toMerged, List.length_mapIdx] at length
    exact ⟨length, iterates⟩
  · apply (Merging.loop_pairwise _).imp
    intro p q apart
    exact ⟨apart, (shouldMerge_comm q p).trans apart⟩
  · intro p hp
    have start : ∀ p ∈ toMerged planes, IsRoofPlane p.toFittedPlane := by
      intro p hp
      obtain ⟨i, hi, rfl⟩ := List.mem_mapIdx.mp hp
      exact h _ (List.getElem_mem hi)
    have keeps (p q : MergedPlane ℝ) := mergeTwo_isRoofPlane (p := p) (q := q)
    have normal := (Merging.loop_forall keeps start p hp).normal
    exact ⟨normal.unit, steepest_pos.trans normal.steepest_lt, normal.pitch⟩

/-- A flat plane at the height zero. -/
def flat : FittedPlane ℝ where
  normal := ![0, 0, 1]
  d := 0
  inlierIndices := [0, 1, 2]
  inlierRatio := 1
  residualStd := 0
  centroid := ![0, 0, 0]

theorem flat_isRoofPlane : IsRoofPlane flat := by
  have unit : dot flat.normal flat.normal = 1 := by simp [dot, flat]
  have below : steepest < flat.normal 2 := by
    have : cos (maxRoofPitchDeg * π / 180) < cos 0 := by
      apply cos_lt_cos_of_nonneg_of_le_pi le_rfl
      · rw [maxRoofPitchDeg]
        linarith [pi_pos]
      · rw [maxRoofPitchDeg]
        positivity
    rw [cos_zero] at this
    exact this
  have upward : 0 ≤ flat.normal 2 := zero_le_one
  exact ⟨⟨unit, upward, (pitch_iff unit upward).mpr below⟩, List.cons_ne_nil 0 [1, 2]⟩

/-- Of flat planes at one height, the merge leaves roof planes. -/
theorem merge_fixpoint_flat :
  (mergeCoplanarFacets exact [flat, flat]).Pairwise
      (fun p q => shouldMerge exact p q = false ∧ shouldMerge exact q p = false) ∧
    ∀ p ∈ mergeCoplanarFacets exact [flat, flat], dot p.normal p.normal = 1 ∧ 0 < p.normal 2 ∧
      pitchDegreesFromNormal exact p.normal < maxRoofPitchDeg
  := by
  have planes : ∀ p ∈ [flat, flat], IsRoofPlane p := by
    intro p hp
    rcases List.mem_pair.mp hp with rfl | rfl
    · exact flat_isRoofPlane
    · exact flat_isRoofPlane
  exact (merge_fixpoint [flat, flat] planes).2

end Topology

end Sidecar
