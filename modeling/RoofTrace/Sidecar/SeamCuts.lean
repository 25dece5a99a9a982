import Mathlib.Analysis.SpecialFunctions.Trigonometric.Bounds
import Mathlib.Analysis.SpecialFunctions.Trigonometric.Inverse
import RoofTrace.Rigid.HalfPlane
import RoofTrace.Sidecar.RoofModel

/-!
# Cuts along seams

A cell is cut from its coverage with finite rectangles in place of half-planes. On the box of the
coverage a rectangle agrees with its half-plane exactly when no corner of the box is farther ahead
of the seam than the rectangle reaches. It does when the box has the points that the seam was
tested on, since the planes of a seam are not nearly parallel.
-/

namespace Sidecar

namespace RoofModel

open Cone Planar Sidecar.Topology

variable {K : Type} [Field K] [LinearOrder K] [IsStrictOrderedRing K]

/-! ### Rectangles in place of half-planes -/

/-- The points of a convex polygon without holes. -/
def region (p : PlanPolygon K) : Set (K × K) := convexHull K {q | q ∈ p.exterior}

/-- `(minx, miny)` -/
def lowerCorner (bbox : K × K × K × K) : K × K := (bbox.1, bbox.2.1)

/-- `(maxx, maxy)` -/
def upperCorner (bbox : K × K × K × K) : K × K := (bbox.2.2.1, bbox.2.2.2)

variable (np : Numpy K)

/-- The diagonal of a box. -/
def diagonal (bbox : K × K × K × K) : K :=
  hypot np ((upperCorner bbox).1 - (lowerCorner bbox).1)
    ((upperCorner bbox).2 - (lowerCorner bbox).2)

/-- The length of the gradient of a linear form. -/
def steepness (form : K × K × K) : K := hypot np form.1 form.2.1

/-- How far a rectangle extends to each side. -/
def reach (bbox : K × K × K × K) : K := diagonal np bbox * 4 + 10

/-- The rectangle in place of a half-plane agrees with it on the box. -/
def CutExact (form : K × K × K) (bbox : K × K × K × K) : Prop :=
  ∀ p ∈ Set.Icc (lowerCorner bbox) (upperCorner bbox),
    p ∈ region (halfplanePolygon np form.1 form.2.1 form.2.2 bbox) ↔ p ∈ halfPlane form

/-- No corner of the box is more than twice the reach ahead of the seam. -/
def WithinReach (form : K × K × K) (bbox : K × K × K × K) : Prop :=
  ∀ q ∈ boxCorners (lowerCorner bbox) (upperCorner bbox),
    value form q ≤ 2 * reach np bbox * steepness np form

/-- The hypotenuse of two lengths is exact. -/
structure ExactHypot (x y : K) : Prop where
  nonneg : 0 ≤ hypot np x y
  mul_self : hypot np x y * hypot np x y = x * x + y * y

variable {np} {form : K × K × K} {bbox : K × K × K × K}

omit [IsStrictOrderedRing K] in
/-- The polygon of a half-plane is the rectangle ahead of its line. -/
theorem region_halfplanePolygon (hsteep : 1 / 10 ^ 12 ≤ steepness np form) :
  region (halfplanePolygon np form.1 form.2.1 form.2.2 bbox) =
    convexHull K {q | q ∈ ahead
      (footFrom form (steepness np form) (centre (lowerCorner bbox) (upperCorner bbox)))
      (unit form (steepness np form)) (reach np bbox)}
  := by
  have hpolygon : halfplanePolygon np form.1 form.2.1 form.2.2 bbox =
      ⟨ahead (footFrom form (steepness np form) (centre (lowerCorner bbox) (upperCorner bbox)))
          (unit form (steepness np form)) (reach np bbox) ++
        (ahead (footFrom form (steepness np form) (centre (lowerCorner bbox) (upperCorner bbox)))
          (unit form (steepness np form)) (reach np bbox)).take 1, []⟩ := if_neg hsteep.not_gt
  rw [hpolygon, region]
  congr 1
  ext q
  simp only [Set.mem_ofPred_eq, List.mem_append]
  exact or_iff_left_of_imp List.mem_of_mem_take

/-- The rectangle of a seam is exact on the box of the coverage exactly when it reaches the
corners. -/
theorem cutExact_iff (hsteep : 1 / 10 ^ 12 ≤ steepness np form)
    (hform : ExactHypot np form.1 form.2.1)
    (hdiagonal : ExactHypot np ((upperCorner bbox).1 - (lowerCorner bbox).1)
      ((upperCorner bbox).2 - (lowerCorner bbox).2))
    (hbox : lowerCorner bbox ≤ upperCorner bbox) :
  CutExact np form bbox ↔ WithinReach np form bbox
  := by
  have hpos : 0 < steepness np form := lt_of_lt_of_le (by positivity) hsteep
  have hlong : 0 ≤ diagonal np bbox := hdiagonal.nonneg
  have hreach : 0 < reach np bbox := by
    rw [reach]
    linarith
  have hsquare : diagonal np bbox * diagonal np bbox ≤ 4 * (reach np bbox * reach np bbox) := by
    rw [reach]
    nlinarith
  rw [CutExact, region_halfplanePolygon hsteep]
  exact agrees_on_box_iff hpos hreach hform.mul_self hbox (hdiagonal.mul_self.symm.trans_le hsquare)

/-! ### The gradient at a seam -/

/-- The vertical component that a plane's elevation is computed with. -/
def verticalOf (plane : MergedPlane K) : K :=
  if |plane.normal 2| < 1 / 10 ^ 9 then
    (if plane.normal 2 < 0 then -(1 / 10 ^ 9) else 1 / 10 ^ 9)
  else plane.normal 2

omit [IsStrictOrderedRing K] in
theorem planeZCoeffs_eq (plane : MergedPlane K) :
  planeZCoeffs plane = (-plane.normal 0 / verticalOf plane, -plane.normal 1 / verticalOf plane,
    -plane.d / verticalOf plane)
  := rfl

theorem verticalOf_spec (plane : MergedPlane K) :
  1 / 10 ^ 9 ≤ |verticalOf plane| ∧ |verticalOf plane - plane.normal 2| ≤ 1 / 10 ^ 9
  := by
  have htiny : (0 : K) < 1 / 10 ^ 9 := by positivity
  rw [verticalOf]
  split_ifs with hsmall hneg
  · rw [abs_neg, abs_of_pos htiny]
    refine ⟨le_refl _, ?_⟩
    rw [abs_le]
    constructor <;> linarith [(abs_lt.mp hsmall).1]
  · rw [abs_of_pos htiny]
    refine ⟨le_refl _, ?_⟩
    rw [abs_le]
    constructor <;> linarith [(abs_lt.mp hsmall).2]
  · refine ⟨not_lt.mp hsmall, ?_⟩
    rw [sub_self, abs_zero]
    exact htiny.le

/-- The normal with the vertical component that the elevation is computed with. -/
def usedNormal (plane : MergedPlane K) : Vec3 K :=
  ![plane.normal 0, plane.normal 1, verticalOf plane]

/-- What the gradient of the difference of two elevations has at least: the square of the sine of
the angle of the normals, up to their lengths. -/
theorem dot_mul_dot_sub_le (p q : MergedPlane K) :
  dot (usedNormal p) (usedNormal p) * dot (usedNormal q) (usedNormal q) -
      dot (usedNormal p) (usedNormal q) * dot (usedNormal p) (usedNormal q) ≤
    dot (usedNormal p) (usedNormal p) * (verticalOf q * verticalOf q) *
      ((elevationGap p q).1 * (elevationGap p q).1 +
        (elevationGap p q).2.1 * (elevationGap p q).2.1)
  := by
  have hp : verticalOf p ≠ 0 := by
    have hspec := (verticalOf_spec p).1
    intro hzero
    rw [hzero, abs_zero] at hspec
    exact absurd hspec (not_le.mpr (by positivity))
  have hq : verticalOf q ≠ 0 := by
    have hspec := (verticalOf_spec q).1
    intro hzero
    rw [hzero, abs_zero] at hspec
    exact absurd hspec (not_le.mpr (by positivity))
  obtain ⟨g, hg⟩ : ∃ g, g = (elevationGap p q).1 := ⟨_, rfl⟩
  obtain ⟨h, hh⟩ : ∃ h, h = (elevationGap p q).2.1 := ⟨_, rfl⟩
  have hx : q.normal 0 * verticalOf p = verticalOf p * verticalOf q * g + p.normal 0 * verticalOf q := by
    rw [hg]
    simp only [elevationGap, planeZCoeffs_eq]
    field_simp
    ring
  have hy : q.normal 1 * verticalOf p = verticalOf p * verticalOf q * h + p.normal 1 * verticalOf q := by
    rw [hh]
    simp only [elevationGap, planeZCoeffs_eq]
    field_simp
    ring
  have hturn : p.normal 0 * q.normal 1 - p.normal 1 * q.normal 0 =
      verticalOf q * (p.normal 0 * h - p.normal 1 * g) := by
    apply mul_left_cancel₀ hp
    linear_combination p.normal 0 * hy - p.normal 1 * hx
  rw [← hg, ← hh]
  simp only [dot, usedNormal, Matrix.cons_val_zero, Matrix.cons_val_one, Matrix.cons_val]
  have hlagrange : (p.normal 0 * p.normal 0 + p.normal 1 * p.normal 1 +
        verticalOf p * verticalOf p) *
      (q.normal 0 * q.normal 0 + q.normal 1 * q.normal 1 + verticalOf q * verticalOf q) -
      (p.normal 0 * q.normal 0 + p.normal 1 * q.normal 1 + verticalOf p * verticalOf q) *
      (p.normal 0 * q.normal 0 + p.normal 1 * q.normal 1 + verticalOf p * verticalOf q) =
      (verticalOf p * verticalOf q) * (verticalOf p * verticalOf q) * (g * g + h * h) +
      verticalOf q * verticalOf q * ((p.normal 0 * h - p.normal 1 * g) *
        (p.normal 0 * h - p.normal 1 * g)) := by
    have hx' : verticalOf p * q.normal 0 - p.normal 0 * verticalOf q =
        verticalOf p * verticalOf q * g := by linear_combination hx
    have hy' : verticalOf p * q.normal 1 - p.normal 1 * verticalOf q =
        verticalOf p * verticalOf q * h := by linear_combination hy
    linear_combination
      (verticalOf p * q.normal 0 - p.normal 0 * verticalOf q +
        verticalOf p * verticalOf q * g) * hx' +
      (verticalOf p * q.normal 1 - p.normal 1 * verticalOf q +
        verticalOf p * verticalOf q * h) * hy' +
      (p.normal 0 * q.normal 1 - p.normal 1 * q.normal 0 +
        verticalOf q * (p.normal 0 * h - p.normal 1 * g)) * hturn
  rw [hlagrange]
  have hsquare := mul_nonneg (mul_self_nonneg (verticalOf q))
    (mul_self_nonneg (p.normal 0 * g + p.normal 1 * h))
  nlinarith

/-- The vertical component of a unit vector is at most one. -/
theorem abs_vertical_le {n : Vec3 K} (hn : dot n n = 1) :
  |n 2| ≤ 1
  := by
  apply abs_le_of_sq_le_sq _ zero_le_one
  simp only [dot] at hn
  nlinarith [mul_self_nonneg (n 0), mul_self_nonneg (n 1)]

/-- The length of a normal, with the vertical component that is used, is nearly one. -/
theorem abs_dot_usedNormal_sub_le {p : MergedPlane K} (hp : dot p.normal p.normal = 1) :
  |dot (usedNormal p) (usedNormal p) - 1| ≤ 3 / 10 ^ 9
  := by
  have hvertical := abs_le.mp (abs_vertical_le hp)
  have hnear := abs_le.mp (verticalOf_spec p).2
  have hdifference : dot (usedNormal p) (usedNormal p) - 1 =
      (verticalOf p - p.normal 2) * (verticalOf p - p.normal 2) +
        2 * p.normal 2 * (verticalOf p - p.normal 2) := by
    simp only [dot, usedNormal, Matrix.cons_val_zero, Matrix.cons_val_one, Matrix.cons_val] at hp ⊢
    linear_combination hp
  rw [hdifference, abs_le]
  constructor <;> nlinarith

/-- The product of two normals, with the vertical components that are used, is nearly theirs. -/
theorem abs_dot_usedNormal_sub_dot_le {p q : MergedPlane K} (hp : dot p.normal p.normal = 1)
    (hq : dot q.normal q.normal = 1) :
  |dot (usedNormal p) (usedNormal q) - dot p.normal q.normal| ≤ 3 / 10 ^ 9
  := by
  have hvertical := abs_le.mp (abs_vertical_le hp)
  have hvertical' := abs_le.mp (abs_vertical_le hq)
  have hnear := abs_le.mp (verticalOf_spec p).2
  have hnear' := abs_le.mp (verticalOf_spec q).2
  have hdifference : dot (usedNormal p) (usedNormal q) - dot p.normal q.normal =
      (verticalOf p - p.normal 2) * (verticalOf q - q.normal 2) +
        (verticalOf p - p.normal 2) * q.normal 2 + p.normal 2 * (verticalOf q - q.normal 2) := by
    simp only [dot, usedNormal, Matrix.cons_val_zero, Matrix.cons_val_one, Matrix.cons_val]
    ring
  have hsmall {x y : K} (hx : -(1 / 10 ^ 9) ≤ x ∧ x ≤ 1 / 10 ^ 9) (hy : -1 ≤ y ∧ y ≤ 1) :
      |x * y| ≤ 1 / 10 ^ 9 := by
    rw [abs_mul]
    calc |x| * |y| ≤ 1 / 10 ^ 9 * 1 :=
          mul_le_mul (abs_le.mpr hx) (abs_le.mpr hy) (abs_nonneg y) (by positivity)
      _ = 1 / 10 ^ 9 := mul_one _
  have h₁ := abs_le.mp (hsmall hnear (y := verticalOf q - q.normal 2)
    ⟨by linarith [hnear'.1], by linarith [hnear'.2]⟩)
  have h₂ := abs_le.mp (hsmall hnear hvertical')
  have h₃ := abs_le.mp (hsmall hnear' hvertical)
  rw [hdifference, abs_le]
  constructor <;> linarith

/-- Where the normals of two planes are not nearly parallel, the difference of their elevations
has a gradient. -/
theorem gradient_le {p q : MergedPlane K} (hp : dot p.normal p.normal = 1)
    (hq : dot q.normal q.normal = 1)
    (hangle : dot p.normal q.normal * dot p.normal q.normal ≤ 1 - 1 / 900) :
  1 / 6400 ≤ (elevationGap p q).1 * (elevationGap p q).1 +
    (elevationGap p q).2.1 * (elevationGap p q).2.1
  := by
  have hbound := dot_mul_dot_sub_le p q
  have hX := abs_le.mp (abs_dot_usedNormal_sub_le hp)
  have hY := abs_le.mp (abs_dot_usedNormal_sub_le hq)
  have hD := abs_le.mp (abs_dot_usedNormal_sub_dot_le hp hq)
  have hdot : |dot p.normal q.normal| ≤ 1 - 1 / 1800 := by
    apply abs_le_of_sq_le_sq _ (by norm_num)
    nlinarith
  have hdot' := abs_le.mp hdot
  have hDsquare : dot (usedNormal p) (usedNormal q) * dot (usedNormal p) (usedNormal q) ≤
      (1 - 1 / 1900) * (1 - 1 / 1900) := by
    apply abs_le_iff_mul_self_le.mp
    rw [abs_of_pos (by norm_num : (0 : K) < 1 - 1 / 1900), abs_le]
    constructor <;> linarith
  have hXY : (1 - 1 / 10 ^ 8) * (1 - 1 / 10 ^ 8) ≤
      dot (usedNormal p) (usedNormal p) * dot (usedNormal q) (usedNormal q) := by
    apply mul_le_mul <;> linarith
  have hvertical : verticalOf q * verticalOf q ≤ 3 / 2 := by
    have hnear := abs_le.mp (verticalOf_spec q).2
    have hunit := abs_le.mp (abs_vertical_le hq)
    nlinarith
  have hgradient : 0 ≤ (elevationGap p q).1 * (elevationGap p q).1 +
      (elevationGap p q).2.1 * (elevationGap p q).2.1 :=
    add_nonneg (mul_self_nonneg _) (mul_self_nonneg _)
  have hfactor : dot (usedNormal p) (usedNormal p) * (verticalOf q * verticalOf q) ≤ 2 := by
    calc dot (usedNormal p) (usedNormal p) * (verticalOf q * verticalOf q) ≤ 4 / 3 * (3 / 2) :=
          mul_le_mul (by linarith) hvertical (mul_self_nonneg _) (by norm_num)
      _ = 2 := by norm_num
  have hdouble := mul_le_mul_of_nonneg_right hfactor hgradient
  have hnumbers : (1 : K) / 3200 ≤
      (1 - 1 / 10 ^ 8) * (1 - 1 / 10 ^ 8) - (1 - 1 / 1900) * (1 - 1 / 1900) := by norm_num
  linarith

/-! ### Seams that are tested -/

/-- The points of a coverage that a seam is tested on. -/
def testedPoints (shapely : Shapely K) (coverage : Geometry K) : List (K × K) :=
  (coverage.polygons.filter fun p => !p.isEmpty).flatMap fun p =>
    p.exterior ++ [shapely.centroid (.polygon p)]

omit [IsStrictOrderedRing K] in
/-- A seam that crosses a coverage has tested points on both sides, up to the tolerance. -/
theorem exists_of_seamCrossesCoverage {shapely : Shapely K} {a b : CandidateFacet K}
    {coverage : Geometry K} {toleranceM : K}
    (h : seamCrossesCoverage shapely a b coverage toleranceM = true) :
  (∃ xy ∈ testedPoints shapely coverage, value (elevationGap a.plane b.plane) xy ≤ toleranceM) ∧
    ∃ xy ∈ testedPoints shapely coverage,
      -toleranceM ≤ value (elevationGap a.plane b.plane) xy
  := by
  simp only [seamCrossesCoverage, ← List.map_flatMap, Bool.and_eq_true, List.any_eq_true,
    decide_eq_true_eq, List.mem_map] at h
  obtain ⟨⟨_, ⟨xy, hxy, rfl⟩, hle⟩, _, ⟨xy', hxy', rfl⟩, hge⟩ := h
  exact ⟨⟨xy, hxy, hle⟩, xy', hxy', hge⟩

/-- The difference of a linear form between two points of a box. -/
theorem value_sub_le (hform : ExactHypot np form.1 form.2.1)
    (hdiagonal : ExactHypot np ((upperCorner bbox).1 - (lowerCorner bbox).1)
      ((upperCorner bbox).2 - (lowerCorner bbox).2))
    {p q : K × K} (hp : p ∈ Set.Icc (lowerCorner bbox) (upperCorner bbox))
    (hq : q ∈ Set.Icc (lowerCorner bbox) (upperCorner bbox)) :
  value form q - value form p ≤ steepness np form * diagonal np bbox
  := by
  obtain ⟨⟨hx, hy⟩, hx', hy'⟩ := hp
  obtain ⟨⟨kx, ky⟩, kx', ky'⟩ := hq
  have hproduct : 0 ≤ steepness np form * diagonal np bbox :=
    mul_nonneg hform.nonneg hdiagonal.nonneg
  apply le_of_sq_le_sq _ hproduct
  have hcauchy : (value form q - value form p) ^ 2 ≤
      (form.1 * form.1 + form.2.1 * form.2.1) * ((q.1 - p.1) ^ 2 + (q.2 - p.2) ^ 2) := by
    simp only [value]
    nlinarith [sq_nonneg (form.1 * (q.2 - p.2) - form.2.1 * (q.1 - p.1))]
  have hwidth : (q.1 - p.1) ^ 2 ≤ ((upperCorner bbox).1 - (lowerCorner bbox).1) ^ 2 := by
    apply sq_le_sq'  <;> linarith
  have hheight : (q.2 - p.2) ^ 2 ≤ ((upperCorner bbox).2 - (lowerCorner bbox).2) ^ 2 := by
    apply sq_le_sq' <;> linarith
  have hlength : (q.1 - p.1) ^ 2 + (q.2 - p.2) ^ 2 ≤ diagonal np bbox * diagonal np bbox := by
    rw [diagonal, hdiagonal.mul_self]
    linarith
  calc (value form q - value form p) ^ 2
      ≤ (steepness np form * steepness np form) * ((q.1 - p.1) ^ 2 + (q.2 - p.2) ^ 2) := by
        rw [steepness, hform.mul_self]
        exact hcauchy
    _ ≤ (steepness np form * steepness np form) * (diagonal np bbox * diagonal np bbox) :=
        mul_le_mul_of_nonneg_left hlength (mul_self_nonneg _)
    _ = (steepness np form * diagonal np bbox) ^ 2 := by ring

/-- A point of the box near the seam, or beyond it, has the corners within reach. -/
theorem withinReach_of_near (hsteep : 1 / 80 ≤ steepness np form)
    (hform : ExactHypot np form.1 form.2.1)
    (hdiagonal : ExactHypot np ((upperCorner bbox).1 - (lowerCorner bbox).1)
      ((upperCorner bbox).2 - (lowerCorner bbox).2))
    (hbox : lowerCorner bbox ≤ upperCorner bbox)
    {p : K × K} (hp : p ∈ Set.Icc (lowerCorner bbox) (upperCorner bbox))
    (hnear : value form p ≤ 1 / 4) :
  WithinReach np form bbox
  := by
  intro q hq
  have hdifference := value_sub_le hform hdiagonal hp (corner_mem hbox hq)
  have hlong : 0 ≤ diagonal np bbox := hdiagonal.nonneg
  rw [reach]
  nlinarith [mul_nonneg hform.nonneg hlong]

/-! ### Real arithmetic -/

/-- The functions of numpy, on the real numbers. -/
noncomputable def realNumpy : Numpy ℝ where
  sqrt := Real.sqrt
  arccos := Real.arccos
  tan := Real.tan
  degrees x := x * 180 / Real.pi

theorem exactHypot_real (x y : ℝ) :
  ExactHypot realNumpy x y
  where
  nonneg := Real.sqrt_nonneg _
  mul_self := Real.mul_self_sqrt (add_nonneg (mul_self_nonneg x) (mul_self_nonneg y))

/-- The normals of planes that are not nearly parallel. -/
theorem dot_mul_self_le {p q : MergedPlane ℝ}
    (hangle : parallelPartitionAngleDeg ≤ planeAngle realNumpy p q) :
  dot p.normal q.normal * dot p.normal q.normal ≤ 1 - 1 / 900
  := by
  have hpi := Real.pi_pos
  obtain ⟨x, hx⟩ : ∃ x, x = clip01 |dot p.normal q.normal| := ⟨_, rfl⟩
  have hunit : 0 ≤ x ∧ x ≤ 1 := by
    rw [hx, clip01]
    exact ⟨le_min (le_max_right _ _) zero_le_one, min_le_right _ _⟩
  have hdegrees : Real.pi / 60 ≤ Real.arccos x := by
    have hthree : (3 : ℝ) ≤ Real.arccos x * 180 / Real.pi := by
      rw [hx]
      exact hangle
    rw [le_div_iff₀ hpi] at hthree
    linarith
  have hcos : x ≤ Real.cos (Real.pi / 60) := by
    rw [← Real.cos_arccos (by linarith) hunit.2]
    exact Real.cos_le_cos_of_nonneg_of_le_pi (by positivity) (Real.arccos_le_pi x) hdegrees
  have hsin : 1 / 30 ≤ Real.sin (Real.pi / 60) := by
    have hle := Real.mul_le_sin (x := Real.pi / 60) (by positivity) (by linarith)
    have hscale : 2 / Real.pi * (Real.pi / 60) = 1 / 30 := by
      field_simp
      norm_num
    linarith
  have hx2 : x * x ≤ 1 - 1 / 900 := by
    have hcircle := Real.sin_sq_add_cos_sq (Real.pi / 60)
    nlinarith
  have hsame : |dot p.normal q.normal| = x := by
    have hlt : x < 1 := by nlinarith
    rw [hx, clip01] at hlt ⊢
    rw [max_eq_left (abs_nonneg _)] at hlt ⊢
    rw [min_eq_left]
    exact (min_lt_iff.mp hlt).elim le_of_lt fun h => absurd h (lt_irrefl _)
  rw [← abs_mul_abs_self, hsame]
  exact hx2

/-! ### The cuts of a model -/

section Cuts

variable (np) (shapely : Shapely K) (candidates : List (CandidateFacet K)) (points : List (Vec3 K))
  (outline : PlanPolygon K) (i : ℕ) (candidate : CandidateFacet K)

/-- The candidates of its cluster that a candidate is partitioned against. -/
def neighborsOf : List (CandidateFacet K) :=
  let cluster := clusterOf shapely (candidates.map (·.support)) partitionNeighborBufferM i
  (cluster.filter (· ≠ i)).filterMap fun j =>
    candidates[j]?.filter fun other =>
      shouldPartitionAgainst np shapely candidate other partitionNeighborBufferM

/-- The coverage that the cell of a candidate is cut from. -/
def coverageOf : Geometry K :=
  roofMassEnvelope shapely (candidate :: neighborsOf np shapely candidates i candidate) points
    outline

/-- The box that its half-planes are made for. -/
def boundsOf : K × K × K × K :=
  let coverage := coverageOf np shapely candidates points outline i candidate
  shapely.bounds (if coverage.isEmpty then .polygon outline else coverage)

/-- The difference of the elevations of two planes, turned so that it is not negative at the
anchor. -/
def anchoredGap (plane other : MergedPlane K) (anchorXy : K × K) : K × K × K :=
  let gap := elevationGap plane other
  if value gap anchorXy < 0 then (-gap.1, -gap.2.1, -gap.2.2) else gap

omit [IsStrictOrderedRing K] in
theorem cellFor_eq :
  cellFor np shapely candidates points outline i candidate =
    largestPolygon (mended shapely (shapely.intersection
      (.polygon (partitionCell np shapely candidate.plane
        ((neighborsOf np shapely candidates i candidate).map (·.plane))
        (coverageOf np shapely candidates points outline i candidate)
        (boundsOf np shapely candidates points outline i candidate) candidate.anchorXy))
      (.polygon outline)))
  := rfl

omit [IsStrictOrderedRing K] in
theorem halfplanePolygon_anchoredGap (plane other : MergedPlane K) (anchorXy : K × K)
    (bbox : K × K × K × K) :
  halfplanePolygon np (anchoredGap plane other anchorXy).1 (anchoredGap plane other anchorXy).2.1
      (anchoredGap plane other anchorXy).2.2 bbox =
    if value (elevationGap plane other) anchorXy < 0 then
      halfplanePolygon np (-(elevationGap plane other).1) (-(elevationGap plane other).2.1)
        (-(elevationGap plane other).2.2) bbox
    else
      halfplanePolygon np (elevationGap plane other).1 (elevationGap plane other).2.1
        (elevationGap plane other).2.2 bbox
  := by
  rw [anchoredGap]
  split_ifs <;> rfl

omit [IsStrictOrderedRing K] in
/-- A cell is cut with the half-plane on the side of its anchor. -/
theorem cutCell_cons (plane other : MergedPlane K) (others : List (MergedPlane K))
    (bbox : K × K × K × K) (anchorXy : K × K) (cell : Geometry K) :
  cutCell np shapely plane bbox anchorXy cell (other :: others) =
    let form := anchoredGap plane other anchorXy
    if |value (elevationGap plane other) anchorXy| < 1 / 10 ^ 9 then
      cutCell np shapely plane bbox anchorXy cell others
    else
      let cut := shapely.intersection cell
        (.polygon (halfplanePolygon np form.1 form.2.1 form.2.2 bbox))
      if cut.isEmpty then cut else cutCell np shapely plane bbox anchorXy cut others
  := by
  simp only [halfplanePolygon_anchoredGap]
  rfl

variable {np shapely candidates i candidate}

omit [IsStrictOrderedRing K] in
theorem shouldPartitionAgainst_of_mem {other : CandidateFacet K}
    (h : other ∈ neighborsOf np shapely candidates i candidate) :
  other ∈ candidates ∧
    shouldPartitionAgainst np shapely candidate other partitionNeighborBufferM = true
  := by
  obtain ⟨j, -, hj⟩ := List.mem_filterMap.mp h
  obtain ⟨hother, hpartition⟩ := Option.filter_eq_some_iff.mp hj
  exact ⟨List.mem_of_getElem? hother, hpartition⟩

omit [IsStrictOrderedRing K] in
/-- What is partitioned is not nearly parallel, and its seam crosses the coverage of both. -/
theorem spec_of_shouldPartitionAgainst {a b : CandidateFacet K} {bufferM : K}
    (h : shouldPartitionAgainst np shapely a b bufferM = true) :
  parallelPartitionAngleDeg ≤ planeAngle np a.plane b.plane ∧
    seamCrossesCoverage shapely a b (partitionCoverage shapely [a.support, b.support])
      seamElevationToleranceM = true
  := by
  unfold shouldPartitionAgainst at h
  split_ifs at h with hsame hfar hparallel hgap
  exact ⟨not_lt.mp hparallel, h⟩

end Cuts

omit [IsStrictOrderedRing K] in
theorem anchoredGap_cases (plane other : MergedPlane K) (anchorXy : K × K) :
  anchoredGap plane other anchorXy = elevationGap plane other ∨
    ∀ p, value (anchoredGap plane other anchorXy) p = -value (elevationGap plane other) p
  := by
  rw [anchoredGap]
  split_ifs
  · right
    intro p
    simp only [value]
    ring
  · exact .inl rfl

omit [IsStrictOrderedRing K] in
theorem gradient_anchoredGap (plane other : MergedPlane K) (anchorXy : K × K) :
  (anchoredGap plane other anchorXy).1 * (anchoredGap plane other anchorXy).1 +
      (anchoredGap plane other anchorXy).2.1 * (anchoredGap plane other anchorXy).2.1 =
    (elevationGap plane other).1 * (elevationGap plane other).1 +
      (elevationGap plane other).2.1 * (elevationGap plane other).2.1
  := by
  rw [anchoredGap]
  split_ifs
  · ring
  · rfl

/-- The gradient at a seam is not small. -/
theorem le_steepness {a b : CandidateFacet ℝ} (ha : dot a.plane.normal a.plane.normal = 1)
    (hb : dot b.plane.normal b.plane.normal = 1)
    (hangle : parallelPartitionAngleDeg ≤ planeAngle realNumpy a.plane b.plane) :
  1 / 80 ≤ steepness realNumpy (anchoredGap a.plane b.plane a.anchorXy)
  := by
  have hgradient := gradient_le ha hb (dot_mul_self_le hangle)
  rw [← gradient_anchoredGap a.plane b.plane a.anchorXy,
    ← (exactHypot_real _ _).mul_self] at hgradient
  have hnonneg := (exactHypot_real (anchoredGap a.plane b.plane a.anchorXy).1
    (anchoredGap a.plane b.plane a.anchorXy).2.1).nonneg
  rw [steepness]
  nlinarith

/-- The cut of a cell along a seam is exact on the box of its coverage exactly when no corner of
the box is more than twice the reach ahead of the seam, which is so when the box has the points
that the seam was tested on. -/
theorem cut_exact_iff (shapely : Shapely ℝ) (candidates : List (CandidateFacet ℝ))
    (hunit : ∀ c ∈ candidates, dot c.plane.normal c.plane.normal = 1)
    (points : List (Vec3 ℝ)) (outline : PlanPolygon ℝ) (houtline : outline.isEmpty = false)
    (hbounds : ∀ g : Geometry ℝ, g.isEmpty = false →
      lowerCorner (shapely.bounds g) ≤ upperCorner (shapely.bounds g))
    (i : ℕ) (a b : CandidateFacet ℝ) (ha : candidates[i]? = some a)
    (hb : b ∈ neighborsOf realNumpy shapely candidates i a) :
  let form := anchoredGap a.plane b.plane a.anchorXy
  let bbox := boundsOf realNumpy shapely candidates points outline i a
  (CutExact realNumpy form bbox ↔ WithinReach realNumpy form bbox) ∧
    ((∀ xy ∈ testedPoints shapely (partitionCoverage shapely [a.support, b.support]),
        xy ∈ Set.Icc (lowerCorner bbox) (upperCorner bbox)) →
      WithinReach realNumpy form bbox)
  := by
  intro form bbox
  obtain ⟨hmem, hpartition⟩ := shouldPartitionAgainst_of_mem hb
  obtain ⟨hangle, hcrosses⟩ := spec_of_shouldPartitionAgainst hpartition
  have hsteep : 1 / 80 ≤ steepness realNumpy form :=
    le_steepness (hunit a (List.mem_of_getElem? ha)) (hunit b hmem) hangle
  have hbox : lowerCorner bbox ≤ upperCorner bbox := by
    apply hbounds
    split_ifs with hempty
    · simpa only [Geometry.isEmpty, Geometry.polygons, List.all_cons, List.all_nil,
        Bool.and_true] using houtline
    · exact Bool.not_eq_true _ ▸ hempty
  constructor
  · apply cutExact_iff _ (exactHypot_real _ _) (exactHypot_real _ _) hbox
    exact le_trans (by norm_num) hsteep
  · intro htested
    obtain ⟨⟨xy, hxy, hbelow⟩, xy', hxy', habove⟩ := exists_of_seamCrossesCoverage hcrosses
    rw [seamElevationToleranceM] at hbelow habove
    rcases anchoredGap_cases a.plane b.plane a.anchorXy with hsame | hturned
    · apply withinReach_of_near hsteep (exactHypot_real _ _) (exactHypot_real _ _) hbox
        (htested xy hxy)
      rw [show form = elevationGap a.plane b.plane from hsame]
      linarith
    · apply withinReach_of_near hsteep (exactHypot_real _ _) (exactHypot_real _ _) hbox
        (htested xy' hxy')
      rw [show value form xy' = _ from hturned xy']
      linarith

/-! ### A gable -/

/-- A plane that rises northwards from the line `y = 3`. -/
noncomputable def risingPlane : MergedPlane ℝ where
  normal := ![0, -3 / 5, 4 / 5]
  d := 9 / 5
  inlierIndices := []
  inlierRatio := 1
  residualStd := 0
  centroid := ![4, 9 / 2, 9 / 8]
  mergedFrom := [0]

/-- A flat plane. -/
noncomputable def levelPlane : MergedPlane ℝ where
  normal := ![0, 0, 1]
  d := 0
  inlierIndices := []
  inlierRatio := 1
  residualStd := 0
  centroid := ![4, 3 / 2, 0]
  mergedFrom := [1]

noncomputable def northSide : CandidateFacet ℝ where
  planeIndex := 0
  plane := risingPlane
  inlierPts := [![0, 3, 0], ![8, 3, 0], ![4, 6, 9 / 4]]
  support := boxOf 0 3 8 6
  confidence := 1
  density := 1 / 8
  anchorXy := (4, 4)

noncomputable def southSide : CandidateFacet ℝ where
  planeIndex := 1
  plane := levelPlane
  inlierPts := [![0, 0, 0], ![8, 0, 0], ![4, 3, 0]]
  support := boxOf 0 0 8 3
  confidence := 1
  density := 1 / 8
  anchorXy := (4, 1)

/-- The operations on the supports of the two sides, which meet in the line `y = 3`. -/
noncomputable def twoSides : Shapely ℝ where
  isValid _ := true
  buffer g _ := g
  pointBuffer _ _ := .other
  unaryUnion _ := .polygon (boxOf 0 0 8 6)
  intersection g _ := g
  intersects _ _ := true
  covers _ _ := true
  distance _ _ := 0
  pointsHull _ := .other
  convexHull g := g
  minimumRotatedRectangle g := g
  centroid _ := (4, 3)
  nearestPoints _ _ := ((0, 3), (0, 3))
  bounds _ := (0, 0, 8, 6)
  sharedLength _ _ := 8
  toUtm _ p := p
  toWgs84 _ p := p

theorem not_parallel_sides :
  ¬ planeAngle realNumpy northSide.plane southSide.plane < parallelPartitionAngleDeg
  := by
  have hpi := Real.pi_pos
  have hdot : dot northSide.plane.normal southSide.plane.normal = 4 / 5 := by
    simp [dot, northSide, southSide, risingPlane, levelPlane]
  have hcos : (4 : ℝ) / 5 ≤ Real.cos (Real.pi / 60) := by
    have hbelow := Real.one_sub_sq_div_two_le_cos (x := Real.pi / 60)
    have hfour := Real.pi_le_four
    nlinarith
  have hle : Real.pi / 60 ≤ Real.arccos (4 / 5) := by
    rw [← Real.arccos_cos (x := Real.pi / 60) (by positivity) (by linarith)]
    exact Real.arccos_le_arccos hcos
  rw [not_lt, planeAngle, angleBetweenNormals, hdot]
  change (3 : ℝ) ≤ Real.arccos (clip01 |(4 : ℝ) / 5|) * 180 / Real.pi
  rw [le_div_iff₀ hpi, clip01, abs_of_pos (by norm_num), max_eq_left (by norm_num),
    min_eq_left (by norm_num)]
  linarith

theorem sides_partitioned :
  shouldPartitionAgainst realNumpy twoSides northSide southSide partitionNeighborBufferM = true
  := by
  have hgap : nearestSupportElevationGap twoSides northSide southSide = some 0 := by
    simp [nearestSupportElevationGap, northSide, southSide, twoSides, PlanPolygon.isEmpty, boxOf,
      elevation, planeZCoeffs, risingPlane, levelPlane]
    norm_num
  have hcrosses : seamCrossesCoverage twoSides northSide southSide
      (partitionCoverage twoSides [northSide.support, southSide.support])
        seamElevationToleranceM = true := by
    simp [seamCrossesCoverage, partitionCoverage, twoSides, Geometry.polygons,
      PlanPolygon.isEmpty, boxOf, elevationGap, planeZCoeffs, northSide, southSide, risingPlane,
      levelPlane, seamElevationToleranceM]
    norm_num
  rw [shouldPartitionAgainst, if_neg (by decide), if_neg, if_neg not_parallel_sides, if_neg,
    hcrosses]
  · rintro ⟨hfar, -⟩
    rw [hgap, Option.any_some, decide_eq_true_eq, maxPartitionAnchorElevationGapM] at hfar
    exact absurd hfar (by norm_num)
  · simp [twoSides, partitionNeighborBufferM]

/-- Two supports that are near each other are a cluster. -/
theorem clusterOf_pair {K : Type} [Field K] [LinearOrder K] {shapely : Shapely K}
    {p q : PlanPolygon K} {bufferM : K}
    (h : shapely.distance (.polygon p) (.polygon q) ≤ bufferM) {i : ℕ} (hi : i < 2) :
  clusterOf shapely [p, q] bufferM i = [0, 1]
  := by
  have hpairs : (laterPairs [p, q].length).filter (fun pair =>
      decide (Near shapely [p, q] bufferM pair.1 pair.2)) = [((0 : Fin 2), (1 : Fin 2))] :=
    List.filter_cons_of_pos (decide_eq_true h)
  have hclusters : supportClusters shapely [p, q] bufferM [p, q].length
      = some [[(0 : Fin 2), (1 : Fin 2)]] := by
    rw [supportClusters, hpairs]
    rfl
  rw [clusterOf, hclusters]
  obtain rfl | rfl : i = 0 ∨ i = 1 := by omega
  · rfl
  · rfl

theorem mem_neighborsOf_northSide :
  southSide ∈ neighborsOf realNumpy twoSides [northSide, southSide] 0 northSide
  := by
  have hnear : twoSides.distance (.polygon northSide.support) (.polygon southSide.support)
      ≤ partitionNeighborBufferM := by
    simp [twoSides, partitionNeighborBufferM]
  have hcluster : 1 ∈ clusterOf twoSides ([northSide, southSide].map (·.support))
      partitionNeighborBufferM 0 := by
    rw [List.map_cons, List.map_singleton, clusterOf_pair hnear (by decide)]
    decide
  rw [neighborsOf, List.mem_filterMap]
  refine ⟨1, List.mem_filter.mpr ⟨hcluster, rfl⟩, ?_⟩
  exact Option.filter_eq_some_iff.mpr ⟨rfl, sides_partitioned⟩

/-- The cut of a gable is exact on the box of its two sides. -/
theorem cut_exact_gable :
  CutExact realNumpy (anchoredGap risingPlane levelPlane (4, 4)) (0, 0, 8, 6)
  := by
  have hunit : ∀ c ∈ [northSide, southSide], dot c.plane.normal c.plane.normal = 1 := by
    simp [dot, northSide, southSide, risingPlane, levelPlane]
    norm_num
  have hcut := cut_exact_iff twoSides [northSide, southSide] hunit [] (boxOf 0 0 8 6) rfl
    (fun _ _ => by simp [lowerCorner, upperCorner, twoSides]) 0 northSide southSide rfl
    mem_neighborsOf_northSide
  apply hcut.1.mpr
  apply hcut.2
  simp [testedPoints, partitionCoverage, twoSides, Geometry.polygons, PlanPolygon.isEmpty, boxOf,
    boundsOf, lowerCorner, upperCorner]
  norm_num

/-! ### A long roof -/

/-- The candidates of `build_roof_model`. -/
def candidatesOf {K : Type} [Field K] [LinearOrder K] (shapely : Shapely K)
    (outline : PlanPolygon K) (points : List (Vec3 K)) (planes : List (MergedPlane K)) :
    Except Exception (List (CandidateFacet K)) := do
  let made ← planes.zipIdx.mapM fun (plane, i) => planeCandidates shapely outline points i plane
  return made.flatMap (·.1)

/-- Every cut that is made is exact on the box of its coverage. -/
def CutsExact {K : Type} [Field K] [LinearOrder K] [IsStrictOrderedRing K] (np : Numpy K)
    (shapely : Shapely K) (candidates : List (CandidateFacet K)) (points : List (Vec3 K))
    (outline : PlanPolygon K) : Prop :=
  ∀ i a b, candidates[i]? = some a → b ∈ neighborsOf np shapely candidates i a →
    1 / 10 ^ 9 ≤ |value (elevationGap a.plane b.plane) a.anchorXy| →
      CutExact np (anchoredGap a.plane b.plane a.anchorXy)
        (boundsOf np shapely candidates points outline i a)

/-- The least and the greatest coordinates of points. -/
def extent : List (ℚ × ℚ) → (ℚ × ℚ) × (ℚ × ℚ)
  | [] => ((0, 0), (0, 0))
  | p :: ps => ps.foldl (fun e q => (e.1 ⊓ q, e.2 ⊔ q)) (p, p)

/-- The extent of a geometry. -/
def extentOf (g : Geometry ℚ) : (ℚ × ℚ) × (ℚ × ℚ) := extent (g.polygons.flatMap (·.exterior))

def boxBetween (lo hi : ℚ × ℚ) : PlanPolygon ℚ := boxOf lo.1 lo.2 hi.1 hi.2

/-- Whether two extents meet. -/
def meet (e f : (ℚ × ℚ) × (ℚ × ℚ)) : Bool :=
  (e.1 ⊔ f.1).1 ≤ (e.2 ⊓ f.2).1 && (e.1 ⊔ f.1).2 ≤ (e.2 ⊓ f.2).2

/-- A polygon, joined with those of a list that it meets. -/
def join (ps : List (PlanPolygon ℚ)) (p : PlanPolygon ℚ) : List (PlanPolygon ℚ) :=
  let (near, apart) := ps.partition fun q => meet (extent p.exterior) (extent q.exterior)
  let e := extent ((p :: near).flatMap (·.exterior))
  boxBetween e.1 e.2 :: apart

/-- The operations on boxes with parallel sides, of which a union is again a box. -/
def boxes : Shapely ℚ where
  isValid _ := true
  buffer g r := .multiPolygon (g.polygons.map fun p =>
    let e := extent p.exterior
    boxBetween (e.1 - (r, r)) (e.2 + (r, r)))
  pointBuffer p r := .polygon (boxBetween (p - (r, r)) (p + (r, r)))
  unaryUnion gs :=
    match (gs.flatMap (·.polygons)).foldl join [] with
    | [p] => .polygon p
    | ps => .multiPolygon ps
  intersection g h :=
    let e := extentOf g
    let f := extentOf h
    if meet e f then .polygon (boxBetween (e.1 ⊔ f.1) (e.2 ⊓ f.2)) else .polygon .empty
  intersects g h := meet (extentOf g) (extentOf h)
  covers g p := g.polygons.any fun q => meet (extent q.exterior) (p, p)
  distance g h :=
    let e := extentOf g
    let f := extentOf h
    0 ⊔ ((e.1 ⊔ f.1).1 - (e.2 ⊓ f.2).1) ⊔ ((e.1 ⊔ f.1).2 - (e.2 ⊓ f.2).2)
  pointsHull ps := .polygon ⟨ps ++ ps.take 1, []⟩
  convexHull g := g
  minimumRotatedRectangle g := .polygon (boxBetween (extentOf g).1 (extentOf g).2)
  centroid g := (((extentOf g).1.1 + (extentOf g).2.1) / 2, ((extentOf g).1.2 + (extentOf g).2.2) / 2)
  nearestPoints g h :=
    let p := (extentOf g).1 ⊔ (extentOf h).1
    (p ⊓ (extentOf g).2, p ⊓ (extentOf h).2)
  bounds g := ((extentOf g).1.1, (extentOf g).1.2, (extentOf g).2.1, (extentOf g).2.2)
  sharedLength _ _ := 0
  toUtm _ p := p
  toWgs84 _ p := p

/-- The functions of numpy, at the numbers of the long roof. -/
def longNumpy : Numpy ℚ where
  sqrt x := if x = 100 then 10 else 7 / 24
  arccos _ := 2838 / 10000
  tan _ := 7 / 24
  degrees x := x * 573 / 10

def longOutline : PlanPolygon ℚ := boxOf 499990 (-20) 500140 20

/-- Few points along a roof, and the points of its eastern end. -/
def longPoints : List (Vec3 ℚ) :=
  [![500000, 0, 0], ![500120, 0, 35], ![500060, 1 / 8, 35 / 2],
   ![500000, 1 / 4, 0], ![500120, 1 / 4, 0], ![500040, 1 / 8, 0]] ++
  ((List.range 8).map fun k => ![500112 + (k : ℚ), 0, 3 / 10]) ++
  ((List.range 6).map fun k => ![500112, 1 + (k : ℚ), 3 / 10]) ++
  [![500113, 6, 3 / 10], ![500114, 6, 3 / 10]]

/-- A plane that rises eastwards from the line `x = 500000`. -/
def eastwards : MergedPlane ℚ where
  normal := ![-7 / 25, 0, 24 / 25]
  d := 140000
  inlierIndices := [0, 1, 2]
  inlierRatio := 1
  residualStd := 0
  centroid := ![500060, 1 / 24, 35 / 2]
  mergedFrom := [0]

/-- A flat plane beside it. -/
def beside : MergedPlane ℚ where
  normal := ![0, 0, 1]
  d := 0
  inlierIndices := [3, 4, 5]
  inlierRatio := 1
  residualStd := 0
  centroid := ![500160 / 3, 5 / 24, 0]
  mergedFrom := [1]

/-- The first cut of a model: the seam, its distance in elevation at the anchor, and the box. -/
def firstCut (candidates : List (CandidateFacet ℚ)) :
    Option ((ℚ × ℚ × ℚ) × ℚ × (ℚ × ℚ × ℚ × ℚ)) := do
  let a ← candidates[0]?
  let b ← (neighborsOf longNumpy boxes candidates 0 a)[0]?
  return (anchoredGap a.plane b.plane a.anchorXy, value (elevationGap a.plane b.plane) a.anchorXy,
    boundsOf longNumpy boxes candidates longPoints longOutline 0 a)

theorem firstCut_eq_some {candidates : List (CandidateFacet ℚ)}
    {cut : (ℚ × ℚ × ℚ) × ℚ × (ℚ × ℚ × ℚ × ℚ)} (h : firstCut candidates = some cut) :
  ∃ a b, candidates[0]? = some a ∧ b ∈ neighborsOf longNumpy boxes candidates 0 a ∧
    (anchoredGap a.plane b.plane a.anchorXy, value (elevationGap a.plane b.plane) a.anchorXy,
      boundsOf longNumpy boxes candidates longPoints longOutline 0 a) = cut
  := by
  obtain ⟨a, ha, h⟩ := Option.bind_eq_some_iff.mp h
  obtain ⟨b, hb, h⟩ := Option.bind_eq_some_iff.mp h
  exact ⟨a, b, ha, List.mem_of_getElem? hb, Option.some.inj h⟩

/-- The eastern end of the long roof is more than a hundred metres ahead of the seam at its western
end, and is cut off from the side that it is on. -/
theorem not_cuts_exact_long :
  ∃ candidates, candidatesOf boxes longOutline longPoints [eastwards, beside] = .ok candidates ∧
    ¬ CutsExact longNumpy boxes candidates longPoints longOutline
  := by
  have hrun : (candidatesOf boxes longOutline longPoints [eastwards, beside]).toOption.bind
      firstCut =
        some ((7 / 24, 0, -437500 / 3), 35 / 2, 500112, 0, 500120, 6) := by
    decide +kernel
  cases hcandidates : candidatesOf boxes longOutline longPoints [eastwards, beside] with
  | error e =>
      rw [hcandidates] at hrun
      cases hrun
  | ok candidates =>
      rw [hcandidates] at hrun
      obtain ⟨a, b, ha, hb, hcut⟩ := firstCut_eq_some hrun
      obtain ⟨hform, hrest⟩ := Prod.mk.inj hcut
      obtain ⟨hside, hbox⟩ := Prod.mk.inj hrest
      use candidates, rfl
      intro hexact
      have hcutExact := hexact 0 a b ha hb (by rw [hside]; norm_num)
      rw [hform, hbox, cutExact_iff] at hcutExact
      · have hcorner := hcutExact (500120, 0) (by decide +kernel)
        exact absurd hcorner (by decide +kernel)
      · decide +kernel
      · constructor <;> decide +kernel
      · constructor <;> decide +kernel
      · decide +kernel

end RoofModel

end Sidecar
