import RoofTrace.Numbers.Literals
import Mathlib.Analysis.Convex.Hull
import Mathlib.Order.CompletePartialOrder
import Mathlib.Tactic.FieldSimp
import Mathlib.Tactic.LinearCombination
import Mathlib.Tactic.Linarith
import Mathlib.Tactic.Positivity
import Mathlib.Topology.Instances.Real.Lemmas

/-!
# Half-planes and rectangles

A linear form is at least zero on a half-plane. A rectangle that lies ahead of its boundary line
is within the half-plane, and agrees with it on a box exactly when it reaches as far as the
corners of the box.
-/

namespace Planar

variable {K : Type} [Field K] [LinearOrder K] [IsStrictOrderedRing K]

/-! ### Linear forms -/

/-- The value of the linear form `alpha * x + beta * y + gamma`. -/
def value (form : K × K × K) (p : K × K) : K := form.1 * p.1 + form.2.1 * p.2 + form.2.2

/-- The closed half-plane on which a linear form is not negative. -/
def halfPlane (form : K × K × K) : Set (K × K) := {p | 0 ≤ value form p}

theorem value_combination (form : K × K × K) (p q : K × K) {a b : K} (hab : a + b = 1) :
  value form (a • p + b • q) = a * value form p + b * value form q
  := by
  simp only [value, Prod.fst_add, Prod.snd_add, Prod.smul_fst, Prod.smul_snd, smul_eq_mul]
  linear_combination -form.2.2 * hab

theorem convex_halfPlane (form : K × K × K) :
  Convex K (halfPlane form)
  := by
  intro p hp q hq a b ha hb hab
  change 0 ≤ value form (a • p + b • q)
  rw [value_combination form p q hab]
  exact add_nonneg (mul_nonneg ha hp) (mul_nonneg hb hq)

/-- The corners of the box between two points. -/
def boxCorners (lo hi : K × K) : List (K × K) := [lo, (hi.1, lo.2), (lo.1, hi.2), hi]

/-- A linear form is at most `m` on a box when it is so at the corners. -/
theorem value_le_of_corners {form : K × K × K} {lo hi : K × K} {m : K}
    (h : ∀ q ∈ boxCorners lo hi, value form q ≤ m) {p : K × K} (hp : p ∈ Set.Icc lo hi) :
  value form p ≤ m
  := by
  obtain ⟨⟨hx, hy⟩, hx', hy'⟩ := hp
  have h₁ := h lo (by simp [boxCorners])
  have h₂ := h (hi.1, lo.2) (by simp [boxCorners])
  have h₃ := h (lo.1, hi.2) (by simp [boxCorners])
  have h₄ := h hi (by simp [boxCorners])
  simp only [value] at h₁ h₂ h₃ h₄ ⊢
  rcases le_total 0 form.1 with hα | hα <;> rcases le_total 0 form.2.1 with hβ | hβ
  · nlinarith [mul_le_mul_of_nonneg_left hx' hα, mul_le_mul_of_nonneg_left hy' hβ]
  · nlinarith [mul_le_mul_of_nonneg_left hx' hα, mul_le_mul_of_nonpos_left hy hβ]
  · nlinarith [mul_le_mul_of_nonpos_left hx hα, mul_le_mul_of_nonneg_left hy' hβ]
  · nlinarith [mul_le_mul_of_nonpos_left hx hα, mul_le_mul_of_nonpos_left hy hβ]

omit [Field K] [IsStrictOrderedRing K] in
theorem corner_mem {lo hi : K × K} (h : lo ≤ hi) {q : K × K} (hq : q ∈ boxCorners lo hi) :
  q ∈ Set.Icc lo hi
  := by
  obtain ⟨hx, hy⟩ := h
  simp only [boxCorners, List.mem_cons, List.not_mem_nil, or_false] at hq
  rcases hq with rfl | rfl | rfl | rfl
  · exact ⟨le_refl _, hx, hy⟩
  · exact ⟨⟨hx, le_refl _⟩, le_refl _, hy⟩
  · exact ⟨⟨le_refl _, hy⟩, hx, le_refl _⟩
  · exact ⟨⟨hx, hy⟩, le_refl _⟩

/-! ### Rectangles -/

/-- The corners of the rectangle that extends by `r` to both sides of `foot` and by `2 * r` ahead
of it. -/
def ahead (foot n : K × K) (r : K) : List (K × K) :=
  let a := (foot.1 + -n.2 * r, foot.2 + n.1 * r)
  let b := (foot.1 - -n.2 * r, foot.2 - n.1 * r)
  [a, b, (b.1 + n.1 * 2 * r, b.2 + n.2 * 2 * r), (a.1 + n.1 * 2 * r, a.2 + n.2 * 2 * r)]

variable {foot n : K × K} {r : K}

/-- The distance ahead of the line through `foot`. -/
def depth (foot n p : K × K) : K := n.1 * (p.1 - foot.1) + n.2 * (p.2 - foot.2)

/-- The distance to the side of `foot`. -/
def offset (foot n p : K × K) : K := -n.2 * (p.1 - foot.1) + n.1 * (p.2 - foot.2)

/-- A rectangle has the points that are neither too far ahead nor too far to the sides. -/
theorem mem_convexHull_ahead (hn : n.1 * n.1 + n.2 * n.2 = 1) (hr : 0 < r) {p : K × K} :
  p ∈ convexHull K {q | q ∈ ahead foot n r} ↔
    |offset foot n p| ≤ r ∧ 0 ≤ depth foot n p ∧ depth foot n p ≤ 2 * r
  := by
  constructor
  · intro hp
    have hwithin : ∀ form : K × K × K, (∀ q ∈ ahead foot n r, 0 ≤ value form q) →
        0 ≤ value form p := by
      intro form hcorners
      exact convexHull_min (s := {q | q ∈ ahead foot n r}) (t := halfPlane form)
        (fun q hq => hcorners q hq) (convex_halfPlane form) hp
    have hcorner : ∀ form : K × K × K, (∀ s t : K, |s| ≤ r → 0 ≤ t → t ≤ 2 * r →
        0 ≤ value form (foot.1 + -n.2 * s + n.1 * t, foot.2 + n.1 * s + n.2 * t)) →
        0 ≤ value form p := by
      intro form hform
      apply hwithin
      have habs : |r| ≤ r := (abs_of_pos hr).le
      have habs' : |-r| ≤ r := by rwa [abs_neg]
      have h2 : (0 : K) ≤ 2 * r := by positivity
      intro q hq
      simp only [ahead, List.mem_cons, List.not_mem_nil, or_false] at hq
      rcases hq with rfl | rfl | rfl | rfl
      · convert hform r 0 habs (le_refl 0) h2 using 3 <;> ring
      · convert hform (-r) 0 habs' (le_refl 0) h2 using 3 <;> ring
      · convert hform (-r) (2 * r) habs' h2 (le_refl _) using 3 <;> ring
      · convert hform r (2 * r) habs h2 (le_refl _) using 3 <;> ring
    rw [abs_le]
    refine ⟨⟨?_, ?_⟩, ?_, ?_⟩
    · have h := hcorner (-n.2, n.1, r + n.2 * foot.1 - n.1 * foot.2) (by
        intro s t hs _ _
        simp only [value]
        nlinarith [(abs_le.mp hs).1])
      simp only [value] at h
      simp only [offset]
      linarith
    · have h := hcorner (n.2, -n.1, r - n.2 * foot.1 + n.1 * foot.2) (by
        intro s t hs _ _
        simp only [value]
        nlinarith [(abs_le.mp hs).2])
      simp only [value] at h
      simp only [offset]
      linarith
    · have h := hcorner (n.1, n.2, -n.1 * foot.1 - n.2 * foot.2) (by
        intro s t _ ht _
        simp only [value]
        nlinarith)
      simp only [value] at h
      simp only [depth]
      linarith
    · have h := hcorner (-n.1, -n.2, 2 * r + n.1 * foot.1 + n.2 * foot.2) (by
        intro s t _ _ ht
        simp only [value]
        nlinarith)
      simp only [value] at h
      simp only [depth]
      linarith
  · rintro ⟨hoffset, hdepth, hdepth'⟩
    rw [abs_le] at hoffset
    have hconvex := convex_convexHull K {q | q ∈ ahead foot n r}
    have hmem : ∀ q ∈ ahead foot n r, q ∈ convexHull K {q | q ∈ ahead foot n r} :=
      fun q hq => subset_convexHull K _ hq
    have hside : 0 ≤ (1 + offset foot n p / r) / 2 ∧ 0 ≤ (1 - offset foot n p / r) / 2 := by
      constructor
      · rw [← div_self hr.ne', ← add_div]
        exact div_nonneg (div_nonneg (by linarith) hr.le) zero_le_two
      · rw [← div_self hr.ne', ← sub_div]
        exact div_nonneg (div_nonneg (by linarith) hr.le) zero_le_two
    have hahead : 0 ≤ 1 - depth foot n p / (2 * r) ∧ 0 ≤ depth foot n p / (2 * r) := by
      have h2 : (0 : K) < 2 * r := by positivity
      constructor
      · rw [sub_nonneg, div_le_one h2]
        exact hdepth'
      · exact div_nonneg hdepth h2.le
    -- the points beside `p` on the near and on the far side of the rectangle
    have hnear := hconvex (hmem _ (List.mem_cons_self ..))
      (hmem _ (List.mem_cons_of_mem _ (List.mem_cons_self ..))) hside.1 hside.2 (by ring)
    have hfar := hconvex
      (hmem _ (List.mem_cons_of_mem _ (List.mem_cons_of_mem _ (List.mem_cons_of_mem _
        (List.mem_cons_self ..)))))
      (hmem _ (List.mem_cons_of_mem _ (List.mem_cons_of_mem _ (List.mem_cons_self ..))))
      hside.1 hside.2 (by ring)
    convert hconvex hnear hfar hahead.1 hahead.2 (by ring) using 1
    have hframe : p = (foot.1 + -n.2 * offset foot n p + n.1 * depth foot n p,
        foot.2 + n.1 * offset foot n p + n.2 * depth foot n p) := by
      simp only [offset, depth]
      ext
      · linear_combination -(p.1 - foot.1) * hn
      · linear_combination -(p.2 - foot.2) * hn
    conv_lhs => rw [hframe]
    have hr' := hr.ne'
    ext
    · simp only [Prod.fst_add, Prod.smul_fst, smul_eq_mul]
      field_simp
      ring
    · simp only [Prod.snd_add, Prod.smul_snd, smul_eq_mul]
      field_simp
      ring

/-! ### Half-planes on a box -/

variable {form : K × K × K} {norm : K} {lo hi : K × K}

/-- The middle of a box. -/
def centre (lo hi : K × K) : K × K := ((lo.1 + hi.1) / 2, (lo.2 + hi.2) / 2)

/-- The gradient of a linear form, divided by its length. -/
def unit (form : K × K × K) (norm : K) : K × K := (form.1 / norm, form.2.1 / norm)

/-- The foot of the perpendicular from `c` onto the line on which a linear form is zero. -/
def footFrom (form : K × K × K) (norm : K) (c : K × K) : K × K :=
  (c.1 - value form c / norm * (form.1 / norm), c.2 - value form c / norm * (form.2.1 / norm))

omit [IsStrictOrderedRing K] [LinearOrder K] in
theorem unit_mul_self (hnorm : norm ≠ 0)
    (hlength : norm * norm = form.1 * form.1 + form.2.1 * form.2.1) :
  (unit form norm).1 * (unit form norm).1 + (unit form norm).2 * (unit form norm).2 = 1
  := by
  simp only [unit]
  field_simp
  linear_combination -hlength

omit [IsStrictOrderedRing K] [LinearOrder K] in
theorem depth_footFrom (hnorm : norm ≠ 0)
    (hlength : norm * norm = form.1 * form.1 + form.2.1 * form.2.1) (c p : K × K) :
  depth (footFrom form norm c) (unit form norm) p = value form p / norm
  := by
  simp only [depth, footFrom, unit, value]
  field_simp
  linear_combination -(form.1 * c.1 + form.2.1 * c.2 + form.2.2) * hlength

omit [IsStrictOrderedRing K] [LinearOrder K] in
theorem offset_footFrom (c p : K × K) :
  offset (footFrom form norm c) (unit form norm) p = offset c (unit form norm) p
  := by
  simp only [offset, footFrom, unit]
  ring

/-- A point of a box is not farther to the side of its middle than the box is long. -/
theorem abs_offset_le (hn : n.1 * n.1 + n.2 * n.2 = 1) (hr : 0 < r)
    (hdiagonal : (hi.1 - lo.1) * (hi.1 - lo.1) + (hi.2 - lo.2) * (hi.2 - lo.2) ≤ 4 * (r * r))
    {p : K × K} (hp : p ∈ Set.Icc lo hi) :
  |offset (centre lo hi) n p| ≤ r
  := by
  obtain ⟨⟨hx, hy⟩, hx', hy'⟩ := hp
  apply abs_le_of_sq_le_sq _ hr.le
  have hcauchy : offset (centre lo hi) n p ^ 2 ≤
      (p.1 - (centre lo hi).1) ^ 2 + (p.2 - (centre lo hi).2) ^ 2 := by
    have hsquare := sq_nonneg (depth (centre lo hi) n p)
    have hsum : offset (centre lo hi) n p ^ 2 + depth (centre lo hi) n p ^ 2 =
        (p.1 - (centre lo hi).1) ^ 2 + (p.2 - (centre lo hi).2) ^ 2 := by
      simp only [offset, depth]
      linear_combination ((p.1 - (centre lo hi).1) ^ 2 + (p.2 - (centre lo hi).2) ^ 2) * hn
    linarith
  have hwidth : (p.1 - (centre lo hi).1) ^ 2 ≤ (hi.1 - lo.1) * (hi.1 - lo.1) / 4 := by
    simp only [centre]
    nlinarith [mul_nonneg (sub_nonneg.mpr hx) (sub_nonneg.mpr hx')]
  have hheight : (p.2 - (centre lo hi).2) ^ 2 ≤ (hi.2 - lo.2) * (hi.2 - lo.2) / 4 := by
    simp only [centre]
    nlinarith [mul_nonneg (sub_nonneg.mpr hy) (sub_nonneg.mpr hy')]
  nlinarith

/-- The points of the rectangle ahead of the line are on the half-plane. -/
theorem mem_halfPlane_of_mem_ahead (hnorm : 0 < norm) (hr : 0 < r)
    (hlength : norm * norm = form.1 * form.1 + form.2.1 * form.2.1) {c p : K × K}
    (hp : p ∈ convexHull K {q | q ∈ ahead (footFrom form norm c) (unit form norm) r}) :
  p ∈ halfPlane form
  := by
  obtain ⟨-, hdepth, -⟩ :=
    (mem_convexHull_ahead (unit_mul_self hnorm.ne' hlength) hr).mp hp
  rw [depth_footFrom hnorm.ne' hlength] at hdepth
  change 0 ≤ value form p
  rwa [le_div_iff₀ hnorm, zero_mul] at hdepth

/-- The rectangle ahead of the line agrees with the half-plane on a box exactly when no corner of
the box is farther ahead than the rectangle reaches. -/
theorem agrees_on_box_iff (hnorm : 0 < norm) (hr : 0 < r)
    (hlength : norm * norm = form.1 * form.1 + form.2.1 * form.2.1) (hbox : lo ≤ hi)
    (hdiagonal : (hi.1 - lo.1) * (hi.1 - lo.1) + (hi.2 - lo.2) * (hi.2 - lo.2) ≤ 4 * (r * r)) :
  (∀ p ∈ Set.Icc lo hi,
    p ∈ convexHull K {q | q ∈ ahead (footFrom form norm (centre lo hi)) (unit form norm) r} ↔
      p ∈ halfPlane form) ↔
    ∀ q ∈ boxCorners lo hi, value form q ≤ 2 * r * norm
  := by
  have hn := unit_mul_self hnorm.ne' hlength
  have hmem : ∀ p ∈ Set.Icc lo hi,
      (p ∈ convexHull K {q | q ∈ ahead (footFrom form norm (centre lo hi)) (unit form norm) r} ↔
        0 ≤ value form p ∧ value form p ≤ 2 * r * norm) := by
    intro p hp
    rw [mem_convexHull_ahead hn hr, offset_footFrom, depth_footFrom hnorm.ne' hlength,
      le_div_iff₀ hnorm, zero_mul, div_le_iff₀ hnorm]
    exact and_iff_right (abs_offset_le hn hr hdiagonal hp)
  constructor
  · intro hagrees q hq
    have hq' := corner_mem hbox hq
    rcases le_total 0 (value form q) with hpos | hneg
    · exact ((hmem q hq').mp ((hagrees q hq').mpr hpos)).2
    · exact hneg.trans (by positivity)
  · intro hcorners p hp
    rw [hmem p hp]
    exact and_iff_left (value_le_of_corners hcorners hp)

/-! ### Interiors -/

/-- Sets on opposite sides of a line have disjoint interiors. -/
theorem disjoint_interior {form : ℝ × ℝ × ℝ} {s t : Set (ℝ × ℝ)}
    (hgradient : 0 < form.1 * form.1 + form.2.1 * form.2.1) (hs : ∀ p ∈ s, 0 ≤ value form p)
    (ht : ∀ p ∈ t, value form p ≤ 0) :
  Disjoint (interior s) (interior t)
  := by
  rw [Set.disjoint_left]
  intro p hps hpt
  -- along the gradient the form leaves zero at once
  have hline : ∀ x : ℝ, value form (p + x • (form.1, form.2.1)) =
      value form p + x * (form.1 * form.1 + form.2.1 * form.2.1) := by
    intro x
    simp only [value, Prod.fst_add, Prod.snd_add, Prod.smul_mk, smul_eq_mul]
    ring
  have hcontinuous : Continuous fun x : ℝ => p + x • (form.1, form.2.1) := by fun_prop
  have hopen : IsOpen (Set.preimage (fun x : ℝ => p + x • (form.1, form.2.1))
      (interior s ∩ interior t)) :=
    (isOpen_interior.inter isOpen_interior).preimage hcontinuous
  have hzero : (0 : ℝ) ∈ Set.preimage (fun x : ℝ => p + x • (form.1, form.2.1))
      (interior s ∩ interior t) := by
    simp only [Set.mem_preimage, zero_smul, add_zero]
    exact ⟨hps, hpt⟩
  obtain ⟨ε, hε, hball⟩ := Metric.isOpen_iff.mp hopen 0 hzero
  have hhalf : ε / 2 ∈ Metric.ball (0 : ℝ) ε := by
    rw [Metric.mem_ball, Real.dist_eq, sub_zero, abs_of_pos (half_pos hε)]
    exact half_lt_self hε
  obtain ⟨hs', ht'⟩ := hball hhalf
  have hp := le_antisymm (ht p (interior_subset hpt)) (hs p (interior_subset hps))
  have hbeyond := ht _ (interior_subset ht')
  rw [hline, hp] at hbeyond
  have hpos := mul_pos (half_pos hε) hgradient
  linarith

end Planar
