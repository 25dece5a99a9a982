import RoofTrace.Rigid.Transform
import Mathlib.Algebra.Order.Field.Basic
import Mathlib.Tactic.Linarith

/-!
# Lines of sight

A surface hides a point from an origin when the segment between them meets the surface, nearer
to the origin by more than some slack. Whether it does is decided by the first point of the
surface on the ray. In the frame of a camera at the origin, the points of the segment are those
at the pixel of the point that are less deep.
-/

namespace Sight

variable {K : Type} [Field K]

section Order

variable [LinearOrder K] [IsStrictOrderedRing K]

/-- A length of vectors. -/
structure IsLength (norm : Vec3 K → K) : Prop where
  nonneg : ∀ v, 0 ≤ norm v
  smul : ∀ {t : K} (v : Vec3 K), 0 ≤ t → norm (t • v) = t * norm v

/-- What the rays from `o` find first of a surface, if they meet it. Which of its points a ray
meets may depend on the direction of the ray. -/
def IsFirstHit (meets : Vec3 K → Vec3 K → Prop) (o : Vec3 K) (hit : Vec3 K → Option (Vec3 K)) :
    Prop :=
  ∀ d, d ≠ 0 → match hit d with
    | some h =>
        ∃ t : K, 0 ≤ t ∧ h = o + t • d ∧ meets d h ∧
          ∀ r : K, 0 ≤ r → r < t → ¬ meets d (o + r • d)
    | none => ∀ t : K, 0 ≤ t → ¬ meets d (o + t • d)

/-- A ray is not changed by the length of its direction. -/
def Scales (meets : Vec3 K → Vec3 K → Prop) : Prop :=
  ∀ {t : K} (d s : Vec3 K), 0 < t → (meets (t • d) s ↔ meets d s)

/-- A point is hidden by a surface. -/
def Hidden (norm : Vec3 K → K) (meets : Vec3 K → Vec3 K → Prop) (slack : K) (o p : Vec3 K) :
    Prop :=
  ∃ t : K, 0 ≤ t ∧ meets (p - o) (o + t • (p - o)) ∧ t * norm (p - o) < norm (p - o) - slack

section Rays

variable {norm : Vec3 K → K} {meets : Vec3 K → Vec3 K → Prop} {slack : K} {o p : Vec3 K}
  {hit : Vec3 K → Option (Vec3 K)}

theorem not_hidden_of_near (hnorm : IsLength norm) (hnear : norm (p - o) ≤ slack) :
  ¬ Hidden norm meets slack o p
  := by
  rintro ⟨t, ht, -, hlt⟩
  have hlength := mul_nonneg ht (hnorm.nonneg (p - o))
  linarith

/-- A point is hidden just when what is hit first is nearer. -/
theorem hidden_iff (hnorm : IsLength norm) (hscales : Scales meets)
    (hhit : IsFirstHit meets o hit) (hpos : 0 < norm (p - o)) :
  Hidden norm meets slack o p ↔
    ∃ h ∈ hit ((norm (p - o))⁻¹ • (p - o)), norm (h - o) < norm (p - o) - slack
  := by
  have hinv : 0 < (norm (p - o))⁻¹ := inv_pos.mpr hpos
  have hmeets := fun s => hscales (p - o) s hinv
  unfold Hidden
  generalize p - o = v at *
  have hne : (norm v)⁻¹ • v ≠ 0 := by
    intro hzero
    have hlength := hnorm.smul v hinv.le
    have hnull := hnorm.smul (0 : Vec3 K) (le_refl 0)
    rw [smul_zero, zero_mul] at hnull
    rw [hzero, hnull, inv_mul_cancel₀ hpos.ne'] at hlength
    exact zero_ne_one hlength
  have hray : ∀ t : K, t • ((norm v)⁻¹ • v) = (t / norm v) • v := by
    intro t
    rw [smul_smul, div_eq_mul_inv]
  have hback : ∀ t : K, (t * norm v) • ((norm v)⁻¹ • v) = t • v := by
    intro t
    rw [hray, mul_div_cancel_right₀ _ hpos.ne']
  have hfirst := hhit _ hne
  constructor
  · rintro ⟨t, ht, hsurface, hlt⟩
    rw [← hmeets, ← hback t] at hsurface
    cases hfound : hit ((norm v)⁻¹ • v) with
    | none =>
        rw [hfound] at hfirst
        exact absurd hsurface (hfirst _ (mul_nonneg ht hpos.le))
    | some h =>
        rw [hfound] at hfirst
        obtain ⟨r, hr, rfl, -, hbefore⟩ := hfirst
        refine ⟨_, rfl, ?_⟩
        have hle : r ≤ t * norm v := by
          by_contra hgt
          exact hbefore _ (mul_nonneg ht hpos.le) (not_le.mp hgt) hsurface
        rw [add_sub_cancel_left, hray, hnorm.smul v (div_nonneg hr hpos.le),
          div_mul_cancel₀ _ hpos.ne']
        exact lt_of_le_of_lt hle hlt
  · rintro ⟨h, hfound, hlt⟩
    rw [Option.mem_def.mp hfound] at hfirst
    obtain ⟨r, hr, rfl, hsurface, -⟩ := hfirst
    rw [add_sub_cancel_left, hray, hnorm.smul v (div_nonneg hr hpos.le)] at hlt
    rw [hmeets, hray] at hsurface
    exact ⟨r / norm v, div_nonneg hr hpos.le, hsurface, hlt⟩

end Rays

end Order

/-! ### In the frame of a camera -/

open Transform

/-- The camera: the point that an extrinsic transform takes to the origin. -/
def center (E : Transform K) : Vec3 K := E.rigidInverse.point 0

/-- Two points are seen at one pixel: they lie on one line through the camera. -/
def SamePixel (E : Transform K) (s p : Vec3 K) : Prop :=
  E.point s 0 * E.point p 2 = E.point p 0 * E.point s 2 ∧
    E.point s 1 * E.point p 2 = E.point p 1 * E.point s 2

variable {E : Transform K}

theorem point_add_smul (E : Transform K) (o v : Vec3 K) (t : K) :
  E.point (o + t • v) = E.point o + t • E.direction v
  := by
  ext i
  simp only [point_apply, direction_apply, Pi.add_apply, Pi.smul_apply, smul_eq_mul]
  ring

theorem point_center (hE : IsRigid E) :
  E.point (center E) = 0
  := hE.point_rigidInverse 0

/-- The points on the ray from the camera through `p`. -/
theorem point_on_ray (hE : IsRigid E) (p : Vec3 K) (t : K) :
  E.point (center E + t • (p - center E)) = t • E.point p
  := by
  have hp : E.point p = E.point (center E) + (1 : K) • E.direction (p - center E) := by
    rw [← point_add_smul, one_smul, add_sub_cancel]
  rw [point_center hE, zero_add, one_smul] at hp
  rw [point_add_smul, point_center hE, zero_add, hp]

/-- A rigid transform keeps points apart. -/
theorem point_injective (hE : IsRigid E) :
  Function.Injective E.point
  := by
  have hleft : E.linear.transpose * E.linear = 1 := mul_eq_one_comm.mp hE.orthogonal
  intro p q hpq
  have himage : E.linear.mulVec p = E.linear.mulVec q := by
    ext i
    have hi := congrFun hpq i
    simp only [point_apply] at hi
    simpa [Matrix.mulVec, dotProduct, Fin.sum_univ_three, linear] using hi
  have hback := congrArg (E.linear.transpose.mulVec ·) himage
  simpa [hleft] using hback

/-- The points at one pixel are on the line through one of them, unless it has no depth. -/
theorem eq_on_ray (hE : IsRigid E) {s p : Vec3 K} (hdepth : E.point p 2 ≠ 0)
    (hpixel : SamePixel E s p) :
  s = center E + (E.point s 2 / E.point p 2) • (p - center E)
  := by
  apply point_injective hE
  rw [point_on_ray hE]
  ext i
  have hcancel : E.point s 2 / E.point p 2 * E.point p 2 = E.point s 2 :=
    div_mul_cancel₀ _ hdepth
  rw [Pi.smul_apply, smul_eq_mul, ← mul_left_inj' hdepth]
  fin_cases i <;> simp only [Fin.zero_eta, Fin.mk_one, Fin.reduceFinMk]
  · rw [mul_right_comm, hcancel, hpixel.1, mul_comm]
  · rw [mul_right_comm, hcancel, hpixel.2, mul_comm]
  · rw [hcancel]

section Order

variable [LinearOrder K] [IsStrictOrderedRing K]

/-- A point of the surface is at the pixel of `p` and less deep, and nearer to the camera by more
than the slack. -/
def Covered (norm : Vec3 K → K) (meets : Vec3 K → Vec3 K → Prop) (slack : K) (E : Transform K)
    (p : Vec3 K) : Prop :=
  ∃ s, meets (p - center E) s ∧ SamePixel E s p ∧ 0 ≤ E.point s 2 ∧ E.point s 2 < E.point p 2 ∧
    slack < norm (p - center E) - norm (s - center E)

/-- What is hidden in space is covered in the picture. -/
theorem hidden_iff_covered {norm : Vec3 K → K} {meets : Vec3 K → Vec3 K → Prop} {slack : K}
    {p : Vec3 K} (hnorm : IsLength norm) (hslack : 0 ≤ slack) (hE : IsRigid E)
    (hdepth : 0 < E.point p 2) :
  Hidden norm meets slack (center E) p ↔ Covered norm meets slack E p
  := by
  have hlength := hnorm.nonneg (p - center E)
  constructor
  · rintro ⟨t, ht, hmeets, hlt⟩
    have hlt_one : t < 1 := by
      by_contra hge
      have hgrow := mul_le_mul_of_nonneg_right (not_lt.mp hge) hlength
      linarith
    refine ⟨_, hmeets, ?_⟩
    rw [SamePixel, point_on_ray hE, add_sub_cancel_left, hnorm.smul _ ht]
    simp only [Pi.smul_apply, smul_eq_mul]
    refine ⟨⟨by ring, by ring⟩, mul_nonneg ht hdepth.le, ?_, by linarith⟩
    exact mul_lt_of_lt_one_left hdepth hlt_one
  · rintro ⟨s, hmeets, hpixel, hnonneg, -, hlt⟩
    have hs := eq_on_ray hE hdepth.ne' hpixel
    have ht : 0 ≤ E.point s 2 / E.point p 2 := div_nonneg hnonneg hdepth.le
    refine ⟨_, ht, hs ▸ hmeets, ?_⟩
    rw [← hnorm.smul _ ht, ← add_sub_cancel_left (center E) (_ • _), ← hs]
    linarith

end Order

end Sight
