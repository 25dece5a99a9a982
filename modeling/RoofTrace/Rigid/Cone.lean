import RoofTrace.Rigid.Transform
import Mathlib.Algebra.Order.Field.Basic
import Mathlib.Tactic.Linarith
import Mathlib.Tactic.FieldSimp
import Mathlib.Tactic.Positivity

/-!
# Unit vectors in a cone

Unit vectors whose third component exceeds `c` lie in a cone around the third axis. Their products
are bounded from below, and their weighted averages lie in the cone as well.
-/

namespace Cone

variable {K : Type} [Field K]

def dot (v w : Vec3 K) : K := v 0 * w 0 + v 1 * w 1 + v 2 * w 2

/-- The mean of two vectors, with weights. -/
def average (v w : Vec3 K) (a b : K) : Vec3 K := fun i => (v i * a + w i * b) / (a + b)

theorem dot_div (v : Vec3 K) (x : K) :
  dot (fun i => v i / x) (fun i => v i / x) = dot v v / (x * x)
  := by
  simp only [dot, div_mul_div_comm, ← add_div]

theorem dot_average (v w : Vec3 K) (a b : K) :
  dot (average v w a b) (average v w a b) =
    (dot v v * (a * a) + 2 * dot v w * (a * b) + dot w w * (b * b)) / ((a + b) * (a + b))
  := by
  simp only [dot, average, div_mul_div_comm, ← add_div]
  congr 1
  ring

variable [LinearOrder K] [IsStrictOrderedRing K]

/-- The square of a product is at most the product of the squares. -/
theorem dot_mul_dot_le (v w : Vec3 K) : dot v w * dot v w ≤ dot v v * dot w w := by
  simp only [dot]
  nlinarith [sq_nonneg (v 0 * w 1 - v 1 * w 0), sq_nonneg (v 0 * w 2 - v 2 * w 0),
    sq_nonneg (v 1 * w 2 - v 2 * w 1)]

theorem dot_le_one {v w : Vec3 K} (hv : dot v v = 1) (hw : dot w w = 1) : dot v w ≤ 1 := by
  have := dot_mul_dot_le v w
  rw [hv, hw] at this
  nlinarith

/-- The product of unit vectors of a cone exceeds the double of the square of its bound, less one:
the cosine of the double of its half-angle. -/
theorem lt_dot {v w : Vec3 K} {c : K} (hc : 0 ≤ c) (hv : dot v v = 1) (hw : dot w w = 1)
    (cv : c < v 2) (cw : c < w 2) :
  2 * (c * c) - 1 < dot v w
  := by
  let a := v 0 * v 0 + v 1 * v 1
  let b := w 0 * w 0 + w 1 * w 1
  let h := v 0 * w 0 + v 1 * w 1
  have ha : a < 1 - c * c := by
    simp only [dot] at hv
    change v 0 * v 0 + v 1 * v 1 < _
    nlinarith
  have hb : b < 1 - c * c := by
    simp only [dot] at hw
    change w 0 * w 0 + w 1 * w 1 < _
    nlinarith
  have ha0 : 0 ≤ a := add_nonneg (mul_self_nonneg _) (mul_self_nonneg _)
  have hb0 : 0 ≤ b := add_nonneg (mul_self_nonneg _) (mul_self_nonneg _)
  -- The horizontal parts are short, so their product is not far below zero.
  have cauchy : h * h ≤ a * b := by
    change (v 0 * w 0 + v 1 * w 1) * (v 0 * w 0 + v 1 * w 1) ≤
      (v 0 * v 0 + v 1 * v 1) * (w 0 * w 0 + w 1 * w 1)
    nlinarith [sq_nonneg (v 0 * w 1 - v 1 * w 0)]
  have horizontal : -(1 - c * c) < h := by
    have short : a * b < (1 - c * c) * (1 - c * c) := by nlinarith
    have := abs_lt_of_sq_lt_sq (by nlinarith : h ^ 2 < (1 - c * c) ^ 2) (by linarith)
    exact (abs_lt.mp this).1
  have vertical : c * c < v 2 * w 2 := by nlinarith
  have sum : dot v w = h + v 2 * w 2 := rfl
  rw [sum]
  linarith

section Average

variable {v w : Vec3 K} {a b : K}

/-- An average of unit vectors is not longer than one. -/
theorem dot_average_le (hv : dot v v = 1) (hw : dot w w = 1) (ha : 0 < a) (hb : 0 < b) :
  dot (average v w a b) (average v w a b) ≤ 1
  := by
  have product := dot_le_one hv hw
  rw [dot_average, hv, hw, div_le_one (by positivity)]
  nlinarith [mul_pos ha hb]

/-- An average of unit vectors at an acute angle is not short. -/
theorem half_le_dot_average (hv : dot v v = 1) (hw : dot w w = 1) (acute : 0 ≤ dot v w)
    (ha : 0 < a) (hb : 0 < b) :
  1 / 2 ≤ dot (average v w a b) (average v w a b)
  := by
  rw [dot_average, hv, hw, le_div_iff₀ (by positivity)]
  nlinarith [mul_nonneg acute (mul_pos ha hb).le, sq_nonneg (a - b)]

theorem lt_average {c : K} (ha : 0 < a) (hb : 0 < b) (cv : c < v 2) (cw : c < w 2) :
  c < average v w a b 2
  := by
  rw [average, lt_div_iff₀ (by positivity)]
  nlinarith

end Average

/-- A vector that is not longer than one stays in the cone when it is normalised. -/
theorem lt_div_length {v : Vec3 K} {c x : K} (hc : 0 ≤ c) (cv : c < v 2) (hx : 0 < x)
    (short : x ≤ 1) :
  c < v 2 / x
  := by
  rw [lt_div_iff₀ hx]
  nlinarith

end Cone
