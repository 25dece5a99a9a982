import RoofTrace.Numbers.Rounding
import Mathlib.Algebra.Order.Floor.Ring

/-!
# Rounding to even over a field

`round(x, n)` of Python on the numbers of an ordered field: the nearest number with `n` decimal
digits, and of two the one with an even last digit.
-/

namespace HalfEven

variable {K : Type} [Field K] [LinearOrder K] [FloorRing K]

/-- Round to the nearest integer, and to the even one when two are nearest. -/
def toInt (x : K) : ℤ :=
  if x - ⌊x⌋ < 1 / 2 then ⌊x⌋
  else if 1 / 2 < x - ⌊x⌋ then ⌊x⌋ + 1
  else if ⌊x⌋ % 2 = 0 then ⌊x⌋ else ⌊x⌋ + 1

/-- A number rounded to `n` decimal digits. -/
def digits (n : ℕ) (x : K) : K := toInt (x * 10 ^ n) / 10 ^ n

variable [IsStrictOrderedRing K]

theorem abs_toInt_sub_le (x : K) : |(toInt x : K) - x| ≤ 1 / 2 := by
  have below := Int.floor_le x
  have above := Int.lt_floor_add_one x
  rw [abs_le, toInt]
  split_ifs with low high
  · constructor <;> linarith
  · push_cast
    constructor <;> linarith
  · constructor <;> linarith
  · push_cast
    constructor <;> linarith

/-- A rounded number is within half a unit of its last digit. -/
theorem abs_digits_sub_le (n : ℕ) (x : K) : |digits n x - x| ≤ 1 / 2 / 10 ^ n := by
  have pos : (0 : K) < 10 ^ n := by positivity
  have scaled : digits n x - x = (toInt (x * 10 ^ n) - x * 10 ^ n) / 10 ^ n := by
    rw [digits, sub_div, mul_div_assoc, div_self pos.ne', mul_one]
  rw [scaled, abs_div, abs_of_pos pos]
  exact div_le_div_of_nonneg_right (abs_toInt_sub_le _) pos.le

end HalfEven
