import RoofTrace.Numbers.Literals
import Mathlib.Algebra.Order.Round
import Mathlib.Data.Int.ConditionallyCompleteOrder
import Mathlib.Data.Rat.Floor
import Mathlib.Tactic.Linarith
import Mathlib.Tactic.Positivity
import Mathlib.Tactic.FieldSimp

/-!
# Rounding to decimal digits

A `Rounding` takes a rational to one of the integers next to it; `halfEven` breaks a tie
towards the even integer, `halfAway` away from zero. A number rounded to `n` digits stays
between the multiples of `10⁻ⁿ` that bound it, and moves by less than `10⁻ⁿ`.
-/

/-- A rounding of rationals to integers. -/
structure Rounding where
  toInt : ℚ → ℤ
  le_toInt : ∀ {k : ℤ} {x : ℚ}, (k : ℚ) ≤ x → k ≤ toInt x
  toInt_le : ∀ {k : ℤ} {x : ℚ}, x ≤ k → toInt x ≤ k

namespace Rounding

/-- Round to the nearest integer, and to the even one when two are nearest. -/
def halfEven : Rounding where
  toInt x :=
    if x - ⌊x⌋ < 1 / 2 then ⌊x⌋
    else if 1 / 2 < x - ⌊x⌋ then ⌊x⌋ + 1
    else if ⌊x⌋ % 2 = 0 then ⌊x⌋ else ⌊x⌋ + 1
  le_toInt := by
    intro k x h
    have hfloor := Int.le_floor.mpr h
    split_ifs <;> omega
  toInt_le := by
    intro k x h
    have hfloor : ⌊x⌋ ≤ k := by
      rw [← Int.floor_intCast (R := ℚ) k]
      apply Int.floor_mono h
    by_cases hk : ⌊x⌋ = k
    · have hx : x - ⌊x⌋ < 1 / 2 := by
        rw [hk]
        linarith
      rw [if_pos hx]
      apply hfloor
    · split_ifs <;> omega

theorem le_round {k : ℤ} {x : ℚ} (h : (k : ℚ) ≤ x) :
  k ≤ round x
  := by
  rw [round_eq, Int.le_floor]
  linarith

theorem round_le {k : ℤ} {x : ℚ} (h : x ≤ k) :
  round x ≤ k
  := by
  rw [round_eq, ← Int.lt_add_one_iff, Int.floor_lt]
  push_cast
  linarith

/-- Round to the nearest integer, and away from zero when two are nearest. -/
def halfAway : Rounding where
  toInt x := if 0 ≤ x then round x else -round (-x)
  le_toInt := by
    intro k x h
    split_ifs
    · apply le_round h
    · have hneg := round_le (k := -k) (x := -x) (by push_cast; linarith)
      omega
  toInt_le := by
    intro k x h
    split_ifs
    · apply round_le h
    · have hneg := le_round (k := -k) (x := -x) (by push_cast; linarith)
      omega

/-- The integer that a number is rounded to is within one half of it. -/
theorem abs_halfAway_sub_le (x : ℚ) :
  |(halfAway.toInt x : ℚ) - x| ≤ 1 / 2
  := by
  change |((if 0 ≤ x then round x else -round (-x) : ℤ) : ℚ) - x| ≤ 1 / 2
  split_ifs
  · rw [abs_sub_comm]
    exact abs_sub_round x
  · have hround := abs_sub_round (-x)
    push_cast
    rw [show -((round (-x) : ℤ) : ℚ) - x = -x - round (-x) by ring]
    exact hround

theorem halfAway_mono :
  Monotone halfAway.toInt
  := by
  have hround {x y : ℚ} (h : x ≤ y) : round x ≤ round y := by
    rw [round_eq, round_eq]
    apply Int.floor_mono
    linarith
  intro x y h
  change (if 0 ≤ x then round x else -round (-x)) ≤ if 0 ≤ y then round y else -round (-y)
  split_ifs with hx hy hy
  · exact hround h
  · exact absurd (hx.trans h) hy
  · have hneg : (0 : ℤ) ≤ round (-x) := le_round (by push_cast; linarith)
    have hpos : (0 : ℤ) ≤ round y := le_round (by exact_mod_cast hy)
    omega
  · exact neg_le_neg (hround (neg_le_neg h))

/-- Rounding half up differs from rounding half to even only on a tie above an even integer. -/
theorem halfEven_eq_round_iff (x : ℚ) :
  halfEven.toInt x = round x ↔ ¬ ∃ m : ℤ, x = 2 * m + 1 / 2
  := by
  have hfloor := Int.floor_le x
  have hlt := Int.lt_floor_add_one x
  have hround : round x = if x - ⌊x⌋ < 1 / 2 then ⌊x⌋ else ⌊x⌋ + 1 := by
    rw [round_eq]
    split_ifs with h
    · rw [Int.floor_eq_iff]
      constructor <;> linarith
    · rw [Int.floor_eq_iff]
      push_cast
      constructor <;> linarith
  rw [hround]
  change (if x - ⌊x⌋ < 1 / 2 then ⌊x⌋
    else if 1 / 2 < x - ⌊x⌋ then ⌊x⌋ + 1
    else if ⌊x⌋ % 2 = 0 then ⌊x⌋ else ⌊x⌋ + 1) = _ ↔ _
  have htie : (∃ m : ℤ, x = 2 * m + 1 / 2) ↔ x - ⌊x⌋ = 1 / 2 ∧ ⌊x⌋ % 2 = 0 := by
    constructor
    · rintro ⟨m, hm⟩
      have hx : ⌊x⌋ = 2 * m := by
        rw [Int.floor_eq_iff, hm]
        push_cast
        constructor <;> linarith
      rw [hx, hm]
      push_cast
      exact ⟨by ring, Int.mul_emod_right 2 m⟩
    · rintro ⟨hhalf, heven⟩
      use ⌊x⌋ / 2
      have hdouble : ((2 * (⌊x⌋ / 2) : ℤ) : ℚ) = ⌊x⌋ := by
        rw [Int.mul_ediv_cancel' (Int.dvd_of_emod_eq_zero heven)]
      push_cast at hdouble
      linarith
  rw [htie]
  split_ifs with hbelow habove heven
  · apply iff_of_true rfl
    exact fun h => absurd h.1 (ne_of_lt hbelow)
  · apply iff_of_true rfl
    exact fun h => absurd h.1 (ne_of_gt habove)
  · have hhalf : x - ⌊x⌋ = 1 / 2 := le_antisymm (not_lt.mp habove) (not_lt.mp hbelow)
    simp [hhalf, heven]
  · simp [heven]

variable (r : Rounding) (n : ℕ)

/-- A number rounded to `n` decimal digits. -/
def digits (x : ℚ) : ℚ := r.toInt (x * 10 ^ n) / 10 ^ n

theorem le_digits {a : ℤ} {x : ℚ} (h : (a : ℚ) / 10 ^ n ≤ x) :
  (a : ℚ) / 10 ^ n ≤ r.digits n x
  := by
  have hpos : (0 : ℚ) < 10 ^ n := by positivity
  have hscaled := (div_le_iff₀ hpos).mp h
  apply (div_le_div_iff_of_pos_right hpos).mpr
  exact_mod_cast r.le_toInt hscaled

theorem digits_le {a : ℤ} {x : ℚ} (h : x ≤ (a : ℚ) / 10 ^ n) :
  r.digits n x ≤ (a : ℚ) / 10 ^ n
  := by
  have hpos : (0 : ℚ) < 10 ^ n := by positivity
  have hscaled := (le_div_iff₀ hpos).mp h
  apply (div_le_div_iff_of_pos_right hpos).mpr
  exact_mod_cast r.toInt_le hscaled

/-- Rounding keeps a number that is not negative so. -/
theorem digits_nonneg {x : ℚ} (h : 0 ≤ x) :
  0 ≤ r.digits n x
  := by
  have h0 := r.le_digits n (a := 0) (x := x) (by simpa using h)
  simpa using h0

/-- Rounding keeps a number below an integer below it. -/
theorem digits_le_int {k : ℤ} {x : ℚ} (h : x ≤ k) :
  r.digits n x ≤ k
  := by
  have hpos : (10 : ℚ) ^ n ≠ 0 := by positivity
  have hk : ((k * 10 ^ n : ℤ) : ℚ) / 10 ^ n = k := by
    push_cast
    field_simp
  rw [← hk] at h ⊢
  apply r.digits_le n h

theorem digits_mono {r : Rounding} (hr : Monotone r.toInt) (n : ℕ) :
  Monotone (r.digits n)
  := by
  intro x y h
  have hpos : (0 : ℚ) < 10 ^ n := by positivity
  apply (div_le_div_iff_of_pos_right hpos).mpr
  exact_mod_cast hr (mul_le_mul_of_nonneg_right h hpos.le)

/-- Rounding to `n` digits lowers a number by less than `10⁻ⁿ`. -/
theorem sub_lt_digits (x : ℚ) :
  x - 1 / 10 ^ n < r.digits n x
  := by
  have hpos : (0 : ℚ) < 10 ^ n := by positivity
  have hfloor : (⌊x * 10 ^ n⌋ : ℚ) ≤ r.toInt (x * 10 ^ n) := by
    exact_mod_cast r.le_toInt (Int.floor_le _)
  have hlt := Int.sub_one_lt_floor (x * 10 ^ n)
  rw [digits, lt_div_iff₀ hpos, sub_mul, div_mul_cancel₀ _ hpos.ne']
  linarith

end Rounding
