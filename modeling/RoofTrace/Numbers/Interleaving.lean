import Mathlib.Data.Nat.Bitwise
import Mathlib.Tactic.Common

/-!
# Interleaved bits

The bits of two numbers interleaved, from the most significant one down: one digit to the base
four for each position. The digits of two numbers below `2 ^ n` determine the numbers, and the
digits but the last are those of the halves.
-/

namespace Interleaving

/-- The digit of the bits at a position, the first number giving the lower bit. -/
def digit (x y i : ℕ) : ℕ := (x.testBit i).toNat + 2 * (y.testBit i).toNat

/-- The digits of the `n` lowest positions, the highest position first. -/
def digits (x y n : ℕ) : List ℕ := (List.range n).reverse.map (digit x y)

theorem digit_lt (x y i : ℕ) :
  digit x y i < 4
  := by
  have hx := Bool.toNat_le (x.testBit i)
  have hy := Bool.toNat_le (y.testBit i)
  unfold digit
  omega

theorem digit_eq_iff {x y x' y' i : ℕ} :
  digit x y i = digit x' y' i ↔ x.testBit i = x'.testBit i ∧ y.testBit i = y'.testBit i
  := by
  unfold digit
  cases x.testBit i <;> cases x'.testBit i <;> cases y.testBit i <;> cases y'.testBit i <;> decide

/-- A position of the halves is the next position of the numbers. -/
theorem digit_half (x y i : ℕ) :
  digit (x / 2) (y / 2) i = digit x y (i + 1)
  := by
  rw [digit, Nat.testBit_div_two, Nat.testBit_div_two]
  rfl

@[simp] theorem length_digits (x y n : ℕ) : (digits x y n).length = n := by
  simp [digits]

theorem digits_succ (x y n : ℕ) :
  digits x y (n + 1) = digits (x / 2) (y / 2) n ++ [digit x y 0]
  := by
  have hrest : (List.map Nat.succ (List.range n)).reverse.map (digit x y) =
      (List.range n).reverse.map (digit (x / 2) (y / 2)) := by
    rw [← List.map_reverse, List.map_map]
    apply List.map_congr_left
    intro i _
    exact (digit_half x y i).symm
  rw [digits, List.range_succ_eq_map, List.reverse_cons, List.map_append, hrest]
  rfl

/-- Numbers with the same digits have the same halves and the same lowest bits. -/
theorem eq_of_digits_eq {x y x' y' n : ℕ} (hx : x < 2 ^ n) (hy : y < 2 ^ n) (hx' : x' < 2 ^ n)
    (hy' : y' < 2 ^ n) (h : digits x y n = digits x' y' n) :
  x = x' ∧ y = y'
  := by
  induction n generalizing x y x' y' with
  | zero =>
      rw [Nat.pow_zero, Nat.lt_one_iff] at hx hy hx' hy'
      exact ⟨hx.trans hx'.symm, hy.trans hy'.symm⟩
  | succ n ih =>
      rw [digits_succ, digits_succ] at h
      obtain ⟨hrest, hlast⟩ := List.append_inj' h rfl
      obtain ⟨hhalf, hhalf'⟩ := ih (by omega) (by omega) (by omega) (by omega) hrest
      obtain ⟨hbit, hbit'⟩ := digit_eq_iff.mp (List.cons.inj hlast).1
      simp only [Nat.testBit_zero, decide_eq_decide] at hbit hbit'
      omega

end Interleaving
