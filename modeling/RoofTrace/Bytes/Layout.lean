import Mathlib.Data.List.Basic
import Mathlib.Tactic.Ring

/-!
# Layouts of bytes

Numbers in big-endian order, and rows of the same length one after the other.
-/

namespace Bytes

/-! ### Big-endian numbers -/

/-- The four bytes of a number below `2 ^ 32`, the most significant one first. -/
def bigEndian (value : ℕ) : List UInt8 :=
  [UInt8.ofNat (value >>> 24 &&& 0xFF), UInt8.ofNat (value >>> 16 &&& 0xFF),
    UInt8.ofNat (value >>> 8 &&& 0xFF), UInt8.ofNat (value &&& 0xFF)]

/-- The number of four bytes, the most significant one first. -/
def ofBigEndian (b₀ b₁ b₂ b₃ : UInt8) : ℕ :=
  b₀.toNat <<< 24 ||| b₁.toNat <<< 16 ||| b₂.toNat <<< 8 ||| b₃.toNat

@[simp]
theorem length_bigEndian (value : ℕ) :
  (bigEndian value).length = 4
  := rfl

theorem ofBigEndian_eq (b₀ b₁ b₂ b₃ : UInt8) :
  ofBigEndian b₀ b₁ b₂ b₃ =
    b₀.toNat * 2 ^ 24 + b₁.toNat * 2 ^ 16 + b₂.toNat * 2 ^ 8 + b₃.toNat
  := by
  have h₁ := b₁.toNat_lt
  have h₂ := b₂.toNat_lt
  have h₃ := b₃.toNat_lt
  have hor : ∀ a n x : ℕ, x < 2 ^ n → a * 2 ^ n ||| x = a * 2 ^ n + x := by
    intro a n x hx
    rw [← Nat.shiftLeft_eq, ← Nat.shiftLeft_add_eq_or_of_lt hx]
  unfold ofBigEndian
  simp only [Nat.shiftLeft_eq]
  rw [hor _ 24 _ (by omega),
    show b₀.toNat * 2 ^ 24 + b₁.toNat * 2 ^ 16 = (b₀.toNat * 2 ^ 8 + b₁.toNat) * 2 ^ 16 by ring,
    hor _ 16 _ (by omega),
    show (b₀.toNat * 2 ^ 8 + b₁.toNat) * 2 ^ 16 + b₂.toNat * 2 ^ 8 =
      (b₀.toNat * 2 ^ 16 + b₁.toNat * 2 ^ 8 + b₂.toNat) * 2 ^ 8 by ring,
    hor _ 8 _ (by omega)]

/-- A number below `2 ^ 32` is the number of its bytes. -/
theorem ofBigEndian_bigEndian {value : ℕ} (h : value < 2 ^ 32) :
  ofBigEndian (UInt8.ofNat (value >>> 24 &&& 0xFF)) (UInt8.ofNat (value >>> 16 &&& 0xFF))
    (UInt8.ofNat (value >>> 8 &&& 0xFF)) (UInt8.ofNat (value &&& 0xFF)) = value
  := by
  have hand : ∀ n : ℕ, n &&& 0xFF = n % 2 ^ 8 := fun n => Nat.and_two_pow_sub_one_eq_mod n 8
  rw [ofBigEndian_eq]
  simp only [UInt8.toNat_ofNat', hand, Nat.shiftRight_eq_div_pow]
  omega

/-! ### Rows -/

section Rows

variable {α : Type} {f : ℕ → List α} {height stride : ℕ}

theorem length_rows (hlength : ∀ y < height, (f y).length = stride) :
  ((List.range height).flatMap f).length = height * stride
  := by
  induction height with
  | zero => simp
  | succ height ih =>
      rw [List.range_succ, List.flatMap_append, List.length_append,
        ih fun y hy => hlength y (by omega)]
      simp [hlength height (by omega)]
      ring

/-- An element of a row, by its place among all rows. -/
theorem getElem?_rows (hlength : ∀ y < height, (f y).length = stride) {y k : ℕ} (hy : y < height)
    (hk : k < stride) :
  ((List.range height).flatMap f)[y * stride + k]? = (f y)[k]?
  := by
  induction height with
  | zero => omega
  | succ height ih =>
      have hrest : ∀ y < height, (f y).length = stride := fun y hy => hlength y (by omega)
      rw [List.range_succ, List.flatMap_append]
      by_cases hlast : y = height
      · subst hlast
        rw [List.getElem?_append_right (by rw [length_rows hrest]; omega), length_rows hrest]
        simp
      · have hlt : y < height := by omega
        have hbound : y * stride + k < height * stride := by
          calc y * stride + k < (y + 1) * stride := by
                rw [Nat.add_mul]
                omega
            _ ≤ height * stride := Nat.mul_le_mul_right _ hlt
        rw [List.getElem?_append_left (by rw [length_rows hrest]; exact hbound)]
        exact ih hrest hlt

/-- A list is made of the rows that it is cut into. -/
theorem rows_eq (l : List α) (d : α) {width : ℕ} (hlength : l.length = width * height) :
  ((List.range height).flatMap fun y => (List.range width).map fun x => l.getD (y * width + x) d)
    = l
  := by
  have hrow : ∀ y < height,
      ((List.range width).map fun x => l.getD (y * width + x) d).length = width := by simp
  apply List.ext_getElem?
  intro n
  by_cases hn : n < height * width
  · have hwidth : 0 < width := by
      rcases Nat.eq_zero_or_pos width with h | h
      · rw [h, Nat.mul_zero] at hn
        omega
      · exact h
    have hdiv : n / width < height := Nat.div_lt_of_lt_mul (by rw [Nat.mul_comm]; exact hn)
    have hmod : n % width < width := Nat.mod_lt n hwidth
    have hplace : n / width * width + n % width = n := Nat.div_add_mod' n width
    rw [← hplace, getElem?_rows hrow hdiv hmod, hplace, List.getElem?_map,
      List.getElem?_range hmod, Option.map_some, hplace, List.getD_eq_getElem?_getD,
      List.getElem?_eq_getElem (by rw [hlength, Nat.mul_comm]; exact hn)]
    rfl
  · rw [List.getElem?_eq_none (by rw [length_rows hrow]; omega),
      List.getElem?_eq_none (by rw [hlength, Nat.mul_comm]; omega)]

end Rows

end Bytes
