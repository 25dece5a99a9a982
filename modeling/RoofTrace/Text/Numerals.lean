import RoofTrace.Numbers.Rounding

/-!
# Numerals

The digits of natural numbers, and the decimal numerals with a given number of digits after the
point: a number that is printed is read back as the number rounded to those digits.
-/

namespace Numerals

/-- The value of a digit, at most the hexadecimal ones. -/
def digitValue (c : Char) : ℕ :=
  if c.isDigit then c.toNat - 48 else if c.isLower then c.toNat - 87 else c.toNat - 55

/-- The number that digits denote. -/
def ofDigits (base : ℕ) (digits : List Char) : ℕ :=
  digits.foldl (fun n c => base * n + digitValue c) 0

/-- Digits with zeros before them, at least `n` of them. -/
def pad (n : ℕ) (digits : List Char) : List Char :=
  List.replicate (n - digits.length) '0' ++ digits

theorem digitValue_digitChar : ∀ d < 16, digitValue (Nat.digitChar d) = d := by decide

theorem ofDigits_append_singleton (base : ℕ) (digits : List Char) (c : Char) :
  ofDigits base (digits ++ [c]) = base * ofDigits base digits + digitValue c
  := by
  rw [ofDigits, List.foldl_append]
  rfl

theorem ofDigits_append (base : ℕ) (left right : List Char) :
  ofDigits base (left ++ right) = ofDigits base left * base ^ right.length + ofDigits base right
  := by
  induction right using List.reverseRecOn with
  | nil => simp [ofDigits]
  | append_singleton right c ih =>
      rw [← List.append_assoc, ofDigits_append_singleton, ofDigits_append_singleton, ih,
        List.length_append, List.length_singleton]
      ring

/-- The digits of a number denote it. -/
theorem ofDigits_toDigits {base : ℕ} (one_lt : 1 < base) (le : base ≤ 16) (n : ℕ) :
  ofDigits base (Nat.toDigits base n) = n
  := by
  induction n using Nat.strongRecOn with
  | ind n ih =>
      rw [Nat.toDigits_eq_if one_lt]
      split
      · next small =>
        rw [← List.nil_append [n.digitChar], ofDigits_append_singleton,
          digitValue_digitChar n (small.trans_le le)]
        exact Nat.zero_add n
      · next large =>
        have last : n % base < 16 := (Nat.mod_lt n (by omega)).trans_le le
        rw [ofDigits_append_singleton, ih (n / base) (Nat.div_lt_self (by omega) one_lt),
          digitValue_digitChar _ last]
        exact Nat.div_add_mod n base

theorem ofDigits_replicate_zero (base n : ℕ) : ofDigits base (List.replicate n '0') = 0 := by
  induction n with
  | zero => rfl
  | succ n ih =>
      rw [List.replicate_succ', ofDigits_append_singleton, ih]
      rfl

/-- Zeros before digits do not change the number. -/
theorem ofDigits_pad (base n : ℕ) (digits : List Char) :
  ofDigits base (pad n digits) = ofDigits base digits
  := by
  rw [pad, ofDigits_append, ofDigits_replicate_zero, Nat.zero_mul, Nat.zero_add]

theorem length_pad {n : ℕ} {digits : List Char} (h : digits.length ≤ n) :
  (pad n digits).length = n
  := by
  rw [pad, List.length_append, List.length_replicate]
  omega

theorem isDigit_of_mem_pad {n : ℕ} {digits : List Char} (h : ∀ c ∈ digits, c.isDigit = true) :
  ∀ c ∈ pad n digits, c.isDigit = true
  := by
  intro c hc
  rcases List.mem_append.mp hc with hc | hc
  · rw [List.eq_of_mem_replicate hc]
    rfl
  · exact h c hc

/-- The decimal digits of a number. -/
theorem isDigit_of_mem_toDigits (n : ℕ) : ∀ c ∈ Nat.toDigits 10 n, c.isDigit = true :=
  fun _ hc => Nat.isDigit_of_mem_toDigits (by decide) le_rfl hc

/-! ### Decimal numerals -/

/-- `f"{x:.nf}"` with digits after the point: the number is rounded to `n` of them, to even on a
tie, and a number below zero has its sign whatever it is rounded to. -/
def decimal (n : ℕ) (x : ℚ) : List Char :=
  let k := (Rounding.halfEven.toInt (x * 10 ^ n)).natAbs
  (if x < 0 then ['-'] else []) ++ Nat.toDigits 10 (k / 10 ^ n) ++
    '.' :: pad n (Nat.toDigits 10 (k % 10 ^ n))

/-- The number that a decimal numeral without a sign denotes. -/
def unsigned? (s : List Char) : Option ℚ :=
  match s.span Char.isDigit with
  | (whole, []) => if whole = [] then none else some (ofDigits 10 whole)
  | (whole, '.' :: fraction) =>
      if fraction.all Char.isDigit ∧ (whole ≠ [] ∨ fraction ≠ []) then
        some (ofDigits 10 (whole ++ fraction) / 10 ^ fraction.length)
      else none
  | _ => none

/-- The number that a decimal numeral denotes. -/
def ofDecimal? : List Char → Option ℚ
  | '-' :: s => (unsigned? s).map (- ·)
  | '+' :: s => unsigned? s
  | s => unsigned? s

theorem unsigned?_append {whole fraction : List Char} (hw : ∀ c ∈ whole, c.isDigit = true)
    (hf : ∀ c ∈ fraction, c.isDigit = true) (nonempty : whole ≠ []) :
  unsigned? (whole ++ '.' :: fraction) =
    some ((ofDigits 10 (whole ++ fraction) : ℚ) / 10 ^ fraction.length)
  := by
  have parts : (whole ++ '.' :: fraction).span Char.isDigit = (whole, '.' :: fraction) := by
    rw [List.span_eq_takeWhile_dropWhile, List.takeWhile_append_of_pos hw,
      List.dropWhile_append_of_pos hw]
    simp
  rw [unsigned?, parts]
  exact if_pos ⟨List.all_eq_true.mpr hf, .inl nonempty⟩

theorem ofDecimal?_of_isDigit {digits : List Char} (h : ∀ c ∈ digits, c.isDigit = true)
    (nonempty : digits ≠ []) (s : List Char) :
  ofDecimal? (digits ++ s) = unsigned? (digits ++ s)
  := by
  obtain ⟨c, rest, rfl⟩ := List.exists_cons_of_ne_nil nonempty
  have digit := h c (.head _)
  rw [List.cons_append, ofDecimal?]
  · rintro s ⟨rfl, -⟩
    cases digit
  · rintro s ⟨rfl, -⟩
    cases digit

variable {n : ℕ} (hn : 0 < n)
include hn

theorem length_fraction (k : ℕ) : (pad n (Nat.toDigits 10 (k % 10 ^ n))).length = n := by
  apply length_pad
  apply (Nat.length_toDigits_le_iff (by decide) hn).mpr
  exact Nat.mod_lt _ (by positivity)

/-- The digits on both sides of the point denote the number without the point. -/
theorem ofDigits_parts (k : ℕ) :
  ofDigits 10 (Nat.toDigits 10 (k / 10 ^ n) ++ pad n (Nat.toDigits 10 (k % 10 ^ n))) = k
  := by
  rw [ofDigits_append, length_fraction hn, ofDigits_pad, ofDigits_toDigits (by decide) (by decide),
    ofDigits_toDigits (by decide) (by decide)]
  exact Nat.div_add_mod' k (10 ^ n)

/-- A number that is printed is read as the number rounded. -/
theorem ofDecimal?_decimal (x : ℚ) :
  ofDecimal? (decimal n x) = some (Rounding.halfEven.digits n x)
  := by
  have pos : (0 : ℚ) < 10 ^ n := by positivity
  let k := Rounding.halfEven.toInt (x * 10 ^ n)
  let whole := Nat.toDigits 10 (k.natAbs / 10 ^ n)
  let fraction := pad n (Nat.toDigits 10 (k.natAbs % 10 ^ n))
  have magnitude : unsigned? (whole ++ '.' :: fraction) = some ((k.natAbs : ℚ) / 10 ^ n) := by
    rw [unsigned?_append (isDigit_of_mem_toDigits _)
      (isDigit_of_mem_pad (isDigit_of_mem_toDigits _)) Nat.toDigits_ne_nil, length_fraction hn,
      ofDigits_parts hn]
  by_cases negative : x < 0
  · have below : k ≤ 0 := Rounding.halfEven.toInt_le (by push_cast; nlinarith)
    have printed : decimal n x = '-' :: (whole ++ '.' :: fraction) := by
      rw [decimal, if_pos negative]
      rfl
    have value : (k.natAbs : ℚ) = -k := by
      rw [← Int.cast_natCast, Int.ofNat_natAbs_of_nonpos below, Int.cast_neg]
    rw [printed, ofDecimal?, magnitude, Option.map_some, value, neg_div, neg_neg]
    rfl
  · have above : 0 ≤ k := Rounding.halfEven.le_toInt (by push_cast; nlinarith)
    have printed : decimal n x = whole ++ '.' :: fraction := by
      rw [decimal, if_neg negative]
      rfl
    have value : (k.natAbs : ℚ) = k := by
      rw [← Int.cast_natCast, Int.natAbs_of_nonneg above]
    have unsigned : ofDecimal? (whole ++ '.' :: fraction) = unsigned? (whole ++ '.' :: fraction) :=
      ofDecimal?_of_isDigit (isDigit_of_mem_toDigits _) Nat.toDigits_ne_nil _
    rw [printed, unsigned, magnitude, value]
    rfl

omit hn

/-- What is printed of a number are digits, a point and a sign. -/
theorem mem_decimal {x : ℚ} {c : Char} (h : c ∈ decimal n x) :
  c.isDigit = true ∨ c = '.' ∨ x < 0 ∧ c = '-'
  := by
  rw [decimal] at h
  rcases List.mem_append.mp h with h | h
  · rcases List.mem_append.mp h with h | h
    · split at h
      · next negative => exact .inr (.inr ⟨negative, List.mem_singleton.mp h⟩)
      · cases h
    · exact .inl (isDigit_of_mem_toDigits _ c h)
  · rcases List.mem_cons.mp h with rfl | h
    · exact .inr (.inl rfl)
    · exact .inl (isDigit_of_mem_pad (isDigit_of_mem_toDigits _) c h)

theorem decimal_ne_nil (n : ℕ) (x : ℚ) : decimal n x ≠ [] := by
  rw [decimal]
  exact List.append_ne_nil_of_right_ne_nil _ (List.cons_ne_nil _ _)

/-- A number below zero has a sign. -/
theorem head?_decimal {x : ℚ} (h : x < 0) : (decimal n x).head? = some '-' := by
  rw [decimal, if_pos h]
  rfl

end Numerals
