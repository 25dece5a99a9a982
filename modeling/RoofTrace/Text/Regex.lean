import Mathlib.Data.List.Basic
import Mathlib.Data.List.Range

/-!
# Regular expressions

A pattern is a sequence of pieces, each of which takes characters of given classes, or any number
of characters of one class. Of the ways to match, the first is taken in the order of preference of
the pieces. `finditer` finds the matches from left to right, each after the end of the last.

When a piece takes any number of characters of a class and is followed by a character that is not
of that class, there is one way to match, whether the piece is greedy or not.
-/

namespace Regex

/-- A piece of a pattern. -/
inductive Piece where
  | chars (classes : List (Char → Bool))
  /-- At least `least` characters of a class, as few as possible when it is lazy. -/
  | many (isIn : Char → Bool) (least : ℕ) (isLazy : Bool)

/-- A pattern, whose pieces are captured or not. -/
abbrev Pattern : Type := List (Piece × Bool)

/-- The characters of a literal text. -/
def literal (text : String) : Piece := .chars (text.toList.map fun c => (· == c))

/-- A text begins with characters of classes. -/
def fits : List (Char → Bool) → List Char → Bool
  | [], _ => true
  | isIn :: classes, c :: s => isIn c && fits classes s
  | _ :: _, [] => false

/-- The numbers of characters that a piece may take, in the order of preference. -/
def Piece.lengths : Piece → List Char → List ℕ
  | chars classes, s => if fits classes s then [classes.length] else []
  | many isIn least isLazy, s =>
      let ns := List.range' least ((s.takeWhile isIn).length + 1 - least)
      if isLazy then ns else ns.reverse

/-- A match at the start of a text: what is captured and what is left. -/
abbrev Match : Type := List (List Char) × List Char

/-- A match after a piece has taken characters. -/
def Match.after (captured : Bool) (taken : List Char) (m : Match) : Match :=
  (if captured then taken :: m.1 else m.1, m.2)

/-- The match at the start of a text. -/
def matchHere : Pattern → List Char → Option Match
  | [], s => some ([], s)
  | (piece, captured) :: pattern, s =>
      (piece.lengths s).findSome? fun n =>
        (matchHere pattern (s.drop n)).map (Match.after captured (s.take n))

/-- What the matches in a text capture, after characters that are skipped. -/
def finditer (pattern : Pattern) : ℕ → List Char → List (List (List Char))
  | _ + 1, [] => []
  | skipped + 1, _ :: s => finditer pattern skipped s
  | 0, [] => ((matchHere pattern []).map (·.1)).toList
  | 0, c :: s =>
      match matchHere pattern (c :: s) with
      | some (captures, left) => captures :: finditer pattern (s.length - left.length) s
      | none => finditer pattern 0 s

/-! ### Pieces -/

variable {pattern : Pattern} {captured : Bool}

theorem fits_append (classes : List (Char → Bool)) (a s : List Char)
    (h : List.Forall₂ (fun isIn c => isIn c = true) classes a) :
  fits classes (a ++ s) = true
  := by
  induction h with
  | nil => rfl
  | cons isIn _ ih => rw [List.cons_append, fits, isIn, ih, Bool.and_self]

/-- Characters of the classes are taken. -/
theorem matchHere_chars {classes : List (Char → Bool)} {a : List Char} (s : List Char)
    (h : List.Forall₂ (fun isIn c => isIn c = true) classes a) :
  matchHere ((.chars classes, captured) :: pattern) (a ++ s) =
    (matchHere pattern s).map (Match.after captured a)
  := by
  rw [matchHere, Piece.lengths, if_pos (fits_append classes a s h), List.findSome?_cons,
    h.length_eq, List.drop_left, List.take_left]
  cases (matchHere pattern s).map (Match.after captured a) with
  | none => rfl
  | some m => rfl

/-- A literal is taken. -/
theorem matchHere_literal (text : String) (s : List Char) :
  matchHere ((literal text, captured) :: pattern) (text.toList ++ s) =
    (matchHere pattern s).map (Match.after captured text.toList)
  := by
  apply matchHere_chars
  generalize text.toList = cs
  induction cs with
  | nil => apply List.Forall₂.nil
  | cons c cs ih => exact .cons (beq_self_eq_true c) ih

/-- There is no match where the first character is not of the first class. -/
theorem matchHere_chars_of_not {isIn : Char → Bool} {classes : List (Char → Bool)} {s : List Char}
    (h : ∀ c ∈ s.head?, isIn c = false) :
  matchHere ((.chars (isIn :: classes), captured) :: pattern) s = none
  := by
  have : fits (isIn :: classes) s = false := by
    cases s with
    | nil => rfl
    | cons c s => rw [fits, h c rfl, Bool.false_and]
  rw [matchHere, Piece.lengths, this, if_neg Bool.false_ne_true, List.findSome?_nil]

theorem fits_literal (text s : List Char) :
  fits (text.map fun c => (· == c)) s = text.isPrefixOf s
  := by
  induction text generalizing s with
  | nil => rfl
  | cons c text ih =>
      cases s with
      | nil => rfl
      | cons d s =>
          rw [List.map_cons, fits, ih, List.isPrefixOf_cons_cons, Bool.beq_comm]

/-- There is no match where a text does not begin with the literal. -/
theorem matchHere_literal_of_not {text : String} {s : List Char} (h : ¬text.toList <+: s) :
  matchHere ((literal text, captured) :: pattern) s = none
  := by
  rw [matchHere, literal, Piece.lengths, fits_literal, if_neg, List.findSome?_nil]
  rwa [List.isPrefixOf_iff_prefix]

theorem findSome?_eq_of_unique {α β : Type} {l : List α} {f : α → Option β} {a : α} (ha : a ∈ l)
    (others : ∀ b ∈ l, b ≠ a → f b = none) :
  l.findSome? f = f a
  := by
  induction l with
  | nil => cases ha
  | cons b l ih =>
      rw [List.findSome?_cons]
      by_cases hb : b = a
      · subst hb
        cases hf : f b with
        | some c => rfl
        | none =>
            apply List.findSome?_eq_none_iff.mpr
            intro c hc
            by_cases hcb : c = b
            · rw [hcb, hf]
            · exact others c (.tail _ hc) hcb
      · rw [others b (.head _) hb]
        exact ih ((List.mem_cons.mp ha).resolve_left (Ne.symm hb)) fun c hc => others c (.tail _ hc)

theorem mem_lengths_many {isIn : Char → Bool} {least n : ℕ} {isLazy : Bool} {s : List Char} :
  n ∈ (Piece.many isIn least isLazy).lengths s ↔ least ≤ n ∧ n ≤ (s.takeWhile isIn).length
  := by
  have range : n ∈ List.range' least ((s.takeWhile isIn).length + 1 - least) ↔
      least ≤ n ∧ n ≤ (s.takeWhile isIn).length := by
    rw [List.mem_range'_1]
    omega
  rw [Piece.lengths]
  cases isLazy with
  | true => exact range
  | false => exact List.mem_reverse.trans range

/-- All characters of a class are taken that stand before one that is not of the class and that
the pattern goes on with. -/
theorem matchHere_many {isIn next : Char → Bool} (apart : ∀ c, isIn c = true → next c = false)
    {classes : List (Char → Bool)} {captured' : Bool} {least : ℕ} {isLazy : Bool} {a s : List Char}
    (ha : ∀ c ∈ a, isIn c = true) (hs : ∀ c ∈ s.head?, isIn c = false) (hl : least ≤ a.length) :
  matchHere ((.many isIn least isLazy, captured) ::
      (.chars (next :: classes), captured') :: pattern) (a ++ s) =
    (matchHere ((.chars (next :: classes), captured') :: pattern) s).map (Match.after captured a)
  := by
  have taken : ((a ++ s).takeWhile isIn) = a := by
    rw [List.takeWhile_append_of_pos ha]
    cases s with
    | nil => exact List.append_nil a
    | cons c s =>
        rw [List.takeWhile_cons_of_neg (Bool.eq_false_iff.mp (hs c rfl))]
        exact List.append_nil a
  rw [matchHere, findSome?_eq_of_unique (a := a.length)]
  · rw [List.drop_left, List.take_left]
  · rw [mem_lengths_many, taken]
    exact ⟨hl, le_rfl⟩
  · intro n hn other
    rw [mem_lengths_many, taken] at hn
    have inside : n < a.length := lt_of_le_of_ne hn.2 other
    rw [matchHere_chars_of_not]
    · rfl
    · intro c hc
      rw [List.head?_drop, List.getElem?_append_left inside] at hc
      exact apart c (ha c (List.mem_of_getElem? hc))

/-- The same before a literal. -/
theorem matchHere_many_literal {isIn : Char → Bool} {text : String} {d : Char} {rest : List Char}
    (ht : text.toList = d :: rest) (hd : isIn d = false) {least : ℕ} {isLazy : Bool}
    {a : List Char} (ha : ∀ c ∈ a, isIn c = true) (hl : least ≤ a.length) (s : List Char) :
  matchHere ((.many isIn least isLazy, captured) :: (literal text, false) :: pattern)
      (a ++ (text.toList ++ s)) =
    (matchHere pattern s).map (Match.after captured a)
  := by
  have next : literal text = .chars ((· == d) :: rest.map fun c => (· == c)) := by
    rw [literal, ht, List.map_cons]
  have apart : ∀ c, isIn c = true → (c == d) = false := by
    intro c hc
    rw [beq_eq_false_iff_ne]
    rintro rfl
    rw [hd] at hc
    cases hc
  have first : ∀ c ∈ (text.toList ++ s).head?, isIn c = false := by
    intro c hc
    rw [ht] at hc
    cases hc
    exact hd
  rw [next, matchHere_many apart ha first hl, ← next, matchHere_literal, Option.map_map]
  rfl

/-- There is no match where a class is wanted that the first character is not of. -/
theorem matchHere_many_of_not {isIn : Char → Bool} {least : ℕ} {isLazy : Bool} {s : List Char}
    (hs : ∀ c ∈ s.head?, isIn c = false) (hl : 0 < least) :
  matchHere ((.many isIn least isLazy, captured) :: pattern) s = none
  := by
  have taken : s.takeWhile isIn = [] := by
    cases s with
    | nil => rfl
    | cons c s => exact List.takeWhile_cons_of_neg (Bool.eq_false_iff.mp (hs c rfl))
  rw [matchHere, List.findSome?_eq_none_iff]
  intro n hn
  rw [mem_lengths_many, taken] at hn
  have := hn.1.trans hn.2
  exact absurd hl (not_lt.mpr this)

/-! ### Matches in a text -/

theorem finditer_skip (skipped : ℕ) (a s : List Char) (h : a.length = skipped) :
  finditer pattern skipped (a ++ s) = finditer pattern 0 s
  := by
  induction a generalizing skipped with
  | nil =>
      subst h
      rfl
  | cons c a ih =>
      subst h
      exact ih _ rfl

/-- Nothing is found in the empty text by a pattern that begins with a literal. -/
theorem finditer_nil {text : String} {d : Char} {rest : List Char} (ht : text.toList = d :: rest) :
  finditer ((literal text, captured) :: pattern) 0 [] = []
  := by
  rw [finditer, matchHere_literal_of_not]
  · rfl
  · rw [ht, List.prefix_nil]
    exact List.cons_ne_nil _ _

/-- A match is followed by those after it. -/
theorem finditer_of_match {a s : List Char} (nonempty : a ≠ []) {captures : List (List Char)}
    (h : matchHere pattern (a ++ s) = some (captures, s)) :
  finditer pattern 0 (a ++ s) = captures :: finditer pattern 0 s
  := by
  obtain ⟨c, a, rfl⟩ := List.exists_cons_of_ne_nil nonempty
  rw [List.cons_append] at h ⊢
  rw [finditer, h]
  dsimp only
  rw [finditer_skip]
  rw [List.length_append, Nat.add_sub_cancel]

/-- Where there is no match, the matches after the character are found. -/
theorem finditer_of_no_match {c : Char} {s : List Char} (h : matchHere pattern (c :: s) = none) :
  finditer pattern 0 (c :: s) = finditer pattern 0 s
  := by
  rw [finditer, h]

/-- Characters that a pattern does not begin with are passed over. -/
theorem finditer_append {text : String} {d : Char} {rest : List Char}
    (ht : text.toList = d :: rest) {a : List Char} (h : d ∉ a) (s : List Char) :
  finditer ((literal text, captured) :: pattern) 0 (a ++ s) =
    finditer ((literal text, captured) :: pattern) 0 s
  := by
  induction a with
  | nil => rfl
  | cons c a ih =>
      rw [List.mem_cons, not_or] at h
      rw [List.cons_append, finditer_of_no_match]
      · exact ih h.2
      · apply matchHere_literal_of_not
        rw [ht, List.cons_prefix_cons]
        exact fun same => h.1 same.1

/-- A text that begins as the pattern does, but does not match, is passed over up to where it does
so again. -/
theorem finditer_tag {text : String} {d : Char} {rest : List Char}
    (ht : text.toList = d :: rest) {a s : List Char} (h : d ∉ a)
    (no_match : matchHere ((literal text, captured) :: pattern) (d :: a ++ s) = none) :
  finditer ((literal text, captured) :: pattern) 0 (d :: a ++ s) =
    finditer ((literal text, captured) :: pattern) 0 s
  := by
  rw [List.cons_append] at no_match ⊢
  rw [finditer_of_no_match no_match, finditer_append ht h]

end Regex
