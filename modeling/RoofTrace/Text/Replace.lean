import Mathlib.Data.List.Basic
import Mathlib.Data.List.Infix

/-!
# Replacement in texts

`str.replace` replaces the occurrences of a text from left to right. In a concatenation of tokens
of which none contains the start of another, it replaces the tokens that are the text.
-/

namespace Replace

variable {α : Type} [DecidableEq α]

/-- A text with the occurrences of `old`, which is not empty, replaced by `new`, after elements that
are skipped. -/
def replace (old new : List α) : ℕ → List α → List α
  | _, [] => []
  | skipped + 1, _ :: s => replace old new skipped s
  | 0, c :: s =>
      if old.isPrefixOf (c :: s) then new ++ replace old new (old.length - 1) s
      else c :: replace old new 0 s

variable {a : α} {old new : List α}

theorem replace_skip (skipped : ℕ) (u s : List α) (h : u.length = skipped) :
  replace old new skipped (u ++ s) = replace old new 0 s
  := by
  induction u generalizing skipped with
  | nil =>
      subst h
      rfl
  | cons c u ih =>
      subst h
      exact ih _ rfl

/-- An occurrence is replaced. -/
theorem replace_occurrence (s : List α) :
  replace (a :: old) new 0 ((a :: old) ++ s) = new ++ replace (a :: old) new 0 s
  := by
  have occurs : (a :: old).isPrefixOf (a :: (old ++ s)) = true :=
    List.isPrefixOf_iff_prefix.mpr (List.prefix_append (a :: old) s)
  rw [List.cons_append, replace, if_pos occurs, replace_skip]
  rfl

/-- An element that no occurrence begins at stays. -/
theorem replace_cons {c : α} {s : List α} (h : ¬old <+: c :: s) :
  replace old new 0 (c :: s) = c :: replace old new 0 s
  := by
  rw [replace, if_neg]
  rwa [List.isPrefixOf_iff_prefix]

/-- Elements other than the first one of `old` stay. -/
theorem replace_append {u : List α} (h : a ∉ u) (s : List α) :
  replace (a :: old) new 0 (u ++ s) = u ++ replace (a :: old) new 0 s
  := by
  induction u with
  | nil => rfl
  | cons c u ih =>
      rw [List.mem_cons, not_or] at h
      rw [List.cons_append, replace_cons, ih h.2, List.cons_append]
      rw [List.cons_prefix_cons]
      exact fun same => h.1 same.1

/-- An element is replaced wherever it occurs. -/
theorem replace_singleton (s : List α) :
  replace [a] new 0 s = s.flatMap fun c => if c = a then new else [c]
  := by
  induction s with
  | nil => rfl
  | cons c s ih =>
      rw [List.flatMap_cons, ← ih]
      split
      · next same =>
        rw [same]
        exact replace_occurrence s
      · next other =>
        apply replace_cons
        rw [List.cons_prefix_cons]
        exact fun same => other same.1.symm

/-- The tokens are replaced that are `old`. -/
theorem replace_flatMap {token : α → List α} (nonempty : ∀ c, token c ≠ [])
    (starts : ∀ c, a ∉ (token c).tail)
    (code : ∀ c, token c <+: a :: old ∨ a :: old <+: token c → token c = a :: old) (s : List α) :
  replace (a :: old) new 0 (s.flatMap token) =
    s.flatMap fun c => if token c = a :: old then new else token c
  := by
  induction s with
  | nil => rfl
  | cons c s ih =>
      rw [List.flatMap_cons, List.flatMap_cons, ← ih]
      split
      · next same =>
        rw [same]
        exact replace_occurrence _
      · next other =>
        obtain ⟨b, rest, hb⟩ := List.exists_cons_of_ne_nil (nonempty c)
        have none_here : ¬a :: old <+: b :: (rest ++ s.flatMap token) := by
          intro occurs
          rw [← List.cons_append, ← hb] at occurs
          have := List.prefix_or_prefix_of_prefix occurs (List.prefix_append (token c) _)
          exact other (code c this.symm)
        have inside : a ∉ rest := by
          have := starts c
          rwa [hb] at this
        rw [hb, List.cons_append, replace_cons none_here, replace_append inside, List.cons_append]

end Replace
