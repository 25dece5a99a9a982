import Mathlib.Data.List.Basic
import Mathlib.Data.List.Infix

/-!
# Delimiters

Reading up to the first occurrence of a delimiter. What stands before a delimiter that does not
overlap itself is read back whenever it does not contain the delimiter.
-/

namespace Delimiters

variable {α : Type}

/-! ### Overlaps -/

/-- No beginning of a list is its end, apart from the empty one and the list itself. -/
def Unbordered (sep : List α) : Prop := ∀ w, w ≠ [] → w <+: sep → w <:+ sep → w = sep

/-- A list whose first element is not found again does not overlap itself. -/
theorem unbordered_of_not_mem {a : α} {sep : List α} (h : a ∉ sep) :
  Unbordered (a :: sep)
  := by
  intro w hne hbegin hend
  rcases List.suffix_cons_iff.mp hend with heq | hsuffix
  · exact heq
  · cases w with
    | nil => exact absurd rfl hne
    | cons c w =>
        obtain rfl : c = a := (List.cons_prefix_cons.mp hbegin).1
        exact absurd (hsuffix.subset List.mem_cons_self) h

/-- An occurrence that begins in a part, and not within it, overlaps the delimiter after it. -/
theorem not_occurs_before {sep v rest : List α} (hsep : Unbordered sep) (hv : v ≠ [])
    (hpart : ¬ sep <+: v) :
  ¬ sep <+: v ++ (sep ++ rest)
  := by
  intro hoccurs
  rcases List.prefix_or_prefix_of_prefix hoccurs (List.prefix_append v _) with hwithin | hover
  · exact hpart hwithin
  · obtain ⟨w, rfl⟩ := hover
    have hne : w ≠ [] := by
      rintro rfl
      exact hpart (by simp)
    have hbegin : w <+: v ++ w := by
      apply List.prefix_of_prefix_length_le ((List.prefix_append_right_inj v).mp hoccurs)
        (List.prefix_append _ _)
      simp
    have heq := hsep w hne hbegin (List.suffix_append v w)
    exact hv (by simpa using heq)

/-! ### Reading -/

variable [DecidableEq α]

/-- What follows `lead`, of a list that begins with it. -/
def strip (lead s : List α) : Option (List α) :=
  if lead.isPrefixOf s then some (s.drop lead.length) else none

/-- What stands before the first occurrence of `sep` and what follows it. -/
def breakAt (sep : List α) : List α → Option (List α × List α)
  | [] => if sep.isEmpty then some ([], []) else none
  | c :: s =>
      if sep.isPrefixOf (c :: s) then some ([], (c :: s).drop sep.length)
      else (breakAt sep s).map fun (before, rest) => (c :: before, rest)

@[simp] theorem strip_append (lead rest : List α) : strip lead (lead ++ rest) = some rest := by
  rw [strip, if_pos (List.isPrefixOf_iff_prefix.mpr (List.prefix_append lead rest)),
    List.drop_left]

@[simp] theorem breakAt_here (sep rest : List α) : breakAt sep (sep ++ rest) = some ([], rest) := by
  have hoccurs := List.isPrefixOf_iff_prefix.mpr (List.prefix_append sep rest)
  cases hs : sep ++ rest with
  | nil =>
      obtain ⟨rfl, rfl⟩ := List.append_eq_nil_iff.mp hs
      rfl
  | cons c s =>
      rw [hs] at hoccurs
      rw [breakAt, if_pos hoccurs, ← hs, List.drop_left]

theorem breakAt_cons {sep s : List α} {c : α} (h : ¬ sep <+: c :: s) :
  breakAt sep (c :: s) = (breakAt sep s).map fun (before, rest) => (c :: before, rest)
  := by
  rw [breakAt, if_neg]
  rwa [List.isPrefixOf_iff_prefix]

/-- The delimiter is found where it stands when it does not begin before. -/
theorem breakAt_append {sep before rest : List α}
    (h : ∀ u v, before = u ++ v → v ≠ [] → ¬ sep <+: v ++ (sep ++ rest)) :
  breakAt sep (before ++ (sep ++ rest)) = some (before, rest)
  := by
  induction before with
  | nil => exact breakAt_here sep rest
  | cons c before ih =>
      have hrest := ih fun u v huv hv => h (c :: u) v (congrArg (c :: ·) huv) hv
      have hhere : ¬ sep <+: c :: (before ++ (sep ++ rest)) :=
        h [] (c :: before) rfl (List.cons_ne_nil c before)
      rw [List.cons_append, breakAt_cons hhere, hrest]
      rfl

/-- The delimiter is found where it stands when its first element is not found before. -/
theorem breakAt_append_of_not_mem {a : α} {sep before rest : List α} (h : a ∉ before) :
  breakAt (a :: sep) (before ++ (a :: sep ++ rest)) = some (before, rest)
  := by
  apply breakAt_append
  rintro u v rfl hv hoccurs
  cases v with
  | nil => exact hv rfl
  | cons c v =>
      rw [List.cons_append, List.cons_prefix_cons] at hoccurs
      apply h
      rw [hoccurs.1]
      exact List.mem_append_right u List.mem_cons_self

/-- A part without the delimiter is read back, when the delimiter does not overlap itself. -/
theorem breakAt_part {sep part : List α} (rest : List α) (hsep : Unbordered sep)
    (hpart : ¬ sep <:+: part) :
  breakAt sep (part ++ (sep ++ rest)) = some (part, rest)
  := by
  apply breakAt_append
  rintro u v rfl hv
  apply not_occurs_before hsep hv
  intro hwithin
  exact hpart (hwithin.isInfix.trans (List.suffix_append u v).isInfix)

end Delimiters
