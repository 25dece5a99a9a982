import Mathlib.Data.List.GetD

/-!
# Pairing by position

Of the elements of a list some are found again, and the tags of these are given to the elements by
position, a default when there are none left. Every element gets its own tag exactly when those
that are not found come last and have the default tag, as all after the first of them do.
-/

namespace Pairing

variable {α τ : Type} (isFound : α → Bool) (tag : α → Option τ) (default : τ)

/-- The tags of the elements that are found. -/
def found (l : List α) : List τ := (l.filter isFound).filterMap tag

/-- Every element gets its own tag. -/
def Matched (l : List α) : Prop :=
  ∀ i, (h : i < l.length) → tag l[i] = some ((found isFound tag l).getD i default)

/-- The elements are found up to one from which on all have the default tag. -/
def Aligned : List α → Prop
  | [] => True
  | a :: l => isFound a = true ∧ Aligned l ∨ ∀ b ∈ a :: l, tag b = some default

variable {isFound tag default} {a : α} {l : List α}

theorem found_cons {t : τ} (ha : isFound a = true) (ht : tag a = some t) :
  found isFound tag (a :: l) = t :: found isFound tag l
  := by
  rw [found, List.filter_cons_of_pos ha, List.filterMap_cons_some ht]
  rfl

theorem found_cons_of_not (ha : isFound a = false) :
  found isFound tag (a :: l) = found isFound tag l
  := by
  rw [found, List.filter_cons_of_neg (Bool.eq_false_iff.mp ha)]
  rfl

theorem aligned_of_default (h : ∀ b ∈ l, tag b = some default) :
  Aligned isFound tag default l
  := by
  cases l with
  | nil => trivial
  | cons a l => exact .inr h

/-- The elements that are found have tags. -/
def Tagged (isFound : α → Bool) (tag : α → Option τ) (l : List α) : Prop :=
  ∀ a ∈ l, isFound a = true → ∃ t, tag a = some t

theorem Tagged.tail (h : Tagged isFound tag (a :: l)) : Tagged isFound tag l :=
  fun b hb => h b (.tail _ hb)

/-- A tag that is found is not before its element. -/
theorem exists_of_lt_found (tagged : Tagged isFound tag l) {i : ℕ}
    (h : i < (found isFound tag l).length) :
  ∃ j, i ≤ j ∧ ∃ hj : j < l.length, tag l[j] = some ((found isFound tag l)[i])
  := by
  induction l generalizing i with
  | nil => exact absurd h (Nat.not_lt_zero i)
  | cons a l ih =>
      cases ha : isFound a with
      | false =>
          simp only [found_cons_of_not ha] at h ⊢
          obtain ⟨j, le, hj, ht⟩ := ih tagged.tail h
          exact ⟨j + 1, Nat.le_succ_of_le le, Nat.succ_lt_succ hj, ht⟩
      | true =>
          obtain ⟨t, ht⟩ := tagged a (.head _) ha
          simp only [found_cons ha ht] at h ⊢
          cases i with
          | zero => exact ⟨0, Nat.le_refl 0, Nat.succ_pos _, ht⟩
          | succ i =>
              obtain ⟨j, le, hj, ht⟩ := ih tagged.tail (Nat.lt_of_succ_lt_succ h)
              exact ⟨j + 1, Nat.succ_le_succ le, Nat.succ_lt_succ hj, ht⟩

/-- When an element that is not found gets its own tag, so that all do, the tags from it on are the
default. -/
theorem found_default (tagged : Tagged isFound tag l) (ha : isFound a = false)
    (matched : Matched isFound tag default (a :: l)) (k i : ℕ)
    (h : (found isFound tag l).length ≤ i + k) :
  (found isFound tag l).getD i default = default
  := by
  induction k generalizing i with
  | zero => exact List.getD_eq_default _ _ h
  | succ k ih =>
      by_cases inside : i < (found isFound tag l).length
      · obtain ⟨j, le, hj, ht⟩ := exists_of_lt_found tagged inside
        -- The element that the tag belongs to gets one that is further on.
        have given := matched (j + 1) (Nat.succ_lt_succ hj)
        rw [List.getElem_cons_succ, found_cons_of_not ha, ht, ih (j + 1) (by omega)] at given
        rw [List.getD_eq_getElem _ _ inside]
        exact Option.some.inj given
      · exact List.getD_eq_default _ _ (Nat.not_lt.mp inside)

theorem matched_of_default (tagged : Tagged isFound tag l) (h : ∀ b ∈ l, tag b = some default) :
  Matched isFound tag default l
  := by
  intro i hi
  rw [h _ (List.getElem_mem hi)]
  by_cases inside : i < (found isFound tag l).length
  · obtain ⟨j, -, hj, ht⟩ := exists_of_lt_found tagged inside
    rw [List.getD_eq_getElem _ _ inside, ← ht, h _ (List.getElem_mem hj)]
  · rw [List.getD_eq_default _ _ (Nat.not_lt.mp inside)]

theorem matched_cons_iff (tagged : Tagged isFound tag (a :: l)) (ha : isFound a = true) :
  Matched isFound tag default (a :: l) ↔ Matched isFound tag default l
  := by
  obtain ⟨t, ht⟩ := tagged a (.head _) ha
  constructor
  · intro matched i hi
    have := matched (i + 1) (Nat.succ_lt_succ hi)
    rwa [found_cons ha ht] at this
  · intro matched i hi
    rw [found_cons ha ht]
    cases i with
    | zero => exact ht
    | succ i => exact matched i (Nat.lt_of_succ_lt_succ hi)

/-- Every element gets its own tag exactly when the list is aligned. -/
theorem matched_iff_aligned (tagged : Tagged isFound tag l) :
  Matched isFound tag default l ↔ Aligned isFound tag default l
  := by
  induction l with
  | nil => exact iff_of_true (fun _ h => absurd h (Nat.not_lt_zero _)) trivial
  | cons a l ih =>
      cases ha : isFound a with
      | true =>
          rw [matched_cons_iff tagged ha, ih tagged.tail, Aligned]
          constructor
          · exact fun h => .inl ⟨ha, h⟩
          · rintro (⟨-, h⟩ | h)
            · exact h
            · exact aligned_of_default fun b hb => h b (.tail _ hb)
      | false =>
          constructor
          · intro matched
            refine .inr fun b hb => ?_
            obtain ⟨i, hi, rfl⟩ := List.mem_iff_getElem.mp hb
            rw [matched i hi, found_cons_of_not ha,
              found_default tagged.tail ha matched _ i (Nat.le_add_left _ i)]
          · rintro (⟨found, -⟩ | h)
            · rw [ha] at found
              cases found
            · exact matched_of_default tagged h

end Pairing
