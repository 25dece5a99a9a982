import Mathlib.Data.List.InsertIdx
import Mathlib.Data.List.Perm.Basic
import Mathlib.Data.List.Range
import Mathlib.Tactic.Ring

/-!
# Merging to a fixpoint

The elements of a list are merged two at a time: the first pair that is to be merged is replaced by
the result, in the place of its first element, until there is no such pair. The loop ends, as every
pass that merges shortens the list; what every merge keeps, the result has; and no two elements
that are left are to be merged.
-/

namespace Merging

variable {α : Type} (should : α → α → Bool) (merge : α → α → α)

/-- The pairs of places of a list of length `n`, in the order of two nested loops. -/
def pairs (n : ℕ) : List (ℕ × ℕ) :=
  (List.range n).flatMap fun i => (List.range' (i + 1) (n - (i + 1))).map (i, ·)

theorem mem_pairs {n i j : ℕ} : (i, j) ∈ pairs n ↔ i < j ∧ j < n := by
  simp only [pairs, List.mem_flatMap, List.mem_range, List.mem_map, List.mem_range'_1,
    Prod.mk.injEq]
  constructor
  · rintro ⟨i', hi, j', hj, rfl, rfl⟩
    omega
  · intro h
    exact ⟨i, by omega, j, by omega, rfl, rfl⟩

/-- The list with the elements at two places replaced by one at the first of them. -/
def replace (l : List α) (i j : ℕ) (a : α) : List α := ((l.eraseIdx j).eraseIdx i).insertIdx i a

/-- The elements at two places are merged, if they are to be. -/
def mergeAt (l : List α) (i j : ℕ) : Option (List α) :=
  match l[i]?, l[j]? with
  | some p, some q => if should p q then some (replace l i j (merge p q)) else none
  | _, _ => none

/-- The first pair that is to be merged is merged. -/
def pass (l : List α) : Option (List α) :=
  (pairs l.length).findSome? fun place => mergeAt should merge l place.1 place.2

variable {should merge}

/-- A pass that merges replaces two elements that are to be merged. -/
theorem pass_eq_some {l l' : List α} (h : pass should merge l = some l') :
  ∃ i j, ∃ hi : i < l.length, ∃ hj : j < l.length,
    i < j ∧ should l[i] l[j] = true ∧ l' = replace l i j (merge l[i] l[j])
  := by
  obtain ⟨⟨i, j⟩, hp, h⟩ := List.exists_of_findSome?_eq_some h
  obtain ⟨hij, hj⟩ := mem_pairs.mp hp
  have hi := hij.trans hj
  use i, j, hi, hj, hij
  rw [mergeAt, List.getElem?_eq_getElem hi, List.getElem?_eq_getElem hj] at h
  dsimp only at h
  split at h
  · next hs => exact ⟨hs, (Option.some.inj h).symm⟩
  · cases h

/-- A pass that does not merge finds no two elements that are to be merged. -/
theorem pass_eq_none {l : List α} (h : pass should merge l = none) :
  l.Pairwise fun p q => should p q = false
  := by
  apply List.pairwise_iff_getElem.mpr
  intro i j hi hj hij
  have := List.findSome?_eq_none_iff.mp h (i, j) (mem_pairs.mpr ⟨hij, hj⟩)
  rw [mergeAt, List.getElem?_eq_getElem hi, List.getElem?_eq_getElem hj] at this
  dsimp only at this
  split at this
  · cases this
  · next hs => exact Bool.eq_false_iff.mpr hs

theorem length_replace {l : List α} {i j : ℕ} (hi : i < j) (hj : j < l.length) (a : α) :
  (replace l i j a).length + 1 = l.length
  := by
  have erased : (l.eraseIdx j).length = l.length - 1 := List.length_eraseIdx_of_lt hj
  have both : ((l.eraseIdx j).eraseIdx i).length = l.length - 2 := by
    rw [List.length_eraseIdx_of_lt (by omega), erased]
    omega
  rw [replace, List.length_insertIdx_of_le_length (by omega), both]
  omega

theorem mem_replace {l : List α} {i j : ℕ} {a b : α} (h : b ∈ replace l i j a) :
  b = a ∨ b ∈ l
  := by
  rcases List.eq_or_mem_of_mem_insertIdx h with rfl | h
  · exact .inl rfl
  · exact .inr (List.mem_of_mem_eraseIdx (List.mem_of_mem_eraseIdx h))

/-- What is replaced are the two elements. -/
theorem exists_perm_replace {l : List α} {i j : ℕ} (hi : i < j) (hj : j < l.length) (a : α) :
  ∃ rest, l.Perm (l[i] :: l[j] :: rest) ∧ (replace l i j a).Perm (a :: rest)
  := by
  have hi' : i < (l.eraseIdx j).length := by
    rw [List.length_eraseIdx_of_lt hj]
    omega
  have hsame : (l.eraseIdx j)[i] = l[i] := List.getElem_eraseIdx_of_lt hi' hi
  use (l.eraseIdx j).eraseIdx i
  constructor
  · have hfirst : l.Perm (l[j] :: l.eraseIdx j) := (List.getElem_cons_eraseIdx_perm hj).symm
    have hsecond : (l.eraseIdx j).Perm (l[i] :: (l.eraseIdx j).eraseIdx i) :=
      hsame ▸ (List.getElem_cons_eraseIdx_perm hi').symm
    exact (hfirst.trans (hsecond.cons _)).trans (.swap _ _ _)
  · apply List.perm_insertIdx
    rw [List.length_eraseIdx_of_lt hi']
    omega

/-- Up to its order, a pass that merges takes two elements from the list and adds one. -/
theorem pass_perm {l l' : List α} (h : pass should merge l = some l') :
  ∃ p q rest, should p q = true ∧ l.Perm (p :: q :: rest) ∧ l'.Perm (merge p q :: rest)
  := by
  obtain ⟨i, j, hi, hj, hij, hshould, rfl⟩ := pass_eq_some h
  obtain ⟨rest, hbefore, hafter⟩ := exists_perm_replace hij hj (merge l[i] l[j])
  exact ⟨l[i], l[j], rest, hshould, hbefore, hafter⟩

theorem pass_length {l l' : List α} (h : pass should merge l = some l') :
  l'.length < l.length
  := by
  obtain ⟨i, j, hi, hj, hij, -, rfl⟩ := pass_eq_some h
  have := length_replace hij hj (merge l[i] l[j])
  omega

variable (should merge)

/-- Passes are made until one does not merge. -/
def loop (l : List α) : List α :=
  match _h : pass should merge l with
  | some l' => loop l'
  | none => l
termination_by l.length
decreasing_by exact pass_length _h

variable {should merge}

/-- What holds of a list and is kept by every pass holds of the result, which no pass changes. -/
theorem loop_induct {P : List α → Prop} (step : ∀ l l', P l → pass should merge l = some l' → P l')
    {l : List α} (h : P l) :
  P (loop should merge l) ∧ pass should merge (loop should merge l) = none
  := by
  induction l using loop.induct should merge with
  | case1 l l' hp ih =>
      rw [loop, hp]
      exact ih (step l l' h hp)
  | case2 l hp =>
      rw [loop, hp]
      exact ⟨h, hp⟩

variable (should merge) in
/-- The loop makes as many passes that merge as the list loses elements. -/
theorem loop_passes (l : List α) :
  ∃ passes, passes + (loop should merge l).length = l.length ∧
    (Option.bind · (pass should merge))^[passes] (some l) = some (loop should merge l)
  := by
  induction l using loop.induct should merge with
  | case1 l l' hp ih =>
      obtain ⟨passes, length, iterates⟩ := ih
      obtain ⟨i, j, hi, hj, hij, -, rfl⟩ := pass_eq_some hp
      have shorter := length_replace hij hj (merge l[i] l[j])
      use passes + 1
      rw [loop, hp]
      constructor
      · dsimp only
        omega
      · rw [Function.iterate_succ_apply, Option.bind_some, hp]
        exact iterates
  | case2 l hp =>
      use 0
      rw [loop, hp]
      exact ⟨Nat.zero_add _, rfl⟩

/-- No two elements of the result are to be merged. -/
theorem loop_pairwise (l : List α) :
  (loop should merge l).Pairwise fun p q => should p q = false
  := pass_eq_none (loop_induct (fun _ _ (_ : True) _ => trivial) trivial).2

/-- What merging two elements keeps, every element of the result has. -/
theorem loop_forall {P : α → Prop}
    (keeps : ∀ p q, P p → P q → should p q = true → P (merge p q)) {l : List α}
    (h : ∀ p ∈ l, P p) :
  ∀ p ∈ loop should merge l, P p
  := by
  have step (l l' : List α) (h : ∀ p ∈ l, P p) (hp : pass should merge l = some l') :
      ∀ p ∈ l', P p := by
    obtain ⟨i, j, hi, hj, -, hs, rfl⟩ := pass_eq_some hp
    intro p hm
    rcases mem_replace hm with rfl | hm
    · apply keeps _ _ _ _ hs
      · exact h _ (List.getElem_mem _)
      · exact h _ (List.getElem_mem _)
    · exact h p hm
  exact (loop_induct step h).1

end Merging
