import Mathlib.Data.List.Sort
import Mathlib.Data.Set.Defs

/-!
# Sorting by a comparison

A sort that only asks whether an element is less than another one. Where the comparison is a
strict weak order the sort is the stable one, and elements that are left out leave the others in
their order. Tuples of numbers are compared from the front; one of their numbers may be no number
(`none`), which is neither equal to anything nor less than anything, and then the comparison need
not be a strict weak order.
-/

namespace Sorting

variable {α K : Type}

/-! ### Comparisons -/

/-- A comparison that is a strict weak order on a set. -/
structure WeaklyOrders (less : α → α → Bool) (s : Set α) : Prop where
  asymm : ∀ a ∈ s, ∀ b ∈ s, less a b = true → less b a = false
  negTrans : ∀ a ∈ s, ∀ b ∈ s, ∀ x ∈ s, less b a = true → less x a = true ∨ less b x = true

theorem WeaklyOrders.mono {less : α → α → Bool} {s t : Set α} (h : WeaklyOrders less t)
    (hst : ∀ a ∈ s, a ∈ t) :
  WeaklyOrders less s
  where
  asymm a ha b hb := h.asymm a (hst a ha) b (hst b hb)
  negTrans a ha b hb x hx := h.negTrans a (hst a ha) b (hst b hb) x (hst x hx)

/-- The second of two elements is not less than the first one. -/
abbrev inOrder (less : α → α → Bool) (a b : α) : Prop := less b a = false

/-! ### Sorts -/

/-- A sort by a comparison. -/
structure Sorter (less : α → α → Bool) where
  sort : List α → List α
  /-- Nothing is added and nothing is lost. -/
  perm : ∀ xs, (sort xs).Perm xs
  /-- Where the comparison is a strict weak order, the sort is stable. -/
  stable : ∀ xs, WeaklyOrders less {a | a ∈ xs} → sort xs = xs.insertionSort (inOrder less)
  /-- A list of which no element is less than the one before it is left as it is. -/
  run : ∀ xs, xs.IsChain (inOrder less) → sort xs = xs

theorem insertionSort_of_isChain {r : α → α → Prop} [DecidableRel r] {xs : List α}
    (h : xs.IsChain r) :
  xs.insertionSort r = xs
  := by
  induction xs with
  | nil => rfl
  | cons x xs ih =>
      rw [List.insertionSort_cons, ih h.of_cons]
      cases xs with
      | nil => rfl
      | cons y ys => exact List.orderedInsert_cons_of_le _ _ (List.isChain_cons_cons.mp h).1

/-- The sort by insertion. -/
def byInsertion (less : α → α → Bool) : Sorter less where
  sort xs := xs.insertionSort (inOrder less)
  perm := List.perm_insertionSort _
  stable _ _ := rfl
  run _ h := insertionSort_of_isChain h

/-- What is sorted among more elements is in the same order as on its own. -/
theorem insertionSort_sublist {r : α → α → Prop} [DecidableRel r] [Std.Total r] [IsTrans α r]
    {xs ys : List α} (h : xs.Sublist ys) :
  (xs.insertionSort r).Sublist (ys.insertionSort r)
  := by
  induction h with
  | slnil => exact List.Sublist.refl _
  | cons y _ ih => exact ih.trans (List.sublist_orderedInsert ..)
  | cons_cons y _ ih =>
      exact List.Sublist.orderedInsert_sublist y ih (List.pairwise_insertionSort _ _)

/-- It is so where the comparison is a strict weak order on the elements alone. -/
theorem WeaklyOrders.insertionSort_sublist {less : α → α → Bool} {xs ys : List α}
    (hless : WeaklyOrders less {a | a ∈ ys}) (h : xs.Sublist ys) :
  (xs.insertionSort (inOrder less)).Sublist (ys.insertionSort (inOrder less))
  := by
  let r : {a // a ∈ ys} → {a // a ∈ ys} → Prop := fun a b => inOrder less a.1 b.1
  have hdecidable : DecidableRel r := fun a b => inferInstanceAs (Decidable (less b.1 a.1 = false))
  have htotal : Std.Total r := by
    constructor
    intro a b
    cases hba : less b.1 a.1 with
    | false => exact .inl hba
    | true => exact .inr (hless.asymm _ b.2 _ a.2 hba)
  have htrans : IsTrans {a // a ∈ ys} r := by
    constructor
    intro a b c hab hbc
    by_contra hca
    rcases hless.negTrans _ a.2 _ c.2 _ b.2 (Bool.not_eq_false _ ▸ hca) with hba | hcb
    · exact Bool.false_ne_true (hab.symm.trans hba)
    · exact Bool.false_ne_true (hbc.symm.trans hcb)
  have hsorted (zs : List {a // a ∈ ys}) : (zs.insertionSort r).map Subtype.val =
      (zs.map Subtype.val).insertionSort (inOrder less) :=
    List.map_insertionSort _ _ _ _ fun _ _ _ _ => Iff.rfl
  rw [← List.attach_map_subtype_val ys] at h ⊢
  obtain ⟨zs, hzs, rfl⟩ := List.sublist_map_iff.mp h
  rw [← hsorted, ← hsorted]
  exact (Sorting.insertionSort_sublist hzs).map _

namespace Sorter

variable {less : α → α → Bool} (s : Sorter less)

theorem mem_sort {xs : List α} {a : α} :
  a ∈ s.sort xs ↔ a ∈ xs
  := (s.perm xs).mem_iff

/-- Elements that are left out leave the others in their order. -/
theorem sublist {xs ys : List α} (h : xs.Sublist ys) (hless : WeaklyOrders less {a | a ∈ ys}) :
  (s.sort xs).Sublist (s.sort ys)
  := by
  rw [s.stable ys hless, s.stable xs (hless.mono fun _ ha => h.subset ha)]
  exact hless.insertionSort_sublist h

/-- Of two elements the lesser one comes first. -/
theorem pair (hasymm : ∀ {a b}, less a b = true → less b a = false) {a b : α}
    (hba : less b a = true) :
  s.sort [a, b] = [b, a]
  := by
  have hirrefl (c : α) : less c c = false := by
    cases h : less c c with
    | false => rfl
    | true => exact h.symm.trans (hasymm h)
  have hless : WeaklyOrders less {c | c ∈ [a, b]} := by
    constructor
    · exact fun _ _ _ _ => hasymm
    · intro c hc d hd x hx hdc
      simp only [Set.mem_ofPred_eq, List.mem_cons, List.not_mem_nil, or_false] at hc hd hx
      rcases hx with rfl | rfl
      · rcases hd with rfl | rfl
        · exact .inl hdc
        · exact .inr hba
      · rcases hc with rfl | rfl
        · exact .inl hba
        · exact .inr hdc
  rw [s.stable [a, b] hless]
  simp [inOrder, hba]

end Sorter

/-! ### Tuples -/

variable [LinearOrder K]

/-- `x == y` -/
def same : Option K → Option K → Bool
  | some x, some y => x = y
  | _, _ => false

/-- `x < y` -/
def less : Option K → Option K → Bool
  | some x, some y => x < y
  | _, _ => false

/-- A tuple is less than another one if it is in the first place where they differ. -/
def tupleLess : List (Option K) → List (Option K) → Bool
  | x :: xs, y :: ys => if same x y then tupleLess xs ys else less x y
  | [], _ :: _ => true
  | _, [] => false

theorem same_comm (x y : Option K) :
  same x y = same y x
  := by
  cases x <;> cases y <;> simp [same, eq_comm]

theorem tupleLess_asymm {xs ys : List (Option K)} (h : tupleLess xs ys = true) :
  tupleLess ys xs = false
  := by
  induction xs generalizing ys with
  | nil =>
      cases ys with
      | nil => cases h
      | cons y ys => rfl
  | cons x xs ih =>
      cases ys with
      | nil => cases h
      | cons y ys =>
          simp only [tupleLess, same_comm y x] at h ⊢
          split_ifs at h ⊢ with hsame
          · exact ih h
          · cases x <;> cases y <;> simp [less] at h ⊢
            exact h.le

theorem tupleLess_irrefl (xs : List (Option K)) :
  tupleLess xs xs = false
  := by
  cases h : tupleLess xs xs with
  | false => rfl
  | true => exact h.symm.trans (tupleLess_asymm h)

/-- Where every place has a number, a tuple is less than one of two others, or greater than the
other one, if these differ. -/
theorem tupleLess_negTrans {xs ys zs : List (Option K)} (hxs : none ∉ xs) (hys : none ∉ ys)
    (hzs : none ∉ zs) (h : tupleLess ys xs = true) :
  tupleLess zs xs = true ∨ tupleLess ys zs = true
  := by
  induction xs generalizing ys zs with
  | nil => cases ys <;> cases h
  | cons x xs ih =>
      cases zs with
      | nil => exact .inl rfl
      | cons z zs =>
          cases ys with
          | nil => exact .inr rfl
          | cons y ys =>
              obtain ⟨x, rfl⟩ := Option.ne_none_iff_exists'.mp (ne_of_mem_of_not_mem
                List.mem_cons_self hxs)
              obtain ⟨y, rfl⟩ := Option.ne_none_iff_exists'.mp (ne_of_mem_of_not_mem
                List.mem_cons_self hys)
              obtain ⟨z, rfl⟩ := Option.ne_none_iff_exists'.mp (ne_of_mem_of_not_mem
                List.mem_cons_self hzs)
              simp only [tupleLess, same, less, decide_eq_true_eq] at h ⊢
              rcases lt_trichotomy z x with hzx | rfl | hxz
              · left
                rw [if_neg hzx.ne]
                exact decide_eq_true hzx
              · rw [if_pos rfl]
                split_ifs at h ⊢ with hyz
                · exact ih (by simp_all) (by simp_all) (by simp_all) h
                · exact .inr h
              · right
                have hyx : y ≤ x := by
                  split_ifs at h with heq
                  · exact heq.le
                  · exact (of_decide_eq_true h).le
                rw [if_neg (hyx.trans_lt hxz).ne]
                exact decide_eq_true (hyx.trans_lt hxz)

/-- Tuples without a place that is no number are weakly ordered. -/
theorem weaklyOrders_tupleLess {key : α → List (Option K)} {s : Set α}
    (h : ∀ a ∈ s, none ∉ key a) :
  WeaklyOrders (fun a b => tupleLess (key a) (key b)) s
  where
  asymm _ _ _ _ := tupleLess_asymm
  negTrans a ha b hb x hx := tupleLess_negTrans (h a ha) (h b hb) (h x hx)

end Sorting
