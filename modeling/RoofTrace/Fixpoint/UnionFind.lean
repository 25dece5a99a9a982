import Mathlib.Data.Fintype.Card
import Mathlib.Data.List.FinRange
import Mathlib.Logic.Relation

/-!
# Union-find with path halving

A forest of parents, in which a root is its own parent. To find the root of an element, each
element on the way is given its grandparent for a parent; two trees are joined by giving one root
the other for a parent. A rank that decreases along parents, which no run computes, shows that the
search ends; what an element leads to is kept by halving, and joined by a union.
-/

namespace UnionFind

variable {α : Type}

/-! ### Roots -/

/-- The root that an element leads to. -/
inductive Leads (parent : α → α) : α → α → Prop
  | root {r : α} : parent r = r → Leads parent r r
  | step {i r : α} : parent i ≠ i → Leads parent (parent i) r → Leads parent i r

/-- A rank that decreases along the parents, down to zero at the roots. -/
structure Ranked (parent : α → α) (rank : α → ℕ) : Prop where
  lt : ∀ i, parent i ≠ i → rank (parent i) < rank i
  zero : ∀ i, parent i = i → rank i = 0

theorem Leads.parent_eq {parent : α → α} {i r : α} (h : Leads parent i r) :
  parent r = r
  := by
  induction h with
  | root hr => exact hr
  | step _ _ ih => exact ih

theorem Leads.eq_of_parent_eq {parent : α → α} {i r : α} (h : Leads parent i r)
    (hi : parent i = i) :
  r = i
  := by
  cases h with
  | root _ => rfl
  | step hne _ => exact absurd hi hne

theorem Leads.of_parent_ne {parent : α → α} {i r : α} (h : Leads parent i r) (hi : parent i ≠ i) :
  Leads parent (parent i) r
  := by
  cases h with
  | root hr => exact absurd hr hi
  | step _ hrest => exact hrest

/-- An element leads to one root. -/
theorem Leads.unique {parent : α → α} {i r s : α} (h : Leads parent i r) (h' : Leads parent i s) :
  r = s
  := by
  induction h with
  | root hr => exact (h'.eq_of_parent_eq hr).symm
  | step hne _ ih => exact ih (h'.of_parent_ne hne)

/-- Every element of a ranked forest leads to a root. -/
theorem Ranked.exists_leads {parent : α → α} {rank : α → ℕ} (h : Ranked parent rank) (i : α) :
  ∃ r, Leads parent i r
  := by
  induction hn : rank i using Nat.strong_induction_on generalizing i with
  | _ n ih =>
      by_cases hi : parent i = i
      · exact ⟨i, Leads.root hi⟩
      · obtain ⟨r, hr⟩ := ih (rank (parent i)) (hn ▸ h.lt i hi) (parent i) rfl
        exact ⟨r, Leads.step hi hr⟩

/-- Elements that lead to the same root. -/
def Together (parent : α → α) (a b : α) : Prop := ∃ r, Leads parent a r ∧ Leads parent b r

theorem Ranked.together_equivalence {parent : α → α} {rank : α → ℕ} (h : Ranked parent rank) :
  Equivalence (Together parent)
  := by
  constructor
  · intro a
    obtain ⟨r, hr⟩ := h.exists_leads a
    exact ⟨r, hr, hr⟩
  · rintro a b ⟨r, ha, hb⟩
    exact ⟨r, hb, ha⟩
  · rintro a b c ⟨r, ha, hb⟩ ⟨s, hb', hc⟩
    rw [hb.unique hb'] at ha
    exact ⟨s, ha, hc⟩

/-! ### Forests without a cycle -/

/-- A forest that can be ranked. -/
def Acyclic (parent : α → α) : Prop := ∃ rank, Ranked parent rank

theorem acyclic_id : Acyclic (id : α → α) :=
  ⟨fun _ => 0, fun _ hi => absurd rfl hi, fun _ _ => rfl⟩

/-- The elements that are reached from an element, other than itself. -/
def Above (parent : α → α) (i b : α) : Prop := b ≠ i ∧ ∃ k, parent^[k] i = b

theorem Ranked.iterate_le {parent : α → α} {rank : α → ℕ} (h : Ranked parent rank) (k : ℕ) (i : α) :
  rank (parent^[k] i) ≤ rank i
  := by
  induction k generalizing i with
  | zero => exact Nat.le_refl _
  | succ k ih =>
      rw [Function.iterate_succ_apply]
      apply (ih (parent i)).trans
      by_cases hi : parent i = i
      · rw [hi]
      · exact (h.lt i hi).le

/-- What is above the parent of an element is above the element. -/
theorem Ranked.above_of_above_parent {parent : α → α} {rank : α → ℕ} (h : Ranked parent rank)
    {i b : α} (hi : parent i ≠ i) (hb : Above parent (parent i) b) :
  Above parent i b
  := by
  obtain ⟨-, k, rfl⟩ := hb
  refine ⟨?_, k + 1, rfl⟩
  intro heq
  have hle := h.iterate_le k (parent i)
  rw [heq] at hle
  exact absurd (h.lt i hi) (Nat.not_lt.mpr hle)

/-- A finite forest without a cycle is ranked below the number of its elements. -/
theorem Acyclic.exists_rank_lt [Fintype α] {parent : α → α} (h : Acyclic parent) :
  ∃ rank, Ranked parent rank ∧ ∀ i, rank i < Fintype.card α
  := by
  classical
  obtain ⟨rank, hrank⟩ := h
  have hself : ∀ i, i ∉ Finset.univ.filter (Above parent i) := by
    intro i hi
    exact (Finset.mem_filter.mp hi).2.1 rfl
  refine ⟨fun i => (Finset.univ.filter (Above parent i)).card, ⟨?_, ?_⟩, ?_⟩
  · intro i hi
    have hsubset : Finset.univ.filter (Above parent (parent i)) ⊆
        Finset.univ.filter (Above parent i) := by
      intro b hb
      rw [Finset.mem_filter] at hb ⊢
      exact ⟨hb.1, hrank.above_of_above_parent hi hb.2⟩
    apply Finset.card_lt_card
    apply (Finset.ssubset_iff_of_subset hsubset).mpr
    refine ⟨parent i, ?_, hself (parent i)⟩
    exact Finset.mem_filter.mpr ⟨Finset.mem_univ _, hi, 1, rfl⟩
  · intro i hi
    rw [Finset.card_eq_zero, Finset.filter_eq_empty_iff]
    rintro b - ⟨hne, k, rfl⟩
    exact hne (Function.iterate_fixed hi k)
  · intro i
    rw [← Finset.card_univ]
    apply Finset.card_lt_card
    exact Finset.filter_ssubset.mpr ⟨i, Finset.mem_univ i, fun habove => habove.1 rfl⟩

theorem Acyclic.together_equivalence {parent : α → α} (h : Acyclic parent) :
  Equivalence (Together parent)
  := by
  obtain ⟨rank, hrank⟩ := h
  exact hrank.together_equivalence

theorem eqvGen_together_id (pairs : List (α × α)) (a b : α) :
  Relation.EqvGen (fun a b => Together id a b ∨ (a, b) ∈ pairs) a b ↔
    Relation.EqvGen (fun a b => (a, b) ∈ pairs) a b
  := by
  constructor
  · intro hab
    rw [← (Relation.EqvGen.is_equivalence _).eqvGen_iff]
    apply hab.mono
    rintro a b (⟨r, ha, hb⟩ | hmem)
    · have hra := ha.eq_of_parent_eq rfl
      have hrb := hb.eq_of_parent_eq rfl
      rw [← hra, ← hrb]
      exact Relation.EqvGen.refl _
    · exact Relation.EqvGen.rel _ _ hmem
  · intro hab
    exact hab.mono fun a b hmem => Or.inr hmem

/-! ### The algorithm -/

variable [DecidableEq α]

/-- The search for the root of an element: `none` when the fuel is used up. -/
def find : ℕ → (α → α) → α → Option (α × (α → α))
  | 0, _, _ => none
  | fuel + 1, parent, i =>
      if parent i = i then some (i, parent)
      else
        let parent := Function.update parent i (parent (parent i))
        find fuel parent (parent i)

/-- `parent[find(i)] = find(j)`: what is assigned is found first. -/
def union (fuel : ℕ) (parent : α → α) (i j : α) : Option (α → α) := do
  let (s, parent) ← find fuel parent j
  let (r, parent) ← find fuel parent i
  return Function.update parent r s

/-- The forest after the unions of pairs, one after the other. -/
def unions (fuel : ℕ) (parent : α → α) : List (α × α) → Option (α → α)
  | [] => some parent
  | (i, j) :: pairs => do
      let parent ← union fuel parent i j
      unions fuel parent pairs

/-- `groups.setdefault(root, []).append(i)` -/
def addTo (groups : List (α × List α)) (root i : α) : List (α × List α) :=
  if groups.any (·.1 = root) then
    groups.map fun group => if group.1 = root then (group.1, group.2 ++ [i]) else group
  else groups ++ [(root, [i])]

/-- The groups after elements have been added to those of their roots. -/
def groupAll (fuel : ℕ) : (α → α) → List (α × List α) → List α → Option (List (α × List α))
  | _, groups, [] => some groups
  | parent, groups, i :: rest => do
      let (root, parent) ← find fuel parent i
      groupAll fuel parent (addTo groups root i) rest

/-- The classes of elements, after the unions of pairs. -/
def classes (fuel : ℕ) (pairs : List (α × α)) (elements : List α) : Option (List (List α)) := do
  let parent ← unions fuel id pairs
  let groups ← groupAll fuel parent [] elements
  return groups.map (·.2)

/-! ### Halving -/

/-- The forest in which an element has its grandparent for a parent. -/
def halve (parent : α → α) (i : α) : α → α := Function.update parent i (parent (parent i))

theorem halve_self (parent : α → α) (i : α) : halve parent i i = parent (parent i) :=
  Function.update_self i _ parent

theorem halve_of_ne (parent : α → α) {i a : α} (h : a ≠ i) : halve parent i a = parent a :=
  Function.update_of_ne h _ parent

/-- The grandparent of an element that is not a root ranks below it. -/
theorem Ranked.grandparent_lt {parent : α → α} {rank : α → ℕ} (h : Ranked parent rank) {i : α}
    (hi : parent i ≠ i) :
  rank (parent (parent i)) < rank i
  := by
  have hparent := h.lt i hi
  by_cases hroot : parent (parent i) = parent i
  · rwa [hroot]
  · exact (h.lt _ hroot).trans hparent

/-- Halving a path keeps the ranks: the parent of a parent ranks below the element, as the parent
does. -/
theorem Ranked.halve {parent : α → α} {rank : α → ℕ} (h : Ranked parent rank) {i : α}
    (hi : parent i ≠ i) :
  Ranked (halve parent i) rank
  := by
  constructor
  · intro a ha
    by_cases hai : a = i
    · subst hai
      rw [halve_self]
      exact h.grandparent_lt hi
    · rw [halve_of_ne parent hai] at ha ⊢
      exact h.lt a ha
  · intro a ha
    by_cases hai : a = i
    · subst hai
      rw [halve_self] at ha
      exact absurd (ha ▸ h.grandparent_lt hi) (lt_irrefl _)
    · rw [halve_of_ne parent hai] at ha
      exact h.zero a ha

/-- Halving keeps what an element leads to. -/
theorem Ranked.leads_halve {parent : α → α} {rank : α → ℕ} (h : Ranked parent rank) {i : α}
    (hi : parent i ≠ i) {a r : α} (hr : Leads parent a r) :
  Leads (UnionFind.halve parent i) a r
  := by
  have hstay : ∀ {a}, a ≠ i → UnionFind.halve parent i a = parent a := halve_of_ne parent
  induction hr with
  | @root r hr =>
      have hri : r ≠ i := fun heq => hi (heq ▸ hr)
      exact Leads.root ((hstay hri).trans hr)
  | @step a r hne hrest ih =>
      by_cases hai : a = i
      · subst hai
        have hup : parent (parent a) ≠ a := fun heq =>
          absurd (heq ▸ h.grandparent_lt hi) (lt_irrefl _)
        apply Leads.step
        · rw [halve_self]
          exact hup
        · rw [halve_self]
          by_cases hroot : parent (parent a) = parent a
          · rw [hroot]
            exact ih
          · rw [← hstay hne]
            apply ih.of_parent_ne
            rw [hstay hne]
            exact hroot
      · apply Leads.step
        · rwa [hstay hai]
        · rwa [hstay hai]

theorem Ranked.leads_halve_iff {parent : α → α} {rank : α → ℕ} (h : Ranked parent rank) {i : α}
    (hi : parent i ≠ i) {a r : α} :
  Leads (UnionFind.halve parent i) a r ↔ Leads parent a r
  := by
  constructor
  · intro hr
    obtain ⟨s, hs⟩ := h.exists_leads a
    rwa [hr.unique (h.leads_halve hi hs)]
  · exact h.leads_halve hi

/-! ### Finding -/

/-- With more fuel than the rank of an element, its root is found, and the forest leads to the same
roots as before. -/
theorem Ranked.find {rank : α → ℕ} {fuel : ℕ} {parent : α → α} {i : α} (h : Ranked parent rank)
    (hfuel : rank i < fuel) :
  ∃ r after, find fuel parent i = some (r, after) ∧ Leads parent i r ∧ Ranked after rank ∧
    ∀ a s, Leads after a s ↔ Leads parent a s
  := by
  induction fuel generalizing parent i with
  | zero => exact absurd hfuel (Nat.not_lt_zero _)
  | succ fuel ih =>
      by_cases hi : parent i = i
      · exact ⟨i, parent, if_pos hi, Leads.root hi, h, fun a s => Iff.rfl⟩
      · have hlt : rank (UnionFind.halve parent i i) < fuel := by
          have hup := h.grandparent_lt hi
          rw [halve_self]
          omega
        obtain ⟨r, after, hfind, hr, hranked, hleads⟩ := ih (h.halve hi) hlt
        refine ⟨r, after, (if_neg hi).trans hfind, ?_, hranked, ?_⟩
        · rw [← h.leads_halve_iff hi]
          apply Leads.step _ hr
          rw [halve_self]
          exact fun heq => absurd (heq ▸ h.grandparent_lt hi) (lt_irrefl _)
        · intro a s
          rw [hleads, h.leads_halve_iff hi]

/-! ### Joining -/

/-- A root that is given another one for a parent: its tree leads to the other root. -/
theorem leads_link {parent : α → α} {r s a t : α} (hr : parent r = r) (hs : parent s = s)
    (hne : r ≠ s) (ht : Leads parent a t) :
  Leads (Function.update parent r s) a (if t = r then s else t)
  := by
  have hstay : ∀ {b}, b ≠ r → Function.update parent r s b = parent b :=
    fun hb => Function.update_of_ne hb _ _
  induction ht with
  | @root t ht =>
      split_ifs with htr
      · subst htr
        apply Leads.step
        · rw [Function.update_self]
          exact hne.symm
        · rw [Function.update_self]
          exact Leads.root ((hstay hne.symm).trans hs)
      · exact Leads.root ((hstay htr).trans ht)
  | @step a t ha _ ih =>
      have har : a ≠ r := fun heq => ha (heq ▸ hr)
      apply Leads.step
      · rwa [hstay har]
      · rwa [hstay har]

/-- The ranks of a forest in which a root has been given another one for a parent. -/
theorem Ranked.link {parent : α → α} {rank : α → ℕ} (h : Ranked parent rank) {r s : α}
    (hr : parent r = r) (hs : parent s = s) (hne : r ≠ s) :
  ∃ rank', Ranked (Function.update parent r s) rank'
  := by
  classical
  have hstay : ∀ {b}, b ≠ r → Function.update parent r s b = parent b :=
    fun hb => Function.update_of_ne hb _ _
  have htree : ∀ {a}, a ≠ r → parent a ≠ a → (Leads parent (parent a) r ↔ Leads parent a r) :=
    fun _ ha => ⟨Leads.step ha, fun hlead => hlead.of_parent_ne ha⟩
  have hother : ¬ Leads parent s r := fun hlead => hne (hlead.eq_of_parent_eq hs)
  refine ⟨fun a => if Leads parent a r then rank a + 1 else rank a, ?_, ?_⟩
  · intro a ha
    by_cases har : a = r
    · subst har
      rw [Function.update_self, if_neg hother, if_pos (Leads.root hr), h.zero s hs]
      exact Nat.succ_pos _
    · rw [hstay har] at ha ⊢
      have hlt := h.lt a ha
      simp only [htree har ha]
      split_ifs <;> omega
  · intro a ha
    by_cases har : a = r
    · subst har
      rw [Function.update_self] at ha
      exact absurd ha.symm hne
    · rw [hstay har] at ha
      have htree : ¬ Leads parent a r := fun hlead => har (hlead.eq_of_parent_eq ha).symm
      rw [if_neg htree]
      exact h.zero a ha

/-! ### Enough fuel -/

/-- In a finite forest without a cycle, fuel for each element is enough to find a root. -/
theorem Acyclic.find [Fintype α] {parent : α → α} (h : Acyclic parent) {fuel : ℕ}
    (hfuel : Fintype.card α ≤ fuel) (i : α) :
  ∃ r after, find fuel parent i = some (r, after) ∧ Leads parent i r ∧ Acyclic after ∧
    ∀ a s, Leads after a s ↔ Leads parent a s
  := by
  obtain ⟨rank, hrank, hlt⟩ := h.exists_rank_lt
  obtain ⟨r, after, hfind, hr, hranked, hleads⟩ := hrank.find ((hlt i).trans_le hfuel)
  exact ⟨r, after, hfind, hr, ⟨rank, hranked⟩, hleads⟩

/-! ### Unions -/

/-- Elements that are together in one forest or the pair of elements that are joined. -/
def Joined (parent : α → α) (i j a b : α) : Prop := Together parent a b ∨ (a = i ∧ b = j)

/-- In a forest in which a root has been linked, the trees of two elements are joined. -/
theorem Acyclic.together_link {parent : α → α} (h : Acyclic parent) {i j r s : α}
    (hi : Leads parent i r) (hj : Leads parent j s) :
  Acyclic (Function.update parent r s) ∧
    ∀ a b, Together (Function.update parent r s) a b ↔ Relation.EqvGen (Joined parent i j) a b
  := by
  obtain ⟨rank, hrank⟩ := h
  have hr := hi.parent_eq
  have hs := hj.parent_eq
  have hjoined : ∀ {a b}, Together parent a b → Relation.EqvGen (Joined parent i j) a b :=
    fun hab => Relation.EqvGen.rel _ _ (Or.inl hab)
  by_cases hne : r = s
  · subst hne
    have hsame : Function.update parent r r = parent := by
      rw [Function.update_eq_self_iff]
      exact hr.symm
    rw [hsame]
    refine ⟨⟨rank, hrank⟩, fun a b => ⟨hjoined, ?_⟩⟩
    intro hab
    have heqv := hrank.together_equivalence
    rw [← heqv.eqvGen_iff]
    apply hab.mono
    rintro a b (htogether | ⟨rfl, rfl⟩)
    · exact htogether
    · exact ⟨r, hi, hj⟩
  · obtain ⟨rank', hrank'⟩ := hrank.link hr hs hne
    have hlink := fun {a t} (ht : Leads parent a t) => leads_link hr hs hne ht
    refine ⟨⟨rank', hrank'⟩, fun a b => ⟨?_, ?_⟩⟩
    · rintro ⟨t, hat, hbt⟩
      obtain ⟨u, hau⟩ := hrank.exists_leads a
      obtain ⟨v, hbv⟩ := hrank.exists_leads b
      have hu := (hlink hau).unique hat
      have hv := (hlink hbv).unique hbt
      -- The bridge between the two trees is the pair that is joined.
      have hbridge : Relation.EqvGen (Joined parent i j) i j :=
        Relation.EqvGen.rel _ _ (Or.inr ⟨rfl, rfl⟩)
      split_ifs at hu hv with hur hvr
      · subst hur hvr
        exact hjoined ⟨_, hau, hbv⟩
      · subst hur
        rw [← hu] at hv
        subst hv
        exact ((hjoined ⟨_, hau, hi⟩).trans _ _ _ hbridge).trans _ _ _ (hjoined ⟨_, hj, hbv⟩)
      · rename_i hvr
        subst hvr
        rw [← hv] at hu
        subst hu
        exact ((hjoined ⟨_, hau, hj⟩).trans _ _ _ (hbridge.symm _ _)).trans _ _ _
          (hjoined ⟨_, hi, hbv⟩)
      · rw [hu, ← hv] at hau
        exact hjoined ⟨_, hau, hbv⟩
    · intro hab
      rw [← hrank'.together_equivalence.eqvGen_iff]
      apply hab.mono
      rintro a b (⟨t, hat, hbt⟩ | ⟨rfl, rfl⟩)
      · exact ⟨_, hlink hat, hlink hbt⟩
      · have hai := hlink hi
        have hbj := hlink hj
        rw [if_pos rfl] at hai
        rw [if_neg (Ne.symm hne)] at hbj
        exact ⟨s, hai, hbj⟩

theorem Acyclic.union [Fintype α] {parent : α → α} (h : Acyclic parent) {fuel : ℕ}
    (hfuel : Fintype.card α ≤ fuel) (i j : α) :
  ∃ after, union fuel parent i j = some after ∧ Acyclic after ∧
    ∀ a b, Together after a b ↔ Relation.EqvGen (Joined parent i j) a b
  := by
  obtain ⟨s, parent₁, hfind₁, hs, hacyclic₁, hleads₁⟩ := h.find hfuel j
  obtain ⟨r, parent₂, hfind₂, hr, hacyclic₂, hleads₂⟩ := hacyclic₁.find hfuel i
  have hsame : ∀ a b, Leads parent₂ a b ↔ Leads parent a b :=
    fun a b => (hleads₂ a b).trans (hleads₁ a b)
  have hj : Leads parent₂ j s := (hsame j s).mpr hs
  have hi : Leads parent₂ i r := (hleads₂ i r).mpr hr
  obtain ⟨hacyclic, htogether⟩ := hacyclic₂.together_link hi hj
  have hjoined : Joined parent₂ i j = Joined parent i j := by
    funext a b
    unfold Joined Together
    simp only [hsame]
  refine ⟨Function.update parent₂ r s, ?_, hacyclic, hjoined ▸ htogether⟩
  rw [UnionFind.union, hfind₁, Option.bind_eq_bind, Option.bind_some]
  dsimp only
  rw [hfind₂]
  rfl

/-- After the unions of pairs, the elements that are together are those that a chain of pairs
connects, beside those that have been together before. -/
theorem Acyclic.unions [Fintype α] {fuel : ℕ} (hfuel : Fintype.card α ≤ fuel)
    (pairs : List (α × α)) {parent : α → α} (h : Acyclic parent) :
  ∃ after, unions fuel parent pairs = some after ∧ Acyclic after ∧
    ∀ a b, Together after a b ↔
      Relation.EqvGen (fun a b => Together parent a b ∨ (a, b) ∈ pairs) a b
  := by
  induction pairs generalizing parent with
  | nil =>
      refine ⟨parent, rfl, h, fun a b => ?_⟩
      simp only [List.not_mem_nil, or_false]
      exact h.together_equivalence.eqvGen_iff.symm
  | cons pair pairs ih =>
      obtain ⟨i, j⟩ := pair
      obtain ⟨next, hnext, hacyclic, htogether⟩ := h.union hfuel i j
      obtain ⟨after, hafter, hacyclic', htogether'⟩ := ih hacyclic
      refine ⟨after, ?_, hacyclic', fun a b => ?_⟩
      · rw [UnionFind.unions, hnext]
        exact hafter
      · rw [htogether']
        constructor
        · intro hab
          rw [← (Relation.EqvGen.is_equivalence _).eqvGen_iff]
          apply hab.mono
          rintro a b (hold | hmem)
          · rw [htogether] at hold
            apply hold.mono
            rintro a b (hold | ⟨rfl, rfl⟩)
            · exact Or.inl hold
            · exact Or.inr List.mem_cons_self
          · exact Relation.EqvGen.rel _ _ (Or.inr (List.mem_cons_of_mem _ hmem))
        · intro hab
          apply hab.mono
          rintro a b (hold | hmem)
          · exact Or.inl ((htogether a b).mpr (Relation.EqvGen.rel _ _ (Or.inl hold)))
          · rcases List.mem_cons.mp hmem with heq | hrest
            · refine Or.inl ((htogether a b).mpr (Relation.EqvGen.rel _ _ (Or.inr ?_)))
              exact Prod.mk.inj heq
            · exact Or.inr hrest

/-! ### Groups -/

/-- The groups of elements: one for each root, with the elements that lead to it, in order. -/
structure Grouped (parent : α → α) (elements : List α) (groups : List (α × List α)) : Prop where
  nodup : (groups.map (·.1)).Nodup
  mem_iff : ∀ group ∈ groups, ∀ a, a ∈ group.2 ↔ a ∈ elements ∧ Leads parent a group.1
  sublist : ∀ group ∈ groups, group.2.Sublist elements
  nonempty : ∀ group ∈ groups, group.2 ≠ []
  complete : ∀ a ∈ elements, ∀ r, Leads parent a r → r ∈ groups.map (·.1)

theorem map_fst_addTo (groups : List (α × List α)) (root i : α) :
  (addTo groups root i).map (·.1) =
    if root ∈ groups.map (·.1) then groups.map (·.1) else groups.map (·.1) ++ [root]
  := by
  have hany : groups.any (·.1 = root) = true ↔ root ∈ groups.map (·.1) := by
    rw [List.any_eq_true, List.mem_map]
    simp only [decide_eq_true_eq]
  unfold addTo
  simp only [hany]
  split_ifs
  · rw [List.map_map]
    apply List.map_congr_left
    intro group _
    dsimp only [Function.comp_apply]
    split_ifs <;> rfl
  · rw [List.map_append]
    rfl

theorem mem_addTo {groups : List (α × List α)} {root i : α} {group : α × List α}
    (h : group ∈ addTo groups root i) :
  (group ∈ groups ∧ group.1 ≠ root) ∨
    (∃ members, (root, members) ∈ groups ∧ group = (root, members ++ [i])) ∨
      (root ∉ groups.map (·.1) ∧ group = (root, [i]))
  := by
  unfold addTo at h
  split_ifs at h with hany
  · obtain ⟨old, hold, heq⟩ := List.mem_map.mp h
    split_ifs at heq with hroot
    · refine Or.inr (Or.inl ⟨old.2, ?_, ?_⟩)
      · rwa [← hroot]
      · rw [← heq, hroot]
    · rw [← heq]
      exact Or.inl ⟨hold, hroot⟩
  · have hnew : root ∉ groups.map (·.1) := by
      intro hmem
      obtain ⟨group, hgroup, hroot⟩ := List.mem_map.mp hmem
      exact hany (List.any_eq_true.mpr ⟨group, hgroup, decide_eq_true hroot⟩)
    rcases List.mem_append.mp h with hold | hlast
    · exact Or.inl ⟨hold, fun hroot => hnew (List.mem_map.mpr ⟨group, hold, hroot⟩)⟩
    · exact Or.inr (Or.inr ⟨hnew, List.mem_singleton.mp hlast⟩)

/-- An element is added to the group of its root. -/
theorem Grouped.addTo {parent : α → α} {elements : List α} {groups : List (α × List α)}
    (h : Grouped parent elements groups) {root i : α} (hi : Leads parent i root) :
  Grouped parent (elements ++ [i]) (addTo groups root i)
  := by
  have hother : ∀ {r}, r ≠ root → ¬ Leads parent i r := fun hne hr => hne (hr.unique hi)
  constructor
  · rw [map_fst_addTo]
    split_ifs with hroot
    · exact h.nodup
    · rw [List.nodup_append]
      refine ⟨h.nodup, List.nodup_singleton root, ?_⟩
      rintro a ha b hb rfl
      exact hroot (List.mem_singleton.mp hb ▸ ha)
  · intro group hgroup a
    rw [List.mem_append, List.mem_singleton]
    rcases mem_addTo hgroup with ⟨hold, hne⟩ | ⟨members, hold, rfl⟩ | ⟨hnew, rfl⟩
    · rw [h.mem_iff group hold]
      constructor
      · exact fun ⟨hmem, hlead⟩ => ⟨Or.inl hmem, hlead⟩
      · rintro ⟨hmem | rfl, hlead⟩
        · exact ⟨hmem, hlead⟩
        · exact absurd hlead (hother hne)
    · rw [List.mem_append, List.mem_singleton, h.mem_iff _ hold]
      constructor
      · rintro (⟨hmem, hlead⟩ | rfl)
        · exact ⟨Or.inl hmem, hlead⟩
        · exact ⟨Or.inr rfl, hi⟩
      · rintro ⟨hmem | rfl, hlead⟩
        · exact Or.inl ⟨hmem, hlead⟩
        · exact Or.inr rfl
    · rw [List.mem_singleton]
      constructor
      · rintro rfl
        exact ⟨Or.inr rfl, hi⟩
      · rintro ⟨hmem | rfl, hlead⟩
        · exact absurd (h.complete a hmem root hlead) hnew
        · rfl
  · intro group hgroup
    rcases mem_addTo hgroup with ⟨hold, -⟩ | ⟨members, hold, rfl⟩ | ⟨-, rfl⟩
    · exact (h.sublist group hold).trans (List.sublist_append_left _ _)
    · exact (h.sublist _ hold).append (List.Sublist.refl [i])
    · exact List.sublist_append_right _ _
  · intro group hgroup
    rcases mem_addTo hgroup with ⟨hold, -⟩ | ⟨members, -, rfl⟩ | ⟨-, rfl⟩
    · exact h.nonempty group hold
    · simp
    · simp
  · intro a ha r hr
    rw [map_fst_addTo]
    rcases List.mem_append.mp ha with hold | hlast
    · have hmem := h.complete a hold r hr
      split_ifs
      · exact hmem
      · exact List.mem_append_left _ hmem
    · obtain rfl := List.mem_singleton.mp hlast
      obtain rfl := hr.unique hi
      split_ifs with hroot
      · exact hroot
      · exact List.mem_append_right _ List.mem_cons_self

omit [DecidableEq α] in
/-- Groups depend on what the elements lead to only. -/
theorem Grouped.congr {parent parent' : α → α} {elements : List α} {groups : List (α × List α)}
    (h : Grouped parent elements groups) (hleads : ∀ a r, Leads parent' a r ↔ Leads parent a r) :
  Grouped parent' elements groups
  := by
  refine ⟨h.nodup, ?_, h.sublist, h.nonempty, ?_⟩
  · intro group hgroup a
    rw [hleads]
    exact h.mem_iff group hgroup a
  · intro a ha r hr
    exact h.complete a ha r ((hleads a r).mp hr)

/-- All elements are grouped by their roots. -/
theorem Acyclic.groupAll [Fintype α] {fuel : ℕ} (hfuel : Fintype.card α ≤ fuel) (rest : List α)
    {done : List α} {parent : α → α} {groups : List (α × List α)} (h : Acyclic parent)
    (hgroups : Grouped parent done groups) :
  ∃ after, groupAll fuel parent groups rest = some after ∧ Grouped parent (done ++ rest) after
  := by
  induction rest generalizing done parent groups with
  | nil => exact ⟨groups, rfl, (List.append_nil done).symm ▸ hgroups⟩
  | cons i rest ih =>
      obtain ⟨root, next, hfind, hroot, hacyclic, hleads⟩ := h.find hfuel i
      have hnext := (hgroups.addTo hroot).congr hleads
      obtain ⟨after, hafter, hgrouped⟩ := ih hacyclic hnext
      refine ⟨after, ?_, ?_⟩
      · rw [UnionFind.groupAll, hfind]
        exact hafter
      · rw [List.append_assoc] at hgrouped
        exact hgrouped.congr fun a r => (hleads a r).symm

/-! ### Classes -/

/-- With fuel for each element the classes are found: they are not empty, apart from each other, in
the order of the elements, and each is what the chains of pairs connect. -/
theorem exists_classes [Fintype α] {fuel : ℕ} (hfuel : Fintype.card α ≤ fuel) (pairs : List (α × α))
    {elements : List α} (helements : ∀ a, a ∈ elements) :
  ∃ found, classes fuel pairs elements = some found ∧ found.Pairwise List.Disjoint ∧
    (∀ c ∈ found, c ≠ [] ∧ c.Sublist elements ∧
      ∀ i ∈ c, ∀ j, j ∈ c ↔ Relation.EqvGen (fun a b => (a, b) ∈ pairs) i j) ∧
        ∀ i, ∃ c ∈ found, i ∈ c
  := by
  obtain ⟨parent, hunions, hacyclic, htogether⟩ := Acyclic.unions hfuel pairs acyclic_id
  have hnone : Grouped parent [] [] := by
    constructor <;> simp
  obtain ⟨groups, hgroupAll, hgrouped⟩ := hacyclic.groupAll hfuel elements hnone
  rw [List.nil_append] at hgrouped
  refine ⟨groups.map (·.2), ?_, ?_, ?_, ?_⟩
  · rw [classes, hunions, Option.bind_eq_bind, Option.bind_some, hgroupAll]
    rfl
  · rw [List.pairwise_map]
    have hkeys := hgrouped.nodup
    rw [List.Nodup, List.pairwise_map] at hkeys
    apply hkeys.imp_of_mem
    intro group other hgroup hother hne a ha ha'
    have hlead := ((hgrouped.mem_iff group hgroup a).mp ha).2
    have hlead' := ((hgrouped.mem_iff other hother a).mp ha').2
    exact hne (hlead.unique hlead')
  · intro c hc
    obtain ⟨group, hgroup, rfl⟩ := List.mem_map.mp hc
    refine ⟨hgrouped.nonempty group hgroup, hgrouped.sublist group hgroup, ?_⟩
    intro i hi j
    have hlead := ((hgrouped.mem_iff group hgroup i).mp hi).2
    rw [hgrouped.mem_iff group hgroup, ← eqvGen_together_id, ← htogether]
    constructor
    · exact fun ⟨_, hj⟩ => ⟨group.1, hlead, hj⟩
    · rintro ⟨r, hir, hjr⟩
      rw [hlead.unique hir]
      exact ⟨helements j, hjr⟩
  · intro i
    obtain ⟨rank, hrank⟩ := hacyclic
    obtain ⟨r, hr⟩ := hrank.exists_leads i
    obtain ⟨group, hgroup, rfl⟩ := List.mem_map.mp (hgrouped.complete i (helements i) r hr)
    refine ⟨group.2, List.mem_map.mpr ⟨group, hgroup, rfl⟩, ?_⟩
    exact (hgrouped.mem_iff group hgroup i).mpr ⟨helements i, hr⟩

end UnionFind
