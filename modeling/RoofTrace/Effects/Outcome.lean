import Mathlib.Data.List.Forall2

/-!
# Outcomes

A computation in `Except ε` ends with a result or with an error. It is taken apart along its
binds and along the lists that it goes over.
-/

namespace Outcome

variable {ε α β : Type}

/-- A computation made of two parts succeeds when both do. -/
theorem bind_eq_ok {m : Except ε α} {f : α → Except ε β} {b : β} :
  m >>= f = .ok b ↔ ∃ a, m = .ok a ∧ f a = .ok b
  := by
  cases m with
  | error e =>
      constructor
      · rintro ⟨⟩
      · rintro ⟨_, ⟨⟩, _⟩
  | ok a =>
      constructor
      · intro h
        use a, rfl, h
      · rintro ⟨_, ⟨⟩, h⟩
        apply h

theorem map_eq_ok {m : Except ε α} {f : α → β} {b : β} :
  m.map f = .ok b ↔ ∃ a, m = .ok a ∧ f a = b
  := by
  cases m with
  | error e => simp [Except.map]
  | ok a => simp [Except.map]

/-- A computation over a list that succeeds does so at every element. -/
theorem forall₂_of_mapM_eq_ok {f : α → Except ε β} {as : List α} {bs : List β}
    (h : as.mapM f = .ok bs) :
  List.Forall₂ (fun a b => f a = .ok b) as bs
  := by
  induction as generalizing bs with
  | nil =>
      obtain rfl := Except.ok.inj h
      apply List.Forall₂.nil
  | cons a as ih =>
      rw [List.mapM_cons] at h
      obtain ⟨b, hb, h⟩ := bind_eq_ok.mp h
      obtain ⟨bs', hbs', h⟩ := bind_eq_ok.mp h
      obtain rfl := Except.ok.inj h
      exact List.Forall₂.cons hb (ih hbs')

theorem exists_of_forall₂ {R : α → β → Prop} {as : List α} {bs : List β}
    (h : List.Forall₂ R as bs) :
  (∀ a ∈ as, ∃ b ∈ bs, R a b) ∧ ∀ b ∈ bs, ∃ a ∈ as, R a b
  := by
  induction h with
  | nil => simp
  | cons hab _ ih =>
      constructor
      · intro a ha
        obtain rfl | ha := List.mem_cons.mp ha
        · exact ⟨_, List.mem_cons_self, hab⟩
        · obtain ⟨b, hb, h⟩ := ih.1 a ha
          exact ⟨b, List.mem_cons_of_mem _ hb, h⟩
      · intro b hb
        obtain rfl | hb := List.mem_cons.mp hb
        · exact ⟨_, List.mem_cons_self, hab⟩
        · obtain ⟨a, ha, h⟩ := ih.2 b hb
          exact ⟨a, List.mem_cons_of_mem _ ha, h⟩

/-- A computation over a list that succeeds has the results at its elements. -/
theorem mapM_eq_ok {f : α → Except ε β} {as : List α} {bs : List β}
    (h : as.mapM f = .ok bs) :
  (∀ a ∈ as, ∃ b ∈ bs, f a = .ok b) ∧ ∀ b ∈ bs, ∃ a ∈ as, f a = .ok b
  := exists_of_forall₂ (forall₂_of_mapM_eq_ok h)

/-- A computation over a list that has a result for every element. -/
theorem mapM_ok {f : α → Except ε β} {g : α → β} {as : List α} (h : ∀ a ∈ as, f a = .ok (g a)) :
  as.mapM f = .ok (as.map g)
  := by
  induction as with
  | nil => rfl
  | cons a as ih =>
      rw [List.mapM_cons, h a List.mem_cons_self, ih fun a ha => h a (List.mem_cons_of_mem _ ha)]
      rfl

/-- A computation made of two parts fails when one of them does. -/
theorem bind_eq_error {m : Except ε α} {f : α → Except ε β} {e : ε} :
  m >>= f = .error e ↔ m = .error e ∨ ∃ a, m = .ok a ∧ f a = .error e
  := by
  cases m with
  | error e' =>
      constructor
      · rintro ⟨⟩
        exact .inl rfl
      · rintro (h | ⟨_, ⟨⟩, _⟩)
        cases h
        rfl
  | ok a =>
      constructor
      · intro h
        exact .inr ⟨a, rfl, h⟩
      · rintro (h | ⟨_, ⟨⟩, h⟩)
        · cases h
        · exact h

/-- A computation over a list succeeds when it does so at every element. -/
theorem exists_mapM_eq_ok_iff {f : α → Except ε β} {as : List α} :
  (∃ bs, as.mapM f = .ok bs) ↔ ∀ a ∈ as, ∃ b, f a = .ok b
  := by
  constructor
  · rintro ⟨bs, h⟩ a ha
    obtain ⟨b, -, hb⟩ := (mapM_eq_ok h).1 a ha
    exact ⟨b, hb⟩
  · intro h
    induction as with
    | nil => exact ⟨[], rfl⟩
    | cons a as ih =>
        obtain ⟨b, hb⟩ := h a List.mem_cons_self
        obtain ⟨bs, hbs⟩ := ih fun a' ha' => h a' (List.mem_cons_of_mem _ ha')
        use b :: bs
        rw [List.mapM_cons, hb, hbs]
        rfl

/-- A computation over a list that fails does so at an element. -/
theorem mapM_eq_error {f : α → Except ε β} {as : List α} {e : ε} (h : as.mapM f = .error e) :
  ∃ a ∈ as, f a = .error e
  := by
  induction as with
  | nil => cases h
  | cons a as ih =>
      rw [List.mapM_cons] at h
      obtain h | ⟨b, -, h⟩ := bind_eq_error.mp h
      · exact ⟨a, List.mem_cons_self, h⟩
      · obtain h | ⟨bs, -, h⟩ := bind_eq_error.mp h
        · obtain ⟨a', ha', h⟩ := ih h
          exact ⟨a', List.mem_cons_of_mem _ ha', h⟩
        · cases h

end Outcome
