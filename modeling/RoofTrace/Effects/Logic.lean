import Mathlib.Logic.Relation
import RoofTrace.Effects.Program

/-!
# A logic of programs that interfere

A `Protocol` says which steps are assumed to happen and what every step then guarantees.
`P.wp i p Q c` says that whatever the other parties do by the protocol, every step that
`i` takes at `p` from `c` is as guaranteed, and that `Q` holds when `p` is done. A `Triple`
is the same for actions, which may end with an exception. When every party of a pool is at
a program of this kind, every step of a run is as guaranteed, and so a run keeps whatever
the guaranteed steps keep.

With a single party there is no interference, and a triple is a triple of the usual kind.
-/

namespace Effects

variable {S : Signature} {I : Interp S} {ε σ τ α β ι : Type}

/-- The steps that are assumed, and the steps that are guaranteed. -/
structure Protocol (I : Interp S) (ι : Type) where
  ok : StepPred I ι
  guar : StepPred I ι

namespace Protocol

variable (P : Protocol I ι) (i : ι)

/-- A step of a party other than `i`. -/
def OtherStep (c c' : Config I ι) : Prop :=
  ∃ j, j ≠ i ∧ ∃ o χ, P.ok j o χ c ∧ P.guar j o χ c ∧ c' = c.after j o χ

/-- What the parties other than `i` may do. -/
def Rely : Config I ι → Config I ι → Prop := Relation.ReflTransGen (P.OtherStep i)

/-- Whether the parties other than `i` keep an assertion. -/
def Stable (A : Config I ι → Prop) : Prop := ∀ c c', P.OtherStep i c c' → A c → A c'

variable {P i}

/-- A stable assertion survives any number of steps of the others. -/
theorem Stable.rely {A : Config I ι → Prop} (h : P.Stable i A) {c c' : Config I ι}
    (hrely : P.Rely i c c') (hc : A c) :
  A c'
  := by
  induction hrely with
  | refl => exact hc
  | tail _ hstep ih => exact h _ _ hstep ih

/-- A fact about no configuration is stable. -/
theorem stable_const (p : Prop) :
  P.Stable i fun _ => p
  := fun _ _ _ h => h

/-- Where there are no others, every assertion is stable. -/
theorem stable_of_subsingleton [Subsingleton ι] (A : Config I ι → Prop) :
  P.Stable i A
  := by
  rintro c c' ⟨j, hj, _⟩
  exact absurd (Subsingleton.elim j i) hj

/-- Two assertions that the steps of the others do not falsify are together not falsified by them.
-/
theorem Stable.and {A B : Config I ι → Prop} (hA : P.Stable i A) (hB : P.Stable i B) :
  P.Stable i fun c => A c ∧ B c
  := fun c c' hstep h => ⟨hA c c' hstep h.1, hB c c' hstep h.2⟩

/-- One of two stable assertions is stable. -/
theorem Stable.or {A B : Config I ι → Prop} (hA : P.Stable i A) (hB : P.Stable i B) :
  P.Stable i fun c => A c ∨ B c
  := fun c c' hstep h => h.imp (hA c c' hstep) (hB c c' hstep)

/-! ### Programs -/

variable (P i)

/-- The program `p` keeps the protocol and ends with `Q`. -/
def wp : Prog S α → (α → Config I ι → Prop) → Config I ι → Prop
  | .pure a, Q, c => Q a c
  | .perform o next, Q, c =>
      ∀ c', P.Rely i c c' → ∀ χ, P.ok i o χ c' →
        P.guar i o χ c' ∧ wp (next (c'.answer o χ)) Q (c'.after i o χ)

variable {P i}

/-- What follows from the end of a program follows after it. -/
theorem wp_mono {p : Prog S α} {Q Q' : α → Config I ι → Prop} (hQ : ∀ a c, Q a c → Q' a c) :
    ∀ {c : Config I ι}, P.wp i p Q c → P.wp i p Q' c := by
  induction p with
  | pure a =>
      intro c h
      exact hQ a c h
  | perform o next ih =>
      intro c h c' hrely χ hok
      obtain ⟨hguar, hnext⟩ := h c' hrely χ hok
      exact ⟨hguar, ih _ hnext⟩

/-- A program that is followed by another one: the latter is proved from what the former
establishes. By induction on the former. -/
theorem wp_bind {p : Prog S α} {f : α → Prog S β} {Q : β → Config I ι → Prop} :
    ∀ {c : Config I ι}, P.wp i p (fun a => P.wp i (f a) Q) c → P.wp i (p.bind f) Q c := by
  induction p with
  | pure a =>
      intro c h
      exact h
  | perform o next ih =>
      intro c h c' hrely χ hok
      obtain ⟨hguar, hnext⟩ := h c' hrely χ hok
      exact ⟨hguar, ih _ hnext⟩

/-- What is proved of a program in two ways holds at its end together, as either of them follows the
same steps. -/
theorem wp_and {p : Prog S α} {Q Q' : α → Config I ι → Prop} :
    ∀ {c : Config I ι}, P.wp i p Q c → P.wp i p Q' c →
      P.wp i p (fun a c => Q a c ∧ Q' a c) c := by
  induction p with
  | pure a => exact fun h h' => ⟨h, h'⟩
  | perform o next ih =>
      intro c h h' c' hrely χ hok
      obtain ⟨hguar, hnext⟩ := h c' hrely χ hok
      exact ⟨hguar, ih _ hnext (h' c' hrely χ hok).2⟩

/-- What the others do does not matter to a program when it does not matter to the result. -/
theorem wp_rely {p : Prog S α} {Q : α → Config I ι → Prop} (hQ : ∀ a, P.Stable i (Q a))
    {c c' : Config I ι} (hrely : P.Rely i c c') (h : P.wp i p Q c) :
  P.wp i p Q c'
  := by
  cases p with
  | pure a => exact (hQ a).rely hrely h
  | perform o next =>
      intro c'' hrely'
      exact h c'' (Relation.ReflTransGen.trans hrely hrely')

/-- What every step keeps, a program keeps. -/
theorem wp_of_steps {B : Config I ι → Prop} (hB : P.Stable i B)
    (hstep : ∀ o χ c, P.ok i o χ c → B c → P.guar i o χ c ∧ B (c.after i o χ)) (p : Prog S α) :
    ∀ {c : Config I ι}, B c → P.wp i p (fun _ => B) c := by
  induction p with
  | pure a => exact fun h => h
  | perform o next ih =>
      intro c h c' hrely χ hok
      obtain ⟨hguar, hafter⟩ := hstep o χ c' hok (hB.rely hrely h)
      exact ⟨hguar, ih _ hafter⟩

/-- A program that is attempted several times: `A` holds before each attempt. -/
theorem wp_retrying {attempt : ℕ → Prog S (Except ε α)} {A : ℕ → Config I ι → Prop}
    {Q : Except ε α → Config I ι → Prop} :
    ∀ {remaining n : ℕ} {c : Config I ι},
      (∀ m, n ≤ m → m < n + remaining → ∀ c, A m c →
        P.wp i (attempt m) (fun
          | .ok a => Q (.ok a)
          | .error _ => A (m + 1)) c) →
      (∀ c, A (n + remaining) c → P.wp i (attempt (n + remaining)) Q c) →
      A n c → P.wp i (Prog.retrying attempt n remaining) Q c
  | 0, n, c, _, hlast, h => hlast c h
  | remaining + 1, n, c, hattempt, hlast, h => by
      apply wp_bind
      apply wp_mono _ (hattempt n (Nat.le_refl n) (by omega) c h)
      rintro (e | a) c hc
      · apply wp_retrying (A := A)
        · intro m hm hlt
          exact hattempt m (by omega) (by omega)
        · rw [show n + 1 + remaining = n + (remaining + 1) by omega]
          exact hlast
        · exact hc
      · exact hc

/-! ### Actions -/

/-- What holds at the end of an action: `B` of the result, or `E` of the exception. -/
def Ends (B : α → σ → Config I ι → Prop) (E : ε → σ → Config I ι → Prop) :
    Except ε α × σ → Config I ι → Prop
  | (.ok a, s), c => B a s c
  | (.error e, s), c => E e s c

variable (P i)

/-- From a state and a configuration with `A`, the action keeps the protocol and ends with
`B` of its result or with `E` of its exception. -/
def Triple (A : σ → Config I ι → Prop) (x : Action S ε σ α) (B : α → σ → Config I ι → Prop)
    (E : ε → σ → Config I ι → Prop) : Prop :=
  ∀ s c, A s c → P.wp i (x s) (Ends B E) c

/-- An action that keeps `A`, whether it raises or not. -/
def Keeps (A : σ → Config I ι → Prop) (x : Action S ε σ α) : Prop :=
  P.Triple i A x (fun _ => A) (fun _ => A)

variable {P i}

namespace Triple

variable {A D : σ → Config I ι → Prop} {x : Action S ε σ α} {B C : α → σ → Config I ι → Prop}
  {E F : ε → σ → Config I ι → Prop}

/-- The rule of consequence: an assertion may be strengthened before an action, and weakened after
it, whether it ends with a result or an exception. -/
theorem conseq (h : P.Triple i A x B E) (hA : ∀ s c, D s c → A s c)
    (hB : ∀ a s c, B a s c → C a s c) (hE : ∀ e s c, E e s c → F e s c) :
  P.Triple i D x C F
  := by
  intro s c hs
  apply wp_mono _ (h s c (hA s c hs))
  rintro ⟨r, s'⟩ c' hc'
  cases r with
  | ok a => exact hB a s' c' hc'
  | error e => exact hE e s' c' hc'

/-- An assertion may be strengthened before an action. -/
theorem pre (h : P.Triple i A x B E) (hA : ∀ s c, D s c → A s c) :
  P.Triple i D x B E
  := h.conseq hA (fun _ _ _ h => h) (fun _ _ _ h => h)

/-- The assertions may be weakened after an action. -/
theorem post (h : P.Triple i A x B E) (hB : ∀ a s c, B a s c → C a s c)
    (hE : ∀ e s c, E e s c → F e s c) :
  P.Triple i A x C F
  := h.conseq (fun _ _ h => h) hB hE

/-- A fact that does not depend on the state may be assumed. -/
theorem assuming {p : Prop} (h : p → P.Triple i A x B E) :
  P.Triple i (fun s c => p ∧ A s c) x B E
  := fun s c hs => h hs.1 s c hs.2

/-- What is proved of an action by two triples holds together, before it and after it. -/
theorem and (h : P.Triple i A x B E) (h' : P.Triple i D x C F) :
  P.Triple i (fun s c => A s c ∧ D s c) x (fun a s c => B a s c ∧ C a s c)
    (fun e s c => E e s c ∧ F e s c)
  := by
  intro s c hs
  apply wp_mono _ (wp_and (h s c hs.1) (h' s c hs.2))
  rintro ⟨r, s'⟩ c' hc'
  cases r <;> exact hc'

/-- A value may be fixed before an action. -/
theorem exists_pre {γ : Type} {D : γ → σ → Config I ι → Prop}
    (h : ∀ v, P.Triple i (D v) x B E) :
  P.Triple i (fun s c => ∃ v, D v s c) x B E
  := by
  rintro s c ⟨v, hv⟩
  exact h v s c hv

/-- An action that only returns a result ends where it begins, so that the assertion on the result
must hold already. -/
theorem ret {a : α} (h : ∀ s c, A s c → B a s c) :
  P.Triple i A (pure a : Action S ε σ α) B E
  := h

/-- An action that only raises ends where it begins, so that the assertion on the exception must
hold already. -/
theorem raise {e : ε} (h : ∀ s c, A s c → E e s c) :
  P.Triple i A (throw e : Action S ε σ α) B E
  := h

/-- An action and then another one, which is not performed when the first raises. -/
theorem bind {f : α → Action S ε σ β} {C : β → σ → Config I ι → Prop}
    (hx : P.Triple i A x B E) (hf : ∀ a, P.Triple i (B a) (f a) C E) :
  P.Triple i A (x >>= f) C E
  := by
  intro s c hs
  apply wp_bind
  apply wp_mono _ (hx s c hs)
  rintro ⟨r, s'⟩ c' hc'
  cases r with
  | ok a => exact hf a s' c' hc'
  | error e => exact hc'

/-- An action whose exceptions are handled: the handler is proved from what holds when the action
raises, and has to establish what the action does when it returns. -/
theorem rescue {handler : ε → Action S ε σ α} (hx : P.Triple i A x B F)
    (hh : ∀ e, P.Triple i (F e) (handler e) B E) :
  P.Triple i A (tryCatch x handler) B E
  := by
  intro s c hs
  apply wp_bind
  apply wp_mono _ (hx s c hs)
  rintro ⟨r, s'⟩ c' hc'
  cases r with
  | ok a => exact hc'
  | error e => exact hh e s' c' hc'

/-- An action and then, in any case, another one. -/
theorem ensuring {cleanup : Action S ε σ Unit} (hx : P.Triple i A x B E)
    (hok : ∀ a, P.Triple i (B a) cleanup (fun _ => B a) E)
    (herror : ∀ e, P.Triple i (E e) cleanup (fun _ => E e) E) :
  P.Triple i A (x.ensuring cleanup) B E
  := by
  intro s c hs
  apply wp_bind
  apply wp_mono _ (hx s c hs)
  rintro ⟨r, s'⟩ c' hc'
  apply wp_bind
  cases r with
  | ok a =>
      apply wp_mono _ (hok a s' c' hc')
      rintro ⟨r', s''⟩ c'' hc''
      cases r' <;> exact hc''
  | error e =>
      apply wp_mono _ (herror e s' c' hc')
      rintro ⟨r', s''⟩ c'' hc''
      cases r' <;> exact hc''

/-- An action on a part of the state. -/
theorem within {enter : τ → σ} {leave : σ → τ → τ} {D : τ → Config I ι → Prop}
    {B : α → τ → Config I ι → Prop} {E : ε → τ → Config I ι → Prop}
    (h : ∀ t, P.Triple i (fun s c => D t c ∧ s = enter t) x (fun a s => B a (leave s t))
      (fun e s => E e (leave s t))) :
  P.Triple i D (x.within enter leave) B E
  := by
  intro t c ht
  apply wp_bind
  apply wp_mono _ (h t (enter t) c ⟨ht, rfl⟩)
  rintro ⟨r, s⟩ c' hc'
  cases r <;> exact hc'

/-- The state is read, and what follows is proved for each state that it may be. -/
theorem getting {f : σ → Action S ε σ α}
    (h : ∀ t, P.Triple i (fun s c => s = t ∧ A s c) (f t) B E) :
  P.Triple i A (get >>= f) B E
  := fun s c hs => h s s c ⟨rfl, hs⟩

/-- The state is changed by a function, without a step that the others could see. -/
theorem modifying {f : σ → σ} {B : Unit → σ → Config I ι → Prop}
    (h : ∀ s c, A s c → B () (f s) c) :
  P.Triple i A (modify f : Action S ε σ Unit) B E
  := h

/-- A result or an exception is taken over. -/
theorem ofExcept {r : Except ε α} (hok : ∀ a, r = .ok a → ∀ s c, A s c → B a s c)
    (herror : ∀ e, r = .error e → ∀ s c, A s c → E e s c) :
  P.Triple i A (Action.ofExcept r) B E
  := by
  cases r with
  | ok a => exact hok a rfl
  | error e => exact herror e rfl

end Triple

/-- An operation, when nobody else disturbs what is known before it. -/
theorem triple_perform {Op : Type} {Res : Op → Type} {I : Interp (.fallible ε Op Res)}
    {P : Protocol I ι} {o : Op} {A : σ → Config I ι → Prop}
    {B : Res o → σ → Config I ι → Prop} {E : ε → σ → Config I ι → Prop}
    (hA : ∀ s, P.Stable i (A s))
    (h : ∀ s c χ, P.ok i o χ c → A s c →
      P.guar i o χ c ∧ Ends B E (c.answer o χ, s) (c.after i o χ)) :
  P.Triple i A (Action.perform o) B E
  := by
  intro s c hs c' hrely χ hok
  exact h s c' χ hok ((hA s).rely hrely hs)

namespace Keeps

variable {A : σ → Config I ι → Prop} {x : Action S ε σ α}

/-- An action that only returns a result keeps every assertion. -/
theorem ret (a : α) :
  P.Keeps i A (pure a : Action S ε σ α)
  := Triple.ret fun _ _ h => h

/-- An action that only raises an exception keeps every assertion. -/
theorem raise (e : ε) :
  P.Keeps i A (throw e : Action S ε σ α)
  := Triple.raise fun _ _ h => h

/-- Two actions that keep an assertion do so one after the other, whatever the first one returns. -/
theorem bind {f : α → Action S ε σ β} (hx : P.Keeps i A x) (hf : ∀ a, P.Keeps i A (f a)) :
  P.Keeps i A (x >>= f)
  := Triple.bind hx hf

/-- An action that keeps an assertion, with a handler that does. -/
theorem rescue {handler : ε → Action S ε σ α} (hx : P.Keeps i A x)
    (hh : ∀ e, P.Keeps i A (handler e)) :
  P.Keeps i A (tryCatch x handler)
  := Triple.rescue hx hh

/-- A result or an exception that is taken over keeps everything. -/
theorem ofExcept (r : Except ε α) :
  P.Keeps i A (Action.ofExcept r)
  := Triple.ofExcept (fun _ _ _ _ h => h) (fun _ _ _ _ h => h)

/-- An assertion that every step keeps is kept by every action. -/
theorem of_steps {B : Config I ι → Prop} (hB : P.Stable i B)
    (hstep : ∀ o χ c, P.ok i o χ c → B c → P.guar i o χ c ∧ B (c.after i o χ))
    (x : Action S ε σ α) :
  P.Keeps i (fun _ => B) x
  := by
  intro s c h
  apply wp_mono _ (wp_of_steps hB hstep (x s) h)
  rintro ⟨r, s'⟩ c' hc'
  cases r <;> exact hc'

end Keeps

/-- The outcome of an action is what its triple says. -/
theorem wp_outcome {x : Action S ε σ α} {s : σ} {A : σ → Config I ι → Prop}
    {B : α → Config I ι → Prop} {E : ε → Config I ι → Prop} {c : Config I ι}
    (h : P.Triple i A x (fun a _ => B a) (fun e _ => E e)) (hs : A s c) :
  P.wp i (x.outcome s) (fun
    | .ok a => B a
    | .error e => E e) c
  := by
  apply wp_bind
  apply wp_mono _ (h s c hs)
  rintro ⟨r, s'⟩ c' hc'
  cases r <;> exact hc'

/-! ### Runs -/

/-- The run of a program on its own. -/
theorem run_of_wp {p : Prog S α} {Q : α → Config I ι → Prop} :
    ∀ {c : Config I ι} {χ : ℕ → I.Choices}, P.wp i p Q c → p.Meets P.ok i χ c →
      p.Meets P.guar i χ c ∧ Q (p.run i χ c).1 (p.run i χ c).2 := by
  induction p with
  | pure a =>
      intro c χ h _
      exact ⟨trivial, h⟩
  | perform o next ih =>
      intro c χ h hok
      obtain ⟨hguar, hnext⟩ := h c .refl (χ 0 o) hok.1
      obtain ⟨hrest, hQ⟩ := ih _ hnext hok.2
      exact ⟨⟨hguar, hrest⟩, hQ⟩

/-- What holds of every step holds of the steps of a run. -/
theorem prog_meets_of_forall {A : StepPred I ι} {χ : ℕ → I.Choices}
    (hA : ∀ n o c, A i o (χ n o) c) (p : Prog S α) (c : Config I ι) :
  p.Meets A i χ c
  := by
  induction p generalizing χ c with
  | pure a => exact trivial
  | perform o next ih => exact ⟨hA 0 o c, ih _ (fun n => hA (n + 1)) _⟩

/-- The protocol that assumes something of the steps and guarantees nothing. -/
def supposing (A : StepPred I ι) : Protocol I ι where
  ok := A
  guar _ _ _ _ := True

/-- The protocol that assumes and guarantees nothing. -/
def free : Protocol I ι where
  ok _ _ _ _ := True
  guar _ _ _ _ := True

/-- A run that is free meets everything that is assumed of it. -/
theorem meets_free (p : Prog S α) (χ : ℕ → I.Choices) (c : Config I ι) :
  p.Meets (free (I := I) (ι := ι)).ok i χ c
  := prog_meets_of_forall (fun _ _ _ => trivial) p c

/-- What a program ends with whatever happens. -/
theorem run_of_wp_free {p : Prog S α} {Q : α → Config I ι → Prop} {c : Config I ι}
    (h : (free (I := I)).wp i p Q c) (χ : ℕ → I.Choices) :
  Q (p.run i χ c).1 (p.run i χ c).2
  := (run_of_wp h (meets_free p χ c)).2

end Protocol

namespace Pool

variable [DecidableEq ι] {P : Protocol I ι} {Q : ι → α → Config I ι → Prop}

/-- Every party keeps the protocol. -/
def Keeps (P : Protocol I ι) (Q : ι → α → Config I ι → Prop) (s : Pool I ι α) : Prop :=
  ∀ i, P.wp i (s.prog i) (Q i) s.config

/-- A step of one party keeps what all of them guarantee. -/
theorem step_of_keeps (hQ : ∀ i a, P.Stable i (Q i a)) {s : Pool I ι α} (h : s.Keeps P Q)
    {i : ι} {χ : I.Choices} (hok : s.MeetsStep P.ok i χ) :
  s.MeetsStep P.guar i χ ∧ (s.step i χ).Keeps P Q
  := by
  cases hprog : s.prog i with
  | pure a =>
      simp only [MeetsStep, step, hprog]
      exact ⟨trivial, h⟩
  | perform o next =>
      have hi := h i
      simp only [MeetsStep, hprog] at hok hi
      obtain ⟨hguar, hnext⟩ := hi s.config .refl (χ o) hok
      simp only [MeetsStep, step, hprog]
      use hguar
      intro j
      by_cases hj : j = i
      · subst hj
        simp only [Function.update_self]
        exact hnext
      · simp only [Function.update_of_ne hj]
        apply Protocol.wp_rely (hQ j) _ (h j)
        apply Relation.ReflTransGen.single
        exact ⟨i, Ne.symm hj, o, χ o, hok, hguar, rfl⟩

/-- In a run whose steps are as assumed, every step is as guaranteed. -/
theorem run_of_keeps (hQ : ∀ i a, P.Stable i (Q i a)) :
    ∀ {schedule : List (ι × I.Choices)} {s : Pool I ι α}, s.Keeps P Q → s.Meets P.ok schedule →
      s.Meets P.guar schedule ∧ (s.run schedule).Keeps P Q
  | [], _, h, _ => ⟨trivial, h⟩
  | (i, χ) :: schedule, s, h, hok => by
      obtain ⟨hguar, hstep⟩ := step_of_keeps hQ h hok.1
      obtain ⟨hrest, hrun⟩ := run_of_keeps hQ hstep hok.2
      exact ⟨⟨hguar, hrest⟩, hrun⟩

/-- A run keeps what every step that is assumed and guaranteed keeps. -/
theorem invariant_run {A : Config I ι → Prop}
    (hA : ∀ i o χ c, P.ok i o χ c → P.guar i o χ c → A c → A (c.after i o χ)) :
    ∀ {schedule : List (ι × I.Choices)} {s : Pool I ι α}, s.Meets P.ok schedule →
      s.Meets P.guar schedule → A s.config → A (s.run schedule).config
  | [], _, _, _, h => h
  | (i, χ) :: schedule, s, hok, hguar, h => by
      apply invariant_run hA hok.2 hguar.2
      have hstep := hok.1
      have hstep' := hguar.1
      unfold MeetsStep at hstep hstep'
      unfold step
      cases hprog : s.prog i with
      | pure a => exact h
      | perform o next =>
          simp only [hprog] at hstep hstep'
          exact hA i o (χ o) s.config hstep hstep' h

omit [DecidableEq ι] in
/-- A party that is done has reached what its program ends with. -/
theorem Keeps.done {s : Pool I ι α} (h : s.Keeps P Q) {i : ι} {a : α}
    (hdone : (s.prog i).result? = some a) :
  Q i a s.config
  := by
  have hi := h i
  cases hprog : s.prog i with
  | pure b =>
      rw [hprog] at hi hdone
      cases hdone
      exact hi
  | perform o next =>
      rw [hprog] at hdone
      cases hdone

/-- What holds of every step with the choices of a schedule holds of the steps of its run. -/
theorem meets_of_forall {A : StepPred I ι} :
    ∀ {schedule : List (ι × I.Choices)} (s : Pool I ι α),
      (∀ i χ, (i, χ) ∈ schedule → ∀ o c, A i o (χ o) c) → s.Meets A schedule
  | [], _, _ => trivial
  | (i, χ) :: schedule, s, hA => by
      constructor
      · have hstep := hA i χ List.mem_cons_self
        unfold MeetsStep
        split
        · trivial
        · apply hstep
      · apply meets_of_forall
        exact fun j χ' hmem => hA j χ' (List.mem_cons_of_mem _ hmem)

/-- A schedule in two parts is run part by part, from the state that the first part has led to. -/
theorem run_append (s : Pool I ι α) (first second : List (ι × I.Choices)) :
  s.run (first ++ second) = (s.run first).run second
  := by
  induction first generalizing s with
  | nil => rfl
  | cons _ _ ih => apply ih

/-- The steps of a schedule are those of its parts. -/
theorem meets_append {A : StepPred I ι} {s : Pool I ι α} {first second : List (ι × I.Choices)} :
  s.Meets A (first ++ second) ↔ s.Meets A first ∧ (s.run first).Meets A second
  := by
  induction first generalizing s with
  | nil =>
      constructor
      · intro h
        exact ⟨trivial, h⟩
      · intro h
        exact h.2
  | cons _ _ ih =>
      simp only [List.cons_append, Meets, run, ih, and_assoc]

end Pool

end Effects
