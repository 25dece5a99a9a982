import Mathlib.Data.Nat.Notation
import Mathlib.Logic.Function.Basic

/-!
# Programs with effects

A program performs operations of a signature and goes on with their answers. What an
operation does to the world is left to an interpretation: it executes the operation under
a choice of what the world does on its own. An `Action` is a program with exceptions and
with a state of its own that outlives them, as the fields of an object do.

A configuration is a world together with the operations performed so far, by whom, and
with which answers. A program is run on its own by `Prog.run`, and together with others by
`Pool.run`, one operation at a time, as a schedule says.
-/

namespace Effects

/-- Operations and the types of their answers. -/
structure Signature where
  Op : Type
  Ans : Op → Type

/-- Operations that may raise instead of answering. -/
abbrev Signature.fallible (ε Op : Type) (Res : Op → Type) : Signature :=
  ⟨Op, fun o => Except ε (Res o)⟩

variable {S : Signature} {ε σ τ α β ι : Type}

/-- A program that is done, or one that performs an operation and goes on with the answer. -/
inductive Prog (S : Signature) (α : Type) where
  | pure (a : α)
  | perform (o : S.Op) (next : S.Ans o → Prog S α)

namespace Prog

/-- A program and then another one, which depends on the result of the first. -/
def bind : Prog S α → (α → Prog S β) → Prog S β
  | .pure a, f => f a
  | .perform o next, f => .perform o fun x => (next x).bind f

/-- The result of a program that is done. -/
def result? : Prog S α → Option α
  | .pure a => some a
  | .perform _ _ => none

/-- A program that is attempted again, under the next number, as long as it raises and
attempts remain. -/
def retrying (attempt : ℕ → Prog S (Except ε α)) (n : ℕ) : ℕ → Prog S (Except ε α)
  | 0 => attempt n
  | remaining + 1 =>
      (attempt n).bind fun
        | .ok a => .pure (.ok a)
        | .error _ => retrying attempt (n + 1) remaining

end Prog

/-! ### Actions -/

/-- A program that works on a state and ends with a result or an exception. -/
def Action (S : Signature) (ε σ α : Type) : Type := σ → Prog S (Except ε α × σ)

namespace Action

instance : Monad (Action S ε σ) where
  pure a := fun s => .pure (.ok a, s)
  bind x f := fun s => (x s).bind fun
    | (.ok a, s') => f a s'
    | (.error e, s') => .pure (.error e, s')

instance : MonadExceptOf ε (Action S ε σ) where
  throw e := fun s => .pure (.error e, s)
  tryCatch x handler := fun s => (x s).bind fun
    | (.ok a, s') => .pure (.ok a, s')
    | (.error e, s') => handler e s'

instance : MonadStateOf σ (Action S ε σ) where
  get := fun s => .pure (.ok s, s)
  set s := fun _ => .pure (.ok (), s)
  modifyGet f := fun s => .pure (.ok (f s).1, (f s).2)

/-- A result or an exception as an action. -/
def ofExcept : Except ε α → Action S ε σ α
  | .ok a => pure a
  | .error e => throw e

/-- An operation, whose exception is raised. -/
def perform {Op : Type} {Res : Op → Type} (o : Op) :
    Action (Signature.fallible ε Op Res) ε σ (Res o) :=
  fun s => .perform o fun x => .pure (x, s)

/-- An action and then, whether it raises or not, another one. An exception of the latter
takes the place of the outcome. -/
def ensuring (x : Action S ε σ α) (cleanup : Action S ε σ Unit) : Action S ε σ α :=
  fun s => (x s).bind fun (r, s') => (cleanup s').bind fun
    | (.ok _, s'') => .pure (r, s'')
    | (.error e, s'') => .pure (.error e, s'')

/-- An action on a state that is entered from another one and left for it. -/
def within (enter : τ → σ) (leave : σ → τ → τ) (x : Action S ε σ α) : Action S ε τ α :=
  fun t => (x (enter t)).bind fun (r, s) => .pure (r, leave s t)

/-- The program of an action on a state that nobody looks at afterwards. -/
def outcome (x : Action S ε σ α) (s : σ) : Prog S (Except ε α) :=
  (x s).bind fun (r, _) => .pure r

end Action

/-! ### Interpretations and runs -/

/-- Worlds and what operations do in them. -/
structure Interp (S : Signature) where
  World : Type
  /-- What an operation leaves to the world. -/
  Choice : S.Op → Type
  exec : (o : S.Op) → Choice o → World → S.Ans o × World

namespace Interp

/-- A choice for every operation. -/
abbrev Choices (I : Interp S) : Type := (o : S.Op) → I.Choice o

end Interp

/-- An operation that was performed, and its answer. -/
abbrev Event (S : Signature) : Type := (o : S.Op) × S.Ans o

/-- A world and its past, the last event first. -/
@[ext]
structure Config (I : Interp S) (ι : Type) where
  world : I.World
  past : List (ι × Event S)

variable {I : Interp S}

namespace Config

/-- The answer to an operation. -/
def answer (c : Config I ι) (o : S.Op) (χ : I.Choice o) : S.Ans o := (I.exec o χ c.world).1

/-- The configuration after `i` has performed an operation. -/
def after (c : Config I ι) (i : ι) (o : S.Op) (χ : I.Choice o) : Config I ι where
  world := (I.exec o χ c.world).2
  past := (i, ⟨o, c.answer o χ⟩) :: c.past

@[simp]
theorem after_world (c : Config I ι) (i : ι) (o : S.Op) (χ : I.Choice o) :
  (c.after i o χ).world = (I.exec o χ c.world).2
  := rfl

@[simp]
theorem after_past (c : Config I ι) (i : ι) (o : S.Op) (χ : I.Choice o) :
  (c.after i o χ).past = (i, ⟨o, c.answer o χ⟩) :: c.past
  := rfl

end Config

/-- What is said of the steps of the parties: of the one who takes it, the operation, the
choice of the world and the configuration it is taken in. -/
abbrev StepPred (I : Interp S) (ι : Type) : Type :=
  ι → (o : S.Op) → I.Choice o → Config I ι → Prop

namespace Prog

/-- The run of a program by `i` on its own, with the choices of the world in their order. -/
def run (i : ι) : Prog S α → (ℕ → I.Choices) → Config I ι → α × Config I ι
  | .pure a, _, c => (a, c)
  | .perform o next, χ, c =>
      (next (c.answer o (χ 0 o))).run i (fun n => χ (n + 1)) (c.after i o (χ 0 o))

/-- Whether every step of a run is as `A` says. -/
def Meets (A : StepPred I ι) (i : ι) : Prog S α → (ℕ → I.Choices) → Config I ι → Prop
  | .pure _, _, _ => True
  | .perform o next, χ, c =>
      A i o (χ 0 o) c ∧
        (next (c.answer o (χ 0 o))).Meets A i (fun n => χ (n + 1)) (c.after i o (χ 0 o))

section Decidable

variable {A : StepPred I ι} [∀ i o χ c, Decidable (A i o χ c)]

def decidableMeets (i : ι) :
    ∀ (p : Prog S α) (χ : ℕ → I.Choices) (c : Config I ι), Decidable (p.Meets A i χ c)
  | .pure _, _, _ => .isTrue trivial
  | .perform o next, χ, c =>
      have := decidableMeets i (next (c.answer o (χ 0 o))) (fun n => χ (n + 1))
        (c.after i o (χ 0 o))
      inferInstanceAs (Decidable (A i o (χ 0 o) c ∧ _))

instance (i : ι) (p : Prog S α) (χ : ℕ → I.Choices) (c : Config I ι) :
    Decidable (p.Meets A i χ c) :=
  decidableMeets i p χ c

end Decidable

end Prog

/-- Parties at their programs. -/
structure Pool (I : Interp S) (ι α : Type) where
  config : Config I ι
  prog : ι → Prog S α

namespace Pool

variable [DecidableEq ι]

/-- The step of `i`: the next operation of its program, if it is not done. -/
def step (s : Pool I ι α) (i : ι) (χ : I.Choices) : Pool I ι α :=
  match s.prog i with
  | .pure _ => s
  | .perform o next =>
      { config := s.config.after i o (χ o)
        prog := Function.update s.prog i (next (s.config.answer o (χ o))) }

/-- The run of a schedule. -/
def run : Pool I ι α → List (ι × I.Choices) → Pool I ι α
  | s, [] => s
  | s, (i, χ) :: schedule => (s.step i χ).run schedule

/-- Whether the next step of `i` is as `A` says. -/
def MeetsStep (A : StepPred I ι) (s : Pool I ι α) (i : ι) (χ : I.Choices) : Prop :=
  match s.prog i with
  | .pure _ => True
  | .perform o _ => A i o (χ o) s.config

/-- Whether every step of a run is as `A` says. -/
def Meets (A : StepPred I ι) : Pool I ι α → List (ι × I.Choices) → Prop
  | _, [] => True
  | s, (i, χ) :: schedule => s.MeetsStep A i χ ∧ (s.step i χ).Meets A schedule

section Decidable

variable {A : StepPred I ι} [∀ i o χ c, Decidable (A i o χ c)]

instance (s : Pool I ι α) (i : ι) (χ : I.Choices) : Decidable (s.MeetsStep A i χ) :=
  match h : s.prog i with
  | .pure _ => decidable_of_iff True (by unfold MeetsStep; rw [h])
  | .perform o _ => decidable_of_iff (A i o (χ o) s.config) (by unfold MeetsStep; rw [h])

def decidableMeets :
    ∀ (schedule : List (ι × I.Choices)) (s : Pool I ι α), Decidable (s.Meets A schedule)
  | [], _ => .isTrue trivial
  | (i, χ) :: schedule, s =>
      have := decidableMeets schedule (s.step i χ)
      inferInstanceAs (Decidable (s.MeetsStep A i χ ∧ (s.step i χ).Meets A schedule))

instance (s : Pool I ι α) (schedule : List (ι × I.Choices)) : Decidable (s.Meets A schedule) :=
  decidableMeets schedule s

end Decidable

end Pool

end Effects
