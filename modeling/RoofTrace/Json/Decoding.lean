import RoofTrace.Effects.Outcome
import RoofTrace.Json.Value

/-!
# Decoding JSON values

Decoders of JSON values in the manner of Swift's `Decodable`: a value is decoded as a string, a
number, an array, or as an object whose members are decoded by their keys, which may be given
in snake case. A member may be required, or it may be missing or `null`.
-/

namespace Decoding

/-- The cases of `DecodingError`. -/
inductive Failure where
  | typeMismatch
  | valueNotFound
  | keyNotFound (key : String)
  | dataCorrupted (description : String)
deriving DecidableEq

variable {K α β : Type}

abbrev Decoder (K α : Type) : Type := Json K → Except Failure α

/-! ### Values -/

def string : Decoder K String
  | .str s => .ok s
  | .null => .error .valueNotFound
  | _ => .error .typeMismatch

def number : Decoder K K
  | .num x => .ok x
  | .null => .error .valueNotFound
  | _ => .error .typeMismatch

def bool : Decoder K Bool
  | .bool b => .ok b
  | .null => .error .valueNotFound
  | _ => .error .typeMismatch

/-- An array, all of whose elements are decoded. -/
def array (d : Decoder K α) : Decoder K (List α)
  | .arr js => js.mapM d
  | .null => .error .valueNotFound
  | _ => .error .typeMismatch

/-- A decoder whose failure is replaced by a value. -/
def orElse (d : Decoder K α) (a : α) : Decoder K α := fun j =>
  match d j with
  | .ok b => .ok b
  | .error _ => .ok a

/-! ### Keys -/

/-- `capitalized` of a word. -/
def capitalized : List Char → List Char
  | [] => []
  | c :: cs => if c.isAlpha then c.toUpper :: cs.map Char.toLower else c :: capitalized cs

/-- `convertFromSnakeCase` of a key without leading or trailing underscores. -/
def convertFromSnakeCase (key : String) : String :=
  match (key.toList.splitOn '_').filter (· ≠ []) with
  | [] => key
  | [_] => key
  | word :: words => String.ofList (word.map Char.toLower ++ words.flatMap capitalized)

/-- The members of an object, by their converted keys. -/
abbrev Container (K : Type) : Type := List (String × Json K)

def container : Decoder K (Container K)
  | .obj members => .ok (members.map fun m => (convertFromSnakeCase m.1, m.2))
  | .null => .error .valueNotFound
  | _ => .error .typeMismatch

/-- `decode(_:forKey:)` -/
def Container.decode (c : Container K) (key : String) (d : Decoder K α) : Except Failure α :=
  match c.lookup key with
  | none => .error (.keyNotFound key)
  | some j => d j

/-- `decodeIfPresent(_:forKey:)` -/
def Container.decodeIfPresent (c : Container K) (key : String) (d : Decoder K α) :
    Except Failure (Option α) :=
  match c.lookup key with
  | none => .ok none
  | some .null => .ok none
  | some j => (d j).map some

/-! ### What decoders yield -/

/-- A value that a decoder yields or that is `null`. -/
def Optional (d : Decoder K α) (j : Json K) (a : Option α) : Prop :=
  (j = .null ∧ a = none) ∨ j ≠ .null ∧ ∃ b, d j = .ok b ∧ a = some b

theorem optional_of_ok {d : Decoder K α} {j : Json K} {a : α} (hne : j ≠ .null) (h : d j = .ok a) :
  Optional d j (some a)
  := .inr ⟨hne, a, h, rfl⟩

theorem decode_of_lookup {c : Container K} {key : String} {d : Decoder K α} {j : Json K} {a : α}
    (hkey : c.lookup key = some j) (h : d j = .ok a) :
  c.decode key d = .ok a
  := by
  rw [Container.decode, hkey]
  exact h

theorem decodeIfPresent_of_lookup {c : Container K} {key : String} {d : Decoder K α} {j : Json K}
    {a : Option α} (hkey : c.lookup key = some j) (h : Optional d j a) :
  c.decodeIfPresent key d = .ok a
  := by
  rw [Container.decodeIfPresent, hkey]
  rcases h with ⟨rfl, rfl⟩ | ⟨hne, b, hb, rfl⟩
  · rfl
  · cases j with
    | null => exact absurd rfl hne
    | _ =>
        simp only [hb]
        rfl

/-- A member that is missing is decoded as one that is `null`. -/
theorem decodeIfPresent_of_getD {c : Container K} {key : String} {d : Decoder K α} {j : Json K}
    {a : Option α} (hkey : (c.lookup key).getD .null = j) (h : Optional d j a) :
  c.decodeIfPresent key d = .ok a
  := by
  cases hlookup : c.lookup key with
  | none =>
      rw [hlookup, Option.getD_none] at hkey
      rcases h with ⟨-, rfl⟩ | ⟨hne, -⟩
      · rw [Container.decodeIfPresent, hlookup]
      · exact absurd hkey.symm hne
  | some j' =>
      rw [hlookup, Option.getD_some] at hkey
      exact decodeIfPresent_of_lookup hlookup (hkey ▸ h)

/-- Of an array whose elements are all decoded to something that they are related to, the
elements are decoded in their order. -/
theorem array_exists {γ : Type} {d : Decoder K α} {f : γ → Json K} {R : γ → α → Prop} {xs : List γ}
    (h : ∀ x ∈ xs, ∃ a, d (f x) = .ok a ∧ R x a) :
  ∃ as, array d (.arr (xs.map f)) = .ok as ∧ List.Forall₂ R xs as
  := by
  induction xs with
  | nil => exact ⟨[], rfl, .nil⟩
  | cons x xs ih =>
      obtain ⟨a, ha, hR⟩ := h x List.mem_cons_self
      obtain ⟨as, has, hRs⟩ := ih fun x' hx' => h x' (List.mem_cons_of_mem _ hx')
      refine ⟨a :: as, ?_, .cons hR hRs⟩
      simp only [array, List.map_cons, List.mapM_cons, ha] at has ⊢
      rw [has]
      rfl

end Decoding
