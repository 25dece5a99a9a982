import Mathlib.Logic.Function.Basic
import Mathlib.Tactic.Use

/-!
# Object stores

An object store holds at most one object under each key; `put` replaces the object that is
there. After a list of puts a key holds what it held before or one of the objects put under it,
and an object is held to the end when every object put under its key is the same.
-/

namespace Store

variable {κ ν : Type}

/-- What is held under each key. -/
abbrev Objects (κ ν : Type) : Type := κ → Option ν

/-- An object and the key it is put under. -/
structure Put (κ ν : Type) where
  key : κ
  value : ν
deriving DecidableEq

variable [DecidableEq κ]

def put (objects : Objects κ ν) (p : Put κ ν) : Objects κ ν :=
  Function.update objects p.key (some p.value)

/-- The store after the puts of a list, in order. -/
def putAll (objects : Objects κ ν) (puts : List (Put κ ν)) : Objects κ ν :=
  puts.foldl put objects

@[simp]
theorem putAll_nil (objects : Objects κ ν) :
  putAll objects [] = objects
  := rfl

theorem putAll_cons (objects : Objects κ ν) (p : Put κ ν) (puts : List (Put κ ν)) :
  putAll objects (p :: puts) = putAll (put objects p) puts
  := rfl

variable {objects : Objects κ ν} {puts : List (Put κ ν)} {p : Put κ ν} {k : κ}

/-- A key holds what it held, or one of the objects that were put under it. -/
theorem putAll_cases (objects : Objects κ ν) (puts : List (Put κ ν)) (k : κ) :
  ((∀ q ∈ puts, q.key ≠ k) ∧ putAll objects puts k = objects k) ∨
    ∃ q ∈ puts, q.key = k ∧ putAll objects puts k = some q.value
  := by
  induction puts generalizing objects with
  | nil =>
      left
      exact ⟨fun q hq => absurd hq List.not_mem_nil, rfl⟩
  | cons p puts ih =>
      rw [putAll_cons]
      obtain ⟨hne, hkept⟩ | ⟨q, hq, hkey, hheld⟩ := ih (put objects p)
      · by_cases hp : p.key = k
        · right
          use p, List.mem_cons_self, hp
          rw [hkept, ← hp]
          apply Function.update_self
        · left
          constructor
          · intro q hq
            obtain rfl | hq := List.mem_cons.mp hq
            · exact hp
            · exact hne q hq
          · rw [hkept]
            exact Function.update_of_ne (Ne.symm hp) _ _
      · right
        use q, List.mem_cons_of_mem p hq

/-- An object is held to the end when every object under its key is the same. -/
theorem putAll_of_mem (hp : p ∈ puts) (h : ∀ q ∈ puts, q.key = p.key → q.value = p.value) :
  putAll objects puts p.key = some p.value
  := by
  obtain ⟨hne, -⟩ | ⟨q, hq, hkey, hheld⟩ := putAll_cases objects puts p.key
  · exact absurd rfl (hne p hp)
  · rw [hheld, h q hq hkey]

end Store
