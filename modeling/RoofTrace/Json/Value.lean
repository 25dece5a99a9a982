import Mathlib.Data.Rat.Defs
import Mathlib.Data.List.Basic

/-!
# JSON values

`Json K` is the type of JSON values whose numbers are drawn from `K`. The members of an
object are listed in the order they were written; a lookup returns the first member of
the given name.
-/

/-- A JSON value with numbers in `K`. -/
inductive Json (K : Type) where
  | null
  | bool (b : Bool)
  | num (x : K)
  | str (s : String)
  | arr (elements : List (Json K))
  | obj (members : List (String × Json K))
deriving Inhabited

namespace Json

variable {K : Type}

/-- Whether a value is `null`. -/
def isNull : Json K → Bool
  | .null => true
  | _ => false

/-- The value of the member named `name`, or `null` when the value is not an object or
has no such member. -/
def get (j : Json K) (name : String) : Json K :=
  match j with
  | .obj members => (members.lookup name).getD .null
  | _ => .null

/-- The value of the member named `name` of a value that has one. -/
def member? (j : Json K) (name : String) : Option (Json K) :=
  match j with
  | .obj members => members.lookup name
  | _ => none

/-- The value with the member `name` set to `v`: the member is replaced where it stands,
and added at the end when there is none. -/
def set (j : Json K) (name : String) (v : Json K) : Json K :=
  match j with
  | .obj members =>
      if members.any (·.1 == name) then
        .obj (members.map fun m => if m.1 = name then (name, v) else m)
      else .obj (members ++ [(name, v)])
  | j => j

mutual

/-- Whether two values are the same. -/
def beq [BEq K] : Json K → Json K → Bool
  | .null, .null => true
  | .bool a, .bool b => a == b
  | .num x, .num y => x == y
  | .str s, .str t => s == t
  | .arr js, .arr ks => beqElements js ks
  | .obj ms, .obj ns => beqMembers ms ns
  | _, _ => false

def beqElements [BEq K] : List (Json K) → List (Json K) → Bool
  | [], [] => true
  | j :: js, k :: ks => beq j k && beqElements js ks
  | _, _ => false

def beqMembers [BEq K] : List (String × Json K) → List (String × Json K) → Bool
  | [], [] => true
  | (m, j) :: ms, (n, k) :: ns => m == n && beq j k && beqMembers ms ns
  | _, _ => false

end

instance [BEq K] : BEq (Json K) := ⟨beq⟩

theorem beq_eq_true {s t : String} :
  (s == t) = true ↔ s = t
  := by
  simp

mutual

theorem beq_iff_eq [BEq K] [LawfulBEq K] : ∀ j k : Json K, beq j k = true ↔ j = k
  | .null, k => by cases k <;> simp [beq]
  | .bool a, k => by cases k <;> simp [beq]
  | .num x, k => by cases k <;> simp [beq]
  | .str s, k => by cases k <;> simp [beq]
  | .arr js, k => by
      cases k with
      | arr ks => simp only [beq, arr.injEq, beqElements_iff_eq js ks]
      | _ => simp [beq]
  | .obj ms, k => by
      cases k with
      | obj ns => simp only [beq, obj.injEq, beqMembers_iff_eq ms ns]
      | _ => simp [beq]

theorem beqElements_iff_eq [BEq K] [LawfulBEq K] :
    ∀ js ks : List (Json K), beqElements js ks = true ↔ js = ks
  | [], [] => by simp [beqElements]
  | [], _ :: _ => by simp [beqElements]
  | _ :: _, [] => by simp [beqElements]
  | j :: js, k :: ks => by
      simp only [beqElements, Bool.and_eq_true, beq_iff_eq j k, beqElements_iff_eq js ks,
        List.cons.injEq]

theorem beqMembers_iff_eq [BEq K] [LawfulBEq K] :
    ∀ ms ns : List (String × Json K), beqMembers ms ns = true ↔ ms = ns
  | [], [] => by simp [beqMembers]
  | [], _ :: _ => by simp [beqMembers]
  | _ :: _, [] => by simp [beqMembers]
  | (m, j) :: ms, (n, k) :: ns => by
      simp only [beqMembers, Bool.and_eq_true, beq_iff_eq j k, beqMembers_iff_eq ms ns,
        List.cons.injEq, Prod.mk.injEq, beq_eq_true]

end

instance [DecidableEq K] : DecidableEq (Json K) := fun j k =>
  decidable_of_iff (beq j k = true) (beq_iff_eq j k)

instance [BEq K] [LawfulBEq K] : LawfulBEq (Json K) where
  eq_of_beq h := (beq_iff_eq _ _).mp h
  rfl := (beq_iff_eq _ _).mpr rfl

@[simp]
theorem isNull_iff (j : Json K) :
  j.isNull = true ↔ j = null
  := by
  cases j <;> simp [isNull]

@[simp]
theorem get_null (name : String) :
  (null : Json K).get name = null
  := rfl

theorem get_obj (name : String) (members : List (String × Json K)) :
  (obj members).get name = (members.lookup name).getD null
  := rfl

/-- A lookup finds only members that are there. -/
theorem mem_of_lookup {α : Type} {name : String} {members : List (String × α)} {v : α}
    (h : members.lookup name = some v) :
  (name, v) ∈ members
  := by
  induction members with
  | nil => simp at h
  | cons m rest ih =>
      obtain ⟨n, w⟩ := m
      rw [List.lookup_cons] at h
      by_cases hn : name == n
      · simp only [hn] at h
        simp_all
      · simp only [hn] at h
        apply List.mem_cons_of_mem _ (ih h)

/-- When no two members share a name, every member is found under its name. -/
theorem lookup_of_mem {α : Type} {name : String} {members : List (String × α)} {v : α}
    (hnodup : (members.map Prod.fst).Nodup) (h : (name, v) ∈ members) :
  members.lookup name = some v
  := by
  induction members with
  | nil => simp at h
  | cons m rest ih =>
      obtain ⟨n, w⟩ := m
      simp only [List.map_cons, List.nodup_cons] at hnodup
      obtain ⟨hn, hrest⟩ := hnodup
      rcases List.mem_cons.mp h with heq | hmem
      · obtain ⟨rfl, rfl⟩ := Prod.mk.inj heq
        simp
      · have hne : (name == n) = false := by
          rw [beq_eq_false_iff_ne]
          rintro rfl
          apply hn
          apply List.mem_map.mpr
          use (name, v)
        rw [List.lookup_cons, hne]
        apply ih hrest hmem

theorem lookup_eq_some_iff {α : Type} {name : String} {members : List (String × α)} {v : α}
    (hnodup : (members.map Prod.fst).Nodup) :
  members.lookup name = some v ↔ (name, v) ∈ members
  := ⟨mem_of_lookup, lookup_of_mem hnodup⟩

/-- A member that has been set is found with its new value. -/
theorem get_set_self {members : List (String × Json K)} (name : String) (v : Json K) :
  ((obj members).set name v).get name = v
  := by
  by_cases h : members.any (·.1 == name)
  · simp only [set, h, if_true, get_obj]
    induction members with
    | nil => simp at h
    | cons m rest ih =>
        obtain ⟨n, w⟩ := m
        by_cases hn : n = name
        · simp [hn]
        · have hrest : rest.any (·.1 == name) = true := by simpa [hn] using h
          have hne : (name == n) = false := by
            rw [beq_eq_false_iff_ne]
            apply Ne.symm hn
          simp only [List.map_cons, hn, if_false, List.lookup_cons, hne]
          apply ih hrest
  · simp only [set, h, get_obj, Bool.false_eq_true, if_false]
    induction members with
    | nil => simp
    | cons m rest ih =>
        obtain ⟨n, w⟩ := m
        have hn : n ≠ name ∧ ¬ rest.any (·.1 == name) := by simpa using h
        have hne : (name == n) = false := by
          rw [beq_eq_false_iff_ne]
          apply Ne.symm hn.1
        simp only [List.cons_append, List.lookup_cons, hne]
        apply ih hn.2

/-- Setting a member leaves the members of other names as they were. -/
theorem get_set_of_ne {members : List (String × Json K)} {name other : String}
    (hne : other ≠ name) (v : Json K) :
  ((obj members).set name v).get other = (obj members).get other
  := by
  have hbeq : (other == name) = false := beq_eq_false_iff_ne.mpr hne
  by_cases h : members.any (·.1 == name)
  · simp only [set, h, if_true, get_obj]
    clear h
    congr 1
    induction members with
    | nil => rfl
    | cons m rest ih =>
        obtain ⟨n, w⟩ := m
        by_cases hn : n = name
        · subst hn
          simp only [List.map_cons, if_true, List.lookup_cons, hbeq]
          apply ih
        · simp only [List.map_cons, hn, if_false, List.lookup_cons, ih]
  · simp only [set, h, get_obj, Bool.false_eq_true, if_false]
    clear h
    congr 1
    induction members with
    | nil => simp [List.lookup_cons, hbeq]
    | cons m rest ih =>
        obtain ⟨n, w⟩ := m
        simp only [List.cons_append, List.lookup_cons, ih]

end Json
