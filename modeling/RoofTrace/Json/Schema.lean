import RoofTrace.Json.Value
import Mathlib.Data.Rat.Floor
import Mathlib.Tactic.NormNum

/-!
# JSON Schema

A JSON Schema (draft 2020-12) denotes the values it accepts, `Schema = Json ℚ → Bool`, and
each keyword is a schema of its own: a keyword that speaks of another type of value than
the one at hand accepts it. A schema object is the conjunction `allOf` of its keywords.

The schemas of this development are closed objects: an object whose members are all
declared, some of them required. `closedObject_dump_iff` says when a closed object accepts
an object written out from named fields, with or without its null members.
-/

/-- The assertion of the `format` keyword: which strings a named format accepts. -/
class FormatAssertion where
  /-- `holds name s`: the string `s` is in the format `name`. -/
  holds : String → String → Bool

/-- Formats that accept every string. -/
abbrev anyFormat : FormatAssertion := ⟨fun _ _ => true⟩

/-- A schema, as the values it accepts. -/
abbrev Schema := Json ℚ → Bool

namespace Schema

/-- The type names of JSON Schema. -/
inductive TypeName where
  | null
  | boolean
  | number
  | integer
  | string
  | array
  | object
deriving DecidableEq

/-- The values of a type. A number without fractional part is an integer. -/
def TypeName.holds : TypeName → Json ℚ → Bool
  | .null, .null => true
  | .boolean, .bool _ => true
  | .number, .num _ => true
  | .integer, .num x => x.den == 1
  | .string, .str _ => true
  | .array, .arr _ => true
  | .object, .obj _ => true
  | _, _ => false

/-- `"type": [...]` -/
def types (ts : List TypeName) : Schema := fun j => ts.any (·.holds j)

/-- `"enum": [...]`, of strings. -/
def enum (vs : List String) : Schema
  | .str s => vs.contains s
  | _ => false

/-- `"const": v`, of a string. -/
def const (v : String) : Schema
  | .str s => s == v
  | _ => false

/-- `"minimum": b` -/
def minimum (b : ℚ) : Schema
  | .num x => decide (b ≤ x)
  | _ => true

/-- `"maximum": b` -/
def maximum (b : ℚ) : Schema
  | .num x => decide (x ≤ b)
  | _ => true

/-- `"minLength": n` -/
def minLength (n : ℕ) : Schema
  | .str s => decide (n ≤ s.length)
  | _ => true

/-- `"format": name` -/
def format [FormatAssertion] (name : String) : Schema
  | .str s => FormatAssertion.holds name s
  | _ => true

/-- `"minItems": n` -/
def minItems (n : ℕ) : Schema
  | .arr xs => decide (n ≤ xs.length)
  | _ => true

/-- `"maxItems": n` -/
def maxItems (n : ℕ) : Schema
  | .arr xs => decide (xs.length ≤ n)
  | _ => true

/-- `"items": s` -/
def items (s : Schema) : Schema
  | .arr xs => xs.all s
  | _ => true

/-- `"properties": {...}` -/
def properties (ps : List (String × Schema)) : Schema
  | .obj ms => ps.all fun p => ((ms.lookup p.1).map p.2).getD true
  | _ => true

/-- `"additionalProperties": false`, next to the properties named `names`. -/
def noAdditionalProperties (names : List String) : Schema
  | .obj ms => ms.all fun m => names.contains m.1
  | _ => true

/-- `"required": [...]` -/
def required (names : List String) : Schema
  | .obj ms => names.all fun n => (ms.lookup n).isSome
  | _ => true

/-- `"anyOf": [...]` -/
def anyOf (ss : List Schema) : Schema := fun j => ss.any (· j)

/-- `"oneOf": [...]` -/
def oneOf (ss : List Schema) : Schema := fun j => ss.countP (· j) == 1

/-- The conjunction of the keywords of a schema object. -/
def allOf (ss : List Schema) : Schema := fun j => ss.all (· j)

/-- An object whose members are all declared in `ps` and among which the members named
in `req` are present. -/
def closedObject (ps : List (String × Schema)) (req : List String) : Schema :=
  allOf [types [.object], properties ps, required req, noAdditionalProperties (ps.map Prod.fst)]

/-! ### Acceptance of closed objects -/

theorem closedObject_obj_iff (ps : List (String × Schema)) (req : List String)
    (ms : List (String × Json ℚ)) :
  closedObject ps req (.obj ms) = true ↔
    (∀ p ∈ ps, ∀ v, ms.lookup p.1 = some v → p.2 v = true) ∧
    (∀ n ∈ req, (ms.lookup n).isSome) ∧
    (∀ m ∈ ms, m.1 ∈ ps.map Prod.fst)
  := by
  have hprop : ∀ p : String × Schema,
      ((ms.lookup p.1).map p.2).getD true = true ↔
        ∀ v, ms.lookup p.1 = some v → p.2 v = true := by
    intro p
    cases ms.lookup p.1 with
    | none => simp
    | some v => simp
  simp only [closedObject, allOf, types, properties, required, noAdditionalProperties,
    TypeName.holds, List.all_cons, List.all_nil, List.any_cons, List.any_nil, Bool.or_false,
    Bool.true_and, Bool.and_true, Bool.and_eq_true, List.all_eq_true, hprop,
    List.contains_iff_mem]

/-- A closed object accepts only objects. -/
theorem eq_obj_of_closedObject {ps : List (String × Schema)} {req : List String} {j : Json ℚ}
    (h : closedObject ps req j = true) :
  ∃ ms, j = .obj ms
  := by
  cases j with
  | obj ms => use ms
  | _ => simp [closedObject, allOf, types, TypeName.holds] at h

/-- The object written out from named fields; with `excludeNone` the fields that are null
are left out. -/
def dumpFields (excludeNone : Bool) (fields : List (String × Json ℚ)) : Json ℚ :=
  .obj (if excludeNone then fields.filter (!·.2.isNull) else fields)

/-- Whether a field is left out of the object. -/
def Dropped (excludeNone : Bool) (v : Json ℚ) : Prop :=
  excludeNone = true ∧ v = .null

theorem mem_dumpFields {excludeNone : Bool} {fields : List (String × Json ℚ)}
    {f : String × Json ℚ} :
  f ∈ (if excludeNone then fields.filter (!·.2.isNull) else fields) ↔
    f ∈ fields ∧ ¬ Dropped excludeNone f.2
  := by
  cases excludeNone with
  | false => simp [Dropped]
  | true =>
      simp only [if_true, List.mem_filter, Dropped, true_and, and_congr_right_iff]
      intro _
      rw [Bool.not_eq_true', ← Bool.not_eq_true, Json.isNull_iff]

/-- A closed object accepts the object written out from `fields` exactly when every field
that is written is declared and accepted by its declaration, and every required field is
written. -/
theorem closedObject_dumpFields_iff {ps : List (String × Schema)} {req : List String}
    {excludeNone : Bool} {fields : List (String × Json ℚ)}
    (hps : (ps.map Prod.fst).Nodup) (hfields : (fields.map Prod.fst).Nodup) :
  closedObject ps req (dumpFields excludeNone fields) = true ↔
    (∀ f ∈ fields, Dropped excludeNone f.2 ∨ ∃ s, (f.1, s) ∈ ps ∧ s f.2 = true) ∧
    (∀ n ∈ req, ∃ v, (n, v) ∈ fields ∧ ¬ Dropped excludeNone v)
  := by
  have hsub : ((if excludeNone then fields.filter (!·.2.isNull) else fields).map
      Prod.fst).Nodup := by
    cases excludeNone with
    | false => simpa using hfields
    | true =>
        simp only [if_true]
        apply List.Sublist.nodup _ hfields
        apply List.Sublist.map
        apply List.filter_sublist
  rw [dumpFields, closedObject_obj_iff]
  simp only [Json.lookup_eq_some_iff hsub, Option.isSome_iff_exists, mem_dumpFields]
  constructor
  · rintro ⟨hprop, hreq, hclosed⟩
    constructor
    · rintro ⟨n, v⟩ hf
      by_cases hd : Dropped excludeNone v
      · left
        apply hd
      · right
        obtain ⟨⟨n', s⟩, hs, rfl⟩ := List.mem_map.mp (hclosed (n, v) ⟨hf, hd⟩)
        use s, hs
        apply hprop (n', s) hs v ⟨hf, hd⟩
    · apply hreq
  · rintro ⟨hall, hreq⟩
    constructor
    · rintro ⟨n, s⟩ hs v ⟨hf, hd⟩
      obtain hdrop | ⟨s', hs', hv⟩ := hall (n, v) hf
      · apply (hd hdrop).elim
      · have heq : s = s' := by
          apply Option.some.inj
          rw [← Json.lookup_of_mem hps hs, ← Json.lookup_of_mem hps hs']
        rw [heq]
        apply hv
    · constructor
      · apply hreq
      · rintro ⟨n, v⟩ ⟨hf, hd⟩
        obtain hdrop | ⟨s, hs, -⟩ := hall (n, v) hf
        · apply (hd hdrop).elim
        · apply List.mem_map.mpr
          use (n, s)

/-- A field is written as its declaration `d` asks: it is written when it is required, and
when it is written the declaration accepts it. -/
def FieldOk (excludeNone : Bool) (req : List String) (d : String × Schema) (v : Json ℚ) : Prop :=
  (d.1 ∈ req → ¬ Dropped excludeNone v) ∧ (Dropped excludeNone v ∨ d.2 v = true)

theorem FieldOk.of_accepts {excludeNone : Bool} {req : List String} {d : String × Schema}
    {v : Json ℚ} (h : d.2 v = true) (hne : v ≠ .null) :
  FieldOk excludeNone req d v
  := ⟨fun _ hd => hne hd.2, .inr h⟩

theorem FieldOk.optional {excludeNone : Bool} {req : List String} {d : String × Schema}
    {v : Json ℚ} (hreq : d.1 ∉ req) (h : Dropped excludeNone v ∨ d.2 v = true) :
  FieldOk excludeNone req d v
  := ⟨fun hmem => (hreq hmem).elim, h⟩

/-- For fields listed in the order of their declarations, each field is checked against
the declaration it stands next to. -/
theorem closedObject_dumpFields_zip_iff {ps : List (String × Schema)} {req : List String}
    {excludeNone : Bool} {fields : List (String × Json ℚ)}
    (hnames : ps.map Prod.fst = fields.map Prod.fst) (hnodup : (ps.map Prod.fst).Nodup)
    (hdeclared : ∀ n ∈ req, n ∈ ps.map Prod.fst) :
  closedObject ps req (dumpFields excludeNone fields) = true ↔
    ∀ q ∈ ps.zip fields, FieldOk excludeNone req q.1 q.2.2
  := by
  have hnodup' : (fields.map Prod.fst).Nodup := hnames ▸ hnodup
  rw [closedObject_dumpFields_iff hnodup hnodup']
  have hlength : ps.length = fields.length := by
    simpa using congrArg List.length hnames
  have hname : ∀ (i : ℕ) (hp : i < ps.length) (hf : i < fields.length),
      ps[i].1 = fields[i].1 := by
    intro i hp hf
    simpa [hp, hf] using congrArg (·[i]?) hnames
  constructor
  · rintro ⟨hall, hreq⟩ q hq
    obtain ⟨i, hi, rfl⟩ := List.mem_iff_getElem.mp hq
    have hp : i < ps.length := by simp at hi; omega
    have hf : i < fields.length := by omega
    rw [List.getElem_zip]
    constructor
    · intro hmem
      obtain ⟨v, hv, hd⟩ := hreq _ hmem
      have heq : v = fields[i].2 := by
        apply Option.some.inj
        rw [← Json.lookup_of_mem hnodup' hv, hname i hp hf]
        apply Json.lookup_of_mem hnodup' (List.getElem_mem hf)
      rw [← heq]
      apply hd
    · obtain hdrop | ⟨s, hs, hv⟩ := hall fields[i] (List.getElem_mem hf)
      · left
        apply hdrop
      · right
        have heq : s = ps[i].2 := by
          apply Option.some.inj
          rw [← Json.lookup_of_mem hnodup hs, ← hname i hp hf]
          apply Json.lookup_of_mem hnodup (List.getElem_mem hp)
        rw [← heq]
        apply hv
  · intro hall
    have hat : ∀ (i : ℕ) (hp : i < ps.length) (hf : i < fields.length),
        FieldOk excludeNone req ps[i] fields[i].2 := by
      intro i hp hf
      have hz : i < (ps.zip fields).length := by simp; omega
      have hq := hall (ps.zip fields)[i] (List.getElem_mem hz)
      rw [List.getElem_zip] at hq
      apply hq
    constructor
    · intro f hf
      obtain ⟨i, hi, rfl⟩ := List.mem_iff_getElem.mp hf
      have hp : i < ps.length := by omega
      obtain hdrop | hv := (hat i hp hi).2
      · left
        apply hdrop
      · right
        use ps[i].2
        constructor
        · rw [← hname i hp hi]
          apply List.getElem_mem hp
        · apply hv
    · intro n hn
      obtain ⟨d, hd, rfl⟩ := List.mem_map.mp (hdeclared n hn)
      obtain ⟨i, hi, rfl⟩ := List.mem_iff_getElem.mp hd
      have hf : i < fields.length := by omega
      use fields[i].2
      constructor
      · rw [hname i hi hf]
        apply List.getElem_mem hf
      · apply (hat i hi hf).1 hn

/-- The object written out from fields that are all written as their declarations ask is
accepted. -/
theorem closedObject_dumpFields {ps : List (String × Schema)} {req : List String}
    {excludeNone : Bool} {fields : List (String × Json ℚ)}
    (hnames : ps.map Prod.fst = fields.map Prod.fst) (hnodup : (ps.map Prod.fst).Nodup)
    (hdeclared : ∀ n ∈ req, n ∈ ps.map Prod.fst)
    (h : (ps.zip fields).Forall fun q => FieldOk excludeNone req q.1 q.2.2) :
  closedObject ps req (dumpFields excludeNone fields) = true
  := (closedObject_dumpFields_zip_iff hnames hnodup hdeclared).mpr (List.forall_iff_forall_mem.mp h)

/-- The object with the declared members in their order is accepted when all its values are. -/
theorem closedObject_of_forall {ps : List (String × Schema)} {req : List String}
    {fields : List (String × Json ℚ)} (hnames : ps.map Prod.fst = fields.map Prod.fst)
    (hnodup : (ps.map Prod.fst).Nodup) (hdeclared : ∀ n ∈ req, n ∈ ps.map Prod.fst)
    (h : (ps.zip fields).Forall fun q => q.1.2 q.2.2 = true) :
  closedObject ps req (.obj fields) = true
  := by
  have hkept : ∀ v : Json ℚ, ¬ Dropped false v := fun v hd => Bool.noConfusion hd.1
  have hdump : dumpFields false fields = .obj fields := by simp [dumpFields]
  rw [← hdump, closedObject_dumpFields_zip_iff hnames hnodup hdeclared]
  exact fun q hq => ⟨fun _ => hkept _, .inr (List.forall_iff_forall_mem.mp h q hq)⟩

/-- The value of a required member is accepted by its declaration. -/
theorem accepts_get_of_required {ps : List (String × Schema)} {req : List String} {j : Json ℚ}
    (h : closedObject ps req j = true) {name : String} {s : Schema} (hs : (name, s) ∈ ps)
    (hname : name ∈ req) :
  s (j.get name) = true
  := by
  obtain ⟨ms, rfl⟩ := eq_obj_of_closedObject h
  obtain ⟨hprops, hreq, -⟩ := (closedObject_obj_iff ps req ms).mp h
  obtain ⟨v, hv⟩ := Option.isSome_iff_exists.mp (hreq name hname)
  rw [Json.get_obj, hv]
  exact hprops (name, s) hs v hv

/-- The value of a declared member is accepted by its declaration, or the member is missing. -/
theorem accepts_get {ps : List (String × Schema)} {req : List String} {j : Json ℚ}
    (h : closedObject ps req j = true) {name : String} {s : Schema} (hs : (name, s) ∈ ps) :
  s (j.get name) = true ∨ j.get name = .null
  := by
  obtain ⟨ms, rfl⟩ := eq_obj_of_closedObject h
  obtain ⟨hprops, -, -⟩ := (closedObject_obj_iff ps req ms).mp h
  rw [Json.get_obj]
  cases hv : ms.lookup name with
  | none => exact .inr rfl
  | some v => exact .inl (hprops (name, s) hs v hv)

/-- An object that may be `null` and requires no member accepts what the closed object
with the same declarations accepts. -/
theorem nullableObject_of_closedObject {ps : List (String × Schema)} {j : Json ℚ}
    (h : closedObject ps [] j = true) :
  allOf [types [.object, .null], properties ps, noAdditionalProperties (ps.map Prod.fst)] j
    = true
  := by
  obtain ⟨ms, rfl⟩ := eq_obj_of_closedObject h
  simp only [closedObject, allOf, List.all_cons, List.all_nil, Bool.and_eq_true] at h ⊢
  obtain ⟨-, hprop, -, hclosed, -⟩ := h
  use rfl, hprop, hclosed

/-- A closed object rejects an object one of whose written fields its declaration
rejects. -/
theorem closedObject_dumpFields_of_rejected {ps : List (String × Schema)} {req : List String}
    {excludeNone : Bool} {fields : List (String × Json ℚ)}
    (hps : (ps.map Prod.fst).Nodup) (hfields : (fields.map Prod.fst).Nodup)
    {n : String} {v : Json ℚ} {s : Schema} (hf : (n, v) ∈ fields)
    (hd : ¬ Dropped excludeNone v) (hs : (n, s) ∈ ps) (hv : s v = false) :
  closedObject ps req (dumpFields excludeNone fields) = false
  := by
  rw [← Bool.not_eq_true, closedObject_dumpFields_iff hps hfields]
  rintro ⟨hall, -⟩
  obtain hdrop | ⟨s', hs', hv'⟩ := hall (n, v) hf
  · apply hd hdrop
  · have heq : s = s' := by
      apply Option.some.inj
      rw [← Json.lookup_of_mem hps hs, ← Json.lookup_of_mem hps hs']
    rw [← heq, hv] at hv'
    cases hv'

end Schema
