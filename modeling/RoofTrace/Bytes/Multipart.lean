import RoofTrace.Bytes.Delimiters
import RoofTrace.Bytes.Utf8
import Mathlib.Data.List.DropRight

/-!
# Multipart bodies

A body is made of entities, each of which is a block of header fields, an empty line and data, that
a boundary separates. Parsers differ in what they make of the escapes in a quoted value, and in
what they accept besides the grammar; a `Parser` that is `Standard` reads what is written by the
grammar, and a body of entities is read as them. `reader` is such a parser, for any way of reading
the escapes.
-/

namespace Multipart

open Delimiters

/-! ### The grammar -/

def crlf : List UInt8 := Utf8.encode "\r\n"

/-- The bytes that begin a body. -/
def dashBoundary (boundary : String) : List UInt8 := Utf8.encode ("--" ++ boundary)

/-- The bytes that end the data of an entity. -/
def delimiter (boundary : String) : List UInt8 := crlf ++ dashBoundary boundary

/-- A boundary that a `Content-Type` carries without quotes. -/
def Carried (boundary : String) : Prop :=
  boundary ≠ "" ∧ boundary.length ≤ 70 ∧
    ∀ c ∈ boundary.toList, c.isAlphanum = true ∨ c ∈ ['\'', '+', '-', '.', '_']

instance (boundary : String) : Decidable (Carried boundary) :=
  haveI := List.decidableBAll
    (fun c : Char => c.isAlphanum = true ∨ c ∈ ['\'', '+', '-', '.', '_']) boundary.toList
  inferInstanceAs (Decidable (_ ∧ _ ∧ _))

/-- A letter or a hyphen. -/
def isTokenByte (b : UInt8) : Bool := (65 ≤ b && b ≤ 90) || (97 ≤ b && b ≤ 122) || b == 45

/-- The name of a field, of a type or of a parameter. -/
def IsToken (s : List UInt8) : Prop := s ≠ [] ∧ ∀ b ∈ s, isTokenByte b = true

instance (s : List UInt8) : Decidable (IsToken s) :=
  haveI := List.decidableBAll (fun b => isTokenByte b = true) s
  inferInstanceAs (Decidable (_ ∧ _))

/-- A space or a tab. -/
def isBlank (b : UInt8) : Bool := b == 32 || b == 9

/-- Bytes with no blank at either end. -/
def Trimmed (s : List UInt8) : Prop :=
  (∀ b ∈ s.head?, isBlank b = false) ∧ ∀ b ∈ s.getLast?, isBlank b = false

/-- Bytes without a carriage return and a line feed. -/
def OnOneLine (s : List UInt8) : Prop := 13 ∉ s ∧ 10 ∉ s

/-- Bytes that stand for themselves in quotes: besides line breaks, there is no quote, and no
backslash and percent sign, with which a quote may be written. -/
def Literal (s : List UInt8) : Prop := 34 ∉ s ∧ 92 ∉ s ∧ 37 ∉ s ∧ OnOneLine s

/-- A header field: its name and its value. -/
abbrev Field : Type := List UInt8 × List UInt8

structure IsField (f : Field) : Prop where
  name : IsToken f.1
  line : OnOneLine f.2
  trimmed : Trimmed f.2

def fieldLine (f : Field) : List UInt8 := f.1 ++ (Utf8.encode ": " ++ f.2)

/-- The lines of header fields. -/
def headerBlock (fields : List Field) : List UInt8 := fields.flatMap fun f => fieldLine f ++ crlf

/-- A parameter of the value of a field, in quotes. -/
def parameter (kv : List UInt8 × List UInt8) : List UInt8 :=
  Utf8.encode "; " ++ (kv.1 ++ (Utf8.encode "=\"" ++ (kv.2 ++ Utf8.encode "\"")))

/-- Letters in lower case. -/
def lower (s : List UInt8) : List UInt8 := s.map fun b => if 65 ≤ b ∧ b ≤ 90 then b + 32 else b

/-- The value of the first field with a name, in upper or lower case. -/
def fieldValue (name : String) (fields : List Field) : Option (List UInt8) :=
  (fields.find? fun f => lower f.1 = lower (Utf8.encode name)).map (·.2)

structure Entity where
  fields : List Field
  data : List UInt8

/-- What follows a delimiter that entities follow. -/
def afterDelimiter (boundary : String) : List Entity → List UInt8
  | [] => Utf8.encode "--" ++ crlf
  | entity :: entities =>
      crlf ++ (headerBlock entity.fields ++ (crlf ++ (entity.data ++
        (delimiter boundary ++ afterDelimiter boundary entities))))

/-- The body of entities. -/
def body (boundary : String) (entities : List Entity) : List UInt8 :=
  dashBoundary boundary ++ afterDelimiter boundary entities

/-- A carried boundary gives a delimiter that does not overlap itself. -/
theorem unbordered_delimiter {boundary : String} (h : Carried boundary) :
  Unbordered (delimiter boundary)
  := by
  have hcr : '\r' ∉ boundary.toList := by
    intro hmem
    obtain halnum | hmark := h.2.2 '\r' hmem
    · exact absurd halnum (by decide)
    · exact absurd hmark (by decide)
  have htail : UInt8.ofNat '\r'.toNat ∉ Utf8.encode ("\n--" ++ boundary) := by
    apply Utf8.not_mem_encode (by decide)
    rw [String.toList_append, List.mem_append, not_or]
    exact ⟨by decide, hcr⟩
  have hdelimiter : delimiter boundary =
      UInt8.ofNat '\r'.toNat :: Utf8.encode ("\n--" ++ boundary) := by
    rw [delimiter, dashBoundary, Utf8.encode_append, Utf8.encode_append]
    rfl
  rw [hdelimiter]
  exact unbordered_of_not_mem htail

/-! ### Parsers -/

/-- A parser: what it makes of a body and of what follows a delimiter, and of the parameters in the
value of a field. -/
structure Parser where
  parse : String → List UInt8 → Option (List Entity)
  following : String → List UInt8 → Option (List Entity)
  parameters : List UInt8 → Option (List (List UInt8 × List UInt8))

/-- A parser that reads what is written by the grammar: a body that begins with its boundary; the
last delimiter, which has two hyphens after it; an entity, with its header fields up to the empty
line and its data up to the first delimiter; and parameters whose values stand for themselves. -/
structure Parser.Standard (p : Parser) : Prop where
  opening {boundary : String} (hcarried : Carried boundary) (s : List UInt8) :
    p.parse boundary (dashBoundary boundary ++ s) = p.following boundary s
  closing {boundary : String} (hcarried : Carried boundary) (epilogue : List UInt8) :
    p.following boundary (Utf8.encode "--" ++ (crlf ++ epilogue)) = some []
  entity {boundary : String} (hcarried : Carried boundary) {fields : List Field}
    (hfields : ∀ f ∈ fields, IsField f) {s data rest : List UInt8}
    (hdata : breakAt (delimiter boundary) s = some (data, rest))
    (hrest : crlf <+: rest ∨ Utf8.encode "--" <+: rest) :
    p.following boundary (crlf ++ (headerBlock fields ++ (crlf ++ s))) =
      (p.following boundary rest).map (⟨fields, data⟩ :: ·)
  parameters {type : List UInt8} (htype : IsToken type)
    {pairs : List (List UInt8 × List UInt8)} (hkeys : (pairs.map Prod.fst).Nodup)
    (hpairs : ∀ kv ∈ pairs, IsToken kv.1 ∧ Literal kv.2) :
    p.parameters (type ++ pairs.flatMap parameter) = some pairs

/-- An entity that a body can have: its data does not have the delimiter. -/
structure Separable (boundary : String) (entity : Entity) : Prop where
  fields : ∀ f ∈ entity.fields, IsField f
  data : ¬ delimiter boundary <:+: entity.data

/-- What follows a delimiter is the end of its line or of the body. -/
theorem prefix_afterDelimiter (boundary : String) (entities : List Entity) :
  crlf <+: afterDelimiter boundary entities ∨
    Utf8.encode "--" <+: afterDelimiter boundary entities
  := by
  cases entities with
  | nil => exact .inr (List.prefix_append _ _)
  | cons entity entities => exact .inl (List.prefix_append _ _)

/-- The body of entities is read as them, in order. -/
theorem Parser.Standard.parse_body {p : Parser} (hp : p.Standard) {boundary : String}
    (hcarried : Carried boundary) {entities : List Entity}
    (h : ∀ entity ∈ entities, Separable boundary entity) :
  p.parse boundary (body boundary entities) = some entities
  := by
  rw [body, hp.opening hcarried]
  induction entities with
  | nil =>
      have hclosing := hp.closing hcarried []
      rwa [List.append_nil] at hclosing
  | cons entity entities ih =>
      have hentity := h entity List.mem_cons_self
      have hrest := ih fun entity hmem => h entity (List.mem_cons_of_mem _ hmem)
      have hbreak := breakAt_part (afterDelimiter boundary entities)
        (unbordered_delimiter hcarried) hentity.data
      rw [afterDelimiter, hp.entity hcarried hentity.fields hbreak
        (prefix_afterDelimiter boundary entities), hrest]
      rfl

/-! ### A reader -/

/-- What stands before the first quote that is not escaped, and what follows it. -/
def breakAtQuote : Bool → List UInt8 → Option (List UInt8 × List UInt8)
  | _, [] => none
  | escaped, b :: s =>
      if b = 34 ∧ escaped = false then some ([], s)
      else (breakAtQuote (!escaped && b == 92) s).map fun (value, rest) => (b :: value, rest)

/-- The parameters of a value after its type. -/
def readParameters (unescape : List UInt8 → List UInt8) :
    ℕ → List UInt8 → Option (List (List UInt8 × List UInt8))
  | 0, _ => none
  | fuel + 1, s =>
      if s.isEmpty then some []
      else do
        let s ← strip (Utf8.encode "; ") s
        let (key, s) ← breakAt (Utf8.encode "=\"") s
        let (value, s) ← breakAtQuote false s
        let rest ← readParameters unescape fuel s
        return (key, unescape value) :: rest

/-- What is between the blanks. -/
def trim (s : List UInt8) : List UInt8 := (s.dropWhile isBlank).rdropWhile isBlank

def readField (line : List UInt8) : Option Field := do
  let (name, value) ← breakAt (Utf8.encode ":") line
  return (name, trim value)

/-- The lines up to the empty one, and what follows it. -/
def readLines : ℕ → List UInt8 → Option (List (List UInt8) × List UInt8)
  | 0, _ => none
  | fuel + 1, s => do
      let (line, s) ← breakAt crlf s
      if line.isEmpty then return ([], s)
      else do
        let (lines, s) ← readLines fuel s
        return (line :: lines, s)

/-- The entities that follow a delimiter. -/
def readEntities (boundary : String) : ℕ → List UInt8 → Option (List Entity)
  | 0, _ => none
  | fuel + 1, s =>
      if (strip (Utf8.encode "--") s).isSome then some []
      else do
        let s ← strip crlf s
        let (lines, s) ← readLines (s.length + 1) s
        let fields ← lines.mapM readField
        let (data, s) ← breakAt (delimiter boundary) s
        let entities ← readEntities boundary fuel s
        return ⟨fields, data⟩ :: entities

/-- The parser that reads the escapes of a quoted value in some way. -/
def reader (unescape : List UInt8 → List UInt8) : Parser where
  parse boundary s := do
    let s ← strip (dashBoundary boundary) s
    readEntities boundary (s.length + 1) s
  following boundary s := readEntities boundary (s.length + 1) s
  parameters value :=
    readParameters unescape (value.length + 1) (value.dropWhile isTokenByte)

/-! ### Fields and parameters -/

theorem not_mem_of_isToken {s : List UInt8} (h : IsToken s) {b : UInt8}
    (hb : isTokenByte b = false) :
  b ∉ s
  := by
  intro hmem
  have htoken := h.2 b hmem
  rw [hb] at htoken
  cases htoken

theorem trim_of_trimmed {s : List UInt8} (h : Trimmed s) :
  trim (32 :: s) = s
  := by
  have hfront : (32 :: s).dropWhile isBlank = s := by
    rw [List.dropWhile_cons_of_pos (by decide)]
    cases s with
    | nil => rfl
    | cons b s => exact List.dropWhile_cons_of_neg (by simp [h.1 b rfl])
  rw [trim, hfront, List.rdropWhile_eq_self_iff]
  intro hne
  rw [h.2 _ (List.getLast?_eq_some_getLast hne)]
  decide

theorem readField_fieldLine {f : Field} (h : IsField f) :
  readField (fieldLine f) = some f
  := by
  have hcolon : UInt8.ofNat ':'.toNat ∉ f.1 := not_mem_of_isToken h.name (by decide)
  have hbreak : breakAt (Utf8.encode ":") (fieldLine f) = some (f.1, 32 :: f.2) :=
    breakAt_append_of_not_mem hcolon
  rw [readField, hbreak]
  change some (f.1, trim (32 :: f.2)) = some f
  rw [trim_of_trimmed h.trimmed]

theorem fieldLine_spec {f : Field} (h : IsField f) :
  fieldLine f ≠ [] ∧ UInt8.ofNat '\r'.toNat ∉ fieldLine f
  := by
  constructor
  · intro hnil
    exact h.name.1 (List.append_eq_nil_iff.mp hnil).1
  · have hname : UInt8.ofNat '\r'.toNat ∉ f.1 := not_mem_of_isToken h.name (by decide)
    have hcolon : UInt8.ofNat '\r'.toNat ∉ Utf8.encode ": " := by decide +kernel
    simp only [fieldLine, List.mem_append, not_or]
    exact ⟨hname, hcolon, h.line.1⟩

/-- A value without quotes and backslashes is read up to its quote. -/
theorem breakAtQuote_append {value s : List UInt8} (hquote : 34 ∉ value) (hescape : 92 ∉ value) :
  breakAtQuote false (value ++ 34 :: s) = some (value, s)
  := by
  induction value with
  | nil => rfl
  | cons b value ih =>
      rw [List.mem_cons, not_or] at hquote hescape
      have hb : (b == 92) = false := beq_false_of_ne (Ne.symm hescape.1)
      rw [List.cons_append, breakAtQuote, if_neg (fun h => hquote.1 h.1.symm), hb, Bool.not_false,
        Bool.and_false, ih hquote.2 hescape.2]
      rfl

theorem readParameters_cons {unescape : List UInt8 → List UInt8}
    {kv : List UInt8 × List UInt8} (hkey : IsToken kv.1) (hquote : 34 ∉ kv.2)
    (hescape : 92 ∉ kv.2) (fuel : ℕ) (s : List UInt8) :
  readParameters unescape (fuel + 1) (parameter kv ++ s) =
    (readParameters unescape fuel s).map ((kv.1, unescape kv.2) :: ·)
  := by
  have hequals : UInt8.ofNat '='.toNat ∉ kv.1 := not_mem_of_isToken hkey (by decide)
  have hbreak : breakAt (Utf8.encode "=\"") (kv.1 ++ (Utf8.encode "=\"" ++
      (kv.2 ++ (Utf8.encode "\"" ++ s)))) = some (kv.1, kv.2 ++ (Utf8.encode "\"" ++ s)) :=
    breakAt_append_of_not_mem hequals
  have hvalue : breakAtQuote false (kv.2 ++ (Utf8.encode "\"" ++ s)) = some (kv.2, s) :=
    breakAtQuote_append hquote hescape
  have hparameter : parameter kv ++ s = Utf8.encode "; " ++ (kv.1 ++ (Utf8.encode "=\"" ++
      (kv.2 ++ (Utf8.encode "\"" ++ s)))) := by
    simp only [parameter, List.append_assoc]
  rw [hparameter, readParameters, if_neg (by simp [Utf8.encode]), strip_append,
    Option.bind_eq_bind, Option.bind_some, hbreak, Option.bind_eq_bind, Option.bind_some]
  dsimp only
  rw [hvalue, Option.bind_eq_bind, Option.bind_some]
  dsimp only
  cases readParameters unescape fuel s <;> rfl

/-- Parameters are read when their values stand for themselves. -/
theorem readParameters_flatMap {unescape : List UInt8 → List UInt8}
    (hunescape : ∀ value, Literal value → unescape value = value)
    {pairs : List (List UInt8 × List UInt8)}
    (hpairs : ∀ kv ∈ pairs, IsToken kv.1 ∧ Literal kv.2) {fuel : ℕ} (hfuel : pairs.length < fuel) :
  readParameters unescape fuel (pairs.flatMap parameter) = some pairs
  := by
  induction pairs generalizing fuel with
  | nil =>
      obtain ⟨fuel, rfl⟩ := Nat.exists_eq_succ_of_ne_zero (by omega : fuel ≠ 0)
      rfl
  | cons kv pairs ih =>
      obtain ⟨fuel, rfl⟩ := Nat.exists_eq_succ_of_ne_zero (by omega : fuel ≠ 0)
      obtain ⟨hkey, hvalue⟩ := hpairs kv List.mem_cons_self
      have hrest := ih (fun kv hmem => hpairs kv (List.mem_cons_of_mem _ hmem))
        (Nat.lt_of_succ_lt_succ hfuel)
      rw [List.flatMap_cons, readParameters_cons hkey hvalue.1 hvalue.2.1, hrest,
        hunescape kv.2 hvalue]
      rfl

theorem length_le_flatMap_parameter (pairs : List (List UInt8 × List UInt8)) :
  pairs.length ≤ (pairs.flatMap parameter).length
  := by
  induction pairs with
  | nil => exact Nat.zero_le _
  | cons kv pairs ih =>
      have hlead : (Utf8.encode "; ").length = 2 := by decide +kernel
      simp only [List.flatMap_cons, parameter, List.length_append, List.length_cons, hlead]
      omega

/-- The type of a value is what comes before its parameters. -/
theorem dropWhile_type {type : List UInt8} (htype : IsToken type)
    (pairs : List (List UInt8 × List UInt8)) :
  (type ++ pairs.flatMap parameter).dropWhile isTokenByte = pairs.flatMap parameter
  := by
  rw [List.dropWhile_append_of_pos htype.2]
  cases pairs with
  | nil => rfl
  | cons kv pairs => rfl

/-! ### Entities -/

theorem length_le_of_breakAt {sep s before rest : List UInt8}
    (h : breakAt sep s = some (before, rest)) :
  rest.length ≤ s.length
  := by
  induction s generalizing before with
  | nil =>
      rw [breakAt] at h
      split_ifs at h
      cases h
      exact Nat.le_refl _
  | cons b s ih =>
      rw [breakAt] at h
      split_ifs at h
      · cases h
        rw [List.length_drop]
        exact Nat.sub_le _ _
      · obtain ⟨⟨before', rest'⟩, hbreak, hsame⟩ := Option.map_eq_some_iff.mp h
        cases hsame
        exact (ih hbreak).trans (Nat.le_succ _)

theorem length_le_of_readLines {fuel : ℕ} {s rest : List UInt8} {lines : List (List UInt8)}
    (h : readLines fuel s = some (lines, rest)) :
  rest.length ≤ s.length
  := by
  induction fuel generalizing s lines with
  | zero => cases h
  | succ fuel ih =>
      obtain ⟨⟨line, s'⟩, hline, h⟩ := Option.bind_eq_some_iff.mp h
      have hle := length_le_of_breakAt hline
      dsimp only at h
      split_ifs at h
      · cases h
        exact hle
      · obtain ⟨⟨lines', s''⟩, hlines, h⟩ := Option.bind_eq_some_iff.mp h
        cases h
        exact (ih hlines).trans hle

theorem length_lt_of_strip {s rest : List UInt8} (h : strip crlf s = some rest) :
  rest.length < s.length
  := by
  rw [strip] at h
  split_ifs at h with hprefix
  have hle := (List.isPrefixOf_iff_prefix.mp hprefix).length_le
  have hcrlf : crlf.length = 2 := by decide +kernel
  cases h
  rw [List.length_drop]
  omega

/-- The entities that are read do not depend on the fuel, when there is enough. -/
theorem readEntities_congr (boundary : String) {fuel fuel' : ℕ} {s : List UInt8}
    (h : s.length < fuel) (h' : s.length < fuel') :
  readEntities boundary fuel s = readEntities boundary fuel' s
  := by
  induction fuel generalizing fuel' s with
  | zero => cases h
  | succ fuel ih =>
      obtain ⟨fuel', rfl⟩ := Nat.exists_eq_succ_of_ne_zero (by omega : fuel' ≠ 0)
      rw [readEntities, readEntities]
      split_ifs
      · rfl
      · apply Option.bind_congr
        intro s₁ hs₁
        apply Option.bind_congr
        rintro ⟨lines, s₂⟩ hs₂
        apply Option.bind_congr
        intro fields _
        apply Option.bind_congr
        rintro ⟨data, s₃⟩ hs₃
        have hlt := length_lt_of_strip hs₁
        have hle := length_le_of_readLines hs₂
        have hle' := length_le_of_breakAt hs₃
        have hrest : readEntities boundary fuel s₃ = readEntities boundary fuel' s₃ :=
          ih (by omega) (by omega)
        dsimp only
        rw [hrest]

/-- Lines that are not empty are read up to the empty one. -/
theorem readLines_flatMap {lines : List (List UInt8)}
    (hlines : ∀ line ∈ lines, line ≠ [] ∧ UInt8.ofNat '\r'.toNat ∉ line) (s : List UInt8)
    {fuel : ℕ} (hfuel : lines.length < fuel) :
  readLines fuel (lines.flatMap (· ++ crlf) ++ (crlf ++ s)) = some (lines, s)
  := by
  induction lines generalizing fuel with
  | nil =>
      obtain ⟨fuel, rfl⟩ := Nat.exists_eq_succ_of_ne_zero (by omega : fuel ≠ 0)
      rw [List.flatMap_nil, List.nil_append, readLines, breakAt_here]
      rfl
  | cons line lines ih =>
      obtain ⟨fuel, rfl⟩ := Nat.exists_eq_succ_of_ne_zero (by omega : fuel ≠ 0)
      obtain ⟨hne, hcr⟩ := hlines line List.mem_cons_self
      have hrest := ih (fun line hmem => hlines line (List.mem_cons_of_mem _ hmem))
        (Nat.lt_of_succ_lt_succ hfuel)
      have hbreak : breakAt crlf (line ++ (crlf ++ (lines.flatMap (· ++ crlf) ++ (crlf ++ s)))) =
          some (line, lines.flatMap (· ++ crlf) ++ (crlf ++ s)) := breakAt_append_of_not_mem hcr
      have hempty : ¬ line.isEmpty = true := fun h => hne (List.isEmpty_iff.mp h)
      rw [List.flatMap_cons, List.append_assoc, List.append_assoc, readLines, hbreak,
        Option.bind_eq_bind, Option.bind_some]
      dsimp only
      rw [if_neg hempty, hrest]
      rfl

/-- An entity is read from its lines and its data. -/
theorem reader_lines {unescape : List UInt8 → List UInt8} {boundary : String}
    {lines : List (List UInt8)}
    (hlines : ∀ line ∈ lines, line ≠ [] ∧ UInt8.ofNat '\r'.toNat ∉ line) {fields : List Field}
    (hfields : lines.mapM readField = some fields) {s data rest : List UInt8}
    (hdata : breakAt (delimiter boundary) s = some (data, rest)) :
  (reader unescape).following boundary (crlf ++ (lines.flatMap (· ++ crlf) ++ (crlf ++ s))) =
    ((reader unescape).following boundary rest).map (⟨fields, data⟩ :: ·)
  := by
  have hopen : ∀ s, (strip (Utf8.encode "--") (crlf ++ s)).isSome = false := fun s => rfl
  have hcrlf : crlf.length = 2 := by decide +kernel
  have hlength : lines.length ≤ (lines.flatMap (· ++ crlf)).length := by
    clear hlines hfields
    induction lines with
    | nil => exact Nat.zero_le _
    | cons line lines ih =>
        simp only [List.flatMap_cons, List.length_append, List.length_cons, hcrlf]
        omega
  have hshort := length_le_of_breakAt hdata
  change readEntities boundary _ _ = (readEntities boundary _ _).map _
  rw [readEntities, hopen, if_neg Bool.false_ne_true, strip_append, Option.bind_eq_bind,
    Option.bind_some, readLines_flatMap hlines, Option.bind_eq_bind, Option.bind_some]
  · dsimp only
    rw [hfields, Option.bind_eq_bind, Option.bind_some, hdata, Option.bind_eq_bind,
      Option.bind_some]
    dsimp only
    have henough : rest.length < (crlf ++ (lines.flatMap (· ++ crlf) ++ (crlf ++ s))).length := by
      simp only [List.length_append, hcrlf]
      omega
    rw [readEntities_congr boundary henough (Nat.lt_succ_self rest.length)]
    cases readEntities boundary rest.length.succ rest <;> rfl
  · simp only [List.length_append]
    omega

/-- The reader reads what is written by the grammar, when values that stand for themselves are not
changed. -/
theorem reader_standard {unescape : List UInt8 → List UInt8}
    (hunescape : ∀ value, Literal value → unescape value = value) :
  (reader unescape).Standard
  where
  opening {boundary} _ s := by
    change (strip _ _ >>= fun s => readEntities boundary (s.length + 1) s) = _
    rw [strip_append]
    rfl
  closing _ epilogue := by
    change readEntities _ _ _ = _
    rw [readEntities, strip_append]
    rfl
  entity {boundary} _ {fields} hfields {s data rest} hdata _ := by
    have hlines : ∀ line ∈ fields.map fieldLine,
        line ≠ [] ∧ UInt8.ofNat '\r'.toNat ∉ line := by
      intro line hline
      obtain ⟨f, hf, rfl⟩ := List.mem_map.mp hline
      exact fieldLine_spec (hfields f hf)
    have hread : (fields.map fieldLine).mapM readField = some fields := by
      clear hlines
      induction fields with
      | nil => rfl
      | cons f fields ih =>
          rw [List.map_cons, List.mapM_cons, readField_fieldLine (hfields f List.mem_cons_self),
            ih fun f hmem => hfields f (List.mem_cons_of_mem _ hmem)]
          rfl
    have hblock : headerBlock fields = (fields.map fieldLine).flatMap (· ++ crlf) := by
      rw [headerBlock, List.flatMap_map]
    rw [hblock]
    exact reader_lines hlines hread hdata
  parameters {type} htype {pairs} _ hpairs := by
    change readParameters _ _ _ = _
    rw [dropWhile_type htype]
    apply readParameters_flatMap hunescape hpairs
    have hlength := length_le_flatMap_parameter pairs
    rw [List.length_append]
    omega

/-! ### Escapes -/

/-- Reads a backslash and a byte as the byte. -/
def quotedPairs : List UInt8 → List UInt8
  | [] => []
  | [b] => [b]
  | b :: c :: s => if b = 92 then c :: quotedPairs s else b :: quotedPairs (c :: s)

/-- Reads `%22` as a quote. -/
def percentQuotes : List UInt8 → List UInt8
  | b :: c :: d :: s =>
      if b = 37 ∧ c = 50 ∧ d = 50 then 34 :: percentQuotes s else b :: percentQuotes (c :: d :: s)
  | s => s

theorem quotedPairs_of_not_mem {s : List UInt8} (h : 92 ∉ s) :
  quotedPairs s = s
  := by
  fun_induction quotedPairs s with
  | case1 => rfl
  | case2 b => rfl
  | case3 c s ih => exact absurd List.mem_cons_self h
  | case4 b c s hb ih => rw [ih fun hmem => h (List.mem_cons_of_mem _ hmem)]

theorem percentQuotes_of_not_mem {s : List UInt8} (h : 37 ∉ s) :
  percentQuotes s = s
  := by
  fun_induction percentQuotes s with
  | case1 b c d s hb ih => exact absurd (hb.1 ▸ List.mem_cons_self) h
  | case2 b c d s hb ih => rw [ih fun hmem => h (List.mem_cons_of_mem _ hmem)]
  | case3 s hs => rfl

theorem quotedPairs_standard : (reader quotedPairs).Standard :=
  reader_standard fun _ h => quotedPairs_of_not_mem h.2.1

theorem percentQuotes_standard : (reader percentQuotes).Standard :=
  reader_standard fun _ h => percentQuotes_of_not_mem h.2.2.1

end Multipart
