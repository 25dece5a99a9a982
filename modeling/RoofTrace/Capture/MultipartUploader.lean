import RoofTrace.Bytes.Multipart
import RoofTrace.Effects.Outcome

/-!
# Multipart bodies

`MultipartEncoder` of `Services/MultipartUploader.swift` writes the parts of an upload one after
the other, in memory or into a file. It writes what the grammar of multipart bodies has, but it
does not escape: any standard parser reads the parts again, unless a name has what it takes for an
escape, or a content type has blanks around it.
-/

namespace Capture

open Delimiters Multipart

structure MultipartPart where
  name : String
  filename : String
  contentType : String
  data : List UInt8
deriving DecidableEq

structure MultipartEncoder where
  boundary : String

namespace MultipartEncoder

variable (e : MultipartEncoder)

/-! ### Writing -/

/-- What is appended for a part. -/
def appendPart (body : List UInt8) (part : MultipartPart) : List UInt8 :=
  body ++ Utf8.encode ("--" ++ e.boundary ++ "\r\n") ++
    Utf8.encode ("Content-Disposition: form-data; name=\"" ++ part.name ++ "\"; filename=\"" ++
      part.filename ++ "\"\r\n") ++
    Utf8.encode ("Content-Type: " ++ part.contentType ++ "\r\n\r\n") ++
    part.data ++
    Utf8.encode "\r\n"

def encode (parts : List MultipartPart) : List UInt8 :=
  parts.foldl e.appendPart [] ++ Utf8.encode ("--" ++ e.boundary ++ "--\r\n")

/-- What opening or writing to a file ends with, besides the file. -/
inductive WriteError where
  | notOpened
  | notWritten
deriving DecidableEq

/-- The file system: whether the file is opened, and whether it takes bytes after those it has. -/
structure Disk where
  opens : Bool
  takes : List UInt8 → List UInt8 → Bool

/-- `handle.write(contentsOf:)`, after the bytes that are in the file. -/
def write (disk : Disk) (file bytes : List UInt8) : Except WriteError (List UInt8) :=
  if disk.takes file bytes then .ok (file ++ bytes) else .error .notWritten

/-- What is written for a part. -/
def writePart (disk : Disk) (file : List UInt8) (part : MultipartPart) :
    Except WriteError (List UInt8) := do
  let file ← write disk file (Utf8.encode ("--" ++ e.boundary ++ "\r\n"))
  let file ← write disk file
    (Utf8.encode ("Content-Disposition: form-data; name=\"" ++ part.name ++ "\"; filename=\"" ++
      part.filename ++ "\"\r\n"))
  let file ← write disk file (Utf8.encode ("Content-Type: " ++ part.contentType ++ "\r\n\r\n"))
  let file ← write disk file part.data
  write disk file (Utf8.encode "\r\n")

/-- `encodeToTempFile`, with the bytes of the file that it returns. -/
def encodeToTempFile (disk : Disk) (parts : List MultipartPart) :
    Except WriteError (List UInt8) :=
  if disk.opens then do
    let file ← parts.foldlM (e.writePart disk) []
    write disk file (Utf8.encode ("--" ++ e.boundary ++ "--\r\n"))
  else .error .notOpened

/-! ### The two encoders -/

variable {e} in
theorem write_eq_ok {disk : Disk} {file bytes file' : List UInt8} :
  write disk file bytes = .ok file' ↔ disk.takes file bytes = true ∧ file' = file ++ bytes
  := by
  unfold write
  split_ifs with htakes
  · simp [htakes, eq_comm]
  · simp [htakes]

theorem writePart_eq_ok {disk : Disk} {file file' : List UInt8} {part : MultipartPart}
    (h : e.writePart disk file part = .ok file') :
  file' = e.appendPart file part
  := by
  obtain ⟨_, hdash, h⟩ := Outcome.bind_eq_ok.mp h
  obtain ⟨_, hdisposition, h⟩ := Outcome.bind_eq_ok.mp h
  obtain ⟨_, htype, h⟩ := Outcome.bind_eq_ok.mp h
  obtain ⟨_, hdata, h⟩ := Outcome.bind_eq_ok.mp h
  obtain ⟨-, rfl⟩ := write_eq_ok.mp hdash
  obtain ⟨-, rfl⟩ := write_eq_ok.mp hdisposition
  obtain ⟨-, rfl⟩ := write_eq_ok.mp htype
  obtain ⟨-, rfl⟩ := write_eq_ok.mp hdata
  exact (write_eq_ok.mp h).2

theorem foldlM_writePart_eq_ok {disk : Disk} {parts : List MultipartPart}
    {file file' : List UInt8} (h : parts.foldlM (e.writePart disk) file = .ok file') :
  file' = parts.foldl e.appendPart file
  := by
  induction parts generalizing file with
  | nil => exact (Except.ok.inj h).symm
  | cons part parts ih =>
      rw [List.foldlM_cons] at h
      obtain ⟨written, hwritten, h⟩ := Outcome.bind_eq_ok.mp h
      rw [ih h, writePart_eq_ok e hwritten]
      rfl

/-- A file that is written has the bytes of the body. -/
theorem encodeToTempFile_eq_ok {disk : Disk} {parts : List MultipartPart} {file : List UInt8}
    (h : e.encodeToTempFile disk parts = .ok file) :
  file = e.encode parts
  := by
  unfold encodeToTempFile at h
  split_ifs at h
  obtain ⟨written, hwritten, h⟩ := Outcome.bind_eq_ok.mp h
  rw [(write_eq_ok.mp h).2, foldlM_writePart_eq_ok e hwritten]
  rfl

/-- A file that opens and takes all bytes is written. -/
theorem encodeToTempFile_writes {disk : Disk} (hopens : disk.opens = true)
    (htakes : ∀ file bytes, disk.takes file bytes = true) (parts : List MultipartPart) :
  e.encodeToTempFile disk parts = .ok (e.encode parts)
  := by
  have hwrite : ∀ file bytes, write disk file bytes = .ok (file ++ bytes) := by
    intro file bytes
    exact write_eq_ok.mpr ⟨htakes file bytes, rfl⟩
  have hparts : ∀ file, parts.foldlM (e.writePart disk) file =
      (.ok (parts.foldl e.appendPart file) : Except WriteError (List UInt8)) := by
    induction parts with
    | nil => exact fun file => rfl
    | cons part parts ih =>
        intro file
        rw [List.foldlM_cons, writePart, hwrite]
        simp only [hwrite, bind, Except.bind, ih]
        rfl
  rw [encodeToTempFile, if_pos hopens, hparts]
  exact hwrite _ _

/-! ### Bodies -/

/-- The parameters of the first header field of a part. -/
def parametersOf (part : MultipartPart) : List (List UInt8 × List UInt8) :=
  [(Utf8.encode "name", Utf8.encode part.name),
    (Utf8.encode "filename", Utf8.encode part.filename)]

/-- The header fields of a part. -/
def fieldsOf (part : MultipartPart) : List Field :=
  [(Utf8.encode "Content-Disposition",
      Utf8.encode "form-data" ++ (parametersOf part).flatMap parameter),
    (Utf8.encode "Content-Type", Utf8.encode part.contentType)]

def entityOf (part : MultipartPart) : Entity := ⟨fieldsOf part, part.data⟩

theorem appendPart_eq (file : List UInt8) (part : MultipartPart) :
  e.appendPart file part =
    file ++ (dashBoundary e.boundary ++ (crlf ++ (headerBlock (fieldsOf part) ++ (crlf ++
      (part.data ++ crlf)))))
  := by
  have hfilename : Utf8.encode "\"; filename=\"" = Utf8.encode "\"" ++ (Utf8.encode "; " ++
      (Utf8.encode "filename" ++ Utf8.encode "=\"")) := by decide +kernel
  have hname : Utf8.encode "Content-Disposition: form-data; name=\"" =
      Utf8.encode "Content-Disposition" ++ (Utf8.encode ": " ++ (Utf8.encode "form-data" ++
        (Utf8.encode "; " ++ (Utf8.encode "name" ++ Utf8.encode "=\"")))) := by decide +kernel
  have htype : Utf8.encode "Content-Type: " = Utf8.encode "Content-Type" ++ Utf8.encode ": " := by
    decide +kernel
  have hquote : Utf8.encode "\"\r\n" = Utf8.encode "\"" ++ crlf := by decide +kernel
  have hempty : Utf8.encode "\r\n\r\n" = crlf ++ crlf := by decide +kernel
  have hcrlf : Utf8.encode "\r\n" = crlf := rfl
  simp only [appendPart, dashBoundary, headerBlock, fieldsOf, parametersOf, fieldLine, parameter,
    List.flatMap_cons, List.flatMap_nil, Utf8.encode_append, hname, hfilename, htype, hquote,
    hempty, hcrlf, List.append_assoc, List.append_nil]

theorem foldl_appendPart (file : List UInt8) (parts : List MultipartPart) :
  parts.foldl e.appendPart file ++ (dashBoundary e.boundary ++ (Utf8.encode "--" ++ crlf)) =
    file ++ (dashBoundary e.boundary ++ afterDelimiter e.boundary (parts.map entityOf))
  := by
  induction parts generalizing file with
  | nil => rfl
  | cons part parts ih =>
      rw [List.foldl_cons, ih, appendPart_eq, List.map_cons, afterDelimiter, delimiter]
      simp only [entityOf, List.append_assoc]

/-- What is written is the body of the entities of the parts. -/
theorem encode_eq (parts : List MultipartPart) :
  e.encode parts = body e.boundary (parts.map entityOf)
  := by
  have hclose : Utf8.encode ("--" ++ e.boundary ++ "--\r\n") =
      dashBoundary e.boundary ++ (Utf8.encode "--" ++ crlf) := by
    rw [Utf8.encode_append]
    rfl
  rw [encode, hclose, foldl_appendPart]
  rfl

/-! ### Reading -/

/-- The part of an entity, as a parser reads the parameters. -/
def readPart (p : Parser) (entity : Entity) : Option MultipartPart := do
  let disposition ← fieldValue "Content-Disposition" entity.fields
  let params ← p.parameters disposition
  let name ← params.lookup (Utf8.encode "name") >>= Utf8.decode
  let filename ← params.lookup (Utf8.encode "filename") >>= Utf8.decode
  let contentType ← fieldValue "Content-Type" entity.fields >>= Utf8.decode
  return { name, filename, contentType, data := entity.data }

/-- The parts of a body, as a parser reads it. -/
def readParts (p : Parser) (boundary : String) (bytes : List UInt8) :
    Option (List MultipartPart) := do
  let entities ← p.parse boundary bytes
  entities.mapM (readPart p)

/-- A text without a carriage return and a line feed. -/
def SingleLine (s : String) : Prop := '\r' ∉ s.toList ∧ '\n' ∉ s.toList

/-- A text with no quote and line break, in which nothing is an escape. -/
structure Unescaped (s : String) : Prop where
  quote : '"' ∉ s.toList
  line : SingleLine s
  backslash : '\\' ∉ s.toList
  percent : '%' ∉ s.toList

/-- A text with no blank at either end. -/
def Unpadded (s : String) : Prop :=
  (∀ c ∈ s.toList.head?, c ≠ ' ' ∧ c ≠ '\t') ∧ ∀ c ∈ s.toList.getLast?, c ≠ ' ' ∧ c ≠ '\t'

/-- A part that is read again. -/
structure Allowed (boundary : String) (part : MultipartPart) : Prop where
  name : Unescaped part.name
  filename : Unescaped part.filename
  contentType : SingleLine part.contentType
  unpadded : Unpadded part.contentType
  data : ¬ delimiter boundary <:+: part.data

theorem onOneLine_encode {s : String} (h : SingleLine s) :
  OnOneLine (Utf8.encode s)
  := by
  constructor
  · exact @Utf8.not_mem_encode s '\r' (by decide) h.1
  · exact @Utf8.not_mem_encode s '\n' (by decide) h.2

theorem literal_encode {s : String} (h : Unescaped s) :
  Literal (Utf8.encode s)
  := by
  refine ⟨?_, ?_, ?_, onOneLine_encode h.line⟩
  · exact @Utf8.not_mem_encode s '"' (by decide) h.quote
  · exact @Utf8.not_mem_encode s '\\' (by decide) h.backslash
  · exact @Utf8.not_mem_encode s '%' (by decide) h.percent

/-- A blank byte is a blank of its own. -/
theorem isBlank_eq_false {c : Char} (hc : c ≠ ' ' ∧ c ≠ '\t') {b : UInt8}
    (hb : b ∈ String.utf8EncodeChar c) :
  isBlank b = false
  := by
  rw [isBlank, Bool.or_eq_false_iff]
  constructor
  · apply beq_false_of_ne
    rintro rfl
    exact hc.1 (Char.toNat_inj.mp (Utf8.toNat_eq_of_mem hb (by decide)))
  · apply beq_false_of_ne
    rintro rfl
    exact hc.2 (Char.toNat_inj.mp (Utf8.toNat_eq_of_mem hb (by decide)))

theorem trimmed_encode {s : String} (h : Unpadded s) :
  Trimmed (Utf8.encode s)
  := by
  constructor
  · intro b hb
    obtain ⟨c, hc, hmem⟩ := Utf8.head?_encode hb
    exact isBlank_eq_false (h.1 c hc) hmem
  · intro b hb
    obtain ⟨c, hc, hmem⟩ := Utf8.getLast?_encode hb
    exact isBlank_eq_false (h.2 c hc) hmem

theorem isToken_names :
  ∀ name ∈ ["Content-Disposition", "Content-Type", "form-data", "name", "filename"],
    IsToken (Utf8.encode name)
  := by decide +kernel

/-- The first header field of a part is on one line, when its name and file name are. -/
theorem isField_disposition {part : MultipartPart} (hname : SingleLine part.name)
    (hfilename : SingleLine part.filename) :
  IsField (Utf8.encode "Content-Disposition",
    Utf8.encode "form-data" ++ (parametersOf part).flatMap parameter)
  := by
  have hlead : Utf8.encode "form-data" = 102 :: Utf8.encode "orm-data" := by decide +kernel
  have hlast : ((Utf8.encode "form-data" ++ (parametersOf part).flatMap parameter).getLast?) =
      some 34 := by
    have hsplit : Utf8.encode "form-data" ++ (parametersOf part).flatMap parameter =
        (Utf8.encode "form-data" ++ (parameter (Utf8.encode "name", Utf8.encode part.name) ++
          (Utf8.encode "; " ++ (Utf8.encode "filename" ++ (Utf8.encode "=\"" ++
            Utf8.encode part.filename))))) ++ [34] := by
      have hquote : Utf8.encode "\"" = [34] := by decide +kernel
      simp only [parametersOf, List.flatMap_cons, List.flatMap_nil, parameter, List.append_assoc,
        List.append_nil, hquote]
    rw [hsplit, List.getLast?_concat]
  obtain ⟨hcr, hlf⟩ := onOneLine_encode hname
  obtain ⟨hcr', hlf'⟩ := onOneLine_encode hfilename
  constructor
  · exact isToken_names "Content-Disposition" (by decide)
  · have hconst : ∀ b, b = 13 ∨ b = 10 → b ∉ Utf8.encode "form-data" ∧ b ∉ Utf8.encode "; " ∧
        b ∉ Utf8.encode "name" ∧ b ∉ Utf8.encode "=\"" ∧ b ∉ Utf8.encode "\"" ∧
          b ∉ Utf8.encode "filename" := by
      rintro b (rfl | rfl) <;> decide +kernel
    constructor
    · obtain ⟨h₁, h₂, h₃, h₄, h₅, h₆⟩ := hconst 13 (.inl rfl)
      simp only [parametersOf, List.flatMap_cons, List.flatMap_nil, parameter, List.mem_append,
        List.append_nil, not_or]
      exact ⟨h₁, ⟨h₂, h₃, h₄, hcr, h₅⟩, h₂, h₆, h₄, hcr', h₅⟩
    · obtain ⟨h₁, h₂, h₃, h₄, h₅, h₆⟩ := hconst 10 (.inr rfl)
      simp only [parametersOf, List.flatMap_cons, List.flatMap_nil, parameter, List.mem_append,
        List.append_nil, not_or]
      exact ⟨h₁, ⟨h₂, h₃, h₄, hlf, h₅⟩, h₂, h₆, h₄, hlf', h₅⟩
  · constructor
    · intro b hb
      rw [hlead] at hb
      cases hb
      decide
    · intro b hb
      rw [hlast] at hb
      cases hb
      decide

/-- The header fields of a part are fields, when its texts are on one line. -/
theorem isField_fieldsOf {part : MultipartPart} (hname : SingleLine part.name)
    (hfilename : SingleLine part.filename) (htype : SingleLine part.contentType)
    (hpadding : Unpadded part.contentType) :
  ∀ f ∈ fieldsOf part, IsField f
  := by
  intro f hf
  simp only [fieldsOf, List.mem_cons, List.not_mem_nil, or_false] at hf
  obtain rfl | rfl := hf
  · exact isField_disposition hname hfilename
  · exact ⟨isToken_names "Content-Type" (by decide), onOneLine_encode htype,
      trimmed_encode hpadding⟩

/-- The values of the header fields of a part. -/
theorem fieldValue_fieldsOf (part : MultipartPart) :
  fieldValue "Content-Disposition" (fieldsOf part) =
      some (Utf8.encode "form-data" ++ (parametersOf part).flatMap parameter) ∧
    fieldValue "Content-Type" (fieldsOf part) = some (Utf8.encode part.contentType)
  := by
  have hother : ¬ lower (Utf8.encode "Content-Disposition") = lower (Utf8.encode "Content-Type") := by
    decide +kernel
  constructor
  · rw [fieldValue, fieldsOf, List.find?_cons_of_pos (by simp)]
    rfl
  · rw [fieldValue, fieldsOf, List.find?_cons_of_neg (by simp [hother]),
      List.find?_cons_of_pos (by simp)]
    rfl

/-- A part is read with the name and the file name among its parameters. -/
theorem readPart_entityOf {p : Parser} {part : MultipartPart} {name filename : String}
    (h : p.parameters (Utf8.encode "form-data" ++ (parametersOf part).flatMap parameter) =
      some [(Utf8.encode "name", Utf8.encode name),
        (Utf8.encode "filename", Utf8.encode filename)]) :
  readPart p (entityOf part) = some { part with name, filename }
  := by
  obtain ⟨hdisposition, htype⟩ := fieldValue_fieldsOf part
  have hkeys : (Utf8.encode "filename" == Utf8.encode "name") = false := by decide +kernel
  have hname : List.lookup (Utf8.encode "name") [(Utf8.encode "name", Utf8.encode name),
      (Utf8.encode "filename", Utf8.encode filename)] = some (Utf8.encode name) :=
    List.lookup_cons_self
  have hfilename : List.lookup (Utf8.encode "filename") [(Utf8.encode "name", Utf8.encode name),
      (Utf8.encode "filename", Utf8.encode filename)] = some (Utf8.encode filename) := by
    rw [List.lookup_cons, hkeys, List.lookup_cons_self]
  rw [readPart, entityOf]
  simp only [hdisposition, htype, h, hname, hfilename, Option.bind_eq_bind, Option.bind_some,
    Utf8.decode_encode]
  rfl

/-- Bodies of parts whose texts are on one line are taken apart. -/
theorem parse_encode {p : Parser} (hp : p.Standard) (hcarried : Carried e.boundary)
    {parts : List MultipartPart}
    (h : ∀ part ∈ parts, Separable e.boundary (entityOf part)) :
  p.parse e.boundary (e.encode parts) = some (parts.map entityOf)
  := by
  rw [encode_eq]
  apply hp.parse_body hcarried
  intro entity hentity
  obtain ⟨part, hpart, rfl⟩ := List.mem_map.mp hentity
  exact h part hpart

/-- A standard parser reads the parts again. -/
theorem readParts_encode {p : Parser} (hp : p.Standard) (hcarried : Carried e.boundary)
    {parts : List MultipartPart} (h : ∀ part ∈ parts, Allowed e.boundary part) :
  readParts p e.boundary (e.encode parts) = some parts
  := by
  have hparsed := parse_encode e hp hcarried fun part hmem =>
    ⟨isField_fieldsOf (h part hmem).name.line (h part hmem).filename.line
      (h part hmem).contentType (h part hmem).unpadded, (h part hmem).data⟩
  rw [readParts, hparsed, Option.bind_eq_bind, Option.bind_some]
  clear hparsed
  induction parts with
  | nil => rfl
  | cons part parts ih =>
      have hpart := h part List.mem_cons_self
      have hread : readPart p (entityOf part) = some part := by
        apply readPart_entityOf
        apply hp.parameters (isToken_names "form-data" (by decide))
        · simp only [parametersOf, List.map_cons, List.map_nil]
          decide +kernel
        · intro kv hkv
          simp only [parametersOf, List.mem_cons, List.not_mem_nil, or_false] at hkv
          obtain rfl | rfl := hkv
          · exact ⟨isToken_names "name" (by decide), literal_encode hpart.name⟩
          · exact ⟨isToken_names "filename" (by decide), literal_encode hpart.filename⟩
      rw [List.map_cons, List.mapM_cons, hread, ih fun part hmem =>
        h part (List.mem_cons_of_mem _ hmem)]
      rfl

/-- The file that is written has the bytes of the body, for every boundary; and when a
`Content-Type` carries the boundary, every standard parser reads the parts again, in order. -/
theorem multipart_bodies :
  (∀ (e : MultipartEncoder) (disk : Disk) (parts : List MultipartPart),
    (∀ file, e.encodeToTempFile disk parts = .ok file → file = e.encode parts) ∧
    (disk.opens = true → (∀ file bytes, disk.takes file bytes = true) →
      e.encodeToTempFile disk parts = .ok (e.encode parts))) ∧
  ∀ p : Parser, p.Standard → ∀ e : MultipartEncoder, Carried e.boundary →
    ∀ parts, (∀ part ∈ parts, Allowed e.boundary part) →
      readParts p e.boundary (e.encode parts) = some parts
  := by
  constructor
  · intro e disk parts
    constructor
    · exact fun file h => encodeToTempFile_eq_ok e h
    · exact fun hopens htakes => encodeToTempFile_writes e hopens htakes parts
  · exact fun p hp e hcarried parts h => readParts_encode e hp hcarried h

theorem unescaped_letter : Unescaped "a" :=
  ⟨by decide, ⟨by decide, by decide⟩, by decide, by decide⟩

theorem unpadded_letter : Unpadded "a" := by
  constructor
  · rintro c ⟨⟩
    decide
  · rintro c ⟨⟩
    decide

/-- A part whose data ends in a line break and a hyphen, and one without data. -/
theorem multipart_bodies_two_parts :
  readParts (reader quotedPairs) "B" (MultipartEncoder.encode ⟨"B"⟩
      [⟨"a", "a", "a", [45, 45, 66, 13, 10, 45]⟩, ⟨"a", "a", "a", []⟩]) =
    some [⟨"a", "a", "a", [45, 45, 66, 13, 10, 45]⟩, ⟨"a", "a", "a", []⟩]
  := by
  apply multipart_bodies.2 (reader quotedPairs) quotedPairs_standard ⟨"B"⟩ (by decide)
  have hallowed {data : List UInt8} (hdata : ¬ delimiter "B" <:+: data) :
      Allowed "B" ⟨"a", "a", "a", data⟩ :=
    ⟨unescaped_letter, unescaped_letter, unescaped_letter.line, unpadded_letter, hdata⟩
  intro part hpart
  rcases List.mem_cons.mp hpart with rfl | hpart
  · exact hallowed (by decide +kernel)
  · obtain rfl := List.mem_singleton.mp hpart
    exact hallowed (by decide +kernel)

/-! ### Parts that are changed -/

/-- A text without a quote and a line break. -/
def Plain (s : String) : Prop := '"' ∉ s.toList ∧ SingleLine s

/-- A part whose texts are plain and whose data does not have the delimiter. -/
structure PlainPart (boundary : String) (part : MultipartPart) : Prop where
  name : Plain part.name
  filename : Plain part.filename
  contentType : Plain part.contentType
  data : ¬ delimiter boundary <:+: part.data

/-- A part without data is read with the name and the file name that the parameters are read as. -/
theorem readParts_renamed {unescape : List UInt8 → List UInt8}
    (hstandard : (reader unescape).Standard) {name filename name' filename' : String}
    (hname : SingleLine name) (hfilename : SingleLine filename)
    (h : (reader unescape).parameters (Utf8.encode "form-data" ++
      (parametersOf ⟨name, filename, "a", []⟩).flatMap parameter) =
        some [(Utf8.encode "name", Utf8.encode name'),
          (Utf8.encode "filename", Utf8.encode filename')]) :
  readParts (reader unescape) "B" (MultipartEncoder.encode ⟨"B"⟩ [⟨name, filename, "a", []⟩]) =
    some [⟨name', filename', "a", []⟩]
  := by
  have hdata : ¬ delimiter "B" <:+: [] := by decide +kernel
  have hparsed : (reader unescape).parse "B"
      (MultipartEncoder.encode ⟨"B"⟩ [⟨name, filename, "a", []⟩]) =
        some ([⟨name, filename, "a", []⟩].map entityOf) := by
    apply parse_encode ⟨"B"⟩ hstandard (by decide)
    intro part hpart
    obtain rfl := List.mem_singleton.mp hpart
    exact ⟨isField_fieldsOf hname hfilename unescaped_letter.line unpadded_letter, hdata⟩
  rw [readParts, hparsed, Option.bind_eq_bind, Option.bind_some, List.map_singleton,
    List.mapM_cons, readPart_entityOf h]
  rfl

/-- A content type is read without the blanks around it. -/
theorem readParts_trimmed :
  readParts (reader quotedPairs) "B" (MultipartEncoder.encode ⟨"B"⟩ [⟨"a", "a", " a", []⟩]) =
    some [⟨"a", "a", "a", []⟩]
  := by
  have hlines : ∀ line ∈ (fieldsOf ⟨"a", "a", " a", []⟩).map fieldLine,
      line ≠ [] ∧ UInt8.ofNat '\r'.toNat ∉ line := by
    decide +kernel
  have hfields : ((fieldsOf ⟨"a", "a", " a", []⟩).map fieldLine).mapM readField =
      some (fieldsOf ⟨"a", "a", "a", []⟩) := by
    decide +kernel
  have hblock : headerBlock (fieldsOf ⟨"a", "a", " a", []⟩) =
      ((fieldsOf ⟨"a", "a", " a", []⟩).map fieldLine).flatMap (· ++ crlf) := by
    rw [headerBlock, List.flatMap_map]
  have hparsed : (reader quotedPairs).parse "B"
      (MultipartEncoder.encode ⟨"B"⟩ [⟨"a", "a", " a", []⟩]) =
        some [entityOf ⟨"a", "a", "a", []⟩] := by
    rw [encode_eq, List.map_singleton, body, quotedPairs_standard.opening (by decide),
      afterDelimiter, entityOf, hblock, List.nil_append,
      reader_lines hlines hfields (breakAt_here _ _), afterDelimiter]
    have hclosing := quotedPairs_standard.closing (by decide : Carried "B") []
    rw [List.append_nil] at hclosing
    rw [hclosing]
    rfl
  have hread : readPart (reader quotedPairs) (entityOf ⟨"a", "a", "a", []⟩) =
      some ⟨"a", "a", "a", []⟩ := by
    apply readPart_entityOf
    decide +kernel
  rw [readParts, hparsed, Option.bind_eq_bind, Option.bind_some, List.mapM_cons, hread]
  rfl

/-- Standard parsers change parts whose texts are plain: one that takes a backslash in quotes for an
escape, and does not keep the blanks around a content type, and one that takes `%22` for a quote. -/
theorem plain_parts_changed :
  (reader quotedPairs).Standard ∧ (reader percentQuotes).Standard ∧ Carried "B" ∧
    (∀ part ∈ ([⟨"a\\b", "a", "a", []⟩, ⟨"a", "a%22b", "a", []⟩, ⟨"a", "a", " a", []⟩] :
      List MultipartPart), PlainPart "B" part) ∧
    readParts (reader quotedPairs) "B"
        (MultipartEncoder.encode ⟨"B"⟩ [⟨"a\\b", "a", "a", []⟩]) =
      some [⟨"ab", "a", "a", []⟩] ∧
    readParts (reader percentQuotes) "B"
        (MultipartEncoder.encode ⟨"B"⟩ [⟨"a", "a%22b", "a", []⟩]) =
      some [⟨"a", "a\"b", "a", []⟩] ∧
    readParts (reader quotedPairs) "B" (MultipartEncoder.encode ⟨"B"⟩ [⟨"a", "a", " a", []⟩]) =
      some [⟨"a", "a", "a", []⟩]
  := by
  refine ⟨quotedPairs_standard, percentQuotes_standard, by decide, ?_, ?_, ?_, readParts_trimmed⟩
  · have hplain : ∀ s ∈ ["a\\b", "a%22b", " a", "a"], Plain s := by
      unfold Plain SingleLine
      decide
    have hdata : ¬ delimiter "B" <:+: [] := by decide +kernel
    intro part hpart
    simp only [List.mem_cons, List.not_mem_nil, or_false] at hpart
    obtain rfl | rfl | rfl := hpart
    · exact ⟨hplain "a\\b" (by decide), hplain "a" (by decide), hplain "a" (by decide), hdata⟩
    · exact ⟨hplain "a" (by decide), hplain "a%22b" (by decide), hplain "a" (by decide), hdata⟩
    · exact ⟨hplain "a" (by decide), hplain "a" (by decide), hplain " a" (by decide), hdata⟩
  · apply readParts_renamed quotedPairs_standard
    · exact ⟨by decide, by decide⟩
    · exact ⟨by decide, by decide⟩
    · decide +kernel
  · apply readParts_renamed percentQuotes_standard
    · exact ⟨by decide, by decide⟩
    · exact ⟨by decide, by decide⟩
    · decide +kernel

end MultipartEncoder

end Capture
