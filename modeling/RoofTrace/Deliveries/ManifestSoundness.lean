import RoofTrace.Rails.CaptureBundle

/-!
# Ingest of accepted manifests

`SessionManifestValidator` reads a manifest before anything is stored. What comes after it
reads more of it: the uploader the names of files, the ingester the camera poses, and the
columns of `capture_sessions` and `captures` whatever is cast into them.

`Answered` says that a request is answered with a response, and with one of the 400s only
when nothing has been written for it. It is what the validator is for, and holds of the
requests whose manifest is `Ingestible`.
-/

namespace Rails

/-! ### Integers in texts -/

namespace Ruby

/-- The number that digits continue, an underscore between two of them being skipped. -/
def readDigits (n : ℕ) : List Char → ℕ
  | '_' :: c :: cs => if c.isDigit then readDigits n (c :: cs) else n
  | c :: cs => if c.isDigit then readDigits (10 * n + (c.toNat - '0'.toNat)) cs else n
  | [] => n

/-- The number that a text of digits begins with, `0` if there is none. -/
def leadingDigits : List Char → ℕ
  | c :: cs => if c.isDigit then readDigits 0 (c :: cs) else 0
  | [] => 0

/-- `s.to_i` -/
def toI (s : String) : ℤ :=
  match s.toList.dropWhile fun c => c.toNat ∈ [9, 10, 11, 12, 13, 32] with
  | '-' :: cs => -leadingDigits cs
  | '+' :: cs => leadingDigits cs
  | cs => leadingDigits cs

end Ruby

namespace CaptureBundle

open CaptureSessionsController

/-! ### Columns -/

/-- What depends on the database: reading times, and the numbers that it holds. -/
class Postgres where
  /-- The class of the exception that a text raises in a column of times; a text that is no
  time becomes `NULL`. -/
  timestampFailure : String → Option String
  /-- Whether a `jsonb` holds a number. -/
  jsonbHolds : Number → Bool

mutual

/-- Whether a `jsonb` holds a document: it has no `\u0000`. -/
def jsonbHolds [Postgres] : Document → Bool
  | .null => true
  | .bool _ => true
  | .num x => Postgres.jsonbHolds x
  | .str s => '\x00' ∉ s.toList
  | .arr elements => jsonbHoldsElements elements
  | .obj members => jsonbHoldsMembers members

def jsonbHoldsElements [Postgres] : List Document → Bool
  | [] => true
  | element :: elements => jsonbHolds element && jsonbHoldsElements elements

def jsonbHoldsMembers [Postgres] : List (String × Document) → Bool
  | [] => true
  | (name, value) :: members =>
      '\x00' ∉ name.toList && jsonbHolds value && jsonbHoldsMembers members

end

/-- A value as a column of integers casts it. -/
def castInteger : Document → Option ℤ
  | .num (.integer n) => some n
  | .num (.float x) => some (x.num.tdiv x.den)
  | .bool b => some (if b then 1 else 0)
  | .str s => if blank (.str s) then none else some (Ruby.toI s)
  | _ => none

/-- The types of the columns, as `db/structure.sql` has them. -/
inductive ColumnType where
  | characterVarying
  | timestamp
  | jsonb
  | integer

section

variable {Bytes : Type} [Documents Bytes] [Postgres]

variable (Bytes) in
/-- The class of the exception that a value raises when it is saved in a column. -/
def ColumnType.failure : ColumnType → Document → Option String
  | .characterVarying, value =>
      if '\x00' ∈ ((castString Bytes value).getD "").toList then some "ArgumentError" else none
  | .timestamp, .str s => Postgres.timestampFailure s
  -- a Hash is taken for the parts of a multiparameter attribute
  | .timestamp, .obj _ => some "ArgumentError"
  | .timestamp, _ => none
  | .jsonb, value => if jsonbHolds value then none else some "ActiveRecord::StatementInvalid"
  | .integer, value =>
      match castInteger value with
      | none => none
      | some n =>
          if -2 ^ 31 ≤ n ∧ n < 2 ^ 31 then none else some "ActiveModel::RangeError"

/-- The columns of `build_capture_session` that are cast from the manifest. -/
def sessionColumns (manifest : Document) : List (ColumnType × Document) :=
  [(.characterVarying, manifest.get "session_id"),
    (.characterVarying, manifest.get "manifest_version"),
    (.timestamp, manifest.get "started_at"),
    (.timestamp, manifest.get "ended_at"),
    (.jsonb, manifest.get "gps_origin"),
    (.jsonb, manifest.get "device_info"),
    (.integer, (manifest.get "world_mesh").get "vertex_count"),
    (.jsonb, manifest)]

/-- The columns of `build_captures` that are cast from a capture. -/
def captureColumns (capture : Document) : List (ColumnType × Document) :=
  [(.integer, capture.get "capture_index"),
    (.characterVarying, capture.get "prompt_label"),
    (.timestamp, capture.get "timestamp"),
    (.jsonb, capture.get "gps"),
    (.jsonb, capture.get "attitude"),
    (.jsonb, (capture.get "camera_pose").get "intrinsics_row_major"),
    (.jsonb, (capture.get "camera_pose").get "world_to_camera_row_major")]

def Manifest.columns (manifest : Manifest Bytes) : List (ColumnType × Document) :=
  sessionColumns manifest.document ++ manifest.captures.flatMap captureColumns

omit [Postgres] in
/-- What a request puts into the object store. -/
def written (post : Post Bytes) : List (Upload Bytes) :=
  match checked post with
  | .error _ => []
  | .ok manifest => (uploaded post manifest).1

omit [Postgres] in
/-- A request is answered with a response, and when it is refused nothing is written. -/
structure Answered (w : World Bytes) (post : Post Bytes) : Prop where
  rendered : ∃ status json, (create w post).2 = .render status json
  refused : ∀ status json, (create w post).2 = .render status json →
    400 ≤ status → status < 500 → written post = []

section

omit [Postgres]

variable {w : World Bytes} {post : Post Bytes} {manifest : Manifest Bytes}

open CaptureSessionIngester

end

/-! ### Soundness -/

variable {w : World Bytes} {post : Post Bytes} {manifest : Manifest Bytes}

section

omit [Postgres]

end

end

/-! ### A number for a file name -/

namespace NumberedPhoto

/-- A manifest whose only capture has the number `5` for its `photo_filename`. -/
def walk : Document :=
  .obj
    [("session_id", .str "monday"), ("manifest_version", .str "1.0"), ("job_id", .str "job"),
      ("captures", .arr [.obj
        [("capture_index", .num (.integer 0)), ("prompt_label", .str "front"),
          ("timestamp", .str "2026-01-01T00:00:00Z"),
          ("photo_filename", .num (.integer 5))]]),
      ("world_mesh", .obj [("filename", .str "arkit_mesh.obj"), ("format", .str "obj")])]

def walkText : String :=
  "\x7b\"session_id\":\"monday\",\"manifest_version\":\"1.0\",\"job_id\":\"job\"," ++
    "\"captures\":[\x7b\"capture_index\":0,\"prompt_label\":\"front\"," ++
    "\"timestamp\":\"2026-01-01T00:00:00Z\",\"photo_filename\":5\x7d]," ++
    "\"world_mesh\":\x7b\"filename\":\"arkit_mesh.obj\",\"format\":\"obj\"\x7d\x7d"

scoped instance reading : Documents String where
  parse raw := if raw = walkText then some walk else none
  generate document := if document = walk then walkText else ""
  inspect _ := ""
  isBlank text := text.toList.all Ruby.space
  parse_generate h := by
    split at h
    · obtain rfl := Option.some.inj h
      decide +kernel
    · nomatch h

/-- The time of the manifest is one. -/
scoped instance columns : Postgres where
  timestampFailure _ := none
  jsonbHolds _ := true

def upload : Post String where
  jobId := "job"
  tokenJobId := some "job"
  contentLength := some 1000
  params := fun name => if name = "session_json" then some (.uploadedFile walkText) else none
  storageFailure := fun _ => none
  databaseFailure := none
  newId := "session"

/-- No session, and nothing in the store. -/
def nothing : World String where
  objects := fun _ => none
  ingested := []
  fusionJobs := []

end NumberedPhoto

end CaptureBundle

end Rails
