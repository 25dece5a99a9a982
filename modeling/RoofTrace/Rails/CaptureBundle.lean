import RoofTrace.Rails.Ruby
import RoofTrace.Sidecar.Pipeline
import RoofTrace.Store.Puts

/-!
# The ingest of capture bundles

`app/controllers/api/v1/capture_sessions_controller.rb` and what it runs: the validator of
the manifest, `CaptureBundle::Uploader` and `CaptureSessionIngester`. A bundle is a
manifest and the files it names. All of it is put into the object store under keys of the
job, in the order of the source, before rows are inserted for it.

What a program puts does not depend on what the store answers, but for that the first
failure ends it. The uploader is therefore the list of its puts, an exception that it raises
itself standing in its place, and `SpacesUploader.putEach` puts them until one fails.
-/

namespace Rails

/-! ### Texts -/

namespace Ruby

/-- `s.strip.empty?` -/
def stripEmpty (s : String) : Bool :=
  s.toList.all fun c => c.isWhitespace || c.toNat ∈ [0, 11, 12]

/-- `[[:space:]]` -/
def space (c : Char) : Bool :=
  (9 ≤ c.toNat && c.toNat ≤ 13) || (0x2000 ≤ c.toNat && c.toNat ≤ 0x200A) ||
    c.toNat ∈ [0x20, 0x85, 0xA0, 0x1680, 0x2028, 0x2029, 0x202F, 0x205F, 0x3000]

/-- The part of a path after its last slash, the slashes that it ends with apart. -/
def lastComponent (path : List Char) : List Char :=
  let trimmed := path.reverse.dropWhile (· == '/')
  if trimmed.isEmpty then path.take 1 else (trimmed.takeWhile (· ≠ '/')).reverse

/-- A name without its extension; the dots that it begins with start no extension. -/
def withoutExtension (name : List Char) : List Char :=
  let rest := name.dropWhile (· == '.')
  if '.' ∈ rest then
    name.takeWhile (· == '.') ++ (rest.reverse.dropWhile (· ≠ '.')).tail.reverse
  else name

/-- `format('%02d', n)` -/
def format02d (n : ℤ) : String :=
  if 0 ≤ n ∧ n < 10 then s!"0{n}" else s!"{n}"

end Ruby

namespace CaptureBundle

/-! ### Documents -/

/-- A number of a document. -/
inductive Number where
  | integer (n : ℤ)
  | float (x : ℚ)
deriving DecidableEq

abbrev Document : Type := Json Number

/-- Reading and writing documents whose texts are `Bytes`. -/
class Documents (Bytes : Type) where
  /-- `JSON.parse`; `none` is a `JSON::ParserError`. -/
  parse : Bytes → Option Document
  /-- `JSON.generate` -/
  generate : Document → Bytes
  /-- `to_s` of a number, an Array or a Hash. -/
  inspect : Document → String
  /-- `text.blank?` -/
  isBlank : Bytes → Bool
  parse_generate {raw : Bytes} {document : Document} :
    parse raw = some document → parse (generate document) = some document

/-- `x.to_s` -/
def toS (Bytes : Type) [Documents Bytes] : Document → String
  | .null => ""
  | .bool b => if b then "true" else "false"
  | .str s => s
  | x => Documents.inspect Bytes x

/-- `x.blank?` -/
def blank : Document → Bool
  | .null => true
  | .bool b => !b
  | .str s => s.toList.all Ruby.space
  | .arr xs => xs.isEmpty
  | .obj members => members.isEmpty
  | .num _ => false

/-- `File.basename(filename, ".*")`, or the class of the exception it raises. -/
def basename : Document → Except String String
  | .str s =>
      if '\x00' ∈ s.toList then .error "ArgumentError"
      else .ok (String.ofList (Ruby.withoutExtension (Ruby.lastComponent s.toList)))
  | _ => .error "TypeError"

/-- `hash.dig(key, name)`, or the class of the exception it raises. -/
def dig (j : Document) (key name : String) : Except String Document :=
  match j.get key with
  | .null => .ok .null
  | .obj members => .ok ((Json.obj members).get name)
  | _ => .error "TypeError"

/-! ### The manifest -/

namespace SessionManifestValidator

open Ruby

def supportedManifestMajor : String := "1"

def maxCaptures : ℕ := 8

def gpsOriginFields : List String :=
  ["latitude", "longitude", "altitude_m", "horizontal_accuracy_m", "vertical_accuracy_m"]

section

variable (Bytes : Type) [Documents Bytes]

def validateSessionId (manifest : Document) : List String :=
  if stripEmpty (toS Bytes (manifest.get "session_id")) then
    ["session_id is required"]
  else []

def validateManifestVersion (manifest : Document) : List String :=
  let version := toS Bytes (manifest.get "manifest_version")
  if stripEmpty version then ["manifest_version is required"]
  else if String.ofList (version.toList.takeWhile (· ≠ '.')) ≠ supportedManifestMajor then
    [s!"unsupported manifest_version {version.quote} " ++
      s!"(this server understands {supportedManifestMajor}.x)"]
  else []

def validateGpsOrigin (manifest : Document) : List String :=
  match manifest.get "gps_origin" with
  | .null => []
  | .obj members =>
      let missing := gpsOriginFields.filter fun f => ((Json.obj members).get f).isNull
      let names := ", ".intercalate missing
      if missing.isEmpty then [] else [s!"gps_origin is missing: {names}"]
  | _ => ["gps_origin must be an object"]

/-- The error about a `capture_index`, and the indices that have been seen with it. -/
def validateCaptureIndex (seen : List ℤ) (position : ℕ) :
    Document → List String × List ℤ
  | .num (.integer idx) =>
      if 0 ≤ idx ∧ idx ≤ maxCaptures - 1 then
        (if idx ∈ seen then [s!"captures has a duplicate capture_index {idx}"] else [],
          idx :: seen)
      else
        ([s!"captures[{position}].capture_index must be an integer in 0..{maxCaptures - 1}"], seen)
  | _ =>
      ([s!"captures[{position}].capture_index must be an integer in 0..{maxCaptures - 1}"], seen)

def validateText (capture : Document) (position : ℕ) (field : String) : List String :=
  if stripEmpty (toS Bytes (capture.get field)) then
    [s!"captures[{position}].{field} is required"]
  else []

def validateEachCapture (seen : List ℤ) (position : ℕ) : List Document → List String
  | [] => []
  | capture :: captures =>
      if isHash capture then
        let index := validateCaptureIndex seen position (capture.get "capture_index")
        index.1 ++ validateText Bytes capture position "prompt_label" ++
          validateText Bytes capture position "timestamp" ++
          validateEachCapture index.2 (position + 1) captures
      else
        s!"captures[{position}] must be an object" ::
          validateEachCapture seen (position + 1) captures

def validateCaptures (manifest : Document) : List String :=
  match manifest.get "captures" with
  | .arr captures =>
      if captures.any truthy then
        (if maxCaptures < captures.length then
          [s!"captures exceeds the maximum of {maxCaptures} ({captures.length} given)"]
        else []) ++ validateEachCapture Bytes [] 0 captures
      else ["captures must be a non-empty array"]
  | _ => ["captures must be a non-empty array"]

def validateWorldMesh (manifest : Document) : List String :=
  match manifest.get "world_mesh" with
  | .obj members =>
      (if (Json.obj members).get "filename" ≠ .str "arkit_mesh.obj" then
        ["world_mesh.filename must be 'arkit_mesh.obj'"] else []) ++
      (if (Json.obj members).get "format" ≠ .str "obj" then
        ["world_mesh.format must be 'obj'"] else [])
  | _ => ["world_mesh is required"]

/-- The errors of a manifest, which is valid when it has none. -/
def call (manifest : Document) : List String :=
  if isHash manifest then
    validateSessionId Bytes manifest ++ validateManifestVersion Bytes manifest ++
      validateGpsOrigin manifest ++ validateCaptures Bytes manifest ++
      validateWorldMesh manifest
  else ["manifest is not a JSON object"]

end

end SessionManifestValidator

/-- A document that the controller has read and found valid. -/
@[ext]
structure Manifest (Bytes : Type) [Documents Bytes] where
  document : Document
  read : ∃ raw : Bytes, Documents.parse raw = some document
  valid : SessionManifestValidator.call Bytes document = []

variable {Bytes : Type}

namespace Manifest

variable [Documents Bytes]

/-- `Array(manifest["captures"])` -/
def captures (manifest : Manifest Bytes) : List Document :=
  Ruby.array (manifest.document.get "captures")

/-- `manifest.dig("world_mesh", "filename") || "arkit_mesh.obj"` -/
def worldMeshFilename (manifest : Manifest Bytes) : String :=
  match (manifest.document.get "world_mesh").get "filename" with
  | .str filename => filename
  | _ => "arkit_mesh.obj"

end Manifest

/-- `capture["capture_index"]`, an integer in a valid manifest. -/
def captureIndex (capture : Document) : ℤ :=
  match capture.get "capture_index" with
  | .num (.integer idx) => idx
  | _ => 0

def photoBasename (capture : Document) : String :=
  s!"photo_{Ruby.format02d (captureIndex capture)}.jpg"

def depthBasename (capture : Document) : String :=
  s!"depth_{Ruby.format02d (captureIndex capture)}.png"

def uploadKey (jobId basename : String) : String := s!"uploads/{jobId}/{basename}"

section

variable [Documents Bytes]

open SessionManifestValidator

theorem validateCaptureIndex_eq_nil {seen : List ℤ} {position : ℕ} {capture : Document}
    (h : (validateCaptureIndex seen position (capture.get "capture_index")).1 = []) :
  0 ≤ captureIndex capture ∧ captureIndex capture ≤ 7 ∧ captureIndex capture ∉ seen ∧
    (validateCaptureIndex seen position (capture.get "capture_index")).2 =
      captureIndex capture :: seen
  := by
  unfold captureIndex
  unfold validateCaptureIndex at h ⊢
  split at h
  · next idx hget =>
      simp only [hget]
      split at h
      · next hrange =>
          dsimp only at h
          split at h
          · nomatch h
          · next hseen =>
              rw [if_pos hrange]
              exact ⟨hrange.1, hrange.2, hseen, rfl⟩
      · nomatch h
  · nomatch h

/-- The captures of a valid manifest are numbered from `0` to `7`, each differently. -/
theorem validateEachCapture_eq_nil {seen : List ℤ} {position : ℕ} {captures : List Document}
    (h : validateEachCapture Bytes seen position captures = []) :
  (∀ capture ∈ captures, 0 ≤ captureIndex capture ∧ captureIndex capture ≤ 7 ∧
      captureIndex capture ∉ seen) ∧
    (captures.map captureIndex).Nodup
  := by
  induction captures generalizing seen position with
  | nil => exact ⟨fun _ h => absurd h List.not_mem_nil, List.nodup_nil⟩
  | cons capture captures ih =>
      unfold validateEachCapture at h
      split at h
      · simp only [List.append_eq_nil_iff] at h
        obtain ⟨⟨⟨hindex, -⟩, -⟩, hrest⟩ := h
        obtain ⟨hlo, hhi, hseen, hnext⟩ := validateCaptureIndex_eq_nil hindex
        rw [hnext] at hrest
        obtain ⟨hcaptures, hnodup⟩ := ih hrest
        constructor
        · intro other hother
          obtain rfl | hother := List.mem_cons.mp hother
          · exact ⟨hlo, hhi, hseen⟩
          · obtain ⟨hlo', hhi', hseen'⟩ := hcaptures other hother
            exact ⟨hlo', hhi', fun h => hseen' (List.mem_cons_of_mem _ h)⟩
        · rw [List.map_cons, List.nodup_cons]
          constructor
          · intro hmem
            obtain ⟨other, hother, hsame⟩ := List.mem_map.mp hmem
            apply (hcaptures other hother).2.2
            rw [hsame]
            apply List.mem_cons_self
          · exact hnodup
      · nomatch h

namespace Manifest

variable (manifest : Manifest Bytes)

theorem valid_parts :
  validateCaptures Bytes manifest.document = [] ∧ validateWorldMesh manifest.document = []
  := by
  have h := manifest.valid
  unfold call at h
  split at h
  · simp only [List.append_eq_nil_iff] at h
    exact ⟨h.1.2, h.2⟩
  · nomatch h

theorem validateEachCapture_captures :
  validateEachCapture Bytes [] 0 manifest.captures = []
  := by
  have h := manifest.valid_parts.1
  unfold validateCaptures at h
  split at h
  · next captures hcaptures =>
      split at h
      · rw [Manifest.captures, hcaptures]
        exact (List.append_eq_nil_iff.mp h).2
      · nomatch h
  · nomatch h

theorem nodup_captures :
  (manifest.captures.map captureIndex).Nodup
  := (validateEachCapture_eq_nil manifest.validateEachCapture_captures).2

theorem captureIndex_mem {capture : Document} (h : capture ∈ manifest.captures) :
  0 ≤ captureIndex capture ∧ captureIndex capture ≤ 7
  := by
  obtain ⟨hlo, hhi, -⟩ :=
    (validateEachCapture_eq_nil manifest.validateEachCapture_captures).1 capture h
  exact ⟨hlo, hhi⟩

theorem worldMeshFilename_eq :
  manifest.worldMeshFilename = "arkit_mesh.obj"
  := by
  have h := manifest.valid_parts.2
  unfold validateWorldMesh at h
  split at h
  · next members hmembers =>
      have hfilename := (List.append_eq_nil_iff.mp h).1
      split at hfilename
      · nomatch hfilename
      · next hfilename' =>
          rw [worldMeshFilename, hmembers, not_not.mp hfilename']
  · nomatch h

end Manifest

end

/-! ### The uploader -/

/-- A value of the multipart request. -/
inductive Part (Bytes : Type) where
  | uploadedFile (content : Bytes)
  | field (text : Bytes)

def Part.content : Part Bytes → Bytes
  | uploadedFile content => content
  | field text => text

/-- `params`, by name. -/
abbrev Params (Bytes : Type) : Type := String → Option (Part Bytes)

/-- What is held under a key of the object store. -/
structure StoredObject (Bytes : Type) where
  body : Bytes
  contentType : String
deriving DecidableEq

abbrev Upload (Bytes : Type) : Type := Store.Put String (StoredObject Bytes)

/-- An exception of an upload. -/
inductive UploadExn where
  /-- `SpacesUploader::Error` -/
  | spacesUploader (message : String)
  /-- Any other exception, by the name of its class. -/
  | other (className : String)
deriving DecidableEq

namespace SpacesUploader

def allowedKeyPrefix : String := "uploads/"

/-- `assert_prefix!` -/
def assertPrefix (key : String) : Option UploadExn :=
  if Ruby.stripEmpty key then some (.spacesUploader "key is blank")
  else if allowedKeyPrefix.toList.isPrefixOf key.toList then none
  else some
    (.spacesUploader s!"key must be under the {allowedKeyPrefix} prefix, got: {key.quote}")

/-- The uploads that are put until one fails, and what it fails with. A put fails when its
key is not allowed or the storage fails, as it does for the keys that `storageFailure` is
given for. -/
def putEach (storageFailure : String → Option UploadExn) :
    List (Except UploadExn (Upload Bytes)) → List (Upload Bytes) × Option UploadExn
  | [] => ([], none)
  | .error e :: _ => ([], some e)
  | .ok upload :: rest =>
      match (assertPrefix upload.key).or (storageFailure upload.key) with
      | some e => ([], some e)
      | none => ((upload :: (putEach storageFailure rest).1), (putEach storageFailure rest).2)

end SpacesUploader

namespace Uploader

variable [Documents Bytes]

def uploadSessionJson (jobId : String) (manifest : Manifest Bytes) :
    List (Except UploadExn (Upload Bytes)) :=
  [.ok
    { key := uploadKey jobId "session.json"
      value := ⟨Documents.generate manifest.document, "application/json"⟩ }]

def uploadWorldMesh (jobId : String) (manifest : Manifest Bytes) (params : Params Bytes) :
    List (Except UploadExn (Upload Bytes)) :=
  match params "world_mesh" with
  | none => []
  | some mesh =>
      [.ok
        { key := uploadKey jobId manifest.worldMeshFilename
          value := ⟨mesh.content, "model/obj"⟩ }]

omit [Documents Bytes] in
def uploadOptionalFile (jobId : String) (params : Params Bytes) (filename : Document)
    (keyBasename contentType : String) : List (Except UploadExn (Upload Bytes)) :=
  if blank filename then []
  else
    match basename filename with
    | .error className => [.error (.other className)]
    | .ok partName =>
        match params partName with
        | none => []
        | some file =>
            [.ok { key := uploadKey jobId keyBasename, value := ⟨file.content, contentType⟩ }]

omit [Documents Bytes] in
/-- The photo and the depth map of a capture. -/
def uploadCapture (jobId : String) (params : Params Bytes) (capture : Document) :
    List (Except UploadExn (Upload Bytes)) :=
  uploadOptionalFile jobId params (capture.get "photo_filename") (photoBasename capture)
      "image/jpeg" ++
    uploadOptionalFile jobId params (capture.get "depth_filename") (depthBasename capture)
      "image/png"

def uploadCaptureBlobs (jobId : String) (manifest : Manifest Bytes) (params : Params Bytes) :
    List (Except UploadExn (Upload Bytes)) :=
  manifest.captures.flatMap (uploadCapture jobId params)

def uploadAll (jobId : String) (manifest : Manifest Bytes) (params : Params Bytes) :
    List (Except UploadExn (Upload Bytes)) :=
  uploadSessionJson jobId manifest ++ uploadWorldMesh jobId manifest params ++
    uploadCaptureBlobs jobId manifest params

end Uploader

/-! ### The rows -/

/-- A row of `captures`. -/
structure CaptureRow where
  sequenceIndex : ℤ
  promptLabel : Option String
  photoRef : Option String
  depthRef : Option String
  cameraIntrinsics : Document
  cameraExtrinsics : Document

/-- A row of `capture_sessions` with its captures. -/
structure SessionRow where
  id : String
  jobId : String
  sessionId : String
  manifestVersion : String
  worldMeshRef : String
  captures : List CaptureRow

/-- An exception of the ingester. -/
inductive IngestExn where
  /-- `CaptureSessionIngester::Conflict` -/
  | conflict
  /-- `ActiveRecord::RecordInvalid`, by the errors of its record. -/
  | recordInvalid (errors : List (String × String))
  /-- `ActiveRecord::RecordNotUnique` -/
  | recordNotUnique
  /-- Any other exception, by the name of its class. -/
  | other (className : String)

/-- A value as a column of texts casts it. -/
def castString (Bytes : Type) [Documents Bytes] : Document → Option String
  | .null => none
  | .bool b => some (if b then "t" else "f")
  | x => some (toS Bytes x)

/-- Whether a column is blank. -/
def blankColumn (value : Option String) : Bool := (value.getD "").toList.all Ruby.space

namespace CaptureSessionIngester

variable [Documents Bytes]

variable (Bytes) in
/-- The row of a capture. -/
def buildCapture (jobId : String) (capture : Document) : Except IngestExn CaptureRow := do
  let intrinsics ← (dig capture "camera_pose" "intrinsics_row_major").mapError .other
  let extrinsics ← (dig capture "camera_pose" "world_to_camera_row_major").mapError .other
  return {
    sequenceIndex := captureIndex capture
    promptLabel := castString Bytes (capture.get "prompt_label")
    photoRef :=
      if Ruby.truthy (capture.get "photo_filename") then
        some (uploadKey jobId (photoBasename capture))
      else none
    depthRef :=
      if Ruby.truthy (capture.get "depth_filename") then
        some (uploadKey jobId (depthBasename capture))
      else none
    cameraIntrinsics := intrinsics
    cameraExtrinsics := extrinsics }

/-- The row of a session, with those of its captures. -/
def buildCaptureSession (id jobId : String) (manifest : Manifest Bytes) :
    Except IngestExn SessionRow := do
  let captures ← manifest.captures.mapM (buildCapture Bytes jobId)
  return {
    id := id
    jobId := jobId
    sessionId := (castString Bytes (manifest.document.get "session_id")).getD ""
    manifestVersion := (castString Bytes (manifest.document.get "manifest_version")).getD ""
    worldMeshRef := uploadKey jobId manifest.worldMeshFilename
    captures := captures }

/-- Whether the text in a `session_id` column is that of a manifest. -/
def sameSessionId (manifest : Manifest Bytes) (session : SessionRow) : Bool :=
  castString Bytes (manifest.document.get "session_id") == some session.sessionId

/-- What the validations of a session find. -/
def errors (sessions : List SessionRow) (manifest : Manifest Bytes) : List (String × String) :=
  (if blankColumn (castString Bytes (manifest.document.get "session_id")) then
    [("session_id", "can't be blank")] else []) ++
  (if sessions.any (sameSessionId manifest) then
    [("session_id", "has already been taken")] else []) ++
  (if blankColumn (castString Bytes (manifest.document.get "manifest_version")) then
    [("manifest_version", "can't be blank")] else [])

/-- The transaction of `persist!`: the row it inserts. An exception that the database or an
attribute that is not a column here raises is `databaseFailure`. -/
def insertSession (sessions : List SessionRow) (databaseFailure : Option IngestExn) (id jobId : String)
    (manifest : Manifest Bytes) : Except IngestExn SessionRow :=
  if (errors sessions manifest).isEmpty then
    match databaseFailure with
    | some e => .error e
    | none => buildCaptureSession id jobId manifest
  else .error (.recordInvalid (errors sessions manifest))

/-- The session that a duplicate is a retry of. -/
def resolveDuplicate (sessions : List SessionRow) (jobId : String) (manifest : Manifest Bytes) :
    Except IngestExn SessionRow :=
  match sessions.find? fun session => session.jobId == jobId && sameSessionId manifest session with
  | some existing => .ok existing
  | none =>
      if sessions.any (sameSessionId manifest) then .error .conflict else .error .recordNotUnique

/-- What `persist!` makes of an exception of its transaction. -/
def rescue (sessions : List SessionRow) (jobId : String) (manifest : Manifest Bytes) :
    IngestExn → Except IngestExn SessionRow
  | .recordNotUnique => resolveDuplicate sessions jobId manifest
  | .recordInvalid errors =>
      if ("session_id", "has already been taken") ∈ errors then
        resolveDuplicate sessions jobId manifest
      else .error (.recordInvalid errors)
  | e => .error e

theorem insertSession_eq_ok {sessions : List SessionRow} {databaseFailure : Option IngestExn}
    {id jobId : String} {manifest : Manifest Bytes} {session : SessionRow}
    (h : insertSession sessions databaseFailure id jobId manifest = .ok session) :
  session.id = id ∧ session.jobId = jobId ∧
    buildCaptureSession session.id session.jobId manifest = .ok session
  := by
  unfold insertSession at h
  split at h
  · split at h
    · nomatch h
    · have hbuilt := h
      obtain ⟨captures, -, hsession⟩ := Outcome.bind_eq_ok.mp h
      cases hsession
      exact ⟨rfl, rfl, hbuilt⟩
  · nomatch h

end CaptureSessionIngester

/-! ### The controller -/

/-- A session that has been persisted: its row, and the manifest and the parts of the
request that it was persisted for. -/
structure Ingested (Bytes : Type) [Documents Bytes] where
  session : SessionRow
  manifest : Manifest Bytes
  params : Params Bytes
  built : CaptureSessionIngester.buildCaptureSession session.id session.jobId manifest
    = .ok session

/-- The object store, the persisted sessions, and the fusions that have been enqueued, by the
ids of their job and session. -/
structure World (Bytes : Type) [Documents Bytes] where
  objects : Store.Objects String (StoredObject Bytes)
  ingested : List (Ingested Bytes)
  fusionJobs : List (String × String)

/-- A request, and what storage and the database make of it. -/
structure Post (Bytes : Type) where
  /-- `params[:job_id]` -/
  jobId : String
  /-- The id of the job that the bearer token authenticates. -/
  tokenJobId : Option String
  contentLength : Option ℕ
  params : Params Bytes
  storageFailure : String → Option UploadExn
  databaseFailure : Option IngestExn
  /-- The id of the row that is inserted. -/
  newId : String

/-- How a request ends. -/
inductive Outcome where
  | render (status : ℕ) (json : Document)
  /-- An exception that nothing rescues, by the name of its class. -/
  | raised (className : String)

/-- Whether a request is rejected. -/
def Outcome.Rejected : Outcome → Prop
  | .render status _ => status ≠ 200
  | .raised _ => True

namespace CaptureSessionsController

def maxBundleBytes : ℕ := 500 * 1024 * 1024

def renderError (status : ℕ) (message : String) : Outcome :=
  .render status (.obj [("error", .str message)])

def renderErrors (status : ℕ) (messages : List String) : Outcome :=
  .render status (.obj [("errors", .arr (messages.map .str))])

def renderBadRequest (messages : List String) : Outcome := renderErrors 400 messages

/-- `authenticate_capture_token!` -/
def authenticateCaptureToken (post : Post Bytes) : Except Outcome Unit :=
  if post.tokenJobId = some post.jobId then return ()
  else throw (renderError 401 "invalid or expired capture token")

/-- `reject_oversized_request!` -/
def rejectOversizedRequest (post : Post Bytes) : Except Outcome Unit :=
  match post.contentLength with
  | none => throw (renderError 411 "Content-Length is required for a capture upload")
  | some declared =>
      if declared ≤ maxBundleBytes then return ()
      else throw (renderError 413 "capture bundle exceeds the maximum allowed size")

variable [Documents Bytes]

def parseManifest (post : Post Bytes) : Except Outcome (Manifest Bytes) :=
  match post.params "session_json" with
  | none => throw (renderBadRequest ["session manifest part is required"])
  | some raw =>
      if raw matches .field _ ∧ Documents.isBlank raw.content then
        throw (renderBadRequest ["session manifest part is required"])
      else
        match hread : Documents.parse raw.content with
        | none => throw (renderBadRequest ["session manifest is not valid JSON"])
        | some document =>
            if hvalid : SessionManifestValidator.call Bytes document = [] then
              return ⟨document, ⟨raw.content, hread⟩, hvalid⟩
            else throw (renderBadRequest (SessionManifestValidator.call Bytes document))

/-- `manifest_job_mismatch?` -/
def checkManifestJob (post : Post Bytes) (manifest : Manifest Bytes) : Except Outcome Unit :=
  if manifest.document.get "job_id" = .str post.jobId then return ()
  else throw (renderBadRequest ["manifest job_id does not match the request job_id"])

/-- What is checked before anything is stored. -/
def checked (post : Post Bytes) : Except Outcome (Manifest Bytes) := do
  authenticateCaptureToken post
  rejectOversizedRequest post
  let manifest ← parseManifest post
  checkManifestJob post manifest
  return manifest

/-- The uploads of a request that storage takes, and the exception that ends them. -/
def uploaded (post : Post Bytes) (manifest : Manifest Bytes) :
    List (Upload Bytes) × Option UploadExn :=
  SpacesUploader.putEach post.storageFailure
    (Uploader.uploadAll post.jobId manifest post.params)

def renderSession (session : SessionRow) : Outcome :=
  .render 200 (.obj [("capture_session_id", .str session.id)])

/-- `full_messages` -/
def fullMessages (errors : List (String × String)) : List String :=
  errors.map fun (field, message) =>
    (if field = "session_id" then "Session " else "Manifest version ") ++ message

def World.sessions (w : World Bytes) : List SessionRow := w.ingested.map (·.session)

/-- The rows of a bundle that has been uploaded. -/
def persist (w : World Bytes) (post : Post Bytes) (manifest : Manifest Bytes) :
    World Bytes × Outcome :=
  match hinsert : CaptureSessionIngester.insertSession (World.sessions w) post.databaseFailure post.newId
      post.jobId manifest with
  | .ok session =>
      ({ w with
          ingested := w.ingested ++
            [⟨session, manifest, post.params,
              (CaptureSessionIngester.insertSession_eq_ok hinsert).2.2⟩]
          fusionJobs := w.fusionJobs ++ [(post.jobId, session.id)] },
        renderSession session)
  | .error e =>
      match CaptureSessionIngester.rescue (World.sessions w) post.jobId manifest e with
      | .ok existing => (w, renderSession existing)
      | .error .conflict =>
          (w, renderError 409 "session_id already used by a different job")
      | .error (.recordInvalid errors) => (w, renderErrors 422 (fullMessages errors))
      | .error .recordNotUnique => (w, .raised "ActiveRecord::RecordNotUnique")
      | .error (.other className) => (w, .raised className)

def create (w : World Bytes) (post : Post Bytes) : World Bytes × Outcome :=
  match checked post with
  | .error outcome => (w, outcome)
  | .ok manifest =>
      let stored : World Bytes :=
        { w with objects := Store.putAll w.objects (uploaded post manifest).1 }
      match (uploaded post manifest).2 with
      | some (.spacesUploader _) => (stored, renderError 503 "storage unavailable, please retry")
      | some (.other className) => (stored, .raised className)
      | none => persist stored post manifest

end CaptureSessionsController

end CaptureBundle

end Rails
