import Mathlib.Data.List.Basic
import Mathlib.Data.Rat.Defs

/-!
# The capture flow on the phone

`Models/CaptureSessionState.swift` and `ViewModels/CaptureViewModel.swift`: eight photos are taken
at prompts, and uploaded with the mesh of the scene. The methods of the view model run on one
actor and suspend while a collaborator works; what is to be done afterwards is a `Suspension`. A
step is an action of the user or the completion of a suspension, and everything that a
collaborator answers at once is among the `Answers` of the step.
-/

namespace Phone

/-- `Data` -/
abbrev Blob : Type := List UInt8

/-! ### The states of a session -/

inductive CaptureSessionState where
  | setupCheck
  | capturePrompt (i : ℕ)
  | uploading
  | uploadComplete
  | uploadFailed
  | bundleSaved
  | lidarUnsupported
deriving DecidableEq

namespace CaptureSessionState

def promptCount : ℕ := 8

def isValidPromptIndex (i : ℕ) : Bool := i < promptCount

def isTerminal : CaptureSessionState → Bool
  | uploadComplete | bundleSaved | lidarUnsupported => true
  | setupCheck | capturePrompt _ | uploading | uploadFailed => false

def canTransition : CaptureSessionState → CaptureSessionState → Bool
  | setupCheck, capturePrompt 0 => true
  | setupCheck, lidarUnsupported => true
  | capturePrompt source, capturePrompt target =>
      isValidPromptIndex source && isValidPromptIndex target && target == source + 1
  | capturePrompt i, uploading => i == promptCount - 1
  | uploading, uploadComplete => true
  | uploading, uploadFailed => true
  | uploadFailed, uploading => true
  | uploadFailed, bundleSaved => true
  | _, _ => false

/-- `advance`: an illegal transition leaves the state as it is. -/
def advance (state next : CaptureSessionState) : CaptureSessionState :=
  if state.canTransition next then next else state

end CaptureSessionState

/-! ### What is captured -/

/-- `LocationFix` -/
structure LocationFix where
  latitude : ℚ
  longitude : ℚ
  altitudeM : ℚ
  horizontalAccuracyM : ℚ
  verticalAccuracyM : ℚ
  timestamp : String
  degraded : Bool
deriving DecidableEq

/-- A frame of the AR session. -/
structure Frame where
  jpeg : Blob
  intrinsics : List ℚ
  worldToCamera : List ℚ
  attitude : List ℚ
  attitudeReferenceFrame : String

structure CaptureEntry where
  captureIndex : ℕ
  promptLabel : String
  photoFilename : String
  depthFilename : String
  timestamp : String
  gps : Option LocationFix
  intrinsics : List ℚ
  worldToCamera : List ℚ
  attitude : List ℚ
  attitudeReferenceFrame : String
  depthRangeM : List ℚ

/-- The labels of `PromptLibrary.steps`, by their capture index. -/
def promptLabels : List String :=
  ["front_left_corner", "front_facade", "front_right_corner", "right_facade",
    "back_right_corner", "back_facade", "back_left_corner", "left_facade"]

/-- `String(format: "%02d", i)` -/
def twoDigits (i : ℕ) : String := if i < 10 then s!"0{i}" else s!"{i}"

def photoFilename (i : ℕ) : String := s!"photo_{twoDigits i}.jpg"

def depthFilename (i : ℕ) : String := s!"depth_{twoDigits i}.png"

structure MeshExportResult where
  fileURL : String
  vertexCount : ℕ
  faceCount : ℕ

/-- `CaptureSessionManifest` -/
structure CaptureSessionManifest where
  sessionID : String
  jobID : String
  startedAt : String
  endedAt : String
  gpsOrigin : Option LocationFix
  captures : List CaptureEntry
  vertexCount : ℕ
  faceCount : ℕ

structure MultipartPart where
  name : String
  filename : String
  contentType : String
  data : Blob

/-- `UploadRequest`, with the parts that its body file holds. -/
structure UploadRequest where
  jobID : String
  token : String
  bodyFileURL : String
  parts : List MultipartPart
  sessionID : String

inductive UploadError where
  | retryExhausted
  | unauthorized
  | server (status : ℤ)
  | transport
deriving DecidableEq

/-! ### The view model -/

/-- What an asynchronous method goes on with when what it awaits completes. -/
inductive Suspension where
  /-- `runSetupCheck`, at the probe of the scene depth. -/
  | probe
  /-- `acquireOrigin`, at the origin fix. -/
  | acquireOrigin
  /-- `capture`, at the encoding of the depth map. -/
  | encodeDepth (index : ℕ) (label : String) (frame : Frame)
  /-- `capture`, at the scan of the depth range. -/
  | scanRange (index : ℕ) (label : String) (frame : Frame) (depthPNG : Blob)
  /-- `finishAndUpload`, before it begins. -/
  | finishAndUpload
  /-- `finishAndUpload`, at the export of the mesh. -/
  | exportMesh
  /-- `performUpload`, at the mesh file of its parts. -/
  | readMesh (parts : List MultipartPart)
  /-- `performUpload`, at the upload. -/
  | upload (request : UploadRequest)
  /-- `saveBundleLocally`, at the mesh file of its parts. -/
  | readMeshToSave (parts : List MultipartPart)

/-- How what is awaited completes. -/
inductive Completion where
  | probed (ok : Bool)
  | originAcquired (fix : Option LocationFix)
  | depthEncoded (result : Except String Blob)
  | rangeScanned (depthRange : List ℚ)
  | begun
  | meshExported (result : Except String MeshExportResult)
  | meshRead (result : Except String Blob)
  | uploaded (result : Except UploadError Unit)

/-- What the collaborators answer at once during a step. -/
structure Answers where
  frame : Except String Frame
  now : String
  latestFix : Option LocationFix
  /-- `CaptureSessionManifest.encoder.encode` -/
  sessionJSON : CaptureSessionManifest → Except String Blob
  /-- `encodeToTempFile` -/
  bodyFileURL : Except String String
  /-- `archive` -/
  zipURL : Except String String

/-- A view model, with its suspended methods and the uploads that it has started. -/
structure CaptureViewModel where
  /-- Whether `sensors` are injected. -/
  hasSensors : Bool
  /-- `AppConfig.backendURL` -/
  backendURL : String
  jobID : String
  token : String
  sessionID : String
  startedAt : String
  state : CaptureSessionState := .setupCheck
  captures : List CaptureEntry := []
  shareURL : Option String := none
  errorMessage : Option String := none
  gpsReady : Bool := false
  captureInFlight : Bool := false
  isSavingBundle : Bool := false
  savedBundleURL : Option String := none
  uploadInFlight : Bool := false
  photoData : List Blob := []
  depthData : List Blob := []
  meshResult : Option MeshExportResult := none
  originFix : Option LocationFix := none
  suspended : List Suspension := []
  uploads : List UploadRequest := []

namespace CaptureViewModel

open CaptureSessionState

variable (answers : Answers) (m : CaptureViewModel)

def suspend (s : Suspension) : CaptureViewModel := { m with suspended := m.suspended ++ [s] }

/-! ### The setup check -/

def unsupportedMessage : String := "This app requires an iPhone Pro or iPad Pro with LiDAR."

def runSetupCheck : CaptureViewModel :=
  if m.state = .setupCheck then
    if m.hasSensors then m.suspend .probe
    else
      { m with
        state := m.state.advance .lidarUnsupported
        errorMessage := some unsupportedMessage }
  else m

/-- The rest of `runSetupCheck`. -/
def probed (ok : Bool) : CaptureViewModel :=
  if ok then { m with state := m.state.advance (.capturePrompt 0) }.suspend .acquireOrigin
  else
    { m with
      state := m.state.advance .lidarUnsupported
      errorMessage := some unsupportedMessage }

/-- `acquireOrigin` -/
def originAcquired (fix : Option LocationFix) : CaptureViewModel :=
  { m with
    originFix := fix
    gpsReady := fix.any (·.horizontalAccuracyM ≤ 10) }

/-- `cancelPendingWork`: the collaborators are told; what they were asked for completes, in one way
or another. -/
def cancelPendingWork : CaptureViewModel := m

/-! ### Captures -/

def currentPromptIndex : Option ℕ :=
  match m.state with
  | .capturePrompt i => some i
  | _ => none

def captureFailed (error : String) : CaptureViewModel :=
  { m with captureInFlight := false, errorMessage := some s!"Capture failed: {error}" }

def capture : CaptureViewModel :=
  if m.captureInFlight then m
  else
    match m.currentPromptIndex, m.hasSensors with
    | some index, true =>
        match promptLabels[index]? with
        | some label =>
            match answers.frame with
            | .ok frame =>
                { m with captureInFlight := true }.suspend (.encodeDepth index label frame)
            | .error e => m.captureFailed e
        | none => m
    | _, _ => m

/-- `capture`, when the depth map has been encoded. -/
def depthEncoded (index : ℕ) (label : String) (frame : Frame) (result : Except String Blob) :
    CaptureViewModel :=
  match result with
  | .ok depthPNG => m.suspend (.scanRange index label frame depthPNG)
  | .error e => m.captureFailed e

/-- The rest of `capture`. -/
def rangeScanned (index : ℕ) (label : String) (frame : Frame) (depthPNG : Blob)
    (depthRange : List ℚ) : CaptureViewModel :=
  let entry : CaptureEntry :=
    { captureIndex := index
      promptLabel := label
      photoFilename := photoFilename index
      depthFilename := depthFilename index
      timestamp := answers.now
      gps := answers.latestFix.or m.originFix
      intrinsics := frame.intrinsics
      worldToCamera := frame.worldToCamera
      attitude := frame.attitude
      attitudeReferenceFrame := frame.attitudeReferenceFrame
      depthRangeM := depthRange }
  let m :=
    { m with
      captures := m.captures ++ [entry]
      photoData := m.photoData ++ [frame.jpeg]
      depthData := m.depthData ++ [depthPNG]
      captureInFlight := false }
  if index = promptCount - 1 then
    if m.state.canTransition .uploading then { m with state := .uploading }.suspend .finishAndUpload
    else m
  else { m with state := m.state.advance (.capturePrompt (index + 1)) }

/-! ### Uploads -/

def buildManifest (mesh : MeshExportResult) : CaptureSessionManifest where
  sessionID := m.sessionID
  jobID := m.jobID
  startedAt := m.startedAt
  endedAt := answers.now
  gpsOrigin := m.originFix.or answers.latestFix
  captures := m.captures
  vertexCount := mesh.vertexCount
  faceCount := mesh.faceCount

/-- The parts of `buildParts` before the mesh. -/
def parts (sessionJSON : Blob) : List MultipartPart :=
  [⟨"session_json", "session.json", "application/json", sessionJSON⟩] ++
    m.photoData.mapIdx (fun i data =>
      ⟨s!"photo_{twoDigits i}", photoFilename i, "image/jpeg", data⟩) ++
    m.depthData.mapIdx fun i data =>
      ⟨s!"depth_{twoDigits i}", depthFilename i, "image/png", data⟩

/-- The part of the mesh. -/
def meshPart (meshData : Blob) : MultipartPart :=
  ⟨"world_mesh", "arkit_mesh.obj", "model/obj", meshData⟩

/-- An upload that has failed, with its message, if it has one. -/
def uploadEnded (errorMessage : Option String) : CaptureViewModel :=
  { m with
    uploadInFlight := false
    errorMessage := errorMessage.or m.errorMessage
    state := m.state.advance .uploadFailed }

def assemblyFailed (error : String) : CaptureViewModel :=
  m.uploadEnded (some s!"Failed to assemble upload: {error}")

def performUpload : CaptureViewModel :=
  if m.uploadInFlight then m
  else
    match m.meshResult with
    | none => m.uploadEnded none
    | some mesh =>
        match answers.sessionJSON (m.buildManifest answers mesh) with
        | .ok sessionJSON => { m with uploadInFlight := true }.suspend (.readMesh (m.parts sessionJSON))
        | .error e => m.assemblyFailed e

/-- `performUpload`, when the mesh file has been read. -/
def meshRead (parts : List MultipartPart) (result : Except String Blob) : CaptureViewModel :=
  match result with
  | .error e => m.assemblyFailed e
  | .ok meshData =>
      match answers.bodyFileURL with
      | .error e => m.assemblyFailed e
      | .ok bodyFileURL =>
          let request : UploadRequest :=
            { jobID := m.jobID
              token := m.token
              bodyFileURL
              parts := parts ++ [meshPart meshData]
              sessionID := m.sessionID }
          { m with uploads := m.uploads ++ [request] }.suspend (.upload request)

/-- The rest of `performUpload`. -/
def uploaded (result : Except UploadError Unit) : CaptureViewModel :=
  match result with
  | .ok () =>
      { m with
        uploadInFlight := false
        shareURL := some s!"{m.backendURL}/jobs/{m.jobID}"
        state := m.state.advance .uploadComplete }
  | .error .unauthorized =>
      m.uploadEnded (some "Your capture link has expired. Request a new one from the web app.")
  | .error _ => m.uploadEnded (some "Upload failed. Retry, or save the bundle locally.")

/-- `finishAndUpload`, up to the export of the mesh. -/
def finishAndUpload : CaptureViewModel :=
  if m.hasSensors then m.suspend .exportMesh else m

/-- The rest of `finishAndUpload`. -/
def meshExported (result : Except String MeshExportResult) : CaptureViewModel :=
  match result with
  | .ok mesh => { m with meshResult := some mesh }.performUpload answers
  | .error e =>
      { m with
        errorMessage := some s!"Mesh export failed: {e}"
        state := m.state.advance .uploadFailed }

def retryUpload : CaptureViewModel :=
  if m.state = .uploadFailed ∧ m.uploadInFlight = false then
    { m with state := m.state.advance .uploading }.performUpload answers
  else m

/-! ### The bundle -/

def saveFailed (error : String) : CaptureViewModel :=
  { m with
    isSavingBundle := false
    errorMessage := some s!"Couldn't save the bundle: {error}. Try Retry instead." }

def saveBundleLocally : CaptureViewModel :=
  if m.isSavingBundle then m
  else
    match m.meshResult with
    | none => m
    | some mesh =>
        if m.state = .uploadFailed then
          match answers.sessionJSON (m.buildManifest answers mesh) with
          | .ok sessionJSON =>
              { m with isSavingBundle := true }.suspend (.readMeshToSave (m.parts sessionJSON))
          | .error e => m.saveFailed e
        else m

/-- The rest of `saveBundleLocally`. -/
def meshReadToSave (result : Except String Blob) : CaptureViewModel :=
  match result with
  | .error e => m.saveFailed e
  | .ok _ =>
      match answers.zipURL with
      | .error e => m.saveFailed e
      | .ok zipURL =>
          { m with
            isSavingBundle := false
            savedBundleURL := some zipURL
            errorMessage := none
            state := m.state.advance .bundleSaved }

/-! ### Steps -/

/-- What a suspended method does when what it awaits has completed. -/
def resume (s : Suspension) (completion : Completion) : CaptureViewModel :=
  match s, completion with
  | .probe, .probed ok => m.probed ok
  | .acquireOrigin, .originAcquired fix => m.originAcquired fix
  | .encodeDepth index label frame, .depthEncoded result => m.depthEncoded index label frame result
  | .scanRange index label frame depthPNG, .rangeScanned depthRange =>
      m.rangeScanned answers index label frame depthPNG depthRange
  | .finishAndUpload, .begun => m.finishAndUpload
  | .exportMesh, .meshExported result => m.meshExported answers result
  | .readMesh parts, .meshRead result => m.meshRead answers parts result
  | .upload _, .uploaded result => m.uploaded result
  | .readMeshToSave _, .meshRead result => m.meshReadToSave answers result
  | s, _ => m.suspend s

inductive Event where
  | runSetupCheck
  | capture
  | retryUpload
  | saveBundleLocally
  | cancelPendingWork
  /-- What the suspended method at a place awaits has completed. -/
  | complete (place : ℕ) (completion : Completion)

def step (event : Event) : CaptureViewModel :=
  match event with
  | .runSetupCheck => m.runSetupCheck
  | .capture => m.capture answers
  | .retryUpload => m.retryUpload answers
  | .saveBundleLocally => m.saveBundleLocally answers
  | .cancelPendingWork => m.cancelPendingWork
  | .complete place completion =>
      match m.suspended[place]? with
      | some s => { m with suspended := m.suspended.eraseIdx place }.resume answers s completion
      | none => m

def run (m : CaptureViewModel) : List (Answers × Event) → CaptureViewModel
  | [] => m
  | (answers, event) :: steps => (m.step answers event).run steps

/-- A view model that has been made for a handoff, with an identifier of the session. -/
def init (hasSensors : Bool) (backendURL jobID token sessionID startedAt : String) :
    CaptureViewModel where
  hasSensors := hasSensors
  backendURL := backendURL
  jobID := jobID
  token := token
  sessionID := sessionID
  startedAt := startedAt

end CaptureViewModel

end Phone
