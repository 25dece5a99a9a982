import Mathlib.Data.List.MinMax
import Mathlib.Data.List.Sort
import RoofTrace.Effects.Logic
import RoofTrace.Rails.Ruby

/-!
# The database and the operations of the application

The rows that belong to one job, and the operations that the jobs of the application
perform on them and on the world outside: the sidecar, the streams that pages subscribe to,
the queue. An operation is atomic. It may raise instead of having its effect; what the
sidecar answers, what a thread comes to and how much time passes is left to the world too.

Rows are never deleted, and a row of `measurements` is numbered by its place.
-/

namespace Rails

open Effects

/-! ### Rows -/

/-- `Job.statuses` -/
inductive Status where
  | pending
  | resolvingAddress
  | fetchingImagery
  | fetchingLidar
  | refiningOutline
  | detectingFeatures
  | fittingPlanes
  | ready
  | failed
deriving DecidableEq

/-- A row of `jobs`. -/
structure JobRow where
  id : String
  address : String
  polygonSelection : ℤ
  status : Status
  lastError : Option String
deriving DecidableEq

/-- The columns of `measurements` that a new row is given. Times are in microseconds. -/
structure MeasurementAttributes where
  footprint : Json ℚ
  roofOutline : Json ℚ
  lidar : Json ℚ
  facets : List (Json ℚ)
  features : List (Json ℚ)
  totalAreaSqFt : Json ℚ
  predominantPitchRatio : Json ℚ
  source : String
  confidence : ℚ
  warnings : List (Json ℚ)
  provenance : Json ℚ
  totalPerimeterFt : Json ℚ
  geocode : Json ℚ
  parcelPolygon : Json ℚ
  sourceFingerprint : Option String
  generatedAt : ℕ

/-- A row of `measurements`. -/
structure Measurement extends MeasurementAttributes where
  id : ℕ

/-- A row of `capture_sessions`. -/
structure CaptureSession where
  id : String
  worldMeshRef : Json ℚ

/-- A row of `captures`. -/
structure Capture where
  id : String
  captureSessionId : String
  sequenceIndex : ℤ
  photoRef : Option String
  cameraIntrinsics : Json ℚ
  cameraExtrinsics : Json ℚ

/-- A row of `projected_overlays`. -/
structure ProjectedOverlay where
  captureId : String
  compositeRef : Json ℚ
  overlaySvgRef : Json ℚ
  poseConfidence : Option ℚ
  lowPoseConfidence : Bool
  occludedFacetIds : List (Json ℚ)
  /-- Not a column: the transform and the EPSG code of the request whose response the
  overlay was made from, for one that was made from a response. -/
  drawnWith : Option (Json ℚ × Json ℚ)

/-- The validations of a measurement. -/
def MeasurementAttributes.valid (m : MeasurementAttributes) : Bool :=
  m.source ≠ "" && 0 ≤ m.confidence && m.confidence ≤ 1

namespace Measurement

def fusionArkitToUtmKey : String := "fusion_arkit_to_utm_4x4"

def fusionUtmEpsgKey : String := "fusion_utm_epsg"

def fusionSessionIdKey : String := "fusion_session_id"

/-- `lidar_available?` -/
def lidarAvailable (m : Measurement) : Bool :=
  Ruby.isHash m.lidar && m.lidar.get "status" == .str SidecarClient.lidarAvailable

/-- `fused_arkit_to_utm` -/
def fusedArkitToUtm (m : Measurement) : Option (Json ℚ) :=
  match m.provenance.get fusionArkitToUtmKey with
  | .arr xs => if xs.length = 16 then some (.arr xs) else none
  | _ => none

/-- `fused_utm_epsg` -/
def fusedUtmEpsg (m : Measurement) : Json ℚ := m.provenance.get fusionUtmEpsgKey

/-- The capture session whose fusion made the measurement. -/
def fusionSessionId (m : Measurement) : Json ℚ := m.provenance.get fusionSessionIdKey

end Measurement

/-! ### The world -/

structure World where
  clock : ℕ
  job : JobRow
  measurements : List Measurement
  captureSessions : List CaptureSession
  captures : List Capture
  projectedOverlays : List ProjectedOverlay
  report : Bool
  /-- The ProjectionJobs that were enqueued: how many rows `measurements` had then. -/
  projectionJobs : List ℕ

/-- The columns of a job that an UPDATE writes. -/
structure JobChanges where
  status : Option Status
  lastError : Option (Option String)
deriving DecidableEq

/-- Whether an UPDATE writes no column. -/
def JobChanges.isEmpty (changes : JobChanges) : Bool :=
  changes.status.isNone && changes.lastError.isNone

/-- A row that has been updated. -/
def JobRow.apply (row : JobRow) (changes : JobChanges) : JobRow :=
  { row with
    status := changes.status.getD row.status
    lastError := changes.lastError.getD row.lastError }

namespace World

/-- `Job#latest_measurement` -/
def latestMeasurement (w : World) : Option Measurement :=
  w.measurements.argmax (·.generatedAt)

/-- `Capture.for_job(job).with_photo`, with their sessions. -/
def photoCaptures (w : World) : List (Capture × CaptureSession) :=
  ((w.captures.filter (·.photoRef.isSome)).insertionSort
      (fun a b => a.sequenceIndex ≤ b.sequenceIndex)).filterMap fun c =>
    (w.captureSessions.find? (·.id = c.captureSessionId)).map (c, ·)

def insertMeasurement (w : World) (m : MeasurementAttributes) : World :=
  { w with measurements := w.measurements ++ [⟨m, w.measurements.length⟩] }

def updateWarnings (w : World) (id : ℕ) (warnings : List (Json ℚ)) : World :=
  { w with
    measurements := w.measurements.map fun m =>
      if m.id = id then { m with warnings := warnings } else m }

/-- The overlay of a capture is replaced, or inserted when there is none. -/
def saveOverlay (w : World) (o : ProjectedOverlay) : World :=
  { w with
    projectedOverlays :=
      if w.projectedOverlays.any (·.captureId = o.captureId) then
        w.projectedOverlays.map fun p => if p.captureId = o.captureId then o else p
      else w.projectedOverlays ++ [o] }

/-- Whether a capture session and its captures have ids that no other row has. -/
def fresh (w : World) (session : CaptureSession) (captures : List Capture) : Bool :=
  w.captureSessions.all (·.id ≠ session.id) && ((w.captures ++ captures).map (·.id)).Nodup

/-- A capture session is inserted with its captures. -/
def ingest (w : World) (session : CaptureSession) (captures : List Capture) : World :=
  { w with
    captureSessions := w.captureSessions ++ [session]
    captures := w.captures ++ captures.map fun c => { c with captureSessionId := session.id } }

end World

/-! ### Operations -/

/-- Where the latest measurement is read. -/
inductive Reader where
  | idempotencyCache
  | alreadyFused
  | prior
  | failureWarning
  | projection
deriving DecidableEq

inductive FusionState where
  | started
  | complete
  | failed
deriving DecidableEq

/-- What the thread of the feature detection comes to. -/
inductive VlmResult where
  | timedOut
  | error (message : String)
  | features (features : Json ℚ)

inductive Op where
  /-- `Job.find`, in an execution of the given number. -/
  | findJob (executions : ℕ)
  | findCaptureSession (id : String)
  | now
  | latestMeasurement (reader : Reader)
  | updateJob (changes : JobChanges)
  /-- The INSERT of a measurement in a transaction; it is seen when the transaction commits. -/
  | insertInTransaction (m : MeasurementAttributes)
  /-- The UPDATE of the job in the transaction of a measurement, and its COMMIT. -/
  | commit (m : MeasurementAttributes) (changes : JobChanges)
  | insertMeasurement (m : MeasurementAttributes)
  | updateWarnings (id : ℕ) (warnings : List (Json ℚ))
  | broadcastStatus (status : Status)
  | broadcastFusionStatus (state : FusionState) (icpRmseM : Json ℚ)
  | broadcastProjectionStatus
  | post (stage : SidecarClient.Stage) (payload : Json ℚ) (timeout : ℕ)
  | startVlm
  | joinVlm
  | cleanupVlm
  | findOrCreateReport
  | findReport
  | enqueueProjectionJob
  | photoCaptures
  | saveOverlay (o : ProjectedOverlay)
  /-- The transaction that ingests a capture session. -/
  | ingestCaptureSession (session : CaptureSession) (captures : List Capture)

/-- What an operation answers when it does not raise. -/
abbrev Op.Res : Op → Type
  | .findJob _ => JobRow
  | .findCaptureSession _ => CaptureSession
  | .now => ℕ
  | .latestMeasurement _ => Option Measurement
  | .commit _ _ => Measurement
  | .insertMeasurement _ => Measurement
  | .post _ _ _ => Exchange
  | .joinVlm => VlmResult
  | .photoCaptures => List (Capture × CaptureSession)
  | _ => Unit

/-- The signature of the application. -/
abbrev application : Signature := .fallible Exn Op Op.Res

/-- What is left to the world: how much time has passed since it was last read, the exchange
with the sidecar, what the detection comes to, and for every other operation the class of
the exception that it raises, if it does. -/
abbrev Op.Choice : Op → Type
  | .now => ℕ
  | .post _ _ _ => Exchange
  | .joinVlm => VlmResult
  | _ => Option String

/-- An operation that raises, or else has an answer and an effect. -/
def unlessRaised {α : Type} (raised : Option String) (w : World) (effect : Except Exn α × World) :
    Except Exn α × World :=
  match raised with
  | some className => (.error (.standardError className), w)
  | none => effect

/-- What an operation does. -/
def exec : (o : Op) → o.Choice → World → Except Exn o.Res × World
  | .findJob _, χ, w => unlessRaised χ w (.ok w.job, w)
  | .findCaptureSession id, χ, w =>
      unlessRaised χ w
        (match w.captureSessions.find? (·.id = id) with
         | some session => .ok session
         | none => .error .recordNotFound, w)
  | .now, χ, w => (.ok (w.clock + χ + 1), { w with clock := w.clock + χ + 1 })
  | .latestMeasurement _, χ, w => unlessRaised χ w (.ok w.latestMeasurement, w)
  | .updateJob changes, χ, w =>
      unlessRaised χ w (.ok (), { w with job := w.job.apply changes })
  | .insertInTransaction m, χ, w =>
      unlessRaised χ w
        (if m.valid then .ok () else .error (.standardError "ActiveRecord::RecordInvalid"), w)
  | .commit m changes, χ, w =>
      unlessRaised χ w
        (.ok ⟨m, w.measurements.length⟩,
         { w.insertMeasurement m with job := w.job.apply changes })
  | .insertMeasurement m, χ, w =>
      unlessRaised χ w
        (if m.valid then (.ok ⟨m, w.measurements.length⟩, w.insertMeasurement m)
         else (.error (.standardError "ActiveRecord::RecordInvalid"), w))
  | .updateWarnings id warnings, χ, w =>
      unlessRaised χ w (.ok (), w.updateWarnings id warnings)
  | .broadcastStatus _, χ, w => unlessRaised χ w (.ok (), w)
  | .broadcastFusionStatus _ _, χ, w => unlessRaised χ w (.ok (), w)
  | .broadcastProjectionStatus, χ, w => unlessRaised χ w (.ok (), w)
  | .post _ _ _, χ, w => (.ok χ, w)
  | .startVlm, χ, w => unlessRaised χ w (.ok (), w)
  | .joinVlm, χ, w => (.ok χ, w)
  | .cleanupVlm, χ, w => unlessRaised χ w (.ok (), w)
  | .findOrCreateReport, χ, w => unlessRaised χ w (.ok (), { w with report := true })
  | .findReport, χ, w =>
      unlessRaised χ w (if w.report then .ok () else .error .recordNotFound, w)
  | .enqueueProjectionJob, χ, w =>
      unlessRaised χ w
        (.ok (), { w with projectionJobs := w.projectionJobs ++ [w.measurements.length] })
  | .photoCaptures, χ, w => unlessRaised χ w (.ok w.photoCaptures, w)
  | .saveOverlay o, χ, w => unlessRaised χ w (.ok (), w.saveOverlay o)
  | .ingestCaptureSession session captures, χ, w =>
      unlessRaised χ w
        (if w.fresh session captures then (.ok (), w.ingest session captures)
         else (.error (.standardError "ActiveRecord::RecordNotUnique"), w))

/-- The application over its database. -/
abbrev rails : Interp application where
  World := World
  Choice := Op.Choice
  exec := exec

/-- Choices of a world in which no time passes: `raised` are the classes of the exceptions
that operations raise, `exchange` the exchanges of the stages, and `vlm` what the detection
comes to. -/
def choosing (raised : Op → Option String) (exchange : SidecarClient.Stage → Exchange)
    (vlm : VlmResult) : rails.Choices
  | .now => (0 : ℕ)
  | .post stage _ _ => exchange stage
  | .joinVlm => vlm
  | .findJob n => raised (.findJob n)
  | .findCaptureSession id => raised (.findCaptureSession id)
  | .latestMeasurement reader => raised (.latestMeasurement reader)
  | .updateJob changes => raised (.updateJob changes)
  | .insertInTransaction m => raised (.insertInTransaction m)
  | .commit m changes => raised (.commit m changes)
  | .insertMeasurement m => raised (.insertMeasurement m)
  | .updateWarnings id warnings => raised (.updateWarnings id warnings)
  | .broadcastStatus status => raised (.broadcastStatus status)
  | .broadcastFusionStatus state rmse => raised (.broadcastFusionStatus state rmse)
  | .broadcastProjectionStatus => raised .broadcastProjectionStatus
  | .startVlm => raised .startVlm
  | .cleanupVlm => raised .cleanupVlm
  | .findOrCreateReport => raised .findOrCreateReport
  | .findReport => raised .findReport
  | .enqueueProjectionJob => raised .enqueueProjectionJob
  | .photoCaptures => raised .photoCaptures
  | .saveOverlay o => raised (.saveOverlay o)
  | .ingestCaptureSession session captures => raised (.ingestCaptureSession session captures)

/-- A method of an object whose fields are `σ`. -/
abbrev Method (σ α : Type) : Type := Action application Exn σ α

/-- The answer of an operation. -/
def perform {σ : Type} (o : Op) : Method σ o.Res := Action.perform o

end Rails
