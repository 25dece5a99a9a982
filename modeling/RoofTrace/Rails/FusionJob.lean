import RoofTrace.Rails.FusionOrchestrator
import RoofTrace.Rails.GeometryJob

/-!
# The fusion job

`app/jobs/fusion_job.rb`: an attempt loads the job and the capture session, leaves a job
alone whose latest measurement is a fused one, and runs the orchestrator. An exception is
recorded, as a warning on the latest measurement on the last attempt, and raised again, so
that the attempt is retried.
-/

namespace Rails

open Effects

namespace FusionJob

def maxAttempts : ℕ := 3

variable [FormatAssertion] [Platform]

/-- How an attempt ends that does not raise. -/
inductive Outcome where
  /-- The latest measurement was a fused one already. -/
  | alreadyFused
  /-- The fusion has left a warning. -/
  | warned
  | fused (measurement : Measurement)

/-- The orchestrator at work on the job. -/
def fuse (captureSession : CaptureSession) : Method Job Outcome := do
  match ← FusionOrchestrator.call.within (FusionOrchestrator.new · captureSession)
      (fun o _ => o.job) with
  | some measurement => return .fused measurement
  | none => return .warned

/-- The `rescue` of `perform`, when the job has been loaded. -/
def recordFailure (executions : ℕ) (e : Exn) : Method Job Unit :=
  if maxAttempts ≤ executions then
    FusionOrchestrator.appendFailureWarning "fusion_job_exhausted" none
  else Job.updateLastError s!"Fusion crashed (attempt {executions}): {e.className}"

/-- The body of `perform`, when the job has been loaded. -/
def attempt (captureSessionId : String) (executions : ℕ) : Method Job Outcome :=
  tryCatch
    (do
      let captureSession ← perform (.findCaptureSession captureSessionId)
      let latest ← perform (.latestMeasurement .alreadyFused)
      if latest.any (·.source == FusionOrchestrator.fusedSource) then return .alreadyFused
      else fuse captureSession)
    fun e => do
      recordFailure executions e
      throw e

/-- `perform`, as the attempt of the number `executions`. When the job is not loaded there
is nothing to record. -/
def perform (captureSessionId : String) (executions : ℕ) :
    Prog application (Except Exn Outcome) :=
  .perform (.findJob executions) fun
    | .error e => .pure (.error e)
    | .ok row => (attempt captureSessionId executions).outcome (Job.ofRow row)

/-- A delivery of the job: `perform` is retried on every exception. -/
def delivery (captureSessionId : String) : Prog application (Except Exn Outcome) :=
  Prog.retrying (perform captureSessionId) 1 (maxAttempts - 1)

end FusionJob

/-! ### A job and its capture sessions -/

/-- A measurement with LiDAR. -/
def lidarMeasurement : Measurement where
  id := 0
  footprint := unitSquare
  roofOutline := unitSquare
  lidar :=
    .obj [("status", .str "LIDAR_AVAILABLE"), ("point_array_ref", .str "cache/lidar/points.npy")]
  facets := [flatFacet]
  features := []
  totalAreaSqFt := .num 1200
  predominantPitchRatio := .null
  source := "fusion"
  confidence := 8 / 10
  warnings := []
  provenance := .obj []
  totalPerimeterFt := .null
  geocode := .null
  parcelPolygon := .null
  sourceFingerprint := none
  generatedAt := 0

/-- A job that is ready, with a measurement and capture sessions. -/
def measuredJob (captureSessions : List String) : World :=
  { submittedJob with
    job := { submittedJob.job with status := .ready }
    measurements := [lidarMeasurement]
    captureSessions :=
      captureSessions.map fun id => ⟨id, .str s!"uploads/{submittedJob.job.id}/arkit_mesh.obj"⟩ }

/-- A translation along the first axis, row after row. -/
def translation (x : ℚ) : Json ℚ :=
  .arr ([1, 0, 0, x, 0, 1, 0, 0, 0, 0, 1, 0, 0, 0, 0, 1].map .num)

/-- A response to a fusion that is good, with the facets and the transform that it has. -/
def fusionResponse (facets : List (Json ℚ)) (arkitToUtm : Json ℚ) : Json ℚ :=
  .obj
    [("pipelineSchemaVersion", .str "0.6.0"),
     ("job_id", .str submittedJob.job.id),
     ("measurement", .obj
       [("job_id", .str submittedJob.job.id),
        ("facets", .arr facets),
        ("features", .arr []),
        ("total_area_sq_ft", .num (1200 * facets.length)),
        ("source", .str "fusion"),
        ("confidence", .num (8 / 10))]),
     ("icp_rmse_m", .num (1 / 10)),
     ("arkit_to_utm", arkitToUtm),
     ("utm_epsg", .num 32614)]

/-- The choices of a world in which nothing is raised and the stages answer `response`. -/
def answering (response : Json ℚ) : rails.Choices :=
  choosing (fun _ => none) (fun _ => .response 200 (some response)) .timedOut

end Rails
