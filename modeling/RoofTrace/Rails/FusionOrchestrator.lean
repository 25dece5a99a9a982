import RoofTrace.Rails.MeasurementOrchestrator

/-!
# The orchestrator of a fusion

`app/services/fusion_orchestrator.rb`: the latest measurement is refined by a capture
session. The sidecar aligns the mesh of the session to the LiDAR cloud of the measurement;
when it succeeds, a new measurement is inserted, and the projection of its facets onto the
photos is enqueued. Every other outcome that is expected leaves a warning on the latest
measurement. The status of the job is not touched.
-/

namespace Rails

open Effects SidecarClient

/-- An orchestrator: its job, its capture session, and the measurement it refines, once it
has been read. -/
structure FusionOrchestrator where
  job : Job
  captureSession : CaptureSession
  prior : Option Measurement

namespace FusionOrchestrator

/-- `FUSED_SOURCE` -/
def fusedSource : String := "lidar+device+imagery"

/-- `ICP_RMSE_FAIL_THRESHOLD` -/
def icpRmseFailThreshold : ℚ := 1 / 2

def new (job : Job) (captureSession : CaptureSession) : FusionOrchestrator where
  job := job
  captureSession := captureSession
  prior := none

/-! ### Warnings -/

/-- A warning on a measurement that has been read, unless it is there already. The whole
column is written, as it was when the measurement was read, with the warning added. -/
def warn {σ : Type} (message : String) (measurement : Measurement) : Method σ Unit :=
  if measurement.warnings.contains (.str message) then return ()
  else perform (.updateWarnings measurement.id (measurement.warnings ++ [.str message]))

/-- `FusionOrchestrator.append_failure_warning` -/
def appendFailureWarning {σ : Type} (message : String) :
    Option Measurement → Method σ Unit
  | some measurement => warn message measurement
  | none => do
      match ← perform (.latestMeasurement .failureWarning) with
      | none => return ()
      | some measurement => warn message measurement

/-- `append_failure_warning`, on the measurement that has been read. -/
def appendPriorWarning (message : String) : Method FusionOrchestrator Unit := do
  let o ← get
  appendFailureWarning message o.prior

/-! ### The fused measurement -/

/-- `fused_confidence` -/
def fusedConfidence (priorConfidence icpRmseM : ℚ) : ℚ :=
  let bonus := max (min ((1 / 2 - icpRmseM) * (1 / 10)) (15 / 100)) 0
  Ruby.round4 (Ruby.clamp (priorConfidence + 5 / 100 + bonus) priorConfidence 1)

/-- `fused_provenance` -/
def fusedProvenance (captureSession : CaptureSession) (prior : Measurement)
    (response : Json ℚ) : Json ℚ :=
  let base := if Ruby.isHash prior.provenance then prior.provenance else .obj []
  Ruby.merge base
    ([("fusion_icp_rmse_m", response.get "icp_rmse_m"),
      (Measurement.fusionSessionIdKey, .str captureSession.id),
      ("fusion_capture_mesh_ref", captureSession.worldMeshRef)] ++
    Ruby.compact
      [(Measurement.fusionArkitToUtmKey, response.get "arkit_to_utm"),
       (Measurement.fusionUtmEpsgKey, response.get "utm_epsg")])

/-- The new measurement: what the response has not measured is that of `prior`. -/
def fusedMeasurement (captureSession : CaptureSession) (prior : Measurement)
    (response : Json ℚ) (now : ℕ) : MeasurementAttributes :=
  let fused := response.get "measurement"
  { footprint := Ruby.or (fused.get "footprint") prior.footprint
    roofOutline := Ruby.or (fused.get "roof_outline") prior.roofOutline
    lidar := prior.lidar
    facets := Ruby.array (fused.get "facets")
    features := Ruby.array (fused.get "features")
    totalAreaSqFt := fused.get "total_area_sq_ft"
    predominantPitchRatio := fused.get "predominant_pitch_ratio"
    source := fusedSource
    confidence := fusedConfidence prior.confidence (Ruby.toF (response.get "icp_rmse_m"))
    warnings := []
    provenance := fusedProvenance captureSession prior response
    totalPerimeterFt := prior.totalPerimeterFt
    geocode := prior.geocode
    parcelPolygon := prior.parcelPolygon
    sourceFingerprint := none
    generatedAt := now }

/-- `persist_fused_measurement` -/
def persistFusedMeasurement (prior : Measurement) (response : Json ℚ) :
    Method FusionOrchestrator Measurement := do
  let o ← get
  let now ← perform .now
  perform (.insertMeasurement (fusedMeasurement o.captureSession prior response now))

/-! ### The call -/

/-- Whether a response carries a measurement, of an alignment that is good enough. -/
def aligned (response : Json ℚ) : Bool :=
  let rmse := response.get "icp_rmse_m"
  let rmseMissing := rmse.isNull && !(response.get "measurement").isNull
  !((response.get "measurement").isNull || rmseMissing ||
    icpRmseFailThreshold ≤ Ruby.toF rmse)

/-- The warning on an alignment that is not good enough. -/
def alignmentWarning [Platform] (rmse : Json ℚ) : String :=
  s!"icp_alignment_failed: rmse={Platform.toS rmse}m"

section Call

variable [FormatAssertion] [Platform]

/-- What is done with the response of the sidecar. -/
def fuse (prior : Measurement) (response : Json ℚ) :
    Method FusionOrchestrator (Option Measurement) := do
  let rmse := response.get "icp_rmse_m"
  if aligned response then
    let measurement ← persistFusedMeasurement prior response
    perform (.broadcastFusionStatus .complete rmse)
    perform .enqueueProjectionJob
    return some measurement
  else
    appendPriorWarning (alignmentWarning rmse)
    perform (.broadcastFusionStatus .failed rmse)
    return none

/-- A measurement without LiDAR is not refined. -/
def skip : Method FusionOrchestrator (Option Measurement) := do
  appendPriorWarning "icp_skipped: lidar_unavailable"
  perform (.broadcastFusionStatus .failed .null)
  return none

/-- The body of `call`. -/
def refine : Method FusionOrchestrator (Option Measurement) := do
  let latest ← perform (.latestMeasurement .prior)
  modify fun o => { o with prior := latest }
  match latest.filter (·.lidarAvailable) with
  | none => skip
  | some prior =>
      perform (.broadcastFusionStatus .started .null)
      let o ← get
      let response ← request fuseCapture
        (fuseCapturePayload (.str o.job.row.id) o.captureSession.worldMeshRef prior.lidar
          prior.roofOutline)
        fuseCaptureTimeoutSeconds
      fuse prior response

/-- `call`: a failure of the sidecar is recorded and raised again. -/
def call : Method FusionOrchestrator (Option Measurement) :=
  tryCatch refine fun e =>
    match e with
    | .sidecar errorClass message => do
        appendPriorWarning "fusion_failed: sidecar_error"
        perform (.broadcastFusionStatus .failed .null)
        throw (.sidecar errorClass message)
    | e => throw e

end Call

end FusionOrchestrator

end Rails
