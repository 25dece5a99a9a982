import RoofTrace.Rails.MeasurementOrchestrator
import RoofTrace.Rails.ProjectionPoseConfidence

/-!
# The orchestrator of a projection

`app/services/projection_orchestrator.rb`: the facets of the latest measurement are drawn
into every photo of the job, with the transform that the measurement carries. A photo that
fails is recorded with an overlay that is not drawn, and the others go on; when all of them
have timed out, the projection is attempted again.
-/

namespace Rails

open Effects SidecarClient

namespace ProjectionOrchestrator

/-- What has become of the photos so far. -/
structure Tally where
  anySuccess : Bool
  anyPermanentFailure : Bool
  transientFailures : ℕ

/-- What a photo is drawn with. -/
structure Drawing where
  facets : List (Json ℚ)
  features : List (Json ℚ)
  arkitToUtm : Json ℚ
  utmEpsg : Json ℚ
  icpRmseM : Json ℚ

/-- `persist_low_confidence_overlay` -/
def persistLowConfidenceOverlay (capture : Capture) (confidence : Option ℚ) : Method Job Unit :=
  perform (.saveOverlay
    { captureId := capture.id
      compositeRef := .null
      overlaySvgRef := .null
      poseConfidence := confidence
      lowPoseConfidence := true
      occludedFacetIds := []
      drawnWith := none })

/-- `effective_confidence` -/
def effectiveConfidence (railsScore : ℚ) (sidecarValue : Json ℚ) : ℚ :=
  if sidecarValue.isNull then railsScore else min railsScore (Ruby.toF sidecarValue)

variable [Platform]

/-- `persist_overlay` -/
def persistOverlay (capture : Capture) (drawing : Drawing) (response : Json ℚ)
    (railsConfidence : ℚ) : Method Job Unit :=
  let confidence := effectiveConfidence railsConfidence (response.get "pose_confidence")
  if ProjectionPoseConfidence.acceptable confidence then
    perform (.saveOverlay
      { captureId := capture.id
        compositeRef := Ruby.or (response.get "composite_ref") (response.get "overlay_ref")
        overlaySvgRef := response.get "overlay_svg_ref"
        poseConfidence := some confidence
        lowPoseConfidence := false
        occludedFacetIds := Ruby.array (response.get "occluded_facet_ids")
        drawnWith := some (drawing.arkitToUtm, drawing.utmEpsg) })
  else persistLowConfidenceOverlay capture (some confidence)

variable [FormatAssertion]

/-- `project_one` -/
def projectOne (capture : Capture) (captureSession : CaptureSession) (drawing : Drawing) :
    Method Job Unit := do
  let confidence :=
    ProjectionPoseConfidence.score drawing.icpRmseM capture.cameraExtrinsics
  if ProjectionPoseConfidence.acceptable confidence then
    let job ← get
    let response ← request projectPhoto
      (projectPhotoPayload (.str job.row.id) ((capture.photoRef.map .str).getD .null)
        (.obj [("intrinsics", capture.cameraIntrinsics), ("extrinsics", capture.cameraExtrinsics)])
        (.arr drawing.facets) captureSession.worldMeshRef (.arr drawing.features)
        drawing.arkitToUtm drawing.utmEpsg (.num confidence))
      projectPhotoTimeoutSeconds
    persistOverlay capture drawing response confidence
  else persistLowConfidenceOverlay capture (some confidence)

/-- A photo of the loop: a failure of the sidecar leaves an overlay that is not drawn. -/
def projectCapture (drawing : Drawing) (tally : Tally) (capture : Capture × CaptureSession) :
    Method Job Tally :=
  tryCatch
    (do
      projectOne capture.1 capture.2 drawing
      return { tally with anySuccess := true })
    fun e =>
      match e with
      | .sidecar .timeoutError _ => do
          persistLowConfidenceOverlay capture.1 none
          return { tally with transientFailures := tally.transientFailures + 1 }
      | .sidecar _ _ => do
          persistLowConfidenceOverlay capture.1 none
          return { tally with anyPermanentFailure := true }
      | e => throw e

/-- The loop over the photos. -/
def projectEach (drawing : Drawing) : Tally → List (Capture × CaptureSession) → Method Job Tally
  | tally, [] => return tally
  | tally, capture :: captures => do
      let tally ← projectCapture drawing tally capture
      projectEach drawing tally captures

/-- `broadcast`, whose failure is swallowed. -/
def broadcast : Method Job Unit :=
  tryCatch (perform .broadcastProjectionStatus) fun _ => return ()

/-- The photos of the job, drawn with the transform of a measurement. -/
def project (drawing : Drawing) : Method Job Unit := do
  let captures ← perform .photoCaptures
  let tally ← projectEach drawing ⟨false, false, 0⟩ captures
  broadcast
  if 0 < tally.transientFailures ∧ tally.anyPermanentFailure = false ∧
      tally.anySuccess = false then
    throw (.sidecar .error
      (s!"projection: all {tally.transientFailures} capture(s) failed transiently; " ++
        "retrying"))
  else return ()

/-- What the photos are drawn with, when the measurement carries a transform. -/
def drawing? (m : Measurement) : Option Drawing :=
  match m.fusedArkitToUtm with
  | none => none
  | some arkitToUtm =>
      if m.fusedUtmEpsg.isNull then none
      else
        some
          { facets := m.facets
            features := m.features
            arkitToUtm := arkitToUtm
            utmEpsg := m.fusedUtmEpsg
            icpRmseM := m.provenance.get "fusion_icp_rmse_m" }

def call : Method Job Unit := do
  match ← perform (.latestMeasurement .projection) with
  | none => return ()
  | some measurement =>
      match drawing? measurement with
      | none => return ()
      | some drawing => project drawing

end ProjectionOrchestrator

end Rails
