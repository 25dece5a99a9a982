import RoofTrace.Rails.Job
import RoofTrace.Rails.MeasurementAssembler
import RoofTrace.Rails.VlmRunner

/-!
# The measurement pipeline

`app/services/measurement_orchestrator.rb`: the stages of the pipeline, one call of the
sidecar each, with the status of the job advanced before each of them. A failure of the
LiDAR or of the outline stage degrades the run; any other failure of a stage fails the job.
The measurement and the status `ready` are committed together.
-/

namespace Rails

open Effects SidecarClient

/-- The request of a stage: it is validated, sent, and its response is received. -/
def request [FormatAssertion] {σ : Type} (stage : Stage) (payload : Json ℚ) (timeout : ℕ) :
    Method σ (Json ℚ) := do
  Action.ofExcept (validateRequest stage.request payload)
  let exchange ← perform (.post stage payload timeout)
  Action.ofExcept (receive stage timeout exchange)

/-- An orchestrator: the job it works on and the runner of the feature detection. -/
structure MeasurementOrchestrator where
  job : Job
  vlm : VlmRunner

namespace MeasurementOrchestrator

open MeasurementAssembler

def stageTimeoutSeconds : ℕ := 90

def imagerySizePx : ℚ := 1024

def defaultInferredPitchDegrees : ℚ := 2657 / 100

/-- `STAGE_LABELS` -/
def stageLabels : List (String × String) :=
  [("ResolveAddressResponse", "resolve-address"),
   ("RenderImageryResponse", "render-imagery"),
   ("IngestLidarResponse", "ingest-lidar"),
   ("RefineOutlineResponse", "refine-outline"),
   ("MeasurementGeometry", "fit-planes/fallback-measurement")]

/-- `offending_stage`, for the message of the error. -/
def offendingStage (message : String) : String :=
  let entity := (message.splitOn " ").headD ""
  (stageLabels.lookup entity).getD entity

def new (job : Job) : MeasurementOrchestrator where
  job := job
  vlm := VlmRunner.new

/-- A method of the job. -/
def onJob {α : Type} (x : Method Job α) : Method MeasurementOrchestrator α :=
  x.within (·.job) fun job o => { o with job := job }

/-- A method of the runner. -/
def onVlm {α : Type} (x : Method VlmRunner α) : Method MeasurementOrchestrator α :=
  x.within (·.vlm) fun vlm o => { o with vlm := vlm }

variable [FormatAssertion]

/-! ### Stages -/

def resolveAddressStage : Method MeasurementOrchestrator (Json ℚ) := do
  onJob (Job.advanceTo .resolvingAddress)
  let o ← get
  request resolveAddress (resolveAddressPayload (.str o.job.row.address)) stageTimeoutSeconds

/-- `pick_building_polygon` -/
def pickBuildingPolygon (selection : ℤ) (resolve : Json ℚ) : Except Exn (Json ℚ) :=
  let polygons := Ruby.array (resolve.get "building_polygons")
  if polygons.isEmpty then
    throw (.geometricFailure "No building footprint found for this address.")
  else
    let index := if selection < 0 ∨ (polygons.length : ℤ) ≤ selection then 0 else selection
    return polygons.getD index.toNat .null

def resolveParcel (resolve : Json ℚ) : Json ℚ := resolve.get "parcel_polygon"

def imageryStage (buildingPolygon : Json ℚ) : Method MeasurementOrchestrator (Json ℚ) := do
  onJob (Job.advanceTo .fetchingImagery)
  request renderImagery (renderImageryPayload buildingPolygon (.num imagerySizePx) .null)
    stageTimeoutSeconds

/-- A stage whose failure degrades the run, unless it is one of the contract. -/
def degrading (stage : Method MeasurementOrchestrator (Json ℚ)) (degraded : Exn → Json ℚ) :
    Method MeasurementOrchestrator (Json ℚ) :=
  tryCatch stage fun e =>
    match e with
    | .sidecar .schemaError _ => throw e
    | .sidecar _ _ => return degraded e
    | _ => throw e

/-- `synthetic_lidar_missing` -/
def syntheticLidarMissing (error : Exn) : Json ℚ :=
  .obj
    [("lidar", .obj [("status", .str lidarMissing)]),
     ("warnings", .arr [.str s!"lidar_unavailable: {error.className}"]),
     ("degraded", .bool true)]

def lidarStage (buildingPolygon parcelPolygon : Json ℚ) :
    Method MeasurementOrchestrator (Json ℚ) :=
  degrading
    (do
      onJob (Job.advanceTo .fetchingLidar)
      request ingestLidar (ingestLidarPayload buildingPolygon parcelPolygon) stageTimeoutSeconds)
    syntheticLidarMissing

/-- `synthetic_unrefined_outline` -/
def syntheticUnrefinedOutline (priorPolygon : Json ℚ) (error : Exn) : Json ℚ :=
  .obj
    [("refined_polygon", priorPolygon),
     ("iou_with_prior", .num 1),
     ("warnings", .arr [.str s!"outline_unrefined: {error.className}"])]

def refineStage (imageTileRef priorPolygon imageGeoBounds : Json ℚ) :
    Method MeasurementOrchestrator (Json ℚ) :=
  degrading
    (do
      onJob (Job.advanceTo .refiningOutline)
      request refineOutline (refineOutlinePayload imageTileRef priorPolygon imageGeoBounds)
        stageTimeoutSeconds)
    (syntheticUnrefinedOutline priorPolygon)

def fitPlanesStage (lidarResponse refinedPolygon : Json ℚ) :
    Method MeasurementOrchestrator (Json ℚ) := do
  onJob (Job.advanceTo .fittingPlanes)
  let lidar ← Action.ofExcept (Ruby.fetch lidarResponse "lidar")
  let pointArrayRef ← Action.ofExcept (Ruby.fetch lidar "point_array_ref")
  let utmZone ← Action.ofExcept (Ruby.fetch lidarResponse "utm_zone")
  request fitPlanes (fitPlanesPayload pointArrayRef utmZone refinedPolygon) stageTimeoutSeconds

/-- `derive_utm_epsg` -/
def deriveUtmEpsg (resolve : Json ℚ) : Except Exn (Json ℚ) :=
  match (resolve.get "geocode").get "lon" with
  | .null =>
      throw (.geometricFailure
        ("Could not determine a map projection for this location " ++
          "(no longitude from geocoding), so the roof area can't be computed."))
  | lon =>
      let zone := max 1 (min 60 (⌊(Ruby.toF lon + 180) / 6⌋ + 1))
      return .num (32600 + zone)

def fallbackStage (refinedPolygon resolve : Json ℚ) :
    Method MeasurementOrchestrator (Json ℚ) := do
  onJob (Job.advanceTo .fittingPlanes)
  let utmZone ← Action.ofExcept (deriveUtmEpsg resolve)
  request fallbackMeasurement
    (fallbackMeasurementPayload refinedPolygon (.num defaultInferredPitchDegrees) utmZone)
    stageTimeoutSeconds

/-- `guard_facets!` -/
def guardFacets (geometry : Json ℚ) : Except Exn Unit :=
  if (Ruby.array (geometry.get "facets")).isEmpty then
    throw (.geometricFailure
      ("No roof facets could be measured for this address " ++
        "(the roof outline produced no usable surfaces)."))
  else return ()

/-- `lidar_available?` -/
def lidarIsAvailable (lidarResponse : Json ℚ) : Bool :=
  (lidarResponse.get "lidar").get "status" == .str lidarAvailable

/-- `note_lidar_missing` -/
def noteLidarMissing [Platform] (lidarResponse : Json ℚ) : Method VlmRunner Unit :=
  let warning := Ruby.first (Ruby.array (lidarResponse.get "warnings"))
  if Ruby.truthy (lidarResponse.get "degraded") then VlmRunner.addWarning warning
  else
    let reason :=
      Ruby.or (Ruby.or warning ((lidarResponse.get "lidar").get "status"))
        (.str "no 3DEP coverage")
    VlmRunner.addWarning (.str s!"lidar_missing: {Platform.toS reason}")

/-! ### Assembly and persistence -/

/-- The transaction of `persist`: the measurement is created and the job is advanced to
`ready`, both or neither. -/
def createAndAdvance (m : MeasurementAttributes) : Method Job Measurement := do
  perform (.insertInTransaction m)
  Job.advanceBy .ready do
    let job ← get
    let measurement ← perform (.commit m job.changes)
    set job.saved
    return measurement

/-- `ensure_report_for` -/
def ensureReportFor {σ : Type} : Method σ Unit :=
  tryCatch (perform .findOrCreateReport) fun e =>
    if e.className = "ActiveRecord::RecordNotUnique" then perform .findReport else throw e

variable [Platform]

/-- `persist` -/
def persist (doc provenance : Json ℚ) (warnings : List (Json ℚ))
    (totalPerimeterFt geocode parcelPolygon : Json ℚ) : Method Job Measurement := do
  let job ← get
  let generatedAt ← perform .now
  let measurement ← createAndAdvance
    { footprint := doc.get "footprint"
      roofOutline := doc.get "roof_outline"
      lidar := doc.get "lidar"
      facets := Ruby.array (doc.get "facets")
      features := Ruby.array (doc.get "features")
      totalAreaSqFt := doc.get "total_area_sq_ft"
      predominantPitchRatio := doc.get "predominant_pitch_ratio"
      source := Ruby.text (doc.get "source")
      confidence := Ruby.toF (doc.get "confidence")
      warnings := warnings
      provenance := provenance
      totalPerimeterFt := totalPerimeterFt
      geocode := geocode
      parcelPolygon := parcelPolygon
      sourceFingerprint := some (Job.fingerprint job.row)
      generatedAt := generatedAt }
  ensureReportFor
  Job.broadcastStatus
  return measurement

/-- `assemble_and_persist` -/
def assembleAndPersist (s : StageOutputs) : Method MeasurementOrchestrator Measurement := do
  let o ← get
  let warnings := collectWarnings o.vlm.warnings s.imagery s.refined s.geometry
  let confidence := overallConfidence s.resolve s.geometry (s.source == "fusion")
  let doc := buildMeasurementDocument o.job.row.id s confidence
  Action.ofExcept (validateMeasurement doc)
  let now ← perform .now
  let provenance := buildProvenance s now
  onJob (persist doc provenance warnings (s.geometry.get "total_perimeter_ft")
    (s.resolve.get "geocode") (resolveParcel s.resolve))

/-! ### The chain -/

/-- The geometry of the roof, and its source. -/
def geometryStage (resolve lidarResponse refinedPolygon : Json ℚ) :
    Method MeasurementOrchestrator (Json ℚ × String) :=
  if lidarIsAvailable lidarResponse then do
    let geometry ← fitPlanesStage lidarResponse refinedPolygon
    return (geometry, "fusion")
  else do
    onVlm (noteLidarMissing lidarResponse)
    let geometry ← fallbackStage refinedPolygon resolve
    return (geometry, "imagery")

/-- A terminal job is reset for the run. -/
def reopen : Method MeasurementOrchestrator Unit := do
  let o ← get
  if o.job.status.terminal then onJob Job.resetForRerun else return ()

/-- `run_pipeline_stages` -/
def runPipelineStages : Method MeasurementOrchestrator Measurement := do
  reopen
  let resolve ← resolveAddressStage
  let o ← get
  let buildingPolygon ←
    Action.ofExcept (pickBuildingPolygon o.job.row.polygonSelection resolve)
  let imagery ← imageryStage buildingPolygon
  let imageTileRef ← Action.ofExcept (Ruby.fetch imagery "image_tile_ref")
  let imageGeoBounds ← Action.ofExcept (Ruby.fetch imagery "image_geo_bounds")
  onJob (Job.advanceTo .detectingFeatures)
  onVlm VlmRunner.start
  let lidarResponse ← lidarStage buildingPolygon (resolveParcel resolve)
  let refined ← refineStage imageTileRef buildingPolygon imageGeoBounds
  let refinedPolygon ← Action.ofExcept (Ruby.fetch refined "refined_polygon")
  let (geometry, source) ← geometryStage resolve lidarResponse refinedPolygon
  Action.ofExcept (guardFacets geometry)
  let features ← onVlm VlmRunner.join
  assembleAndPersist
    { resolve, buildingPolygon, imagery, lidarResponse, refined, refinedPolygon, geometry,
      source, features }

/-- `run_pipeline` -/
def runPipeline : Method MeasurementOrchestrator Measurement :=
  runPipelineStages.ensuring (onVlm VlmRunner.cleanup)

/-- `call`: the measurement, or `none` after a failure that is expected. -/
def call : Method MeasurementOrchestrator (Option Measurement) :=
  tryCatch
    (do
      match ← onJob Job.cachedMeasurement with
      | some cached => return some cached
      | none =>
          let measurement ← runPipeline
          return some measurement)
    fun e =>
      match e with
      | .sidecar .schemaError message => do
          onJob (Job.failWith
            s!"Pipeline contract violation at {offendingStage message}: {message}")
          return none
      | .geometricFailure message => do
          onJob (Job.failWith message)
          return none
      | .sidecar .timeoutError message => do
          onJob (Job.failWith s!"A pipeline stage timed out: {message}")
          return none
      | .sidecar _ message => do
          onJob (Job.failWith s!"Pipeline stage failed: {message}")
          return none
      | e => throw e

end MeasurementOrchestrator

end Rails
