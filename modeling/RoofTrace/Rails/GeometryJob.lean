import RoofTrace.Rails.MeasurementOrchestrator

/-!
# The geometry job

`app/jobs/geometry_job.rb`: an attempt loads the job, leaves a terminal one alone, and runs
the pipeline. An exception that the orchestrator does not handle is recorded on the job, as
a failure on the last attempt, and raised again, so that the attempt is retried.
-/

namespace Rails

open Effects

namespace GeometryJob

def maxAttempts : ℕ := 3

variable [FormatAssertion] [Platform]

/-- How an attempt ends that does not raise. -/
inductive Outcome where
  /-- The job was terminal already. -/
  | skipped
  /-- A failure that is expected has failed the job. -/
  | failed
  | measured (measurement : Measurement)

/-- The orchestrator at work on the job. -/
def measure : Method Job Outcome := do
  match ← MeasurementOrchestrator.call.within MeasurementOrchestrator.new (fun o _ => o.job) with
  | some measurement => return .measured measurement
  | none => return .failed

/-- The `rescue` of `perform`, when the job has been loaded. -/
def recordCrash (executions : ℕ) (e : Exn) : Method Job Unit := do
  let job ← get
  if job.status.terminal then return ()
  else if maxAttempts ≤ executions then
    Job.failWith s!"Measurement pipeline crashed: {e.className}"
  else
    Job.updateLastError
      s!"Measurement pipeline crashed (attempt {executions}): {e.className}"

/-- The body of `perform`, when the job has been loaded. -/
def attempt (executions : ℕ) : Method Job Outcome :=
  tryCatch
    (do
      let job ← get
      if job.status.terminal then return .skipped
      else measure)
    fun e => do
      recordCrash executions e
      throw e

/-- `perform`, as the attempt of the number `executions`. When the job is not loaded there
is nothing to record. -/
def perform (executions : ℕ) : Prog application (Except Exn Outcome) :=
  .perform (.findJob executions) fun
    | .error e => .pure (.error e)
    | .ok row => (attempt executions).outcome (Job.ofRow row)

/-- A delivery of the job: `perform` is retried on every exception. -/
def delivery : Prog application (Except Exn Outcome) :=
  Prog.retrying perform 1 (maxAttempts - 1)

end GeometryJob

/-! ### A job and its stages -/

/-- A job that has been submitted, before anything else has happened. -/
def submittedJob : World where
  clock := 0
  job :=
    { id := "7f0c6b1e-5d0c-4a52-9a7a-3f1f6f0f1c11"
      address := "2400 Trinity St, Austin, TX 78712"
      polygonSelection := 0
      status := .pending
      lastError := none }
  measurements := []
  captureSessions := []
  captures := []
  projectedOverlays := []
  report := false
  projectionJobs := []

def unitSquare : Json ℚ :=
  .obj
    [("type", .str "Polygon"),
     ("coordinates",
       .arr [.arr
         [.arr [.num 0, .num 0], .arr [.num 1, .num 0], .arr [.num 1, .num 1],
          .arr [.num 0, .num 0]]])]

def flatFacet : Json ℚ :=
  .obj
    [("facet_id", .str "facet-1"),
     ("vertices", .arr [.arr [.num 0, .num 0], .arr [.num 1, .num 0], .arr [.num 1, .num 1]]),
     ("area_sq_ft", .num 1200),
     ("source", .str "imagery"),
     ("confidence", .num (1 / 2))]

/-- The exchanges of a run that has an address and an image, but neither LiDAR nor a
refined outline, and measures `facets`. -/
def imageryExchange (facets : List (Json ℚ)) (stage : SidecarClient.Stage) : Exchange :=
  if stage.path = "/pipeline/resolve-address" then
    .response 200 (some (.obj
      [("pipelineSchemaVersion", .str "0.6.0"),
       ("geocode", .obj [("raw", .str "2400 Trinity St"), ("lon", .num (-97)), ("lat", .num 30)]),
       ("building_polygons", .arr [unitSquare]),
       ("attribution", .arr [])]))
  else if stage.path = "/pipeline/render-imagery" then
    .response 200 (some (.obj
      [("pipelineSchemaVersion", .str "0.6.0"),
       ("image_tile_ref", .str "cache/imagery/tile.png"),
       ("image_geo_bounds", .arr [.num 0, .num 0, .num 1, .num 1])]))
  else if stage.path = "/pipeline/fallback-measurement" then
    .response 200 (some (.obj
      [("pipelineSchemaVersion", .str "0.6.0"),
       ("facets", .arr facets),
       ("total_area_sq_ft", .num 1200),
       ("source", .str "imagery"),
       ("confidence", .num (1 / 2))]))
  else .timeout "Net::ReadTimeout"

end Rails
