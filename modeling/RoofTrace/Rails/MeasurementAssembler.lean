import RoofTrace.Rails.Database

/-!
# The measurement of a pipeline run

`app/services/measurement_assembler.rb`: the responses of the stages are folded into one
document, which has to satisfy the definition of a measurement, and into the columns that
accompany it.
-/

namespace Rails

namespace MeasurementAssembler

def imageryConfidenceCap : ℚ := 3 / 5

/-- What the stages of a run have yielded. -/
structure StageOutputs where
  resolve : Json ℚ
  buildingPolygon : Json ℚ
  imagery : Json ℚ
  lidarResponse : Json ℚ
  refined : Json ℚ
  refinedPolygon : Json ℚ
  geometry : Json ℚ
  source : String
  features : List (Json ℚ)

/-- A member that is there when its value counts as true. -/
def ifTruthy (name : String) (v : Json ℚ) : List (String × Json ℚ) :=
  if Ruby.truthy v then [(name, v)] else []

/-- `build_measurement_document` -/
def buildMeasurementDocument (jobId : String) (s : StageOutputs) (confidence : ℚ) : Json ℚ :=
  .obj ([("job_id", .str jobId),
    ("facets", .arr (Ruby.array (s.geometry.get "facets"))),
    ("features", .arr s.features),
    ("source", .str s.source),
    ("confidence", .num confidence)] ++
    ifTruthy "footprint" s.buildingPolygon ++
    ifTruthy "roof_outline" s.refinedPolygon ++
    ifTruthy "lidar" (s.lidarResponse.get "lidar") ++
    SidecarClient.unlessNil "total_area_sq_ft" (s.geometry.get "total_area_sq_ft") ++
    SidecarClient.unlessNil "predominant_pitch_ratio" (s.geometry.get "primary_pitch_ratio"))

/-- `validate_measurement!` -/
def validateMeasurement [FormatAssertion] (doc : Json ℚ) : Except Exn Unit :=
  SidecarClient.validate "assembly validation failed (contract drift?)" "Measurement" doc

/-- `overall_confidence` -/
def overallConfidence (resolve geometry : Json ℚ) (lidarAvailable : Bool) : ℚ :=
  let factors :=
    ([(resolve.get "geocode").get "confidence", geometry.get "confidence"].filter
      fun v => !v.isNull).map Ruby.toF
  let combined := factors.foldl (· * ·) 1
  let combined := if lidarAvailable then combined else min combined imageryConfidenceCap
  Ruby.round4 (Ruby.clamp combined 0 1)

/-- `collect_warnings` -/
def collectWarnings (accumulated : List (Json ℚ)) (imagery refined geometry : Json ℚ) :
    List (Json ℚ) :=
  (accumulated ++ Ruby.array (imagery.get "warnings") ++ Ruby.array (refined.get "warnings") ++
    Ruby.array (geometry.get "warnings")).eraseDups

/-- `lidar_work_unit` -/
def lidarWorkUnit (lidarResponse : Json ℚ) : Json ℚ :=
  match (lidarResponse.get "lidar").get "work_unit" with
  | .null => .null
  | workUnit =>
      Ruby.presence (Ruby.compact
        [("name", workUnit.get "name"),
         ("year", workUnit.get "year"),
         ("quality_level", workUnit.get "quality_level")])

/-- `first_retrieved_at` -/
def firstRetrievedAt (attribution : Json ℚ) : Json ℚ :=
  Ruby.first (((Ruby.array attribution).map (·.get "retrieved_at")).filter Ruby.truthy)

/-- `build_provenance`, at the time `now`. -/
def buildProvenance [Platform] (s : StageOutputs) (now : ℕ) : Json ℚ :=
  .obj (Ruby.compact
    [("pipeline_schema_version", .str SidecarClient.schemaVersion),
     ("detector", .str Platform.detectorName),
     ("sam2_backend", s.refined.get "sam2_backend"),
     ("geometry_source", s.geometry.get "source"),
     ("roof_model", s.geometry.get "roof_model"),
     ("lidar_work_unit", lidarWorkUnit s.lidarResponse),
     ("attributions",
       .obj (Ruby.compact
         [("resolve_address", s.resolve.get "attribution"),
          ("imagery", s.imagery.get "attribution"),
          ("lidar", s.lidarResponse.get "attribution")])),
     ("retrieved_at",
       .obj (Ruby.compact
         [("resolve_address", firstRetrievedAt (s.resolve.get "attribution")),
          ("imagery", firstRetrievedAt (s.imagery.get "attribution")),
          ("lidar", firstRetrievedAt (s.lidarResponse.get "attribution"))])),
     ("generated_at", .str (Platform.iso8601 now))])

/-- The facets of a document are those of the geometry. -/
theorem buildMeasurementDocument_facets (jobId : String) (s : StageOutputs) (confidence : ℚ) :
  (buildMeasurementDocument jobId s confidence).get "facets"
    = .arr (Ruby.array (s.geometry.get "facets"))
  := rfl

end MeasurementAssembler

end Rails
