import RoofTrace.Json.Schema

/-!
# The pipeline contract as Pydantic models

The models of `sidecar/contracts/pipeline.py`. A constrained field is a subtype, so a
model instance is valid by construction, as an instance Pydantic has built is. Numbers are
rational: a response that carries a NaN or an infinity is not written at all, as the JSON
response refuses it.

`Dump.dump` writes an instance out as JSON. Its flag is `exclude_none`, which drops the
fields that are `None` at every level.
-/

/-- A value between two bounds, `Field(ge=lo, le=hi)`. -/
abbrev Between (lo hi : ℚ) : Type := { x : ℚ // lo ≤ x ∧ x ≤ hi }

/-- A value that is not negative, `Field(ge=0)`. -/
abbrev NonNeg : Type := { x : ℚ // 0 ≤ x }

/-- A list of at least `n` elements, `Field(min_length=n)`. -/
abbrev ListMin (n : ℕ) (α : Type) : Type := { xs : List α // n ≤ xs.length }

/-- A list of exactly `n` elements, `Field(min_length=n, max_length=n)`. -/
abbrev ListOf (n : ℕ) (α : Type) : Type := { xs : List α // xs.length = n }

/-- Values that are written out as JSON. -/
class Dump (α : Type) where
  /-- The JSON of a value; the flag is `exclude_none`. -/
  dump : Bool → α → Json ℚ

export Dump (dump)

instance : Dump String := ⟨fun _ s => .str s⟩

instance : Dump ℚ := ⟨fun _ x => .num x⟩

instance : Dump ℤ := ⟨fun _ n => .num n⟩

instance : Dump ℕ := ⟨fun _ n => .num n⟩

instance : Dump Bool := ⟨fun _ b => .bool b⟩

instance {α : Type} [Dump α] : Dump (List α) := ⟨fun x as => .arr (as.map (dump x))⟩

instance {α : Type} [Dump α] : Dump (Option α) := ⟨fun x a => (a.map (dump x)).getD .null⟩

instance {α : Type} [Dump α] {p : α → Prop} : Dump { a : α // p a } := ⟨fun x a => dump x a.val⟩

namespace Contract

open Schema (dumpFields)

/-- `PIPELINE_SCHEMA_VERSION` -/
def pipelineSchemaVersion : String := "0.6.0"

abbrev Confidence : Type := Between 0 1

theorem confidence_zero :
  (0 : ℚ) ≤ 0 ∧ (0 : ℚ) ≤ 1
  := ⟨le_rfl, zero_le_one⟩

theorem confidence_nine_tenths :
  (0 : ℚ) ≤ 9 / 10 ∧ (9 / 10 : ℚ) ≤ 1
  := by norm_num

inductive GeometrySource where
  | lidar
  | imagery
  | fusion
  | capture
  | manual
deriving DecidableEq

def GeometrySource.value : GeometrySource → String
  | .lidar => "lidar"
  | .imagery => "imagery"
  | .fusion => "fusion"
  | .capture => "capture"
  | .manual => "manual"

instance : Dump GeometrySource := ⟨fun _ s => .str s.value⟩

structure Address where
  raw : String
  normalized : Option String
  lon : Option (Between (-180) 180)
  lat : Option (Between (-90) 90)
  source : Option GeometrySource
  confidence : Option Confidence

instance : Dump Address where
  dump x a := dumpFields x
    [("raw", dump x a.raw),
     ("normalized", dump x a.normalized),
     ("lon", dump x a.lon),
     ("lat", dump x a.lat),
     ("source", dump x a.source),
     ("confidence", dump x a.confidence)]

/-- `[lon, lat]` or `[lon, lat, elevation]`. -/
abbrev Position : Type := { xs : List ℚ // 2 ≤ xs.length ∧ xs.length ≤ 3 }

abbrev LinearRing : Type := ListMin 4 Position

/-- A GeoJSON polygon; its `type` field is always `"Polygon"`. -/
structure Polygon where
  coordinates : ListMin 1 LinearRing
  source : Option GeometrySource
  confidence : Option Confidence

instance : Dump Polygon where
  dump x p := dumpFields x
    [("type", .str "Polygon"),
     ("coordinates", dump x p.coordinates),
     ("source", dump x p.source),
     ("confidence", dump x p.confidence)]

structure WorkUnit where
  name : String
  year : Option ℤ
  qualityLevel : Option String
  epsg : Option ℤ

instance : Dump WorkUnit where
  dump x u := dumpFields x
    [("name", dump x u.name),
     ("year", dump x u.year),
     ("quality_level", dump x u.qualityLevel),
     ("epsg", dump x u.epsg)]

inductive LiDARStatus where
  | available
  | missing
deriving DecidableEq

def LiDARStatus.value : LiDARStatus → String
  | .available => "LIDAR_AVAILABLE"
  | .missing => "LIDAR_MISSING"

instance : Dump LiDARStatus := ⟨fun _ s => .str s.value⟩

structure LiDARResult where
  status : LiDARStatus
  pointArrayRef : Option String
  pointCount : Option ℕ
  workUnit : Option WorkUnit
  source : Option GeometrySource
  confidence : Option Confidence

instance : Dump LiDARResult where
  dump x l := dumpFields x
    [("status", dump x l.status),
     ("point_array_ref", dump x l.pointArrayRef),
     ("point_count", dump x l.pointCount),
     ("work_unit", dump x l.workUnit),
     ("source", dump x l.source),
     ("confidence", dump x l.confidence)]

structure Facet where
  facetId : String
  vertices : ListMin 3 Position
  pitchRatio : Option NonNeg
  pitchDegrees : Option (Between 0 90)
  areaSqFt : NonNeg
  source : GeometrySource
  confidence : Confidence

instance : Dump Facet where
  dump x f := dumpFields x
    [("facet_id", dump x f.facetId),
     ("vertices", dump x f.vertices),
     ("pitch_ratio", dump x f.pitchRatio),
     ("pitch_degrees", dump x f.pitchDegrees),
     ("area_sq_ft", dump x f.areaSqFt),
     ("source", dump x f.source),
     ("confidence", dump x f.confidence)]

inductive FeatureLabel where
  | vent
  | chimney
  | dormer
  | skylight
  | satelliteDish
  | other
deriving DecidableEq

def FeatureLabel.value : FeatureLabel → String
  | .vent => "vent"
  | .chimney => "chimney"
  | .dormer => "dormer"
  | .skylight => "skylight"
  | .satelliteDish => "satellite_dish"
  | .other => "other"

instance : Dump FeatureLabel := ⟨fun _ s => .str s.value⟩

structure Feature where
  label : FeatureLabel
  bboxNorm : ListOf 4 (Between 0 1)
  verified : Bool
  source : GeometrySource
  confidence : Confidence

instance : Dump Feature where
  dump x f := dumpFields x
    [("label", dump x f.label),
     ("bbox_norm", dump x f.bboxNorm),
     ("verified", dump x f.verified),
     ("source", dump x f.source),
     ("confidence", dump x f.confidence)]

structure RoofModelDiagnostics where
  modelVersion : String
  planeCount : ℕ
  facetCount : ℕ
  edgeCount : ℕ
  coverageRatio : Confidence
  areaMethod : String
  boundaryMethod : String
  warnings : List String

instance : Dump RoofModelDiagnostics where
  dump x d := dumpFields x
    [("model_version", dump x d.modelVersion),
     ("plane_count", dump x d.planeCount),
     ("facet_count", dump x d.facetCount),
     ("edge_count", dump x d.edgeCount),
     ("coverage_ratio", dump x d.coverageRatio),
     ("area_method", dump x d.areaMethod),
     ("boundary_method", dump x d.boundaryMethod),
     ("warnings", dump x d.warnings)]

structure Measurement where
  jobId : String
  footprint : Option Polygon := none
  roofOutline : Option Polygon := none
  lidar : Option LiDARResult := none
  facets : List Facet
  features : List Feature
  totalAreaSqFt : Option NonNeg := none
  predominantPitchRatio : Option NonNeg := none
  source : GeometrySource
  confidence : Confidence

instance : Dump Measurement where
  dump x m := dumpFields x
    [("job_id", dump x m.jobId),
     ("footprint", dump x m.footprint),
     ("roof_outline", dump x m.roofOutline),
     ("lidar", dump x m.lidar),
     ("facets", dump x m.facets),
     ("features", dump x m.features),
     ("total_area_sq_ft", dump x m.totalAreaSqFt),
     ("predominant_pitch_ratio", dump x m.predominantPitchRatio),
     ("source", dump x m.source),
     ("confidence", dump x m.confidence)]

/-! ### Requests and responses -/

structure RenderImageRequest where
  pipelineSchemaVersion : String
  jobId : String
  bbox : ListOf 4 ℚ
  widthPx : ℕ
  heightPx : ℕ

structure RenderImageResponse where
  pipelineSchemaVersion : String
  jobId : String
  imageRef : String

instance : Dump RenderImageResponse where
  dump x r := dumpFields x
    [("pipelineSchemaVersion", dump x r.pipelineSchemaVersion),
     ("job_id", dump x r.jobId),
     ("image_ref", dump x r.imageRef)]

structure FuseCaptureRequest where
  pipelineSchemaVersion : String
  jobId : String
  captureMeshRef : String
  lidar : Option LiDARResult
  refinedPolygon : Option Polygon

structure FuseCaptureResponse where
  pipelineSchemaVersion : String
  jobId : String
  measurement : Option Measurement := none
  icpRmseM : Option NonNeg := none
  arkitToUtm : Option (ListOf 16 ℚ) := none
  utmEpsg : Option ℤ := none

instance : Dump FuseCaptureResponse where
  dump x r := dumpFields x
    [("pipelineSchemaVersion", dump x r.pipelineSchemaVersion),
     ("job_id", dump x r.jobId),
     ("measurement", dump x r.measurement),
     ("icp_rmse_m", dump x r.icpRmseM),
     ("arkit_to_utm", dump x r.arkitToUtm),
     ("utm_epsg", dump x r.utmEpsg)]

structure ProjectPhotoResponse where
  pipelineSchemaVersion : String
  jobId : String
  overlayRef : String
  compositeRef : Option String
  overlaySvgRef : Option String
  poseConfidence : Option Confidence
  occludedFacetIds : List String

instance : Dump ProjectPhotoResponse where
  dump x r := dumpFields x
    [("pipelineSchemaVersion", dump x r.pipelineSchemaVersion),
     ("job_id", dump x r.jobId),
     ("overlay_ref", dump x r.overlayRef),
     ("composite_ref", dump x r.compositeRef),
     ("overlay_svg_ref", dump x r.overlaySvgRef),
     ("pose_confidence", dump x r.poseConfidence),
     ("occluded_facet_ids", dump x r.occludedFacetIds)]

structure EvidencePhotoSpec where
  photoRef : String
  sequenceIndex : ℕ
  caption : Option String

structure EvidenceThumbnail where
  thumbnailRef : String
  sequenceIndex : ℕ
  caption : Option String

instance : Dump EvidenceThumbnail where
  dump x t := dumpFields x
    [("thumbnail_ref", dump x t.thumbnailRef),
     ("sequence_index", dump x t.sequenceIndex),
     ("caption", dump x t.caption)]

structure RenderEvidenceThumbnailsResponse where
  pipelineSchemaVersion : String
  jobId : String
  thumbnails : List EvidenceThumbnail

instance : Dump RenderEvidenceThumbnailsResponse where
  dump x r := dumpFields x
    [("pipelineSchemaVersion", dump x r.pipelineSchemaVersion),
     ("job_id", dump x r.jobId),
     ("thumbnails", dump x r.thumbnails)]

structure AttributionItem where
  name : String
  license : Option String := none
  url : Option String := none
  retrievedAt : Option String := none

instance : Dump AttributionItem where
  dump x a := dumpFields x
    [("name", dump x a.name),
     ("license", dump x a.license),
     ("url", dump x a.url),
     ("retrieved_at", dump x a.retrievedAt)]

structure ResolveAddressResponse where
  pipelineSchemaVersion : String
  geocode : Address
  parcelPolygon : Option Polygon
  buildingPolygons : ListMin 1 Polygon
  attribution : List AttributionItem
  warnings : List String

instance : Dump ResolveAddressResponse where
  dump x r := dumpFields x
    [("pipelineSchemaVersion", dump x r.pipelineSchemaVersion),
     ("geocode", dump x r.geocode),
     ("parcel_polygon", dump x r.parcelPolygon),
     ("building_polygons", dump x r.buildingPolygons),
     ("attribution", dump x r.attribution),
     ("warnings", dump x r.warnings)]

structure IngestLidarResponse where
  pipelineSchemaVersion : String
  lidar : LiDARResult
  utmZone : Option ℤ
  boundsUtm : Option (ListOf 4 ℚ)
  warnings : List String
  attribution : List AttributionItem

instance : Dump IngestLidarResponse where
  dump x r := dumpFields x
    [("pipelineSchemaVersion", dump x r.pipelineSchemaVersion),
     ("lidar", dump x r.lidar),
     ("utm_zone", dump x r.utmZone),
     ("bounds_utm", dump x r.boundsUtm),
     ("warnings", dump x r.warnings),
     ("attribution", dump x r.attribution)]

structure LidarPointsResponse where
  pipelineSchemaVersion : String
  points : List (ListOf 3 ℚ)
  pointCount : ℕ
  returnedCount : ℕ
  bounds : Option (ListOf 4 ℚ)

instance : Dump LidarPointsResponse where
  dump x r := dumpFields x
    [("pipelineSchemaVersion", dump x r.pipelineSchemaVersion),
     ("points", dump x r.points),
     ("point_count", dump x r.pointCount),
     ("returned_count", dump x r.returnedCount),
     ("bounds", dump x r.bounds)]

inductive SAM2Backend where
  | modal
  | local
deriving DecidableEq

def SAM2Backend.value : SAM2Backend → String
  | .modal => "modal"
  | .local => "local"

instance : Dump SAM2Backend := ⟨fun _ b => .str b.value⟩

structure RefineOutlineResponse where
  pipelineSchemaVersion : String
  refinedPolygon : Polygon
  iouWithPrior : Between 0 1
  sam2Backend : SAM2Backend
  warnings : List String

instance : Dump RefineOutlineResponse where
  dump x r := dumpFields x
    [("pipelineSchemaVersion", dump x r.pipelineSchemaVersion),
     ("refined_polygon", dump x r.refinedPolygon),
     ("iou_with_prior", dump x r.iouWithPrior),
     ("sam2_backend", dump x r.sam2Backend),
     ("warnings", dump x r.warnings)]

structure RenderImageryResponse where
  pipelineSchemaVersion : String
  imageTileRef : String
  imageGeoBounds : ListOf 4 ℚ
  attribution : List AttributionItem
  warnings : List String

instance : Dump RenderImageryResponse where
  dump x r := dumpFields x
    [("pipelineSchemaVersion", dump x r.pipelineSchemaVersion),
     ("image_tile_ref", dump x r.imageTileRef),
     ("image_geo_bounds", dump x r.imageGeoBounds),
     ("attribution", dump x r.attribution),
     ("warnings", dump x r.warnings)]

structure MeasurementGeometry where
  pipelineSchemaVersion : String
  facets : List Facet
  totalAreaSqFt : NonNeg
  totalPerimeterFt : Option NonNeg := none
  primaryPitchRatio : Option NonNeg := none
  primaryPitchDegrees : Option (Between 0 90) := none
  source : GeometrySource
  confidence : Confidence
  warnings : List String := []
  roofModel : Option RoofModelDiagnostics := none

instance : Dump MeasurementGeometry where
  dump x g := dumpFields x
    [("pipelineSchemaVersion", dump x g.pipelineSchemaVersion),
     ("facets", dump x g.facets),
     ("total_area_sq_ft", dump x g.totalAreaSqFt),
     ("total_perimeter_ft", dump x g.totalPerimeterFt),
     ("primary_pitch_ratio", dump x g.primaryPitchRatio),
     ("primary_pitch_degrees", dump x g.primaryPitchDegrees),
     ("source", dump x g.source),
     ("confidence", dump x g.confidence),
     ("warnings", dump x g.warnings),
     ("roof_model", dump x g.roofModel)]

end Contract
