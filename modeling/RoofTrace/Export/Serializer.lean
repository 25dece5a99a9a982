import RoofTrace.Deliveries.Progress
import RoofTrace.Export.Schema

/-!
# The export of a job

`app/serializers/job_export_serializer.rb`: a job and its latest measurement are written out
as the document of the export contract. The vertices of facets are stored as longitude and
latitude and written as latitude and longitude, an elevation after them.
-/

namespace Rails

/-- A serializer: its job, the latest measurement of it, and what the controller injects. -/
structure JobExportSerializer where
  job : Option JobRow
  measurement : Option Measurement
  shareUrl : Json ℚ
  pdfUrl : Json ℚ
  lidarPointsUrl : Json ℚ
  visualizations : List (Json ℚ)

namespace JobExportSerializer

/-- `numeric` -/
def numeric (value : Json ℚ) : Json ℚ :=
  if value.isNull then .null else .num (Ruby.toF value)

/-- `PitchMath.degrees`: `angle` is the rounded angle of a slope that is positive. -/
def degreesFromRatio (angle : ℚ → ℚ) (ratio : Json ℚ) : Json ℚ :=
  if 0 < Ruby.toF ratio then .num (angle (Ruby.toF ratio / 12)) else .null

/-- A vertex as the block takes it apart: the longitude, the latitude and the rest. -/
def flipVertex : Json ℚ → Json ℚ
  | .arr (lon :: lat :: elevation :: _) => .arr [lat, lon, numeric elevation]
  | .arr [lon, lat] => .arr [lat, lon]
  | .arr [lon] => .arr [.null, lon]
  | .arr [] => .arr [.null, .null]
  | lon => .arr [.null, lon]

def mapFacet (facet : Json ℚ) : Json ℚ :=
  .obj
    [("facet_id", facet.get "facet_id"),
     ("vertices", .arr ((Ruby.array (facet.get "vertices")).map flipVertex)),
     ("pitch_ratio", numeric (facet.get "pitch_ratio")),
     ("pitch_degrees", numeric (facet.get "pitch_degrees")),
     ("area_sq_ft", numeric (facet.get "area_sq_ft")),
     ("source", facet.get "source"),
     ("confidence", numeric (facet.get "confidence"))]

def mapFeature (feature : Json ℚ) : Json ℚ :=
  .obj
    [("label", feature.get "label"),
     ("bbox_norm", .arr (Ruby.array (feature.get "bbox_norm"))),
     ("verified", feature.get "verified"),
     ("source", feature.get "source"),
     ("confidence", numeric (feature.get "confidence"))]

/-- `blank?` of a value that is no text. -/
def blank : Json ℚ → Bool
  | .null => true
  | .bool b => !b
  | .arr elements => elements.isEmpty
  | .obj members => members.isEmpty
  | _ => false

def mapGeocode (geocode : Json ℚ) : Json ℚ :=
  if blank geocode then .null
  else
    .obj
      [("lat", numeric (geocode.get "lat")),
       ("lng", numeric (geocode.get "lon")),
       ("confidence", numeric (geocode.get "confidence"))]

/-- An element of `on_site_visualizations`. -/
def mapVisualization (viz : Json ℚ) : Json ℚ :=
  .obj
    [("photo_url", viz.get "photo_url"),
     ("composite_url", viz.get "composite_url"),
     ("overlay_svg_url", viz.get "overlay_svg_url"),
     ("pose_confidence", numeric (viz.get "pose_confidence"))]

/-- `PROVENANCE_KEYS` -/
def provenanceKeys : List String :=
  ["attributions", "retrieved_at", "detector", "sam2_backend", "geometry_source",
    "lidar_work_unit", "pipeline_schema_version", "generated_at"]

/-- `hash.slice(*keys)` -/
def slice (j : Json ℚ) (keys : List String) : List (String × Json ℚ) :=
  keys.filterMap fun key => (j.member? key).map (key, ·)

/-- The allowlisted part of a provenance. -/
def mapProvenance (prov : Json ℚ) : Json ℚ :=
  if blank prov then .null else Ruby.presence (slice prov provenanceKeys)

variable (s : JobExportSerializer)

def jobBlock : Json ℚ :=
  .obj
    [("id", (s.job.map fun job => Json.str job.id).getD .null),
     ("address", (s.job.map fun job => Json.str job.address).getD .null),
     ("status", (s.job.map fun job => Json.str job.status.rawValue).getD .null)]

def onSiteVisualizations : Json ℚ := .arr (s.visualizations.map mapVisualization)

def measurementBlock [Platform] (angle : ℚ → ℚ) : Json ℚ :=
  match s.measurement with
  | none => .null
  | some measurement =>
      let ratio := numeric measurement.predominantPitchRatio
      .obj
        [("generated_at", .str (Platform.iso8601 measurement.generatedAt)),
         ("source", .str measurement.source),
         ("confidence", .num measurement.confidence),
         ("total_area_sq_ft", numeric measurement.totalAreaSqFt),
         ("total_perimeter_ft", numeric measurement.totalPerimeterFt),
         ("predominant_pitch_ratio", ratio),
         ("predominant_pitch_degrees", degreesFromRatio angle ratio),
         ("warnings", .arr measurement.warnings),
         ("facets", .arr (measurement.facets.map mapFacet)),
         ("features", .arr (measurement.features.map mapFeature)),
         ("geocode", mapGeocode measurement.geocode),
         ("on_site_visualizations", s.onSiteVisualizations)]

def provenanceBlock : Json ℚ :=
  match s.measurement with
  | none => .null
  | some measurement => mapProvenance measurement.provenance

def artifactsBlock : Json ℚ :=
  .obj
    [("pdf_url", s.pdfUrl), ("share_url", s.shareUrl), ("lidar_points_url", s.lidarPointsUrl),
     ("model_3d_url", .null)]

/-- `to_h` -/
def toH [Platform] (angle : ℚ → ℚ) : Json ℚ :=
  .obj
    [("schema_version", .str JsonExportSchema.version),
     ("job", s.jobBlock),
     ("measurement", s.measurementBlock angle),
     ("provenance", s.provenanceBlock),
     ("artifacts", s.artifactsBlock)]

end JobExportSerializer

end Rails
