import RoofTrace.Json.Schema

/-!
# The pipeline contract as JSON Schema

The `$defs` of `shared/pipeline_schema.json`, one definition each; a `$ref` is the
definition it refers to. Every object of the contract is closed, so an object is given by
its properties and the names of the required ones. `PipelineSchema.def?` finds a
definition by its name, as `PipelineSchema.validator_for` does.
-/

namespace PipelineSchema

open Schema

section Definitions

variable [FormatAssertion]

def confidence : Schema :=
  allOf [types [.number], minimum 0, maximum 1]

def geometrySource : Schema :=
  allOf [types [.string], enum ["lidar", "imagery", "fusion", "capture", "manual"]]

def string : Schema := types [.string]

def uuid : Schema := allOf [types [.string], format "uuid"]

def number : Schema := types [.number]

/-- An array of exactly `n` numbers. -/
def numbers (n : ℕ) : Schema :=
  allOf [types [.array], minItems n, maxItems n, items number]

/-- An array of strings. -/
def strings : Schema := allOf [types [.array], items string]

/-- `oneOf` of a schema and `null`. -/
def orNull (s : Schema) : Schema := oneOf [s, types [.null]]

def address : Schema :=
  closedObject
    [("raw", string),
     ("normalized", types [.string, .null]),
     ("lon", allOf [types [.number, .null], minimum (-180), maximum 180]),
     ("lat", allOf [types [.number, .null], minimum (-90), maximum 90]),
     ("source", geometrySource),
     ("confidence", confidence)]
    ["raw"]

/-- A position `[lon, lat]` or `[lon, lat, elevation]`. -/
def position : Schema :=
  allOf [types [.array], minItems 2, maxItems 3, items number]

def polygon : Schema :=
  closedObject
    [("type", const "Polygon"),
     ("coordinates",
       allOf [types [.array], minItems 1,
         items (allOf [types [.array], minItems 4, items position])]),
     ("source", geometrySource),
     ("confidence", confidence)]
    ["type", "coordinates"]

/-- The work unit of a LiDAR result: unlike every other object of the contract it may be
`null`, and it requires none of its members. -/
def workUnit : Schema :=
  let ps : List (String × Schema) :=
    [("name", string),
     ("year", types [.integer, .null]),
     ("quality_level", types [.string, .null]),
     ("epsg", types [.integer, .null])]
  allOf [types [.object, .null], properties ps, noAdditionalProperties (ps.map Prod.fst)]

def lidarResult : Schema :=
  closedObject
    [("status", allOf [types [.string], enum ["LIDAR_AVAILABLE", "LIDAR_MISSING"]]),
     ("point_array_ref", types [.string, .null]),
     ("point_count", allOf [types [.integer, .null], minimum 0]),
     ("work_unit", workUnit),
     ("source", geometrySource),
     ("confidence", confidence)]
    ["status"]

def facet : Schema :=
  closedObject
    [("facet_id", string),
     ("vertices", allOf [types [.array], minItems 3, items position]),
     ("pitch_ratio", allOf [types [.number, .null], minimum 0]),
     ("pitch_degrees", allOf [types [.number, .null], minimum 0, maximum 90]),
     ("area_sq_ft", allOf [types [.number], minimum 0]),
     ("source", geometrySource),
     ("confidence", confidence)]
    ["facet_id", "vertices", "area_sq_ft", "source", "confidence"]

def feature : Schema :=
  closedObject
    [("label",
       allOf [types [.string],
         enum ["vent", "chimney", "dormer", "skylight", "satellite_dish", "other"]]),
     ("bbox_norm",
       allOf [types [.array], minItems 4, maxItems 4,
         items (allOf [types [.number], minimum 0, maximum 1])]),
     ("verified", types [.boolean]),
     ("source", geometrySource),
     ("confidence", confidence)]
    ["label", "bbox_norm", "verified", "source", "confidence"]

def count : Schema := allOf [types [.integer], minimum 0]

def roofModelDiagnostics : Schema :=
  closedObject
    [("model_version", string),
     ("plane_count", count),
     ("facet_count", count),
     ("edge_count", count),
     ("coverage_ratio", confidence),
     ("area_method", string),
     ("boundary_method", string),
     ("warnings", strings)]
    ["model_version", "plane_count", "facet_count", "edge_count", "coverage_ratio",
      "area_method", "boundary_method"]

def facets : Schema := allOf [types [.array], items facet]

def features : Schema := allOf [types [.array], items feature]

/-- A number that is not negative, or `null`. -/
def nonnegOrNull : Schema := allOf [types [.number, .null], minimum 0]

def measurement : Schema :=
  closedObject
    [("job_id", uuid),
     ("footprint", polygon),
     ("roof_outline", polygon),
     ("lidar", lidarResult),
     ("facets", facets),
     ("features", features),
     ("total_area_sq_ft", nonnegOrNull),
     ("predominant_pitch_ratio", nonnegOrNull),
     ("source", geometrySource),
     ("confidence", confidence)]
    ["job_id", "facets", "features", "source", "confidence"]

def renderImageRequest : Schema :=
  closedObject
    [("pipelineSchemaVersion", string),
     ("job_id", uuid),
     ("bbox", numbers 4),
     ("width_px", allOf [types [.integer], minimum 1]),
     ("height_px", allOf [types [.integer], minimum 1])]
    ["pipelineSchemaVersion", "job_id", "bbox", "width_px", "height_px"]

def renderImageResponse : Schema :=
  closedObject
    [("pipelineSchemaVersion", string), ("job_id", uuid), ("image_ref", string)]
    ["pipelineSchemaVersion", "job_id", "image_ref"]

def fuseCaptureRequest : Schema :=
  closedObject
    [("pipelineSchemaVersion", string),
     ("job_id", uuid),
     ("capture_mesh_ref", string),
     ("lidar", lidarResult),
     ("refined_polygon", anyOf [polygon, types [.null]])]
    ["pipelineSchemaVersion", "job_id", "capture_mesh_ref"]

def fuseCaptureResponse : Schema :=
  closedObject
    [("pipelineSchemaVersion", string),
     ("job_id", uuid),
     ("measurement", measurement),
     ("icp_rmse_m", nonnegOrNull),
     ("arkit_to_utm", orNull (numbers 16)),
     ("utm_epsg", types [.integer, .null])]
    ["pipelineSchemaVersion", "job_id"]

def projectPhotoRequest : Schema :=
  closedObject
    [("pipelineSchemaVersion", string),
     ("job_id", uuid),
     ("photo_ref", string),
     ("world_mesh_ref", types [.string, .null]),
     ("arkit_to_utm", orNull (numbers 16)),
     ("utm_epsg", types [.integer, .null]),
     ("pose_confidence", orNull confidence),
     ("camera_pose",
       closedObject [("intrinsics", numbers 9), ("extrinsics", numbers 16)]
         ["intrinsics", "extrinsics"]),
     ("facets", facets),
     ("features", features)]
    ["pipelineSchemaVersion", "job_id", "photo_ref", "camera_pose", "facets"]

def projectPhotoResponse : Schema :=
  closedObject
    [("pipelineSchemaVersion", string),
     ("job_id", uuid),
     ("overlay_ref", string),
     ("composite_ref", types [.string, .null]),
     ("overlay_svg_ref", types [.string, .null]),
     ("pose_confidence", orNull confidence),
     ("occluded_facet_ids", strings)]
    ["pipelineSchemaVersion", "job_id", "overlay_ref"]

def renderEvidenceThumbnailsRequest : Schema :=
  closedObject
    [("pipelineSchemaVersion", string),
     ("job_id", uuid),
     ("photos",
       allOf [types [.array],
         items (closedObject
           [("photo_ref", string), ("sequence_index", count),
            ("caption", types [.string, .null])]
           ["photo_ref", "sequence_index"])])]
    ["pipelineSchemaVersion", "job_id", "photos"]

def renderEvidenceThumbnailsResponse : Schema :=
  closedObject
    [("pipelineSchemaVersion", string),
     ("job_id", uuid),
     ("thumbnails",
       allOf [types [.array],
         items (closedObject
           [("thumbnail_ref", string), ("sequence_index", count),
            ("caption", types [.string, .null])]
           ["thumbnail_ref", "sequence_index"])])]
    ["pipelineSchemaVersion", "job_id", "thumbnails"]

def sourceAttribution : Schema :=
  allOf [types [.array],
    items (closedObject
      [("name", string),
       ("license", types [.string, .null]),
       ("url", types [.string, .null]),
       ("retrieved_at", allOf [types [.string, .null], format "date-time"])]
      ["name"])]

def resolveAddressRequest : Schema :=
  closedObject
    [("pipelineSchemaVersion", string), ("address", allOf [types [.string], minLength 1])]
    ["pipelineSchemaVersion", "address"]

def resolveAddressResponse : Schema :=
  closedObject
    [("pipelineSchemaVersion", string),
     ("geocode", address),
     ("parcel_polygon", orNull polygon),
     ("building_polygons", allOf [types [.array], minItems 1, items polygon]),
     ("attribution", sourceAttribution),
     ("warnings", strings)]
    ["pipelineSchemaVersion", "geocode", "building_polygons", "attribution"]

def ingestLidarRequest : Schema :=
  closedObject
    [("pipelineSchemaVersion", string),
     ("building_polygon", polygon),
     ("parcel_polygon", orNull polygon)]
    ["pipelineSchemaVersion", "building_polygon"]

def ingestLidarResponse : Schema :=
  closedObject
    [("pipelineSchemaVersion", string),
     ("lidar", lidarResult),
     ("utm_zone", types [.integer, .null]),
     ("bounds_utm", orNull (numbers 4)),
     ("warnings", strings),
     ("attribution", sourceAttribution)]
    ["pipelineSchemaVersion", "lidar"]

def lidarPointsRequest : Schema :=
  closedObject
    [("pipelineSchemaVersion", string),
     ("point_array_ref", string),
     ("building_polygon", polygon),
     ("max_points", allOf [types [.integer, .null], minimum 1])]
    ["pipelineSchemaVersion", "point_array_ref", "building_polygon"]

def lidarPointsResponse : Schema :=
  closedObject
    [("pipelineSchemaVersion", string),
     ("points", allOf [types [.array], items (numbers 3)]),
     ("point_count", count),
     ("returned_count", count),
     ("bounds", orNull (numbers 4))]
    ["pipelineSchemaVersion", "points", "point_count", "returned_count"]

def refineOutlineRequest : Schema :=
  closedObject
    [("pipelineSchemaVersion", string),
     ("image_tile_ref", string),
     ("prior_polygon", polygon),
     ("image_geo_bounds", numbers 4)]
    ["pipelineSchemaVersion", "image_tile_ref", "prior_polygon", "image_geo_bounds"]

def refineOutlineResponse : Schema :=
  closedObject
    [("pipelineSchemaVersion", string),
     ("refined_polygon", polygon),
     ("iou_with_prior", allOf [types [.number], minimum 0, maximum 1]),
     ("sam2_backend", allOf [types [.string], enum ["modal", "local"]]),
     ("warnings", strings)]
    ["pipelineSchemaVersion", "refined_polygon", "iou_with_prior", "sam2_backend"]

def renderImageryRequest : Schema :=
  closedObject
    [("pipelineSchemaVersion", string),
     ("building_polygon", polygon),
     ("size_px", allOf [types [.integer], minimum 1, maximum 4096]),
     ("target_gsd_m", allOf [types [.number], minimum 0])]
    ["pipelineSchemaVersion", "building_polygon", "size_px"]

def renderImageryResponse : Schema :=
  closedObject
    [("pipelineSchemaVersion", string),
     ("image_tile_ref", string),
     ("image_geo_bounds", numbers 4),
     ("attribution", sourceAttribution),
     ("warnings", strings)]
    ["pipelineSchemaVersion", "image_tile_ref", "image_geo_bounds"]

def measurementGeometry : Schema :=
  closedObject
    [("pipelineSchemaVersion", string),
     ("facets", facets),
     ("total_area_sq_ft", allOf [types [.number], minimum 0]),
     ("total_perimeter_ft", nonnegOrNull),
     ("primary_pitch_ratio", nonnegOrNull),
     ("primary_pitch_degrees", allOf [types [.number, .null], minimum 0, maximum 90]),
     ("source", geometrySource),
     ("confidence", confidence),
     ("warnings", strings),
     ("roof_model", anyOf [roofModelDiagnostics, types [.null]])]
    ["pipelineSchemaVersion", "facets", "total_area_sq_ft", "source", "confidence"]

def fitPlanesRequest : Schema :=
  closedObject
    [("pipelineSchemaVersion", string),
     ("point_array_ref", string),
     ("utm_zone", types [.integer]),
     ("refined_polygon", polygon)]
    ["pipelineSchemaVersion", "point_array_ref", "utm_zone", "refined_polygon"]

def fallbackMeasurementRequest : Schema :=
  closedObject
    [("pipelineSchemaVersion", string),
     ("refined_polygon", polygon),
     ("inferred_pitch_degrees", allOf [types [.number], minimum 0, maximum 90]),
     ("utm_zone", types [.integer])]
    ["pipelineSchemaVersion", "refined_polygon", "inferred_pitch_degrees", "utm_zone"]

/-- The definition named `entity`, for the entities the Rails side validates against. -/
def def? : String → Option Schema
  | "Measurement" => some measurement
  | "RenderImageRequest" => some renderImageRequest
  | "RenderImageResponse" => some renderImageResponse
  | "FuseCaptureRequest" => some fuseCaptureRequest
  | "FuseCaptureResponse" => some fuseCaptureResponse
  | "ProjectPhotoRequest" => some projectPhotoRequest
  | "ProjectPhotoResponse" => some projectPhotoResponse
  | "RenderEvidenceThumbnailsRequest" => some renderEvidenceThumbnailsRequest
  | "RenderEvidenceThumbnailsResponse" => some renderEvidenceThumbnailsResponse
  | "ResolveAddressRequest" => some resolveAddressRequest
  | "ResolveAddressResponse" => some resolveAddressResponse
  | "IngestLidarRequest" => some ingestLidarRequest
  | "IngestLidarResponse" => some ingestLidarResponse
  | "LidarPointsRequest" => some lidarPointsRequest
  | "LidarPointsResponse" => some lidarPointsResponse
  | "RefineOutlineRequest" => some refineOutlineRequest
  | "RefineOutlineResponse" => some refineOutlineResponse
  | "RenderImageryRequest" => some renderImageryRequest
  | "RenderImageryResponse" => some renderImageryResponse
  | "MeasurementGeometry" => some measurementGeometry
  | "FitPlanesRequest" => some fitPlanesRequest
  | "FallbackMeasurementRequest" => some fallbackMeasurementRequest
  | _ => none

end Definitions

end PipelineSchema
