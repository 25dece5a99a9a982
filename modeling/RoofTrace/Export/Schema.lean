import RoofTrace.Json.Schema

/-!
# The export contract as JSON Schema

`shared/json_export.schema.json`: the document that the public and the authenticated export
render, and that the phone reads.
-/

namespace JsonExportSchema

open Schema

/-- The constant of `schema_version`. -/
def version : String := "1.2.0"

def string : Schema := types [.string]

def number : Schema := types [.number]

def stringOrNull : Schema := types [.string, .null]

def numberOrNull : Schema := types [.number, .null]

/-- An object or `null`: its members are all declared, and some are required. -/
def nullableObject (ps : List (String × Schema)) (req : List String) : Schema :=
  allOf [types [.object, .null], properties ps, required req,
    noAdditionalProperties (ps.map Prod.fst)]

def job : Schema :=
  closedObject [("id", string), ("address", stringOrNull), ("status", string)] ["id", "status"]

def vertex : Schema := allOf [types [.array], minItems 2, maxItems 3, items number]

def facet : Schema :=
  closedObject
    [("facet_id", string),
     ("vertices", allOf [types [.array], items vertex]),
     ("pitch_ratio", numberOrNull),
     ("pitch_degrees", numberOrNull),
     ("area_sq_ft", numberOrNull),
     ("source", stringOrNull),
     ("confidence", numberOrNull)]
    ["facet_id", "vertices"]

def feature : Schema :=
  closedObject
    [("label", string),
     ("bbox_norm", allOf [types [.array], minItems 4, maxItems 4, items number]),
     ("verified", types [.boolean]),
     ("source", stringOrNull),
     ("confidence", numberOrNull)]
    ["label", "bbox_norm", "verified"]

def geocode : Schema :=
  nullableObject [("lat", numberOrNull), ("lng", numberOrNull), ("confidence", numberOrNull)] []

def onSiteVisualization : Schema :=
  closedObject
    [("photo_url", stringOrNull),
     ("composite_url", stringOrNull),
     ("overlay_svg_url", stringOrNull),
     ("pose_confidence", numberOrNull)]
    []

def measurement : Schema :=
  nullableObject
    [("generated_at", stringOrNull),
     ("source", stringOrNull),
     ("confidence", numberOrNull),
     ("total_area_sq_ft", numberOrNull),
     ("total_perimeter_ft", numberOrNull),
     ("predominant_pitch_ratio", numberOrNull),
     ("predominant_pitch_degrees", numberOrNull),
     ("warnings", allOf [types [.array], items string]),
     ("facets", allOf [types [.array], items facet]),
     ("features", allOf [types [.array], items feature]),
     ("geocode", geocode),
     ("on_site_visualizations", allOf [types [.array], items onSiteVisualization])]
    ["facets", "features"]

def provenance : Schema :=
  allOf [types [.object, .null], properties
    [("detector", stringOrNull),
     ("sam2_backend", stringOrNull),
     ("pipeline_schema_version", stringOrNull),
     ("generated_at", stringOrNull)]]

def artifacts : Schema :=
  closedObject
    [("pdf_url", stringOrNull),
     ("share_url", stringOrNull),
     ("lidar_points_url", stringOrNull),
     ("model_3d_url", types [.null])]
    ["pdf_url", "share_url", "model_3d_url"]

/-- The schema of the whole document. -/
def document : Schema :=
  closedObject
    [("schema_version", const version),
     ("job", job),
     ("measurement", measurement),
     ("provenance", provenance),
     ("artifacts", artifacts)]
    ["schema_version", "job", "measurement", "provenance", "artifacts"]

end JsonExportSchema
