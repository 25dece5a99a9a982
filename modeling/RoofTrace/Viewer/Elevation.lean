import RoofTrace.Export.Serializer

/-!
# Elevations in the web viewer

`viewer/utils/elevation.ts` and the positions of `viewer/layers/buildLayers.ts` in the tilted view:
facets and LiDAR points stand on one ground, the lowest elevation among all of them. The facets
are those that `MeasurementViewerSerializer` puts into the page.
-/

namespace Viewer

open Rails (MeasurementAttributes)

/-- `FACET_KEYS` -/
def facetKeys : List String :=
  ["facet_id", "vertices", "pitch_ratio", "pitch_degrees", "area_sq_ft", "source", "confidence"]

/-- `MeasurementViewerSerializer#facets` -/
def facets (m : MeasurementAttributes) : List (Json ℚ) :=
  m.facets.map fun f => .obj (Rails.JobExportSerializer.slice f facetKeys)

/-- The numbers of an array. -/
def numbers : Json ℚ → List ℚ
  | .arr elements => elements.filterMap fun
      | .num x => some x
      | _ => none
  | _ => []

/-- `f.vertices` -/
def vertices (f : Json ℚ) : List (List ℚ) :=
  match f.get "vertices" with
  | .arr positions => positions.map numbers
  | _ => []

/-! ### The ground -/

/-- `FEET_PER_METER` -/
def feetPerMeter : ℚ := 3280839895 / 1000000000

def feetToMeters (feet : ℚ) : ℚ := feet / feetPerMeter

/-- A loop takes the lower one, where there is another elevation. -/
def lower : Option ℚ → Option ℚ → Option ℚ
  | least, none => least
  | none, some z => some z
  | some least, some z => if z < least then some z else some least

def facetElevationBaseline (facets : List (Json ℚ)) : Option ℚ :=
  (facets.flatMap vertices).foldl (fun least v => lower least v[2]?) none

def groundBaselineMeters (facets : List (Json ℚ)) (lidarPointsFt : Option (List (List ℚ))) :
    Option ℚ :=
  let lidarMin := (lidarPointsFt.getD []).foldl (fun least p => lower least p[2]?) none
  ((facetElevationBaseline facets).toList ++ (lidarMin.map feetToMeters).toList).min?

/-! ### Positions

A position is a longitude, a latitude and a height over the ground in metres. -/

def toTilted (elevationBaseline : ℚ) (v : List ℚ) : ℚ × ℚ × ℚ :=
  (v.getD 0 0, v.getD 1 0,
    match v[2]? with
    | none => 0
    | some z => z - elevationBaseline)

/-- The polygons of `buildFacetLayer`, with the points that have been loaded. -/
def facetPolygons (facets : List (Json ℚ)) (lidarPoints : Option (List (List ℚ))) :
    List (List (ℚ × ℚ × ℚ)) :=
  let elevationBaseline := (groundBaselineMeters facets lidarPoints).getD 0
  facets.map fun f => (vertices f).map (toTilted elevationBaseline)

/-- `elevMeters` -/
def elevMeters (baselineMeters : Option ℚ) (minElev elevFt : ℚ) : ℚ :=
  match baselineMeters with
  | none => feetToMeters (elevFt - minElev)
  | some baseline => feetToMeters elevFt - baseline

/-- The positions of `buildLidarPointLayer`, which shows the points that have been loaded. -/
def lidarPositions (facets : List (Json ℚ)) (lidarPoints : Option (List (List ℚ))) :
    List (ℚ × ℚ × ℚ) :=
  let points := lidarPoints.getD []
  let elevs := points.map fun p => p.getD 2 0
  let minElev := elevs.min?.getD 0
  points.map fun p =>
    (p.getD 0 0, p.getD 1 0,
      elevMeters (groundBaselineMeters facets lidarPoints) minElev (p.getD 2 0))

end Viewer
