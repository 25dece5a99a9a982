import RoofTrace.Export.RoofExport

/-!
# The scene on the phone

`ios/RoofTrace/Services/RoofProjection.swift`: the facets of an export and the LiDAR points in a
metric frame around their centroid, east, up and south, over the lowest elevation among all of
them.
-/

namespace Phone

/-- `CLLocationCoordinate2D` -/
structure Coordinate where
  latitude : ℚ
  longitude : ℚ
deriving DecidableEq

/-- `coordinate(latitude:longitude:)` -/
def coordinate (latitude longitude : ℚ) : Option Coordinate :=
  if -90 ≤ latitude ∧ latitude ≤ 90 ∧ -180 ≤ longitude ∧ longitude ≤ 180 then
    some ⟨latitude, longitude⟩
  else none

def coordFromFacetVertex : List ℚ → Option Coordinate
  | latitude :: longitude :: _ => coordinate latitude longitude
  | _ => none

namespace RoofExport.Facet

variable (facet : RoofExport.Facet)

/-- `vertices3D` -/
def vertices3D : List (Coordinate × Option ℚ) :=
  facet.vertices.filterMap fun vertex => (coordFromFacetVertex vertex).map (·, vertex[2]?)

def hasElevation : Bool := facet.vertices.any (3 ≤ ·.length)

end RoofExport.Facet

/-- `points`, of the arrays in a response. -/
def LidarPoints.points (rawPoints : List (List ℚ)) : List (List ℚ) :=
  rawPoints.filter (3 ≤ ·.length)

namespace RoofProjection

def feetPerMetre : ℚ := 3280839895 / 1000000000

structure ProjectedFacet where
  facetID : String
  points : List (ℚ × ℚ × ℚ)
  pitchRatio : Option ℚ
  hasElevation : Bool

structure Scene where
  origin : Coordinate
  groundBaselineM : ℚ
  facets : List ProjectedFacet
  points : List (ℚ × ℚ × ℚ)
  radiusM : ℚ

structure LidarPoint where
  coordinate : Coordinate
  elevationM : ℚ

def parseLidar (raw : List (List ℚ)) : List LidarPoint :=
  raw.filterMap fun
    | lon :: lat :: elevFt :: _ => (coordinate lat lon).map fun c => ⟨c, elevFt / feetPerMetre⟩
    | _ => none

def referenceCoordinate (facetVertices : List (Coordinate × Option ℚ)) (cloud : List LidarPoint) :
    Coordinate :=
  let lats := facetVertices.map (·.1.latitude) ++ cloud.map (·.coordinate.latitude)
  let lons := facetVertices.map (·.1.longitude) ++ cloud.map (·.coordinate.longitude)
  if lats.isEmpty then ⟨0, 0⟩
  else ⟨lats.sum / lats.length, lons.sum / lons.length⟩

def groundBaseline (facetVertices : List (Coordinate × Option ℚ)) (cloud : List LidarPoint) : ℚ :=
  let elevations := facetVertices.filterMap (·.2) ++ cloud.map (·.elevationM)
  elevations.min?.getD 0

/-- `project`; `cosine` is of an angle in degrees. -/
def project (cosine : ℚ → ℚ) (coordinate : Coordinate) (elevationM : ℚ) (origin : Coordinate)
    (baselineM : ℚ) : ℚ × ℚ × ℚ :=
  let metresPerDegLat := 111320
  let metresPerDegLon := 111320 * cosine origin.latitude
  let east := (coordinate.longitude - origin.longitude) * metresPerDegLon
  let north := (coordinate.latitude - origin.latitude) * metresPerDegLat
  let up := elevationM - baselineM
  (east, up, -north)

def boundingRadius (facets : List ProjectedFacet) (points : List (ℚ × ℚ × ℚ)) : ℚ :=
  let all := facets.flatMap (·.points) ++ points
  let maxHorizontal := (all.map fun p => max |p.1| |p.2.2|).max?.getD 1
  max maxHorizontal 1

def scene (cosine : ℚ → ℚ) (facets : List RoofExport.Facet) (lidarPoints : List (List ℚ)) :
    Scene :=
  let facetVertices := facets.flatMap (·.vertices3D)
  let cloud := parseLidar lidarPoints
  let origin := referenceCoordinate facetVertices cloud
  let baseline := groundBaseline facetVertices cloud
  let projectedFacets := facets.map fun facet =>
    { facetID := facet.facetID
      points := facet.vertices3D.map fun vertex =>
        project cosine vertex.1 (vertex.2.getD baseline) origin baseline
      pitchRatio := facet.pitchRatio
      hasElevation := facet.hasElevation }
  let projectedPoints := cloud.map fun point =>
    project cosine point.coordinate point.elevationM origin baseline
  { origin := origin
    groundBaselineM := baseline
    facets := projectedFacets
    points := projectedPoints
    radiusM := boundingRadius projectedFacets projectedPoints }

end RoofProjection

end Phone
