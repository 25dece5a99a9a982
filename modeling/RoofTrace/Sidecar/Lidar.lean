import RoofTrace.Sidecar.Utm
import Mathlib.Data.List.Sort

/-!
# LiDAR ingest

`lidar/ingest.py` and the `/pipeline/ingest-lidar` route of `lidar/router.py`: the survey
index is asked which work units cover a building, the published point clouds are tried one
after the other, the roof points are isolated, reprojected to the UTM zone of the building
and cached under a key that Rails stores with the work unit.

What the ingest takes from its surroundings (the survey and point-cloud indexes, the
cropper, the geometry of `shapely` and the projections of `pyproj`) is a `LidarServices`.
-/

namespace Sidecar

open Contract Outcome

/-- A work unit of the 3DEP survey; `epsg` is the native CRS of its point cloud. -/
structure WesmWorkUnit where
  name : String
  epsg : ℤ
  year : Option ℤ := none
  qualityLevel : Option String := none

/-- The value of a column that is there and not zero. -/
def truthy (n : Option ℤ) : Option ℤ := n.filter (· ≠ 0)

/-- A point of a cloud with its ASPRS classification. -/
structure LidarReturn where
  x : ℚ
  y : ℚ
  z : ℚ
  classification : ℚ
deriving DecidableEq

/-- A cloud cropped to a building, in the CRS `srcEpsg`. -/
structure CroppedCloud where
  points : List LidarReturn
  srcEpsg : ℤ

/-- `[west, south, east, north]` -/
abbrev Bounds : Type := ListOf 4 ℚ

structure LidarServices where
  bounds : Polygon → Bounds
  centroid : Polygon → ℚ × ℚ
  /-- `WesmIndex.query`: the work units that cover the bounds, the most recent first. -/
  query : Bounds → List WesmWorkUnit
  /-- The published resources that cover the bounds; `none` when the index is out of
  reach. -/
  resolveEpt : Bounds → Option (List String)
  /-- `Cropper.crop` of a work unit, at a resource when one is named. -/
  crop : WesmWorkUnit → Polygon → Option String → Except Exception CroppedCloud
  /-- The projection of `x, y` from one EPSG code to another. -/
  transform : ℤ → ℤ → ℚ × ℚ → ℚ × ℚ
  addressHash : Polygon → String
  currentYear : ℤ

/-- `np.percentile`, which interpolates between the two values next to the position. -/
def percentile (zs : List ℚ) (q : ℕ) : ℚ :=
  let sorted := zs.mergeSort (· ≤ ·)
  let position : ℚ := (zs.length - 1) * q / 100
  let index := ⌊position⌋.toNat
  let low := sorted.getD index 0
  let high := sorted.getD (index + 1) low
  low + (high - low) * (position - ⌊position⌋)

/-- The ways in which the roof points of a cloud are found. -/
inductive ExtractMethod where
  | empty
  | class6
  | heightAboveGround
deriving DecidableEq

def minRoofHeightM : ℚ := 2

/-- `_extract_building_points`: the points classified as building, or else the points
that are not ground and stand high enough above it. -/
def extractBuildingPoints (points : List LidarReturn) : List LidarReturn × ExtractMethod :=
  if points = [] then
    (points, .empty)
  else
    let building := points.filter (·.classification = 6)
    if building ≠ [] then
      (building, .class6)
    else
      let clean := points.filter fun p => ¬ (p.classification = 7 ∨ p.classification = 18)
      if clean = [] then
        (clean, .empty)
      else
        let ground := clean.filter (·.classification = 2)
        let groundZ :=
          if ground.length ≥ 10 then percentile (ground.map (·.z)) 50
          else percentile (clean.map (·.z)) 10
        let nonGround := clean.filter (·.classification ≠ 2)
        (nonGround.filter (·.z ≥ groundZ + minRoofHeightM), .heightAboveGround)

/-- `_reproject_points` -/
def reprojectPoints (s : LidarServices) (points : List LidarReturn) (srcEpsg dstEpsg : ℤ) :
    List LidarReturn :=
  if srcEpsg = dstEpsg then
    points
  else
    points.map fun p =>
      let (x, y) := s.transform srcEpsg dstEpsg (p.x, p.y)
      { p with x, y }

structure IngestOutcome where
  status : LiDARStatus
  pointArrayRef : Option String := none
  pointCount : Option ℕ := none
  workUnit : Option WesmWorkUnit := none
  utmZone : Option ℤ := none
  boundsUtm : Option Bounds := none
  warnings : List String := []

/-- What an ingest does: its outcome, and the array it has cached under a key. -/
structure Ingest where
  outcome : IngestOutcome
  cached : Option (String × List LidarReturn) := none

/-- The first cloud among the published resources. A resource that is not there is passed
over; any other exception ends the ingest. -/
def cropResolved (s : LidarServices) (polygon : Polygon) (workUnit : WesmWorkUnit) :
    List String → Except Exception (Option CroppedCloud)
  | [] => return none
  | url :: urls =>
      match s.crop workUnit polygon (some url) with
      | .ok cloud => return some cloud
      | .error .eptNotFound => cropResolved s polygon workUnit urls
      | .error e => throw e

/-- The first cloud among the covering work units, each tried under its own name. -/
def cropCovering (s : LidarServices) (polygon : Polygon) :
    List WesmWorkUnit → Except Exception (Option (CroppedCloud × WesmWorkUnit))
  | [] => return none
  | candidate :: rest =>
      match s.crop candidate polygon none with
      | .ok cloud => return some (cloud, candidate)
      | .error .eptNotFound => cropCovering s polygon rest
      | .error e => throw e

def staleYears : ℤ := 5

/-- Hops 3 to 5 of the ingest: isolate the roof points of a cloud, reproject them to the
UTM zone of the building, and cache them. -/
def ingestCloud (s : LidarServices) (polygon : Polygon) (cloud : CroppedCloud)
    (workUnit : WesmWorkUnit) (warnings : List String) : Except Exception Ingest :=
  let stale := workUnit.year.any fun year => s.currentYear - year > staleYears
  let warnings := if stale then warnings ++ ["stale_lidar"] else warnings
  match extractBuildingPoints cloud.points with
  | ([], _) =>
      return { outcome :=
        { status := .missing, workUnit := some workUnit,
          warnings := warnings ++ ["no_building_points"] } }
  | (p :: ps, method) => do
      let warnings :=
        if method = .heightAboveGround then warnings ++ ["lidar_height_extracted"] else warnings
      let centroid := s.centroid polygon
      let utm ← utmEpsgFor centroid.1 centroid.2
      let utmPts := reprojectPoints s (p :: ps) cloud.srcEpsg utm
      let key := s!"cache/lidar/{s.addressHash polygon}.npy"
      let xs := utmPts.map (·.x)
      let ys := utmPts.map (·.y)
      return {
        outcome :=
          { status := .available
            pointArrayRef := some key
            pointCount := some utmPts.length
            workUnit := some workUnit
            utmZone := some utm
            boundsUtm := some
              ⟨[xs.min?.getD 0, ys.min?.getD 0, xs.max?.getD 0, ys.max?.getD 0], rfl⟩
            warnings }
        cached := some (key, utmPts) }

/-- `ingest_lidar` -/
def ingestLidar (s : LidarServices) (polygon : Polygon) : Except Exception Ingest :=
  let bbox := s.bounds polygon
  match s.query bbox with
  | [] => return { outcome := { status := .missing, warnings := ["no_coverage"] } }
  | first :: rest => do
      let resolvedUrls := s.resolveEpt bbox
      let warnings := if resolvedUrls.isNone then ["ept_index_unavailable"] else []
      match ← cropResolved s polygon first (resolvedUrls.getD []) with
      | some cloud => ingestCloud s polygon cloud first warnings
      | none =>
          match ← cropCovering s polygon (first :: rest) with
          | some (cloud, workUnit) => ingestCloud s polygon cloud workUnit warnings
          | none =>
              return { outcome :=
                { status := .missing, workUnit := some first,
                  warnings := warnings ++ ["no_ept_resource"] } }

/-! ### The route -/

/-- `_work_unit_to_contract` -/
def workUnitToContract (wu : Option WesmWorkUnit) : Option WorkUnit :=
  wu.map fun wu =>
    { name := wu.name, year := wu.year, qualityLevel := wu.qualityLevel, epsg := some wu.epsg }

def threeDepAttribution : AttributionItem where
  name := "USGS 3DEP"
  license := some "Public Domain (USGS)"
  url := some "https://www.usgs.gov/3d-elevation-program"

/-- `_outcome_to_response` -/
def outcomeToResponse (version : String) (outcome : IngestOutcome) : IngestLidarResponse where
  pipelineSchemaVersion := version
  lidar :=
    match outcome.status with
    | .available =>
        { status := .available
          pointArrayRef := outcome.pointArrayRef
          pointCount := outcome.pointCount
          workUnit := workUnitToContract outcome.workUnit
          source := some .lidar
          confidence := some ⟨19 / 20, by norm_num⟩ }
    | .missing =>
        -- The pipeline degrades to imagery only.
        { status := .missing
          pointArrayRef := none
          pointCount := none
          workUnit := workUnitToContract outcome.workUnit
          source := some .imagery
          confidence := some ⟨0, confidence_zero⟩ }
  utmZone := outcome.utmZone
  boundsUtm := outcome.boundsUtm
  warnings := outcome.warnings
  attribution :=
    match outcome.status with
    | .available => [threeDepAttribution]
    | .missing => []

/-- The longitude of a position. -/
def lon (p : Position) : ℚ := p.val.getD 0 0

/-- The latitude of a position. -/
def lat (p : Position) : ℚ := p.val.getD 1 0

/-- Whether every vertex of a polygon is in range. -/
def verticesInRange (polygon : Polygon) : Bool :=
  polygon.coordinates.val.all fun ring =>
    ring.val.all fun p => decide (InRange (lon p) (lat p))

/-- The `/pipeline/ingest-lidar` route: its response, and the array it has cached. -/
def ingestLidarEndpoint (s : LidarServices) (version : String) (polygon : Polygon) :
    Except Exception (IngestLidarResponse × Option (String × List LidarReturn)) := do
  checkPipelineVersion version
  if ¬ verticesInRange polygon then
    throw (unprocessable "building_polygon has out-of-range WGS84 coordinates")
  else
    match ingestLidar s polygon with
    | .error e => throw (.http 502 s!"lidar ingest failed: {e.typeName}")
    | .ok ingest =>
        return (outcomeToResponse pipelineSchemaVersion ingest.outcome, ingest.cached)

/-! ### What is cached -/

/-- An array is cached only by an ingest that reports it available, in the UTM zone of the
centroid of the building, and together with one of the work units that cover it. -/
structure CachedIn (s : LidarServices) (polygon : Polygon) (ingest : Ingest) (utm : ℤ) :
    Prop where
  zone : utmEpsgFor (s.centroid polygon).1 (s.centroid polygon).2 = .ok utm
  available : ingest.outcome.status = .available
  utmZone : ingest.outcome.utmZone = some utm
  ref : ingest.outcome.pointArrayRef = ingest.cached.map Prod.fst
  key : ∀ c ∈ ingest.cached, c.1 = s!"cache/lidar/{s.addressHash polygon}.npy"
  workUnit : ∃ wu, ingest.outcome.workUnit = some wu

theorem ingestCloud_cached {s : LidarServices} {polygon : Polygon} {cloud : CroppedCloud}
    {wu : WesmWorkUnit} {warnings : List String} {ingest : Ingest}
    (h : ingestCloud s polygon cloud wu warnings = .ok ingest) (hcached : ingest.cached.isSome) :
  ∃ utm, CachedIn s polygon ingest utm
  := by
  unfold ingestCloud at h
  split at h
  · cases h
    cases hcached
  · obtain ⟨utm, hutm, h⟩ := bind_eq_ok.mp h
    cases h
    use utm
    constructor
    · apply hutm
    · rfl
    · rfl
    · rfl
    · rintro c ⟨⟩
      rfl
    · use wu

/-- Whenever an ingest has cached an array, it is in the UTM zone of the centroid. -/
theorem ingestLidar_cached {s : LidarServices} {polygon : Polygon} {ingest : Ingest}
    (h : ingestLidar s polygon = .ok ingest) (hcached : ingest.cached.isSome) :
  ∃ utm, CachedIn s polygon ingest utm
  := by
  simp only [ingestLidar] at h
  split at h
  · cases h
    cases hcached
  · obtain ⟨resolved, -, h⟩ := bind_eq_ok.mp h
    cases resolved with
    | some cloud => apply ingestCloud_cached h hcached
    | none =>
        obtain ⟨covering, -, h⟩ := bind_eq_ok.mp h
        cases covering with
        | some candidate => apply ingestCloud_cached h hcached
        | none =>
            cases h
            cases hcached

/-! ### The response -/

/-- The ingest always sets the source and the confidence of its result. -/
theorem outcomeToResponse_set (version : String) (outcome : IngestOutcome) :
  (outcomeToResponse version outcome).lidar.source.isSome ∧
    (outcomeToResponse version outcome).lidar.confidence.isSome ∧
    ∀ a ∈ (outcomeToResponse version outcome).attribution, a.retrievedAt = none
  := by
  cases h : outcome.status <;> simp [outcomeToResponse, h, threeDepAttribution]

theorem ingestLidarEndpoint_eq_ok {s : LidarServices} {version : String} {polygon : Polygon}
    {r : IngestLidarResponse} {cached : Option (String × List LidarReturn)}
    (h : ingestLidarEndpoint s version polygon = .ok (r, cached)) :
  ∃ ingest, ingestLidar s polygon = .ok ingest ∧ ingest.cached = cached ∧
    r = outcomeToResponse pipelineSchemaVersion ingest.outcome
  := by
  obtain ⟨-, -, h⟩ := bind_eq_ok.mp h
  split at h
  · cases h
  · split at h
    · cases h
    · next ingest hingest =>
      cases h
      use ingest

end Sidecar
