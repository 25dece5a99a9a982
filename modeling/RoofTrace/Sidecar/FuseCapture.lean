import RoofTrace.Contract.Load
import RoofTrace.Sidecar.Icp
import RoofTrace.Sidecar.Lidar
import RoofTrace.Sidecar.Mesh
import RoofTrace.Sidecar.PlaneFit

/-!
# The fusion endpoint

`POST /pipeline/fuse-capture` (`fuse_capture/router.py`): load the session manifest, the
capture mesh and the cached LiDAR cloud, align the mesh to the cloud, and on convergence
fit planes to both and measure the roof. Every check along the way ends the request with a
response of its own; the checks are made in the order of the source.

Stored blobs and what is read from their bytes, the registration and the plane geometry
are a `FuseServices`. Numbers of a manifest, a mesh or an array may be NaN or infinite, and
are then `none`.
-/

namespace Sidecar

open Contract Outcome

/-- An array read from a `.npy` file: a matrix of numbers, or something else. -/
inductive NpArray where
  | matrix (columns : ℕ) (rows : List (List (Option ℚ)))
  | other

structure FuseServices where
  Blob : Type
  /-- `storage.get_bytes`; `none` is a `StorageError`. -/
  getBytes : String → Option Blob
  size : Blob → ℕ
  /-- `json.loads`; an error is the name of the exception. -/
  jsonLoads : Blob → Except String (Json (Option ℚ))
  /-- `float` of a string; `none` is a `ValueError`. -/
  float : String → Option (Option ℚ)
  /-- The lines of a blob decoded as UTF-8. -/
  lines : Blob → List String
  /-- `np.load`; an error is the name of the exception. -/
  npLoad : Blob → Except String NpArray
  open3d : Open3d
  /-- The residual of the alignment of a mesh with a vertex that is not finite: the seed is not
  finite either, so that no points correspond and the alignment does not converge; or an
  exception. -/
  residualOfNonFinite : List (Vec3 (Option ℚ)) → List (Vec3 ℚ) → Except Exception ℚ
  planeFit : PlaneFit

def maxBlobBytes : ℕ := 256 * 1024 * 1024

def minLidarPoints : ℕ := 100

/-- `_load_blob` -/
def loadBlob (s : FuseServices) (ref what : String) : Except Exception s.Blob := do
  let some raw := s.getBytes ref | throw (unprocessable s!"{what} could not be read")
  if s.size raw > maxBlobBytes then
    throw (.http 413 s!"{what} exceeds the maximum allowed size")
  return raw

/-- The least integer that is too large for a float. -/
def floatOverflow : ℚ := 2 ^ 1024 - 2 ^ 970

/-- `float` of a value of a manifest, when it does not raise a `TypeError` or a `ValueError`.
An integer may be too large. -/
def pyFloat (float : String → Option (Option ℚ)) :
    Json (Option ℚ) → Except Exception (Option (Option ℚ))
  | .num (some x) =>
      if floatOverflow ≤ |x| then throw (.other "OverflowError") else return some (some x)
  | .num none => return some none
  | .bool b => return some (some (if b then 1 else 0))
  | .str text => return float text
  | _ => return none

/-- `_coerce_finite_coordinate` -/
def coerceFiniteCoordinate (float : String → Option (Option ℚ)) (value : Json (Option ℚ))
    (name : String) : Except Exception ℚ := do
  match (← pyFloat float value).join with
  | some x => return x
  | none => throw (unprocessable s!"gps_origin.{name} must be a finite number")

/-- The longitude of the GPS origin of a manifest, when there is one. -/
def gpsLongitude (float : String → Option (Option ℚ)) (manifest : Json (Option ℚ)) :
    Except Exception (Option ℚ) :=
  match manifest with
  | .obj _ =>
      match manifest.get "gps_origin" with
      | .null => return none
      | gpsSeed =>
          match gpsSeed.member? "latitude", gpsSeed.member? "longitude" with
          | some latitude, some longitude => do
              let lat ← coerceFiniteCoordinate float latitude "latitude"
              let lon ← coerceFiniteCoordinate float longitude "longitude"
              if ¬ (-90 ≤ lat ∧ lat ≤ 90) then
                throw (unprocessable "gps_origin.latitude must be within [-90, 90]")
              if ¬ (-180 ≤ lon ∧ lon ≤ 180) then
                throw (unprocessable "gps_origin.longitude must be within [-180, 180]")
              return some lon
          | _, _ =>
              throw (unprocessable
                "gps_origin is present but malformed (missing latitude or longitude)")
  | _ => throw .attributeError

/-- The EPSG code of the work unit of a request, when it has one that is not zero. -/
def workUnitEpsg (lidar : Option LiDARResult) : Option ℤ :=
  truthy ((lidar.bind (·.workUnit)).bind (·.epsg))

/-- The EPSG code the endpoint takes for the LiDAR cloud: that of the work unit, or else
the one of the GPS origin. -/
def fuseUtmEpsg (lidar : Option LiDARResult) (gpsLon : Option ℚ) : Option ℤ :=
  (workUnitEpsg lidar).or (gpsLon.map utmEpsgFromLon)

/-- The zone that the plane geometry is given. -/
def fuseUtmZone (utmEpsg : ℤ) : ℤ := utmEpsg - 32600

/-- The vertices of the capture mesh. -/
def loadMesh (s : FuseServices) (captureMeshRef : String) :
    Except Exception (List (Vec3 (Option ℚ))) := do
  let meshBytes ← loadBlob s captureMeshRef "capture mesh"
  match parseObj s.float (s.lines meshBytes) with
  | .error detail => throw (unprocessable detail)
  | .ok meshPts =>
      if meshPts.length < 3 then
        throw (unprocessable "capture mesh has too few vertices to align")
      return meshPts

/-- A vertex whose coordinates are finite. -/
def finiteVertex (v : Vec3 (Option ℚ)) : Option (Vec3 ℚ) := do
  let x ← v 0
  let y ← v 1
  let z ← v 2
  return ![x, y, z]

/-- The first three numbers of a row, when they are finite. -/
def rowPoint : List (Option ℚ) → Option (Vec3 ℚ)
  | some x :: some y :: some z :: _ => some ![x, y, z]
  | _ => none

/-- The points of the cached LiDAR array. -/
def loadLidar (s : FuseServices) (lidar : Option LiDARResult) :
    Except Exception (List (Vec3 ℚ)) := do
  let some ref := (lidar.bind (·.pointArrayRef)).filter (· ≠ "")
    | throw (unprocessable "lidar.point_array_ref is required for fusion")
  let lidarBytes ← loadBlob s ref "lidar point array"
  match s.npLoad lidarBytes with
  | .error type =>
      throw (unprocessable s!"lidar point array is not a valid .npy: {type}")
  | .ok .other =>
      throw (unprocessable "lidar point array must be a 2-D ndarray of shape (N, >=3)")
  | .ok (.matrix columns rows) =>
      if columns < 3 then
        throw (unprocessable "lidar point array must be a 2-D ndarray of shape (N, >=3)")
      if rows.length < minLidarPoints then
        throw (unprocessable
          s!"lidar point array has too few points to align (need >= {minLidarPoints})")
      let some lidarPts := rows.mapM rowPoint
        | throw (unprocessable "lidar point array contains non-finite coordinates")
      return lidarPts

/-- The measurement of the merged cloud in the zone `utmZone`. -/
def fuseGeometry (pf : PlaneFit) (merged : List (Vec3 ℚ)) (refinedPolygon : Option Polygon)
    (utmZone : ℤ) : Except Exception MeasurementGeometry := do
  match pf.fitPlanes merged with
  | [] => assembleMeasurement pf [] .fusion [] none
  | planes =>
      let mergedPlanes := pf.mergeCoplanarFacets planes
      match refinedPolygon with
      | some polygon =>
          let (modelFacets, warnings, diagnostics) ←
            buildRoofModel pf mergedPlanes merged polygon utmZone
          let facets ← buildFacetsFromRoofModel pf modelFacets utmZone .fusion
          assembleMeasurement pf facets .fusion warnings (some diagnostics)
      | none =>
          let facets ← buildFacetsFromPlanes pf mergedPlanes merged utmZone .fusion
          assembleMeasurement pf facets .fusion [] none

/-- The measurement of a response, from the geometry of the merged cloud. -/
def fusedMeasurement (jobId : String) (geometry : MeasurementGeometry) : Measurement where
  jobId := jobId
  facets := geometry.facets
  features := []
  totalAreaSqFt := some geometry.totalAreaSqFt
  predominantPitchRatio := geometry.primaryPitchRatio
  source := .fusion
  confidence := geometry.confidence

/-- The entries of a transform, row after row. -/
def flatten (M : Transform ℚ) : ListOf 16 ℚ :=
  ⟨(List.finRange 4).flatMap fun i => (List.finRange 4).map fun j => M i j, rfl⟩

/-- The response that leaves the measurement by LiDAR as it is. -/
def unfusedResponse (req : FuseCaptureRequest) (rmseM : ℚ) :
    Except Exception FuseCaptureResponse := do
  let rmse ← validated (0 ≤ ·) rmseM
  return {
    pipelineSchemaVersion
    jobId := req.jobId
    measurement := none
    icpRmseM := some rmse }

/-- The response to an alignment that has converged, in the CRS `epsg`; `utmZone` is what the
plane fit is told of it. -/
def fusedResponse (s : FuseServices) (req : FuseCaptureRequest) (epsg utmZone : ℤ)
    (result : AlignResult) (meshPts lidarPts : List (Vec3 ℚ)) :
    Except Exception FuseCaptureResponse := do
  let alignedMesh := meshPts.map result.transformation.point
  let geometry ← fuseGeometry s.planeFit (lidarPts ++ alignedMesh) req.refinedPolygon utmZone
  let rmse ← validated (0 ≤ ·) result.rmseM
  return {
    pipelineSchemaVersion
    jobId := req.jobId
    measurement := some (fusedMeasurement req.jobId geometry)
    icpRmseM := some rmse
    arkitToUtm := some (flatten result.transformation)
    utmEpsg := some epsg }

/-- The response to an alignment. -/
def fuseResponse (s : FuseServices) (req : FuseCaptureRequest) (utmEpsg : Option ℤ)
    (meshPts lidarPts : List (Vec3 ℚ)) : Except Exception FuseCaptureResponse :=
  let result := alignMeshToLidar s.open3d meshPts lidarPts
  if ¬ result.converged then
    -- The LiDAR-only measurement stays canonical.
    unfusedResponse req result.rmseM
  else
    match utmEpsg with
    | none => unfusedResponse req result.rmseM
    | some epsg => fusedResponse s req epsg (fuseUtmZone epsg) result meshPts lidarPts

/-- What a request is fused from. -/
structure FusionInputs where
  utmEpsg : Option ℤ
  meshPts : List (Vec3 (Option ℚ))
  lidarPts : List (Vec3 ℚ)

/-- The part of `fuse_capture_endpoint` before the alignment. -/
def readCapture (s : FuseServices) (req : FuseCaptureRequest) : Except Exception FusionInputs := do
  checkPipelineVersion req.pipelineSchemaVersion
  let sessionBytes ← loadBlob s s!"uploads/{req.jobId}/session.json" "session manifest"
  match s.jsonLoads sessionBytes with
  | .error type =>
      if type = "JSONDecodeError" then
        throw (unprocessable "session manifest is not valid JSON")
      else throw (.other type)
  | .ok manifest =>
      let gpsLon ← gpsLongitude s.float manifest
      let utmEpsg := fuseUtmEpsg req.lidar gpsLon
      let meshPts ← loadMesh s req.captureMeshRef
      let lidarPts ← loadLidar s req.lidar
      return { utmEpsg, meshPts, lidarPts }

/-- `fuse_capture_endpoint` -/
def fuseCaptureEndpoint (s : FuseServices) (req : FuseCaptureRequest) :
    Except Exception FuseCaptureResponse := do
  let capture ← readCapture s req
  match capture.meshPts.mapM finiteVertex with
  | some meshPts => fuseResponse s req capture.utmEpsg meshPts capture.lidarPts
  | none =>
      let rmseM ← s.residualOfNonFinite capture.meshPts capture.lidarPts
      unfusedResponse req rmseM

/-! ### What the endpoint returns -/

/-- A response without a measurement: the alignment has failed, or there is no CRS to
measure in. -/
structure Unfused (req : FuseCaptureRequest) (r : FuseCaptureResponse) : Prop where
  jobId : r.jobId = req.jobId
  measurement : r.measurement = none
  arkitToUtm : r.arkitToUtm = none
  utmEpsg : r.utmEpsg = none

/-- A response with a measurement of the merged cloud, made in the zone of `epsg`. -/
structure Fused (s : FuseServices) (req : FuseCaptureRequest) (epsg : ℤ)
    (r : FuseCaptureResponse) : Prop where
  jobId : r.jobId = req.jobId
  measurement : ∃ merged geometry,
    fuseGeometry s.planeFit merged req.refinedPolygon (fuseUtmZone epsg) = .ok geometry ∧
    r.measurement = some (fusedMeasurement req.jobId geometry)
  icpRmseM : ∃ rmse, r.icpRmseM = some rmse ∧ rmse.val < rmseConvergedM
  arkitToUtm : r.arkitToUtm.isSome
  utmEpsg : r.utmEpsg = some epsg

theorem unfused_of_unfusedResponse {req : FuseCaptureRequest} {rmseM : ℚ}
    {r : FuseCaptureResponse} (h : unfusedResponse req rmseM = .ok r) :
  Unfused req r
  := by
  obtain ⟨rmse, -, h⟩ := bind_eq_ok.mp h
  cases h
  constructor <;> rfl

theorem fuseResponse_cases {s : FuseServices} {req : FuseCaptureRequest} {utmEpsg : Option ℤ}
    {meshPts lidarPts : List (Vec3 ℚ)} {r : FuseCaptureResponse}
    (h : fuseResponse s req utmEpsg meshPts lidarPts = .ok r) :
  Unfused req r ∨ ∃ epsg, utmEpsg = some epsg ∧ Fused s req epsg r
  := by
  simp only [fuseResponse] at h
  split at h
  · exact .inl (unfused_of_unfusedResponse h)
  · next hconverged =>
    rw [not_not] at hconverged
    cases utmEpsg with
    | none => exact .inl (unfused_of_unfusedResponse h)
    | some epsg =>
        obtain ⟨geometry, hgeometry, h⟩ := bind_eq_ok.mp h
        obtain ⟨rmse, hrmse, h⟩ := bind_eq_ok.mp h
        cases h
        right
        use epsg, rfl
        constructor
        · rfl
        · exact ⟨_, geometry, hgeometry, rfl⟩
        · use rmse, rfl
          rw [← validated_eq_ok_iff.mp hrmse]
          apply rmseM_lt_of_converged hconverged
        · rfl
        · rfl

/-- What has been read for a fusion, the CRS of the work unit or the GPS origin among it. -/
theorem readCapture_eq_ok {s : FuseServices} {req : FuseCaptureRequest} {capture : FusionInputs}
    (h : readCapture s req = .ok capture) :
  ∃ blob manifest gpsLon,
    s.getBytes s!"uploads/{req.jobId}/session.json" = some blob ∧
    s.jsonLoads blob = .ok manifest ∧ gpsLongitude s.float manifest = .ok gpsLon ∧
    capture.utmEpsg = fuseUtmEpsg req.lidar gpsLon ∧
    loadLidar s req.lidar = .ok capture.lidarPts
  := by
  obtain ⟨-, -, h⟩ := bind_eq_ok.mp h
  obtain ⟨blob, hblob, h⟩ := bind_eq_ok.mp h
  cases hmanifest : s.jsonLoads blob with
  | error type =>
      simp only [hmanifest] at h
      split at h <;> cases h
  | ok manifest =>
      simp only [hmanifest] at h
      obtain ⟨gpsLon, hgps, h⟩ := bind_eq_ok.mp h
      obtain ⟨meshPts, -, h⟩ := bind_eq_ok.mp h
      obtain ⟨lidarPts, hlidar, h⟩ := bind_eq_ok.mp h
      cases h
      refine ⟨blob, manifest, gpsLon, ?_, hmanifest, hgps, rfl, hlidar⟩
      cases hbytes : s.getBytes s!"uploads/{req.jobId}/session.json" with
      | none =>
          simp only [loadBlob, hbytes] at hblob
          cases hblob
      | some raw =>
          simp only [loadBlob, hbytes] at hblob
          split at hblob
          · cases hblob
          · cases hblob
            rfl

/-- A response the endpoint returns is without a measurement, or measured in the CRS that
was taken from the work unit or the GPS origin. -/
theorem fuseCaptureEndpoint_cases {s : FuseServices} {req : FuseCaptureRequest}
    {r : FuseCaptureResponse} (h : fuseCaptureEndpoint s req = .ok r) :
  Unfused req r ∨
    ∃ gpsLon epsg, fuseUtmEpsg req.lidar gpsLon = some epsg ∧ Fused s req epsg r
  := by
  obtain ⟨capture, hcapture, h⟩ := bind_eq_ok.mp h
  obtain ⟨-, -, gpsLon, -, -, -, hepsg, -⟩ := readCapture_eq_ok hcapture
  split at h
  · obtain hunfused | ⟨epsg, hsome, hfused⟩ := fuseResponse_cases h
    · exact .inl hunfused
    · exact .inr ⟨gpsLon, epsg, hepsg.symm.trans hsome, hfused⟩
  · obtain ⟨rmseM, -, h⟩ := bind_eq_ok.mp h
    exact .inl (unfused_of_unfusedResponse h)

/-- The measurement of a response has no features, and none of the optional entities. -/
theorem fuseCaptureEndpoint_measurement {s : FuseServices} {req : FuseCaptureRequest}
    {r : FuseCaptureResponse} (h : fuseCaptureEndpoint s req = .ok r) :
  ∀ m ∈ r.measurement, m.features = [] ∧ m.footprint = none ∧ m.roofOutline = none ∧
    m.lidar = none
  := by
  intro m hm
  obtain hunfused | ⟨gpsLon, epsg, -, hfused⟩ := fuseCaptureEndpoint_cases h
  · rw [hunfused.measurement] at hm
    cases hm
  · obtain ⟨merged, geometry, -, hgeometry⟩ := hfused.measurement
    rw [hgeometry] at hm
    cases hm
    use rfl, rfl, rfl
    rfl

/-- The geometry depends on the zone by the CRS that is read from it. -/
theorem fuseGeometry_congr {utmZone utmZone' : ℤ} (h : utmEpsg utmZone = utmEpsg utmZone')
    (pf : PlaneFit) (merged : List (Vec3 ℚ)) (refinedPolygon : Option Polygon) :
  fuseGeometry pf merged refinedPolygon utmZone = fuseGeometry pf merged refinedPolygon utmZone'
  := by
  simp only [fuseGeometry, buildRoofModel, buildFacetsFromRoofModel, buildFacetsFromPlanes, h]

/-- A geometry that was made of some planes was made in a zone that is read. -/
theorem utmEpsg_of_fuseGeometry {pf : PlaneFit} {merged : List (Vec3 ℚ)}
    {refinedPolygon : Option Polygon} {utmZone : ℤ} {geometry : MeasurementGeometry}
    (hplanes : pf.fitPlanes merged ≠ [])
    (h : fuseGeometry pf merged refinedPolygon utmZone = .ok geometry) :
  ∃ epsg, utmEpsg utmZone = .ok epsg
  := by
  obtain ⟨plane, planes, hfit⟩ := List.exists_cons_of_ne_nil hplanes
  rw [fuseGeometry, hfit] at h
  cases refinedPolygon with
  | some polygon =>
      obtain ⟨model, hmodel, -⟩ := bind_eq_ok.mp h
      obtain ⟨epsg, hepsg, -⟩ := bind_eq_ok.mp hmodel
      use epsg, hepsg
  | none =>
      obtain ⟨facets, hfacets, -⟩ := bind_eq_ok.mp h
      obtain ⟨epsg, hepsg, -⟩ := bind_eq_ok.mp hfacets
      use epsg, hepsg

end Sidecar
