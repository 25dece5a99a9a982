import RoofTrace.Sidecar.FuseCapture
import RoofTrace.Contract.Agreement

/-!
# The CRS from the ingest to the fusion

The ingest reprojects a cloud to the UTM zone of the building and caches it. What it
returns travels through Rails: the LiDAR result is stored with the measurement and sent
along with the fusion request, and the fusion takes from it the EPSG code in which it
reads the cached cloud. But the code it finds there is that of the survey's native CRS, and
the cloud is not in it. Without one the fusion falls back to the GPS origin of the session
manifest, and in either case the zone it derives is a northern one.

What the endpoint should do is a fusion that is told the CRS of the cloud. `FusesIn` says that
it does this for a capture, `CrsAgrees` that it does so for all captures with a GPS origin.
-/

namespace Boundary

open Contract Sidecar Outcome

/-- The endpoint fuses in the CRS `utm`: when it gets as far as an alignment that converges,
then it ends as a fusion does that measures the merged cloud and clips the outline in this CRS,
and reports it. -/
def FusesIn (s : FuseServices) (req : FuseCaptureRequest) (utm : ℤ) : Prop :=
  ∀ capture meshPts, readCapture s req = .ok capture →
    capture.meshPts.mapM finiteVertex = some meshPts →
    (alignMeshToLidar s.open3d meshPts capture.lidarPts).converged = true →
    fuseCaptureEndpoint s req = fusedResponse s req utm utm
      (alignMeshToLidar s.open3d meshPts capture.lidarPts) meshPts capture.lidarPts

/-- A row of the array that the ingest caches. -/
def cachedRow (p : LidarReturn) : List (Option ℚ) :=
  [some p.x, some p.y, some p.z, some p.classification]

/-- The endpoint finds a manifest for the job and the cloud that the ingest has cached. -/
structure Serves (s : FuseServices) (req : FuseCaptureRequest)
    (float : String → Option (Option ℚ)) (manifest : Json (Option ℚ))
    (cached : String × List LidarReturn) : Prop where
  float : s.float = float
  session : ∃ blob, s.getBytes s!"uploads/{req.jobId}/session.json" = some blob ∧
    s.jsonLoads blob = .ok manifest
  cloud : ∃ blob, s.getBytes cached.1 = some blob ∧
    s.npLoad blob = .ok (.matrix 4 (cached.2.map cachedRow))

/-- The endpoint fuses a cached cloud in the CRS `utm`, whatever the mesh, the alignment and
the planes. -/
def CrsAgrees (req : FuseCaptureRequest) (float : String → Option (Option ℚ))
    (manifest : Json (Option ℚ)) (cached : String × List LidarReturn) (utm : ℤ) : Prop :=
  ∀ s, Serves s req float manifest cached → FusesIn s req utm

/-- The endpoint takes the code `utm`, and the zone derived from it is read as this code
again. -/
structure Takes (lidar : Option LiDARResult) (gpsLon : Option ℚ) (utm : ℤ) : Prop where
  taken : fuseUtmEpsg lidar gpsLon = some utm
  read : utmEpsg (fuseUtmZone utm) = .ok utm

/-- When the fusion agrees with an ingest: the building is in the northern hemisphere, and
the native CRS of the survey is the UTM zone of the building, or else there is none and
the phone's GPS origin is in that zone. -/
def SurveyInZone (workUnitEpsg : Option ℤ) (gpsLon : Option ℚ) (centroid : ℚ × ℚ) : Prop :=
  0 ≤ centroid.2 ∧
    match workUnitEpsg with
    | some epsg => epsg = 32600 + zoneOf centroid.1
    | none => ∃ lon ∈ gpsLon, utmZoneFromLon lon = zoneOf centroid.1

/-- When the fusion takes the zone of a point for the CRS. -/
theorem takes_iff {lidar : Option LiDARResult} {gpsLon : Option ℚ} {centroid : ℚ × ℚ}
    {utm : ℤ} (h : utmEpsgFor centroid.1 centroid.2 = .ok utm) :
  Takes lidar gpsLon utm ↔ SurveyInZone (workUnitEpsg lidar) gpsLon centroid
  := by
  have hrange := inRange_of_utmEpsgFor h
  have hutm : utm = (if centroid.2 ≥ 0 then 32600 else 32700) + zoneOf centroid.1 := by
    rw [utmEpsgFor_of_inRange hrange] at h
    apply (Except.ok.inj h).symm
  have hone := one_le_zoneOf centroid.1
  have hsixty := zoneOf_le centroid.1
  have htaken : fuseUtmEpsg lidar gpsLon = some utm ↔
      match workUnitEpsg lidar with
      | some epsg => epsg = utm
      | none => ∃ lon ∈ gpsLon, utmEpsgFromLon lon = utm := by
    rw [fuseUtmEpsg]
    cases workUnitEpsg lidar with
    | some epsg => simp
    | none => simp
  constructor
  · rintro ⟨hfuse, hread⟩
    have hnorth := (utmEpsg_sub_eq_ok_iff utm).mp hread
    have hlat : 0 ≤ centroid.2 := by
      by_contra hsouth
      rw [if_neg hsouth] at hutm
      omega
    rw [if_pos hlat] at hutm
    rw [htaken] at hfuse
    use hlat
    cases hunit : workUnitEpsg lidar with
    | some epsg =>
        rw [hunit] at hfuse
        change epsg = utm at hfuse
        change epsg = _
        rw [hfuse, hutm]
    | none =>
        rw [hunit] at hfuse
        obtain ⟨lon, hlon, hepsg⟩ := hfuse
        use lon, hlon
        rw [utmEpsgFromLon] at hepsg
        omega
  · rintro ⟨hlat, hzone⟩
    rw [if_pos hlat] at hutm
    constructor
    · rw [htaken]
      cases hunit : workUnitEpsg lidar with
      | some epsg =>
          rw [hunit] at hzone
          change epsg = utm
          rw [hutm]
          apply hzone
      | none =>
          rw [hunit] at hzone
          obtain ⟨lon, hlon, hsame⟩ := hzone
          use lon, hlon
          rw [utmEpsgFromLon, hsame, hutm]
    · apply (utmEpsg_sub_eq_ok_iff utm).mpr
      omega

/-! ### The request -/

/-- The LiDAR result of a request is read from its member of that name. -/
theorem load_fuseCaptureRequest_lidar {request : Json ℚ} {req : FuseCaptureRequest}
    (h : load request = some req) :
  loadOptional request "lidar" = some req.lidar
  := by
  change FuseCaptureRequest.load request = some req at h
  rw [FuseCaptureRequest.load] at h
  obtain ⟨-, -, h⟩ := Option.bind_eq_some_iff.mp h
  obtain ⟨version, -, h⟩ := Option.bind_eq_some_iff.mp h
  obtain ⟨jobId, -, h⟩ := Option.bind_eq_some_iff.mp h
  obtain ⟨meshRef, -, h⟩ := Option.bind_eq_some_iff.mp h
  obtain ⟨lidar, hlidar, h⟩ := Option.bind_eq_some_iff.mp h
  obtain ⟨polygon, -, h⟩ := Option.bind_eq_some_iff.mp h
  cases h
  apply hlidar

/-- A LiDAR result that was written out is read back from a request that carries it. -/
theorem load_fuseCaptureRequest_of_dumped {x : Bool} {request : Json ℚ}
    {req : FuseCaptureRequest} {lidar : LiDARResult}
    (hmember : request.member? "lidar" = some (dump x lidar))
    (h : load request = some req) :
  req.lidar = some lidar
  := by
  have hlidar := load_fuseCaptureRequest_lidar h
  rw [loadOptional, hmember] at hlidar
  have hreload := load_dump_option x (some lidar)
  apply Option.some.inj
  rw [← hlidar]
  apply hreload

/-! ### A fusion in the CRS of the cloud -/

/-- A cloud that is read as the cached one has enough points. -/
theorem minLidarPoints_le_of_loadLidar {s : FuseServices} {req : FuseCaptureRequest}
    {float : String → Option (Option ℚ)} {manifest : Json (Option ℚ)}
    {cached : String × List LidarReturn} {lidarPts : List (Vec3 ℚ)}
    (hserves : Serves s req float manifest cached)
    (href : req.lidar.bind (·.pointArrayRef) = some cached.1)
    (h : loadLidar s req.lidar = .ok lidarPts) :
  minLidarPoints ≤ cached.2.length
  := by
  obtain ⟨blob, hblob, harray⟩ := hserves.cloud
  by_contra hfew
  rw [loadLidar, href] at h
  cases hkey : (some cached.1).filter (· ≠ "") with
  | none =>
      rw [hkey] at h
      cases h
  | some key =>
      obtain ⟨hkey', -⟩ := Option.filter_eq_some_iff.mp hkey
      cases hkey'
      rw [hkey] at h
      obtain ⟨raw, hraw, h⟩ := bind_eq_ok.mp h
      simp only [loadBlob, hblob] at hraw
      split at hraw
      · cases hraw
      · cases hraw
        simp only [harray, List.length_map, not_le.mp hfew] at h
        cases h

/-- The endpoint that takes the CRS of the cloud fuses in it. -/
theorem fusesIn_of_takes {s : FuseServices} {req : FuseCaptureRequest}
    {float : String → Option (Option ℚ)} {manifest : Json (Option ℚ)}
    {cached : String × List LidarReturn} {gpsLon : Option ℚ} {utm : ℤ}
    (hserves : Serves s req float manifest cached)
    (hgps : gpsLongitude float manifest = .ok gpsLon) (hutm : utmEpsg utm = .ok utm)
    (htakes : Takes req.lidar gpsLon utm) :
  FusesIn s req utm
  := by
  intro capture meshPts hcapture hmesh hconverged
  obtain ⟨blob, manifest', gpsLon', hblob, hmanifest, hgps', hepsg, -⟩ :=
    readCapture_eq_ok hcapture
  obtain ⟨session, hsession, hjson⟩ := hserves.session
  cases hsession.symm.trans hblob
  cases hjson.symm.trans hmanifest
  rw [hserves.float, hgps] at hgps'
  cases hgps'
  have hgeometry := fuseGeometry_congr (htakes.read.trans hutm.symm) s.planeFit
  have hrun : fuseCaptureEndpoint s req
      = fuseResponse s req capture.utmEpsg meshPts capture.lidarPts := by
    simp only [fuseCaptureEndpoint, hcapture, bind, Except.bind, hmesh]
  rw [hrun, hepsg, htakes.taken]
  simp only [fuseResponse, hconverged, not_true_eq_false, if_false, fusedResponse, hgeometry]

/-! ### A capture that tells CRSs apart -/

/-- Surroundings with a mesh of one point, an alignment that converges, and one plane of no
points. -/
def onePlane (float : String → Option (Option ℚ)) (manifest : Json (Option ℚ))
    (cached : List LidarReturn) : FuseServices where
  Blob := Unit
  getBytes := fun _ => some ()
  size := fun _ => 0
  jsonLoads := fun _ => .ok manifest
  float := float
  lines := fun _ => ["v 0 0 0", "v 0 0 0", "v 0 0 0"]
  npLoad := fun _ => .ok (.matrix 4 (cached.map cachedRow))
  open3d :=
    { registrationIcp := fun _ _ _ init _ => ⟨init, 1, 1 / 10⟩
      pointCloudDistance := fun _ _ => []
      sqrt := id }
  residualOfNonFinite := fun _ _ => .ok 0
  planeFit :=
    { Plane := Unit
      ModelFacet := Unit
      fitPlanes := fun _ => [()]
      mergeCoplanarFacets := id
      inliers := fun _ => 0
      planeFacet := fun _ _ _ => ⟨"", [], 0, 0, 0, 0⟩
      partition := fun _ _ _ _ =>
        .ok ([], [], ⟨"topology-v1", 1, 0, 0, ⟨0, confidence_zero⟩, "", "", []⟩)
      modelFacet := fun _ _ => ⟨"", [], 0, 0, 0, 0⟩
      planViewUnionAreaSqFt := fun _ => none
      totalPerimeterFt := fun _ => none }

theorem onePlane_serves (req : FuseCaptureRequest) (float : String → Option (Option ℚ))
    (manifest : Json (Option ℚ)) (cached : String × List LidarReturn) :
  Serves (onePlane float manifest cached.2) req float manifest cached
  := by
  constructor
  · rfl
  · use (), rfl
    rfl
  · use (), rfl
    rfl

/-- The points of a cached array are those that were cached. -/
theorem mapM_rowPoint (cached : List LidarReturn) :
  (cached.map cachedRow).mapM rowPoint = some (cached.map fun p => ![p.x, p.y, p.z])
  := by
  rw [List.mapM_map]
  apply List.mapM_pure

/-- The capture that is read there. -/
theorem readCapture_onePlane {req : FuseCaptureRequest} {float : String → Option (Option ℚ)}
    {manifest : Json (Option ℚ)} {cached : String × List LidarReturn} {gpsLon : Option ℚ}
    (hversion : checkPipelineVersion req.pipelineSchemaVersion = .ok ())
    (hgps : gpsLongitude float manifest = .ok gpsLon) (hzero : float "0" = some (some 0))
    (href : req.lidar.bind (·.pointArrayRef) = some cached.1) (hkey : cached.1 ≠ "")
    (hcount : minLidarPoints ≤ cached.2.length) :
  readCapture (onePlane float manifest cached.2) req = .ok
    { utmEpsg := fuseUtmEpsg req.lidar gpsLon
      meshPts := List.replicate 3 ![some 0, some 0, some 0]
      lidarPts := cached.2.map fun p => ![p.x, p.y, p.z] }
  := by
  have hvertex : parseVertex float "v 0 0 0" = some ![some 0, some 0, some 0] := by
    have hprefix : ['v', ' '].isPrefixOf "v 0 0 0".toList = true := by decide
    have hwords : splitWords "v 0 0 0" = ["v", "0", "0", "0"] := by decide
    rw [parseVertex, if_pos hprefix, hwords]
    simp only [hzero]
    rfl
  have hmesh : loadMesh (onePlane float manifest cached.2) req.captureMeshRef
      = .ok (List.replicate 3 ![some 0, some 0, some 0]) := by
    have hparse : parseObj float ["v 0 0 0", "v 0 0 0", "v 0 0 0"]
        = .ok (List.replicate 3 ![some 0, some 0, some 0]) := by
      rw [parseObj_eq]
      · simp [objVertices, hvertex, List.replicate]
      · simp [objVertices, hvertex, maxVertices]
    simp only [loadMesh, loadBlob, onePlane, bind, Except.bind, maxBlobBytes, hparse]
    rfl
  have hlidar : loadLidar (onePlane float manifest cached.2) req.lidar
      = .ok (cached.2.map fun p => ![p.x, p.y, p.z]) := by
    have hfilter : (some cached.1).filter (· ≠ "") = some cached.1 := by simp [hkey]
    rw [loadLidar, href, hfilter]
    simp only [loadBlob, onePlane, bind, Except.bind, maxBlobBytes, List.length_map,
      not_lt.mpr hcount, mapM_rowPoint]
    rfl
  simp only [readCapture, hversion, bind, Except.bind]
  simp only [onePlane] at hmesh hlidar ⊢
  simp only [loadBlob, bind, Except.bind, maxBlobBytes, hgps, hmesh, hlidar]
  rfl

theorem align_onePlane (float : String → Option (Option ℚ)) (manifest : Json (Option ℚ))
    (cached : List LidarReturn) (meshPts lidarPts : List (Vec3 ℚ)) :
  (alignMeshToLidar (onePlane float manifest cached).open3d meshPts lidarPts).converged = true ∧
    (alignMeshToLidar (onePlane float manifest cached).open3d meshPts lidarPts).rmseM = 1 / 10
  := by
  have hfit : (1 : ℚ) > fitnessConverged ∧ (1 / 10 : ℚ) > 0 := by norm_num [fitnessConverged]
  have hclose : (1 / 10 : ℚ) < rmseConvergedM := by norm_num [rmseConvergedM]
  simp only [alignMeshToLidar, onePlane, hfit, hclose, and_self, if_true, decide_true]

/-- A fusion in a CRS that is read succeeds there, and reports the CRS. -/
theorem fusedResponse_onePlane {req : FuseCaptureRequest} {float : String → Option (Option ℚ)}
    {manifest : Json (Option ℚ)} {cached : List LidarReturn} {utm : ℤ}
    (hutm : utmEpsg utm = .ok utm) (meshPts lidarPts : List (Vec3 ℚ)) :
  ∃ r, fusedResponse (onePlane float manifest cached) req utm utm
      (alignMeshToLidar (onePlane float manifest cached).open3d meshPts lidarPts) meshPts
      lidarPts = .ok r ∧
    r.utmEpsg = some utm
  := by
  obtain ⟨-, hrmse⟩ := align_onePlane float manifest cached meshPts lidarPts
  have hvalid : (0 : ℚ) ≤ 1 / 10 := by norm_num
  have hgeometry : ∃ geometry, ∀ merged,
      fuseGeometry (onePlane float manifest cached).planeFit merged req.refinedPolygon utm
        = .ok geometry := by
    cases req.refinedPolygon with
    | some polygon =>
        simp only [fuseGeometry, onePlane, buildRoofModel, hutm, buildFacetsFromRoofModel]
        exact ⟨_, fun _ => rfl⟩
    | none =>
        simp only [fuseGeometry, onePlane, buildFacetsFromPlanes, hutm]
        exact ⟨_, fun _ => rfl⟩
  obtain ⟨geometry, hgeometry⟩ := hgeometry
  simp only [fusedResponse, hgeometry, hrmse, validated, hvalid, bind, Except.bind]
  exact ⟨_, rfl, rfl⟩

/-- The mesh that is aligned there is finite. -/
theorem fuseCaptureEndpoint_onePlane {req : FuseCaptureRequest}
    {float : String → Option (Option ℚ)} {manifest : Json (Option ℚ)}
    {cached : String × List LidarReturn} {gpsLon : Option ℚ}
    (hcapture : readCapture (onePlane float manifest cached.2) req = .ok
      { utmEpsg := fuseUtmEpsg req.lidar gpsLon
        meshPts := List.replicate 3 ![some 0, some 0, some 0]
        lidarPts := cached.2.map fun p => ![p.x, p.y, p.z] }) :
  fuseCaptureEndpoint (onePlane float manifest cached.2) req
    = fuseResponse (onePlane float manifest cached.2) req (fuseUtmEpsg req.lidar gpsLon)
        (List.replicate 3 ![0, 0, 0]) (cached.2.map fun p => ![p.x, p.y, p.z])
  := by
  simp only [fuseCaptureEndpoint, hcapture, bind, Except.bind]
  rfl

/-- An endpoint that fuses this capture in the CRS of the cloud has taken it. -/
theorem takes_of_fusesIn {req : FuseCaptureRequest} {float : String → Option (Option ℚ)}
    {manifest : Json (Option ℚ)} {cached : String × List LidarReturn} {gpsLon : Option ℚ}
    {utm : ℤ} (hversion : checkPipelineVersion req.pipelineSchemaVersion = .ok ())
    (hgps : gpsLongitude float manifest = .ok gpsLon) (hzero : float "0" = some (some 0))
    (href : req.lidar.bind (·.pointArrayRef) = some cached.1) (hkey : cached.1 ≠ "")
    (hcount : minLidarPoints ≤ cached.2.length) (hutm : IsUtmEpsg utm)
    (h : FusesIn (onePlane float manifest cached.2) req utm) :
  Takes req.lidar gpsLon utm
  := by
  have hcapture := readCapture_onePlane hversion hgps hzero href hkey hcount
  have hmesh : (List.replicate 3 (![some 0, some 0, some 0] : Vec3 (Option ℚ))).mapM finiteVertex
      = some (List.replicate 3 ![0, 0, 0]) := rfl
  have hrun := h _ _ hcapture hmesh (align_onePlane float manifest cached.2 _ _).1
  obtain ⟨r, hfused, hreported⟩ := fusedResponse_onePlane (utmEpsg_of_isUtmEpsg hutm) _ _
  rw [hfused] at hrun
  rw [fuseCaptureEndpoint_onePlane hcapture] at hrun
  obtain hunfused | ⟨epsg, htaken, hfusion⟩ := fuseResponse_cases hrun
  · rw [hunfused.utmEpsg] at hreported
    cases hreported
  · obtain rfl : epsg = utm := Option.some.inj (hfusion.utmEpsg.symm.trans hreported)
    obtain ⟨merged, geometry, hgeometry, -⟩ := hfusion.measurement
    obtain ⟨e, he⟩ := utmEpsg_of_fuseGeometry (List.cons_ne_nil () []) hgeometry
    use htaken
    apply utmEpsg_sub_of_isUtmEpsg hutm he

/-- For every building, survey and phone: when the ingest has cached a cloud, and the fusion is
requested with the LiDAR result of its response, then the ingest has reprojected the cloud to
the zone of the centroid, and the endpoint fuses it in that zone exactly when the survey or,
without one, the GPS origin is in it, in the northern hemisphere, or the cloud has so few
points that it is refused. -/
theorem fusion_crs_agrees_iff (s : LidarServices) (version : String) (polygon : Polygon)
    (r : IngestLidarResponse) (cached : String × List LidarReturn) (request : Json ℚ)
    (req : FuseCaptureRequest) (float : String → Option (Option ℚ))
    (manifest : Json (Option ℚ)) (gpsLon : Option ℚ)
    (hingest : ingestLidarEndpoint s version polygon = .ok (r, some cached))
    (hlidar : request.member? "lidar" = some (dump false r.lidar))
    (hload : load request = some req)
    (hversion : checkPipelineVersion req.pipelineSchemaVersion = .ok ())
    (hzero : float "0" = some (some 0)) (hgps : gpsLongitude float manifest = .ok gpsLon) :
  ∃ utm, r.utmZone = some utm ∧
    utmEpsgFor (s.centroid polygon).1 (s.centroid polygon).2 = .ok utm ∧
    utmEpsg utm = .ok utm ∧
    (CrsAgrees req float manifest cached utm ↔
      cached.2.length < minLidarPoints ∨
        SurveyInZone (workUnitEpsg (some r.lidar)) gpsLon (s.centroid polygon))
  := by
  obtain ⟨ingest, hok, hcached, rfl⟩ := ingestLidarEndpoint_eq_ok hingest
  obtain ⟨utm, hzone⟩ := ingestLidar_cached hok (by rw [hcached]; rfl)
  have hutm := isUtmEpsg_of_utmEpsgFor hzone.zone
  have hreq := load_fuseCaptureRequest_of_dumped hlidar hload
  have href : req.lidar.bind (·.pointArrayRef) = some cached.1 := by
    rw [hreq]
    have hsame := hzone.ref
    rw [hcached] at hsame
    simpa [outcomeToResponse, hzone.available] using hsame
  have hkey : cached.1 ≠ "" := by
    rw [hzone.key cached hcached]
    intro hempty
    have hlength := congrArg String.length hempty
    simp only [String.length_append] at hlength
    have hsuffix : (toString ".npy").length = 4 := rfl
    change _ = 0 at hlength
    omega
  use utm, hzone.utmZone, hzone.zone, utmEpsg_of_isUtmEpsg hutm
  rw [← takes_iff hzone.zone, ← hreq]
  constructor
  · intro hagrees
    by_cases hcount : minLidarPoints ≤ cached.2.length
    · right
      apply takes_of_fusesIn hversion hgps hzero href hkey hcount hutm
      apply hagrees _ (onePlane_serves req float manifest cached)
    · left
      apply not_le.mp hcount
  · rintro (hfew | htakes) s' hserves
    · intro capture meshPts hcapture
      obtain ⟨-, -, -, -, -, -, -, hpoints⟩ := readCapture_eq_ok hcapture
      have hcount := minLidarPoints_le_of_loadLidar hserves href hpoints
      omega
    · apply fusesIn_of_takes hserves hgps (utmEpsg_of_isUtmEpsg hutm) htakes

/-! ### A survey in the zone, and one next to it -/

/-- A square building in Austin. -/
def austinPolygon : Polygon where
  coordinates :=
    ⟨[⟨[⟨[-9775 / 100, 3025 / 100], by decide⟩, ⟨[-9774 / 100, 3025 / 100], by decide⟩,
        ⟨[-9774 / 100, 3026 / 100], by decide⟩, ⟨[-9775 / 100, 3025 / 100], by decide⟩],
        by decide⟩], by decide⟩
  source := some .imagery
  confidence := some ⟨9 / 10, confidence_nine_tenths⟩

/-- A hundred points of its roof. -/
def austinCloud : List LidarReturn := List.replicate 100 ⟨620000, 3347000, 150, 6⟩

/-- The surroundings of an ingest of that building, from a survey whose native CRS is
`epsg`. -/
def austinServices (epsg : ℤ) : LidarServices where
  bounds := fun _ => ⟨[-9775 / 100, 3025 / 100, -9774 / 100, 3026 / 100], rfl⟩
  centroid := fun _ => (-97745 / 1000, 30255 / 1000)
  query := fun _ => [⟨"TX_Central_2021", epsg, some 2021, some "QL2"⟩]
  resolveEpt := fun _ => some ["TX_Central_2021"]
  crop := fun _ _ _ => .ok ⟨austinCloud, 3857⟩
  transform := fun _ _ p => p
  addressHash := fun _ => "5a1f"
  currentYear := 2026

def austinCached : String × List LidarReturn := ("cache/lidar/5a1f.npy", austinCloud)

def austinOutcome (epsg : ℤ) : IngestOutcome where
  status := .available
  pointArrayRef := some "cache/lidar/5a1f.npy"
  pointCount := some 100
  workUnit := some ⟨"TX_Central_2021", epsg, some 2021, some "QL2"⟩
  utmZone := some 32614
  boundsUtm := some ⟨[620000, 3347000, 620000, 3347000], rfl⟩

def austinResponse (epsg : ℤ) : IngestLidarResponse := outcomeToResponse "0.6.0" (austinOutcome epsg)

theorem austin_ingest (epsg : ℤ) :
  ingestLidarEndpoint (austinServices epsg) "0.6.0" austinPolygon
    = .ok (austinResponse epsg, some austinCached)
  := by
  have hversion : checkPipelineVersion "0.6.0" = .ok () := by decide
  have hvertices : verticesInRange austinPolygon = true := by decide +kernel
  have hzone : utmEpsgFor (-97745 / 1000) (30255 / 1000) = .ok 32614 := by decide +kernel
  have hpoints : extractBuildingPoints austinCloud
      = (⟨620000, 3347000, 150, 6⟩ :: List.replicate 99 ⟨620000, 3347000, 150, 6⟩, .class6) := by
    decide +kernel
  have hutm : reprojectPoints (austinServices epsg)
      (⟨620000, 3347000, 150, 6⟩ :: List.replicate 99 ⟨620000, 3347000, 150, 6⟩) 3857 32614
        = austinCloud := by
    simp [reprojectPoints, austinServices, austinCloud, List.replicate]
  have hcount : austinCloud.length = 100 := rfl
  have hxs : (austinCloud.map (·.x)).min? = some 620000 ∧
      (austinCloud.map (·.x)).max? = some 620000 := by decide +kernel
  have hys : (austinCloud.map (·.y)).min? = some 3347000 ∧
      (austinCloud.map (·.y)).max? = some 3347000 := by decide +kernel
  have hcloud : ingestLidar (austinServices epsg) austinPolygon
      = .ok ⟨austinOutcome epsg, some austinCached⟩ := by
    simp only [austinServices] at hutm
    simp only [ingestLidar, austinServices, cropResolved, Option.getD_some, bind, Except.bind, pure,
      Except.pure, ingestCloud, hpoints, hzone, hutm, hcount, hxs, hys]
    rfl
  simp only [ingestLidarEndpoint, hversion, hvertices, bind, Except.bind, hcloud]
  rfl

/-- A request that carries the LiDAR result of the ingest. -/
def austinRequest (epsg : ℤ) : Json ℚ :=
  .obj
    [("pipelineSchemaVersion", .str "0.6.0"),
     ("job_id", .str "7f0c6b1e-5d0c-4a52-9a7a-3f1f6f0f1c11"),
     ("capture_mesh_ref", .str "uploads/7f0c6b1e/arkit_mesh.obj"),
     ("lidar", dump false (austinResponse epsg).lidar)]

def austinFusion (epsg : ℤ) : FuseCaptureRequest where
  pipelineSchemaVersion := "0.6.0"
  jobId := "7f0c6b1e-5d0c-4a52-9a7a-3f1f6f0f1c11"
  captureMeshRef := "uploads/7f0c6b1e/arkit_mesh.obj"
  lidar := some (austinResponse epsg).lidar
  refinedPolygon := none

theorem load_austinRequest (epsg : ℤ) :
  load (austinRequest epsg) = some (austinFusion epsg)
  := by
  have hlidar : loadOptional (austinRequest epsg) "lidar"
      = some (some (austinResponse epsg).lidar) :=
    load_dump_option false (some (austinResponse epsg).lidar)
  change FuseCaptureRequest.load (austinRequest epsg) = _
  rw [FuseCaptureRequest.load, hlidar]
  rfl

/-- The manifest of a session next to the building. -/
def austinManifest : Json (Option ℚ) :=
  .obj
    [("job_id", .str "7f0c6b1e-5d0c-4a52-9a7a-3f1f6f0f1c11"),
     ("gps_origin",
       .obj [("latitude", .num (some (3025 / 100))), ("longitude", .num (some (-97)))])]

/-- `float` of a string of digits. -/
def readDigits (text : String) : Option (Option ℚ) :=
  if text ≠ "" ∧ text.toList.all Char.isDigit then
    some (some (text.toList.foldl (fun n c => 10 * n + (c.toNat - 48)) 0 : ℕ))
  else
    none

theorem gpsLongitude_austin :
  gpsLongitude readDigits austinManifest = .ok (some (-97))
  := by
  have hlat : ¬ floatOverflow ≤ |(3025 / 100 : ℚ)| := by decide +kernel
  have hlon : ¬ floatOverflow ≤ |(-97 : ℚ)| := by decide +kernel
  have hrange : ((-90 : ℚ) ≤ 3025 / 100 ∧ (3025 / 100 : ℚ) ≤ 90) ∧
      ((-180 : ℚ) ≤ -97 ∧ (-97 : ℚ) ≤ 180) := by norm_num
  have hlatitude : coerceFiniteCoordinate readDigits (.num (some (3025 / 100))) "latitude"
      = .ok (3025 / 100) := by
    simp only [coerceFiniteCoordinate, pyFloat, if_neg hlat]
    rfl
  have hlongitude : coerceFiniteCoordinate readDigits (.num (some (-97))) "longitude"
      = .ok (-97) := by
    simp only [coerceFiniteCoordinate, pyFloat, if_neg hlon]
    rfl
  change (do
    let lat ← coerceFiniteCoordinate readDigits (.num (some (3025 / 100))) "latitude"
    let lon ← coerceFiniteCoordinate readDigits (.num (some (-97))) "longitude"
    if ¬ (-90 ≤ lat ∧ lat ≤ 90) then
      throw (unprocessable "gps_origin.latitude must be within [-90, 90]")
    if ¬ (-180 ≤ lon ∧ lon ≤ 180) then
      throw (unprocessable "gps_origin.longitude must be within [-180, 180]")
    return some lon) = _
  simp only [hlatitude, hlongitude, bind, Except.bind, hrange]
  rfl

/-- A survey in WGS84 / UTM 14N: the cloud is fused in its CRS. -/
theorem fusion_crs_austin :
  CrsAgrees (austinFusion 32614) readDigits austinManifest austinCached 32614
  := by
  obtain ⟨utm, hutm, -, -, hiff⟩ := fusion_crs_agrees_iff (austinServices 32614) "0.6.0"
    austinPolygon (austinResponse 32614) austinCached (austinRequest 32614) (austinFusion 32614)
    readDigits austinManifest (some (-97)) (austin_ingest 32614) rfl (load_austinRequest 32614)
    (by decide) (by decide +kernel) gpsLongitude_austin
  obtain rfl : 32614 = utm := Option.some.inj hutm
  apply hiff.mpr
  right
  constructor
  · decide +kernel
  · change (32614 : ℤ) = 32600 + zoneOf (-97745 / 1000)
    decide +kernel

/-- The same building from a survey in NAD83 / UTM 14N: the cloud is cached in WGS84 / UTM
14N, but the endpoint takes it to be in the CRS of the survey, and then does not read the zone
it derives. -/
theorem fusion_crs_nad83 :
  ingestLidarEndpoint (austinServices 26914) "0.6.0" austinPolygon
      = .ok (austinResponse 26914, some austinCached) ∧
    (austinResponse 26914).utmZone = some 32614 ∧
    fuseCaptureEndpoint (onePlane readDigits austinManifest austinCloud) (austinFusion 26914)
      = .error (.valueError "utm_zone -5686 is neither a UTM EPSG code nor a zone 1..60") ∧
    ¬ CrsAgrees (austinFusion 26914) readDigits austinManifest austinCached 32614
  := by
  have hversion : checkPipelineVersion (austinFusion 26914).pipelineSchemaVersion = .ok () := by
    decide
  have hzero : readDigits "0" = some (some 0) := by decide +kernel
  have hcount : minLidarPoints ≤ austinCached.2.length := by decide +kernel
  have hzone : utmEpsg (-5686) = .error
      (.valueError "utm_zone -5686 is neither a UTM EPSG code nor a zone 1..60") := by
    decide
  refine ⟨austin_ingest 26914, rfl, ?_, ?_⟩
  · have hrun := fuseCaptureEndpoint_onePlane
      (@readCapture_onePlane (austinFusion 26914) _ _ austinCached _ hversion gpsLongitude_austin
        hzero rfl (by decide) hcount)
    have htaken : fuseUtmEpsg (austinFusion 26914).lidar (some (-97)) = some 26914 := rfl
    have hpolygon : (austinFusion 26914).refinedPolygon = none := rfl
    obtain ⟨hconverged, -⟩ := align_onePlane readDigits austinManifest austinCached.2
      (List.replicate 3 ![0, 0, 0]) (austinCached.2.map fun p => ![p.x, p.y, p.z])
    have hgeometry (merged : List (Vec3 ℚ)) :
        fuseGeometry (onePlane readDigits austinManifest austinCached.2).planeFit merged none
          (fuseUtmZone 26914)
          = .error (.valueError "utm_zone -5686 is neither a UTM EPSG code nor a zone 1..60") := by
      simp only [fuseGeometry, onePlane, buildFacetsFromPlanes, fuseUtmZone, Int.reduceSub, hzone,
        bind, Except.bind]
    refine hrun.trans ?_
    simp only [fuseResponse, hconverged, not_true_eq_false, if_false, htaken, fusedResponse,
      hpolygon, hgeometry, bind, Except.bind]
  · intro hagrees
    have htakes := takes_of_fusesIn hversion gpsLongitude_austin hzero rfl (by decide) hcount
      (.inl (by decide)) (hagrees _ (onePlane_serves _ _ _ _))
    cases htakes.taken

end Boundary
