import RoofTrace.Contract.Agreement
import RoofTrace.Rails.SidecarClient
import RoofTrace.Sidecar.FuseCapture
import RoofTrace.Sidecar.ResolveAddress

/-!
# Responses across the boundary

What the sidecar returns and what the client accepts. An `Endpoint` is a route of the
sidecar together with the stage of the client that calls it. Its handler returns instances
of a response model, FastAPI writes these out with or without their null fields, as the
route asks, and the client validates the result against the schema.

Ten of the eleven endpoints only return what the client accepts. The route of the fusion
writes null fields, but its response has fields that the schema does not allow to be null,
and that its handler never sets.
-/

namespace Boundary

open Contract Sidecar Rails

/-- The endpoints whose responses the client validates. -/
inductive Endpoint where
  | resolveAddress
  | renderImagery
  | ingestLidar
  | lidarPoints
  | refineOutline
  | fitPlanes
  | fallbackMeasurement
  | renderImages
  | fuseCapture
  | renderEvidenceThumbnails
  | projectPhoto
deriving DecidableEq

namespace Endpoint

/-- The stage of the client that calls an endpoint. -/
def stage : Endpoint → SidecarClient.Stage
  | resolveAddress => SidecarClient.resolveAddress
  | renderImagery => SidecarClient.renderImagery
  | ingestLidar => SidecarClient.ingestLidar
  | lidarPoints => SidecarClient.lidarPoints
  | refineOutline => SidecarClient.refineOutline
  | fitPlanes => SidecarClient.fitPlanes
  | fallbackMeasurement => SidecarClient.fallbackMeasurement
  | renderImages => SidecarClient.renderImages
  | fuseCapture => SidecarClient.fuseCapture
  | renderEvidenceThumbnails => SidecarClient.renderEvidenceThumbnails
  | projectPhoto => SidecarClient.projectPhoto

/-- `response_model` -/
abbrev Response : Endpoint → Type
  | resolveAddress => ResolveAddressResponse
  | renderImagery => RenderImageryResponse
  | ingestLidar => IngestLidarResponse
  | lidarPoints => LidarPointsResponse
  | refineOutline => RefineOutlineResponse
  | fitPlanes => MeasurementGeometry
  | fallbackMeasurement => MeasurementGeometry
  | renderImages => RenderImageResponse
  | fuseCapture => FuseCaptureResponse
  | renderEvidenceThumbnails => RenderEvidenceThumbnailsResponse
  | projectPhoto => ProjectPhotoResponse

/-- `response_model_exclude_none` -/
def excludeNone : Endpoint → Bool
  | resolveAddress => false
  | renderImagery => true
  | ingestLidar => false
  | lidarPoints => false
  | refineOutline => true
  | fitPlanes => false
  | fallbackMeasurement => false
  | renderImages => true
  | fuseCapture => false
  | renderEvidenceThumbnails => true
  | projectPhoto => true

/-- The body that FastAPI writes for a response. -/
def body : (e : Endpoint) → e.Response → Json ℚ
  | resolveAddress, r => dump resolveAddress.excludeNone r
  | renderImagery, r => dump renderImagery.excludeNone r
  | ingestLidar, r => dump ingestLidar.excludeNone r
  | lidarPoints, r => dump lidarPoints.excludeNone r
  | refineOutline, r => dump refineOutline.excludeNone r
  | fitPlanes, r => dump fitPlanes.excludeNone r
  | fallbackMeasurement, r => dump fallbackMeasurement.excludeNone r
  | renderImages, r => dump renderImages.excludeNone r
  | fuseCapture, r => dump fuseCapture.excludeNone r
  | renderEvidenceThumbnails, r => dump renderEvidenceThumbnails.excludeNone r
  | projectPhoto, r => dump projectPhoto.excludeNone r

end Endpoint

/-- What the handlers use of their surroundings. -/
structure Services where
  resolve : ResolveServices
  lidar : LidarServices
  fuse : FuseServices

/-- The responses a handler can return for a request. The three handlers that fill
optional fields the schema does not allow to be null are run; the others can return any
instance, with the job id of the request where the model has one, and without timestamps
on the attribution of imagery. -/
def Returns (s : Services) : (e : Endpoint) → (request : Json ℚ) → e.Response → Prop
  | .resolveAddress, request, r =>
      ∃ address c c', request.get "address" = .str address ∧
        resolve s.resolve address c = (.ok r, c')
  | .renderImagery, _, r => ∀ a ∈ r.attribution, a.retrievedAt = none
  | .ingestLidar, request, r =>
      ∃ version polygon cached, load (request.get "building_polygon") = some polygon ∧
        ingestLidarEndpoint s.lidar version polygon = .ok (r, cached)
  | .lidarPoints, _, _ => True
  | .refineOutline, _, _ => True
  | .fitPlanes, _, _ => True
  | .fallbackMeasurement, _, _ => True
  | .renderImages, request, r => request.get "job_id" = .str r.jobId
  | .fuseCapture, request, r =>
      ∃ req, load request = some req ∧ fuseCaptureEndpoint s.fuse req = .ok r
  | .renderEvidenceThumbnails, request, r => request.get "job_id" = .str r.jobId
  | .projectPhoto, request, r => request.get "job_id" = .str r.jobId

/-! ### Requests and handlers -/

section Acceptance

variable [FormatAssertion]

/-- A request whose definition declares its job id as a UUID carries one. -/
theorem uuid_of_closedObject {ps : List (String × Schema)} {req : List String}
    {request : Json ℚ} {id : String} (hps : ("job_id", PipelineSchema.uuid) ∈ ps)
    (h : Schema.closedObject ps req request = true) (hid : request.get "job_id" = .str id) :
  FormatAssertion.holds "uuid" id = true
  := by
  obtain ⟨members, rfl⟩ := Schema.eq_obj_of_closedObject h
  obtain ⟨hprop, -, -⟩ := (Schema.closedObject_obj_iff _ _ _).mp h
  cases hlookup : members.lookup "job_id" with
  | none =>
      rw [Json.get_obj, hlookup] at hid
      cases hid
  | some v =>
      rw [Json.get_obj, hlookup] at hid
      cases hid
      have huuid := hprop _ hps _ hlookup
      simpa [PipelineSchema.uuid, Schema.allOf, Schema.types, Schema.TypeName.holds,
        Schema.format] using huuid

/-- A fusion response is rejected, whatever the request. -/
theorem fuseCapture_rejected {s : FuseServices} {req : FuseCaptureRequest}
    {r : FuseCaptureResponse} (h : fuseCaptureEndpoint s req = .ok r) :
  PipelineSchema.fuseCaptureResponse (dump false r) = false
  := by
  apply rejects_fuseCaptureResponse
  intro m hm
  apply (fuseCaptureEndpoint_measurement h m hm).2.1

/-- The JSON of every response that a handler can return is accepted, except for those of
the fusion, which are all rejected. The formats are asserted of the job id by the
validation of the request, and of the timestamps by `hclock`: the format of dates accepts
what the clock of the sidecar writes. -/
theorem validateResponse_body_iff (s : Services) (e : Endpoint) (request : Json ℚ)
    (r : e.Response)
    (hclock : ∀ i, FormatAssertion.holds "date-time" (s.resolve.nowIso i) = true)
    (hrequest : SidecarClient.validateRequest e.stage.request request = .ok ())
    (hreturns : Returns s e request r) :
  SidecarClient.validateResponse e.stage.response (e.body r) = .ok () ↔ e ≠ .fuseCapture
  := by
  obtain ⟨schema, hschema, hvalid⟩ := SidecarClient.validate_eq_ok_iff.mp hrequest
  rw [SidecarClient.validateResponse, SidecarClient.validate_eq_ok_iff]
  cases e with
  | resolveAddress =>
      obtain ⟨address, c, c', -, hresolve⟩ := hreturns
      have hset := resolve_resolvedBy hresolve
      simp only [ne_eq, reduceCtorEq, not_false_eq_true, iff_true]
      use PipelineSchema.resolveAddressResponse, rfl
      apply accepts_resolveAddressResponse
      · use .inr hset.geocode.1
        apply Or.inr hset.geocode.2
      · intro p hp
        use .inr (hset.parcel p hp).1
        apply Or.inr (hset.parcel p hp).2
      · intro p hp
        use .inr (hset.buildings p hp).1
        apply Or.inr (hset.buildings p hp).2
      · intro a ha t ht
        obtain ⟨i, rfl⟩ := hset.retrievedAt a ha t ht
        apply hclock
  | renderImagery =>
      simp only [ne_eq, reduceCtorEq, not_false_eq_true, iff_true]
      use PipelineSchema.renderImageryResponse, rfl
      apply accepts_renderImageryResponse
      intro a ha t ht
      rw [hreturns a ha] at ht
      cases ht
  | ingestLidar =>
      obtain ⟨version, polygon, cached, -, hingest⟩ := hreturns
      obtain ⟨ingest, -, -, rfl⟩ := ingestLidarEndpoint_eq_ok hingest
      obtain ⟨hsource, hconfidence, hattribution⟩ :=
        outcomeToResponse_set pipelineSchemaVersion ingest.outcome
      simp only [ne_eq, reduceCtorEq, not_false_eq_true, iff_true]
      use PipelineSchema.ingestLidarResponse, rfl
      apply accepts_ingestLidarResponse
      · use .inr hsource
        apply Or.inr hconfidence
      · intro a ha t ht
        rw [hattribution a ha] at ht
        cases ht
  | lidarPoints =>
      simp only [ne_eq, reduceCtorEq, not_false_eq_true, iff_true]
      use PipelineSchema.lidarPointsResponse, rfl
      apply accepts_lidarPointsResponse
  | refineOutline =>
      simp only [ne_eq, reduceCtorEq, not_false_eq_true, iff_true]
      use PipelineSchema.refineOutlineResponse, rfl
      apply accepts_refineOutlineResponse
      use .inl rfl
      apply Or.inl rfl
  | fitPlanes =>
      simp only [ne_eq, reduceCtorEq, not_false_eq_true, iff_true]
      use PipelineSchema.measurementGeometry, rfl
      apply accepts_measurementGeometry
  | fallbackMeasurement =>
      simp only [ne_eq, reduceCtorEq, not_false_eq_true, iff_true]
      use PipelineSchema.measurementGeometry, rfl
      apply accepts_measurementGeometry
  | renderImages =>
      cases hschema
      simp only [ne_eq, reduceCtorEq, not_false_eq_true, iff_true]
      use PipelineSchema.renderImageResponse, rfl
      apply accepts_renderImageResponse
      apply uuid_of_closedObject _ hvalid hreturns
      simp
  | fuseCapture =>
      obtain ⟨req, -, hfuse⟩ := hreturns
      have hrejected := fuseCapture_rejected hfuse
      simp only [ne_eq, not_true_eq_false, iff_false]
      rintro ⟨schema', hschema', haccepted⟩
      cases hschema'
      change PipelineSchema.fuseCaptureResponse (dump false r) = true at haccepted
      rw [hrejected] at haccepted
      cases haccepted
  | renderEvidenceThumbnails =>
      cases hschema
      simp only [ne_eq, reduceCtorEq, not_false_eq_true, iff_true]
      use PipelineSchema.renderEvidenceThumbnailsResponse, rfl
      apply accepts_renderEvidenceThumbnailsResponse
      apply uuid_of_closedObject _ hvalid hreturns
      simp
  | projectPhoto =>
      cases hschema
      simp only [ne_eq, reduceCtorEq, not_false_eq_true, iff_true]
      use PipelineSchema.projectPhotoResponse, rfl
      apply accepts_projectPhotoResponse
      apply uuid_of_closedObject _ hvalid hreturns
      simp

end Acceptance

/-! ### Runs -/

/-- Surroundings in which every blob is there, the mesh and the cloud are a single point,
the alignment finds no correspondence, and no building is known. -/
def stillServices : Services where
  resolve :=
    { normalizeAddress := id
      parcelKey := fun _ => ""
      geocode := fun _ => .failed "no match"
      fetchParcel := fun _ => .found none
      fetchFootprints := fun _ _ => .found []
      regridKeySet := false
      nowIso := fun _ => "2026-01-01T00:00:00+00:00"
      readAt := fun _ => 0
      madeAt := fun _ => 0 }
  lidar :=
    { bounds := fun _ => ⟨[0, 0, 0, 0], rfl⟩
      centroid := fun _ => (0, 0)
      query := fun _ => []
      resolveEpt := fun _ => none
      crop := fun _ _ _ => .error .eptNotFound
      transform := fun _ _ p => p
      addressHash := fun _ => ""
      currentYear := 2026 }
  fuse :=
    { Blob := Unit
      getBytes := fun _ => some ()
      size := fun _ => 0
      jsonLoads := fun _ => .ok (.obj [])
      float := fun _ => some (some 0)
      lines := fun _ => ["v 0 0 0", "v 0 0 0", "v 0 0 0"]
      npLoad := fun _ => .ok (.matrix 3 (List.replicate 100 [some 0, some 0, some 0]))
      open3d :=
        { registrationIcp := fun _ _ _ init _ => ⟨init, 0, 0⟩
          pointCloudDistance := fun _ _ => []
          sqrt := id }
      residualOfNonFinite := fun _ _ => .ok 0
      planeFit :=
        { Plane := Unit
          ModelFacet := Unit
          fitPlanes := fun _ => []
          mergeCoplanarFacets := id
          inliers := fun _ => 0
          planeFacet := fun _ _ _ => ⟨"", [], 0, 0, 0, 0⟩
          partition := fun _ _ _ _ => .error (.valueError "degenerate refined polygon")
          modelFacet := fun _ _ => ⟨"", [], 0, 0, 0, 0⟩
          planViewUnionAreaSqFt := fun _ => none
          totalPerimeterFt := fun _ => none } }

def renderImagesRequest : Json ℚ :=
  .obj
    [("pipelineSchemaVersion", .str "0.6.0"),
     ("job_id", .str "7f0c6b1e-5d0c-4a52-9a7a-3f1f6f0f1c11"),
     ("bbox", .arr [.num (-97), .num 30, .num (-96), .num 31]),
     ("width_px", .num 640),
     ("height_px", .num 480)]

/-- The response with a rendered map is valid, as no response of that endpoint is a fused capture.
-/
theorem validateResponse_renderImages :
  @SidecarClient.validateResponse anyFormat "RenderImageResponse"
      (Endpoint.renderImages.body
        ⟨"0.6.0", "7f0c6b1e-5d0c-4a52-9a7a-3f1f6f0f1c11", "artifacts/map.png"⟩) = .ok () ↔
    Endpoint.renderImages ≠ .fuseCapture
  := @validateResponse_body_iff anyFormat stillServices .renderImages renderImagesRequest
    ⟨"0.6.0", "7f0c6b1e-5d0c-4a52-9a7a-3f1f6f0f1c11", "artifacts/map.png"⟩ (fun _ => rfl)
    ((@SidecarClient.validate_eq_ok_iff anyFormat _ _ _).mpr
      ⟨@PipelineSchema.renderImageRequest anyFormat, rfl, by decide +kernel⟩)
    rfl

def fuseCaptureRequestBody : Json ℚ :=
  .obj
    [("pipelineSchemaVersion", .str "0.6.0"),
     ("job_id", .str "7f0c6b1e-5d0c-4a52-9a7a-3f1f6f0f1c11"),
     ("capture_mesh_ref", .str "uploads/7f0c6b1e/arkit_mesh.obj"),
     ("lidar",
       .obj
         [("status", .str "LIDAR_AVAILABLE"),
          ("point_array_ref", .str "cache/lidar/5a1f.npy"),
          ("source", .str "lidar"),
          ("confidence", .num (19 / 20))])]

/-- An alignment that does not converge is answered with a body that the client rejects,
although the request is valid. -/
theorem fuseCapture_not_converged_rejected :
  @SidecarClient.validateRequest anyFormat "FuseCaptureRequest" fuseCaptureRequestBody = .ok () ∧
    ∃ r, Returns stillServices .fuseCapture fuseCaptureRequestBody r ∧ r.measurement = none ∧
      @SidecarClient.validateResponse anyFormat "FuseCaptureResponse"
        (Endpoint.fuseCapture.body r) ≠ .ok ()
  := by
  constructor
  · apply (@SidecarClient.validate_eq_ok_iff anyFormat _ _ _).mpr
    exact ⟨@PipelineSchema.fuseCaptureRequest anyFormat, rfl, by decide +kernel⟩
  · have hrun : ((load fuseCaptureRequestBody : Option FuseCaptureRequest).bind fun req =>
        match fuseCaptureEndpoint stillServices.fuse req with
        | .ok r => some r.measurement.isNone
        | .error _ => none) = some true := by
      decide +kernel
    obtain ⟨req, hreq, hrun⟩ := Option.bind_eq_some_iff.mp hrun
    cases hfuse : fuseCaptureEndpoint stillServices.fuse req with
    | error e =>
        rw [hfuse] at hrun
        cases hrun
    | ok r =>
        rw [hfuse] at hrun
        use r
        constructor
        · use req
        · constructor
          · simpa using hrun
          · intro hok
            obtain ⟨schema, hschema, haccepted⟩ :=
              (@SidecarClient.validate_eq_ok_iff anyFormat _ _ _).mp hok
            cases hschema
            have hrejected := @fuseCapture_rejected anyFormat _ _ _ hfuse
            change @PipelineSchema.fuseCaptureResponse anyFormat (dump false r) = true
              at haccepted
            rw [hrejected] at haccepted
            cases haccepted

end Boundary
