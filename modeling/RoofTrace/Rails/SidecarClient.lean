import RoofTrace.Contract.Schema

/-!
# The client of the sidecar

`app/services/sidecar_client.rb`: every stage of the pipeline is a POST whose payload is
validated against the contract before it is sent, and whose response is validated before
it is used. What the HTTP exchange comes to is an `Exchange`; which of its failures become
errors of the client, and which pass through as they are, is decided here.

A Ruby `nil` is the JSON `null`.
-/

namespace Rails

/-- The classes of errors that the client raises. -/
inductive SidecarErrorClass where
  | error
  | authError
  | timeoutError
  | schemaError
  | schemaVersionMismatchError
deriving DecidableEq

/-- An exception raised in the Rails application. -/
inductive Exn where
  /-- `SidecarClient::Error` or one of its subclasses. -/
  | sidecar (errorClass : SidecarErrorClass) (message : String)
  | unknownEntity (entity : String)
  /-- `MeasurementOrchestrator::GeometricFailure` -/
  | geometricFailure (message : String)
  | recordNotFound
  /-- `raise "..."` -/
  | runtimeError (message : String)
  /-- Any other `StandardError`, by the name of its class. -/
  | standardError (className : String)
deriving DecidableEq

/-- What the HTTP exchange with the sidecar comes to. -/
inductive Exchange where
  /-- A response; its body is `none` when it is not JSON. -/
  | response (code : ℕ) (body : Option (Json ℚ))
  /-- `Net::OpenTimeout` or `Net::ReadTimeout`. -/
  | timeout (message : String)
  /-- A `SystemCallError`, by the name of its class. -/
  | systemCallError (className : String)
  /-- Any other exception of the exchange. -/
  | raised (className : String)

namespace SidecarClient

def lidarAvailable : String := "LIDAR_AVAILABLE"

def lidarMissing : String := "LIDAR_MISSING"

section Validation

variable [FormatAssertion]

/-- Whether `PipelineSchema.errors_for` finds no error in a payload. -/
def valid (entity : String) (payload : Json ℚ) : Except Exn Bool :=
  match PipelineSchema.def? entity with
  | none => throw (.unknownEntity s!"no such entity: {entity}")
  | some schema => return schema payload

/-- The validation of a payload. The list of errors that follows in the message is that of
the validator and is left out. -/
def validate (failure entity : String) (payload : Json ℚ) : Except Exn Unit := do
  unless ← valid entity payload do
    throw (.sidecar .schemaError s!"{entity} {failure}")

/-- `validate_request!` -/
def validateRequest : String → Json ℚ → Except Exn Unit :=
  validate "request validation failed"

/-- `validate_response!` -/
def validateResponse : String → Json ℚ → Except Exn Unit :=
  validate "response validation failed (contract drift?)"

/-- `handle` -/
def handle (code : ℕ) (body : Option (Json ℚ)) : Except Exn (Json ℚ) :=
  if 200 ≤ code ∧ code ≤ 299 then
    match body with
    | some json => return json
    | none => throw (.sidecar .error "Sidecar returned a non-JSON body")
  else if code = 401 then
    throw (.sidecar .authError "Sidecar rejected the bearer token (401)")
  else if code = 409 then
    throw (.sidecar .schemaVersionMismatchError
      ("Sidecar rejected schema major version (409); deployment coherence — " ++
        "Rails and sidecar pipeline schema majors differ"))
  else
    throw (.sidecar .error s!"Sidecar returned {code}")

/-- `post_json`, for the exchange that it has. -/
def postJson (path : String) (timeout : ℕ) : Exchange → Except Exn (Json ℚ)
  | .response code body => handle code body
  | .timeout message =>
      throw (.sidecar .timeoutError s!"Sidecar {path} timed out after {timeout}s: {message}")
  | .systemCallError className =>
      throw (.sidecar .error s!"Sidecar {path} connection failed: {className}")
  | .raised className => throw (.standardError className)

/-- A stage of the pipeline: its route and the entities of its request and response. -/
structure Stage where
  path : String
  request : String
  response : String
deriving DecidableEq

/-- What the exchange of a stage yields. -/
def receive (stage : Stage) (timeout : ℕ) (exchange : Exchange) : Except Exn (Json ℚ) := do
  let response ← postJson stage.path timeout exchange
  validateResponse stage.response response
  return response

end Validation

/-! ### The stages -/

def resolveAddress : Stage :=
  ⟨"/pipeline/resolve-address", "ResolveAddressRequest", "ResolveAddressResponse"⟩

def renderImagery : Stage :=
  ⟨"/pipeline/render-imagery", "RenderImageryRequest", "RenderImageryResponse"⟩

def ingestLidar : Stage :=
  ⟨"/pipeline/ingest-lidar", "IngestLidarRequest", "IngestLidarResponse"⟩

def lidarPoints : Stage :=
  ⟨"/pipeline/lidar-points", "LidarPointsRequest", "LidarPointsResponse"⟩

def refineOutline : Stage :=
  ⟨"/pipeline/refine-outline", "RefineOutlineRequest", "RefineOutlineResponse"⟩

def fitPlanes : Stage :=
  ⟨"/pipeline/fit-planes", "FitPlanesRequest", "MeasurementGeometry"⟩

def fallbackMeasurement : Stage :=
  ⟨"/pipeline/fallback-measurement", "FallbackMeasurementRequest", "MeasurementGeometry"⟩

def renderImages : Stage :=
  ⟨"/pipeline/render-images", "RenderImageRequest", "RenderImageResponse"⟩

def fuseCapture : Stage :=
  ⟨"/pipeline/fuse-capture", "FuseCaptureRequest", "FuseCaptureResponse"⟩

def renderEvidenceThumbnails : Stage :=
  ⟨"/pipeline/render-evidence-thumbnails", "RenderEvidenceThumbnailsRequest",
    "RenderEvidenceThumbnailsResponse"⟩

def projectPhoto : Stage :=
  ⟨"/pipeline/project-photo", "ProjectPhotoRequest", "ProjectPhotoResponse"⟩

/-! ### Payloads -/

/-- `PipelineSchema.version` -/
def schemaVersion : String := "0.6.0"

/-- A member that is left out when its value is `nil`. -/
def unlessNil (name : String) (v : Json ℚ) : List (String × Json ℚ) :=
  if v.isNull then [] else [(name, v)]

def resolveAddressPayload (address : Json ℚ) : Json ℚ :=
  .obj [("pipelineSchemaVersion", .str schemaVersion), ("address", address)]

def renderImageryPayload (buildingPolygon sizePx targetGsdM : Json ℚ) : Json ℚ :=
  .obj ([("pipelineSchemaVersion", .str schemaVersion), ("building_polygon", buildingPolygon),
    ("size_px", sizePx)] ++ unlessNil "target_gsd_m" targetGsdM)

def ingestLidarPayload (buildingPolygon parcelPolygon : Json ℚ) : Json ℚ :=
  .obj ([("pipelineSchemaVersion", .str schemaVersion), ("building_polygon", buildingPolygon)] ++
    unlessNil "parcel_polygon" parcelPolygon)

def refineOutlinePayload (imageTileRef priorPolygon imageGeoBounds : Json ℚ) : Json ℚ :=
  .obj [("pipelineSchemaVersion", .str schemaVersion), ("image_tile_ref", imageTileRef),
    ("prior_polygon", priorPolygon), ("image_geo_bounds", imageGeoBounds)]

def fitPlanesPayload (pointArrayRef utmZone refinedPolygon : Json ℚ) : Json ℚ :=
  .obj [("pipelineSchemaVersion", .str schemaVersion), ("point_array_ref", pointArrayRef),
    ("utm_zone", utmZone), ("refined_polygon", refinedPolygon)]

def fallbackMeasurementPayload (refinedPolygon inferredPitchDegrees utmZone : Json ℚ) : Json ℚ :=
  .obj [("pipelineSchemaVersion", .str schemaVersion), ("refined_polygon", refinedPolygon),
    ("inferred_pitch_degrees", inferredPitchDegrees), ("utm_zone", utmZone)]

def fuseCaptureTimeoutSeconds : ℕ := 120

def fuseCapturePayload (jobId captureMeshRef lidar refinedPolygon : Json ℚ) : Json ℚ :=
  .obj ([("pipelineSchemaVersion", .str schemaVersion), ("job_id", jobId),
    ("capture_mesh_ref", captureMeshRef)] ++ unlessNil "lidar" lidar ++
    unlessNil "refined_polygon" refinedPolygon)

def projectPhotoTimeoutSeconds : ℕ := 120

def projectPhotoPayload (jobId photoRef cameraPose facets worldMeshRef features arkitToUtm utmEpsg
    poseConfidence : Json ℚ) : Json ℚ :=
  .obj ([("pipelineSchemaVersion", .str schemaVersion), ("job_id", jobId),
    ("photo_ref", photoRef), ("camera_pose", cameraPose), ("facets", facets)] ++
    unlessNil "world_mesh_ref" worldMeshRef ++ unlessNil "features" features ++
    unlessNil "arkit_to_utm" arkitToUtm ++ unlessNil "utm_epsg" utmEpsg ++
    unlessNil "pose_confidence" poseConfidence)

/-! ### What a call yields -/

variable [FormatAssertion]

/-- A payload passes when the definition of its entity accepts it. -/
theorem validate_eq_ok_iff {failure entity : String} {payload : Json ℚ} :
  validate failure entity payload = .ok () ↔
    ∃ schema, PipelineSchema.def? entity = some schema ∧ schema payload = true
  := by
  rw [validate, valid]
  cases PipelineSchema.def? entity with
  | none =>
      constructor
      · rintro ⟨⟩
      · rintro ⟨_, ⟨⟩, _⟩
  | some schema =>
      cases h : schema payload with
      | true =>
          constructor
          · intro _
            use schema
          · intro _
            simp only [pure, Except.pure, bind, Except.bind, h]
            rfl
      | false =>
          constructor
          · intro hok
            simp only [pure, Except.pure, bind, Except.bind, h] at hok
            cases hok
          · rintro ⟨_, ⟨⟩, htrue⟩
            rw [h] at htrue
            cases htrue

/-- A validation of a payload of an entity that the contract has fails with an error of the
client. -/
theorem sidecar_of_validate_eq_error {failure entity : String} {payload : Json ℚ} {e : Exn}
    (hentity : (PipelineSchema.def? entity).isSome = true)
    (h : validate failure entity payload = .error e) :
  ∃ message, e = .sidecar .schemaError message
  := by
  obtain ⟨schema, hschema⟩ := Option.isSome_iff_exists.mp hentity
  simp only [validate, valid, hschema, pure, Except.pure, bind, Except.bind] at h
  split at h
  · cases h
  · cases h
    exact ⟨_, rfl⟩

/-- An exchange that raises nothing else fails with an error of the client. -/
theorem sidecar_of_receive_eq_error {stage : Stage} {timeout : ℕ} {exchange : Exchange} {e : Exn}
    (hentity : (PipelineSchema.def? stage.response).isSome = true)
    (hexchange : ∀ className, exchange ≠ .raised className)
    (h : receive stage timeout exchange = .error e) :
  ∃ errorClass message, e = .sidecar errorClass message
  := by
  rw [receive] at h
  cases hpost : postJson stage.path timeout exchange with
  | ok json =>
      simp only [hpost, bind, Except.bind] at h
      cases hvalid : validateResponse stage.response json with
      | ok _ =>
          rw [hvalid] at h
          cases h
      | error e' =>
          rw [hvalid] at h
          cases h
          exact ⟨_, sidecar_of_validate_eq_error hentity hvalid⟩
  | error e' =>
      simp only [hpost, bind, Except.bind] at h
      cases h
      cases exchange with
      | response code body =>
          simp only [postJson, handle] at hpost
          split at hpost
          · cases body with
            | some json => cases hpost
            | none =>
                cases hpost
                exact ⟨_, _, rfl⟩
          · split at hpost
            · cases hpost
              exact ⟨_, _, rfl⟩
            · split at hpost <;>
              · cases hpost
                exact ⟨_, _, rfl⟩
      | timeout message =>
          cases hpost
          exact ⟨_, _, rfl⟩
      | systemCallError className =>
          cases hpost
          exact ⟨_, _, rfl⟩
      | raised className => exact absurd rfl (hexchange className)

/-- An exchange yields only what the definition of the response accepts. -/
theorem accepted_of_receive_eq_ok {stage : Stage} {timeout : ℕ} {exchange : Exchange}
    {response : Json ℚ} (h : receive stage timeout exchange = .ok response) :
  validateResponse stage.response response = .ok ()
  := by
  rw [receive] at h
  cases hpost : postJson stage.path timeout exchange with
  | error e =>
      rw [hpost] at h
      cases h
  | ok body =>
      cases hresponse : validateResponse stage.response body with
      | error e =>
          rw [hpost] at h
          simp only [bind, Except.bind, hresponse] at h
          cases h
      | ok _ =>
          rw [hpost] at h
          simp only [bind, Except.bind, hresponse] at h
          cases h
          apply hresponse

/-- A response is used as it is. -/
theorem eq_of_receive_eq_ok {stage : Stage} {timeout code : ℕ} {body response : Json ℚ}
    (h : receive stage timeout (.response code (some body)) = .ok response) :
  response = body
  := by
  rw [receive] at h
  cases hpost : postJson stage.path timeout (.response code (some body)) with
  | error e =>
      rw [hpost] at h
      cases h
  | ok json =>
      have hjson : json = body := by
        simp only [postJson, handle] at hpost
        split at hpost
        · cases hpost
          rfl
        · split at hpost
          · cases hpost
          · split at hpost <;> cases hpost
      rw [hpost, hjson] at h
      cases hvalid : validateResponse stage.response body with
      | error e =>
          simp only [bind, Except.bind, hvalid] at h
          cases h
      | ok _ =>
          simp only [bind, Except.bind, hvalid] at h
          cases h
          rfl

end SidecarClient

end Rails
