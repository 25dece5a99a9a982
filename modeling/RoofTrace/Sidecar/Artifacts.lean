import Mathlib.Data.List.Sort
import RoofTrace.Sidecar.Pipeline
import RoofTrace.Store.Puts

/-!
# Rendered artifacts

`POST /pipeline/project-photo` (`project_photo/router.py`) draws the facets into a photo, and
`POST /pipeline/render-evidence-thumbnails` (`evidence/router.py`) copies the photos of a job.
Both put what they render into the object store, under keys of the job. What is put before a
request fails stays, so that a request returns the objects beside its result.

What is drawn from a photo and a mesh is a `PhotoRenderer`.
-/

namespace Sidecar

open Store

/-! ### Storage -/

/-- What a read or a write raises. -/
inductive StorageExn where
  | storageError
  | storageTooLargeError
  /-- An exception of another type, by the name of its type. -/
  | other (type : String)
deriving DecidableEq

def StorageExn.typeName : StorageExn → String
  | storageError => "StorageError"
  | storageTooLargeError => "StorageTooLargeError"
  | other type => type

/-- The sizes of blobs, and the keys that a read or a write fails for. -/
structure Storage (Bytes : Type) where
  size : Bytes → ℕ
  getFailure : String → Option StorageExn
  putFailure : String → Option StorageExn

section

variable {Bytes : Type} (s : Storage Bytes) (objects : Objects String Bytes)

/-- `get_bytes` -/
def getBytes (key : String) : Except StorageExn Bytes :=
  match s.getFailure key, objects key with
  | some e, _ => .error e
  | none, none => .error .storageError
  | none, some blob => .ok blob

variable {s objects} in
theorem eq_some_of_getBytes {key : String} {blob : Bytes} (h : getBytes s objects key = .ok blob) :
  objects key = some blob
  := by
  unfold getBytes at h
  split at h
  · nomatch h
  · nomatch h
  · next hkey =>
      rw [hkey, Except.ok.inj h]

/-- `get_bytes_capped` -/
def getBytesCapped (key : String) (maxBytes : ℕ) : Except StorageExn Bytes := do
  let blob ← getBytes s objects key
  if maxBytes < s.size blob then throw .storageTooLargeError
  return blob

end

/-! ### Photos -/

def maxPhotoBlobBytes : ℕ := 256 * 1024 * 1024

def maxImagePixels : ℕ := 50 * 1000000

/-- `_seq_token` -/
def seqToken (photoRef : String) : String :=
  let base := (photoRef.toList.reverse.takeWhile (· ≠ '/')).reverse
  let token :=
    if '.' ∈ base then (base.reverse.dropWhile (· ≠ '.')).tail.reverse else base
  if token.isEmpty then "0" else String.ofList token

/-- What a photo cannot be opened with. -/
inductive ImageExn where
  /-- `DecompressionBombError` or `DecompressionBombWarning` -/
  | decompressionBomb
  /-- An exception of another type, by the name of its type. -/
  | other (type : String)

/-- What is drawn for a photo. -/
structure Picture (Bytes : Type) where
  composite : Bytes
  overlaySvg : Bytes
  occludedIds : List String

/-- Reading and drawing photos: `Scene` is what a request says of the camera, the facets and
the features, `Mesh` a world mesh. -/
structure PhotoRenderer (Bytes Scene Mesh : Type) extends Storage Bytes where
  /-- `_fixture_enabled` -/
  fixtureEnabled : Bool
  placeholder : Picture Bytes
  /-- The width and the height of an image. -/
  imageSize : Bytes → Except ImageExn (ℕ × ℕ)
  emptyMesh : Mesh
  /-- `load_world_mesh`; `none` is an exception. -/
  loadWorldMesh : Bytes → Option Mesh
  draw : Scene → List ℚ → ℤ → Bytes → Mesh → ℕ × ℕ → Except Exception (Picture Bytes)

structure ProjectPhotoRequest (Scene : Type) where
  pipelineSchemaVersion : String
  jobId : String
  photoRef : String
  worldMeshRef : Option String
  arkitToUtm : Option (List ℚ)
  utmEpsg : Option ℤ
  poseConfidence : Option ℚ
  scene : Scene

structure ProjectPhotoResponse where
  jobId : String
  overlayRef : String
  compositeRef : String
  overlaySvgRef : String
  poseConfidence : Option ℚ
  occludedFacetIds : List String

namespace ProjectPhotoRequest

variable {Scene : Type} (req : ProjectPhotoRequest Scene)

def pngKey : String := s!"artifacts/{req.jobId}/projected/{seqToken req.photoRef}.png"

def svgKey : String := s!"artifacts/{req.jobId}/projected/{seqToken req.photoRef}.svg"

end ProjectPhotoRequest

section

variable {Bytes Scene Mesh : Type} (s : PhotoRenderer Bytes Scene Mesh)
  (objects : Objects String Bytes) (req : ProjectPhotoRequest Scene)

/-- `_load_blob` -/
def loadPhotoBlob (ref what : String) : Except Exception Bytes :=
  match getBytesCapped s.toStorage objects ref maxPhotoBlobBytes with
  | .ok blob => .ok blob
  | .error .storageTooLargeError =>
      .error (.http 413 s!"{what} exceeds the maximum allowed size")
  | .error .storageError => .error (unprocessable s!"{what} could not be read")
  | .error (.other type) => .error (.other type)

/-- The dimensions of a photo. -/
def photoSize (photo : Bytes) : Except Exception (ℕ × ℕ) :=
  match s.imageSize photo with
  | .error .decompressionBomb =>
      .error (unprocessable "photo decoded dimensions exceed the maximum allowed")
  | .error (.other type) => .error (unprocessable s!"photo is not a readable image: {type}")
  | .ok size =>
      if maxImagePixels < size.1 * size.2 then
        .error (unprocessable "photo decoded dimensions exceed the maximum allowed")
      else .ok size

/-- The mesh of a request. Every exception but an `HTTPException` leaves it without one. -/
def worldMesh : Except Exception Mesh :=
  if req.worldMeshRef.getD "" = "" then .ok s.emptyMesh
  else
    match loadPhotoBlob s objects (req.worldMeshRef.getD "") "world mesh" with
    | .error (.http statusCode detail) => .error (.http statusCode detail)
    | .error _ => .ok s.emptyMesh
    | .ok blob => .ok ((s.loadWorldMesh blob).getD s.emptyMesh)

/-- What is drawn for a request, up to the point where it is put. -/
def picture : Except Exception (Picture Bytes) := do
  checkPipelineVersion req.pipelineSchemaVersion
  match req.arkitToUtm, req.utmEpsg with
  | some arkitToUtm, some utmEpsg =>
      if s.fixtureEnabled then return s.placeholder
      else
        let photo ← loadPhotoBlob s objects req.photoRef "photo"
        let size ← photoSize s photo
        let mesh ← worldMesh s objects req
        s.draw req.scene arkitToUtm utmEpsg photo mesh size
  | _, _ =>
      throw (unprocessable
        "arkit_to_utm and utm_epsg are required to place facets in the photo frame")

/-- What a failed write ends the request with. -/
def putFailed (e : StorageExn) : Exception :=
  if s.fixtureEnabled then .other e.typeName
  else .http 502 s!"photo projection failed: {e.typeName}"

/-- The composite and the overlay are put, in this order. -/
def putPicture (drawn : Picture Bytes) : Objects String Bytes × Except Exception Unit :=
  match s.putFailure req.pngKey with
  | some e => (objects, .error (putFailed s e))
  | none =>
      match s.putFailure req.svgKey with
      | some e => (put objects ⟨req.pngKey, drawn.composite⟩, .error (putFailed s e))
      | none =>
          (put (put objects ⟨req.pngKey, drawn.composite⟩) ⟨req.svgKey, drawn.overlaySvg⟩, .ok ())

/-- `project_photo_endpoint` -/
def projectPhotoEndpoint : Objects String Bytes × Except Exception ProjectPhotoResponse :=
  match picture s objects req with
  | .error e => (objects, .error e)
  | .ok drawn =>
      ((putPicture s objects req drawn).1,
        (putPicture s objects req drawn).2.map fun _ =>
          { jobId := req.jobId
            overlayRef := req.pngKey
            compositeRef := req.pngKey
            overlaySvgRef := req.svgKey
            poseConfidence := req.poseConfidence
            occludedFacetIds := if s.fixtureEnabled then [] else drawn.occludedIds })

end

/-! ### Thumbnails -/

structure EvidencePhotoSpec where
  photoRef : String
  sequenceIndex : ℤ
  caption : Option String
deriving DecidableEq

structure EvidenceThumbnail where
  thumbnailRef : String
  sequenceIndex : ℤ
  caption : Option String
deriving DecidableEq

structure RenderEvidenceThumbnailsRequest where
  pipelineSchemaVersion : String
  jobId : String
  photos : List EvidencePhotoSpec

/-- `_thumbnail_key` -/
def thumbnailKey (jobId : String) (sequenceIndex : ℤ) : String :=
  s!"artifacts/{jobId}/evidence/{sequenceIndex}.jpg"

section

variable {Bytes : Type} (s : Storage Bytes)

/-- What a photo that cannot be read or put ends the request with. -/
def evidenceFailed (photo : EvidencePhotoSpec) : StorageExn → Exception
  | .other type => .other type
  | _ => unprocessable s!"evidence photo {photo.sequenceIndex} could not be read"

/-- The loop over the photos. -/
def renderThumbnails (jobId : String) (objects : Objects String Bytes) :
    List EvidencePhotoSpec → Objects String Bytes × Except Exception (List EvidenceThumbnail)
  | [] => (objects, .ok [])
  | photo :: photos =>
      let key := thumbnailKey jobId photo.sequenceIndex
      match getBytes s objects photo.photoRef, s.putFailure key with
      | .error e, _ => (objects, .error (evidenceFailed photo e))
      | .ok _, some e => (objects, .error (evidenceFailed photo e))
      | .ok raw, none =>
          ((renderThumbnails jobId (put objects ⟨key, raw⟩) photos).1,
            (renderThumbnails jobId (put objects ⟨key, raw⟩) photos).2.map
              (⟨key, photo.sequenceIndex, photo.caption⟩ :: ·))

/-- `render_evidence_thumbnails_endpoint` -/
def renderEvidenceThumbnailsEndpoint (objects : Objects String Bytes)
    (req : RenderEvidenceThumbnailsRequest) :
    Objects String Bytes × Except Exception (List EvidenceThumbnail) :=
  match checkPipelineVersion req.pipelineSchemaVersion with
  | .error e => (objects, .error e)
  | .ok _ =>
      renderThumbnails s req.jobId objects
        (req.photos.insertionSort fun p q => p.sequenceIndex ≤ q.sequenceIndex)

end

end Sidecar
