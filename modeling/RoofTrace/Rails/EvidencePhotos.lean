import RoofTrace.Rails.CaptureBundle
import RoofTrace.Sidecar.Artifacts

/-!
# The evidence photos of a report

`app/services/evidence_photos.rb`, for a job that has no projected overlays: thumbnails of the
photos of its captures, which the sidecar renders. An image is given by the URL that is minted
for its key. When the thumbnails cannot be rendered or no URL is minted, there are no photos.
-/

namespace Rails

open CaptureBundle Sidecar Store

/-- A photo of a report. -/
structure EvidencePhoto where
  imageUrl : String
  caption : Option String
  kind : String
deriving DecidableEq

namespace EvidencePhotos

def cap : ℕ := 4

/-- `value.presence`, of a text. -/
def presence (value : Option String) : Option String := if blankColumn value then none else value

/-- What the sidecar is told of a capture that has a photo. -/
def photoSpec (capture : CaptureRow) : Option EvidencePhotoSpec :=
  capture.photoRef.map fun ref => ⟨ref, capture.sequenceIndex, capture.promptLabel⟩

/-- `caption_for_sequence` -/
def captionForSequence (specs : List EvidencePhotoSpec) (sequenceIndex : ℤ) : Option String :=
  (specs.find? fun spec => spec.sequenceIndex = sequenceIndex).bind fun spec =>
    presence spec.caption

/-- The photo for a thumbnail; `mint` is `ArtifactUrlMinter.call`. -/
def evidencePhoto (mint : String → Except String String) (specs : List EvidencePhotoSpec)
    (thumb : EvidenceThumbnail) : Except String EvidencePhoto := do
  let imageUrl ← mint thumb.thumbnailRef
  return ⟨imageUrl, captionForSequence specs thumb.sequenceIndex, "thumbnail"⟩

/-- `build`, of the captures of a job without overlays: the objects after it, and the photos. -/
def build {Bytes : Type} (mint : String → Except String String) (storage : Storage Bytes)
    (objects : Objects String Bytes) (jobId : String) (captures : List CaptureRow) :
    Objects String Bytes × List EvidencePhoto :=
  let specs := captures.filterMap photoSpec
  if specs.isEmpty then (objects, [])
  else
    let response := renderEvidenceThumbnailsEndpoint storage objects
      ⟨Contract.pipelineSchemaVersion, jobId, specs⟩
    (response.1,
      match response.2 with
      | .error _ => []
      | .ok thumbnails =>
          match thumbnails.mapM (evidencePhoto mint specs) with
          | .error _ => []
          | .ok photos => photos.take cap)

end EvidencePhotos

end Rails
