import RoofTrace.Rails.PipelineRule
import RoofTrace.Rails.ProjectionJob

/-!
# The rule of a projection

What a projection keeps, from what its writes keep. A `ProjectionSpec` says what holds once
the measurement has been read (`B`), while its drawing goes on (`C`) and once the sidecar has
answered for a photo (`D`). An overlay that is saved is one of a photo, and drawn with the
transform of the measurement, which the sidecar was asked to use, if it is drawn.
-/

namespace Rails

open Effects SidecarClient ProjectionOrchestrator

variable {ι : Type} {P : Protocol rails ι} {i : ι}

/-- Whether a photo has a pose that it may be drawn in. -/
def drawable [Platform] (drawing : Drawing) (capture : Capture) : Prop :=
  ProjectionPoseConfidence.acceptable
    (ProjectionPoseConfidence.score drawing.icpRmseM capture.cameraExtrinsics) = true

instance [Platform] (drawing : Drawing) (capture : Capture) :
    Decidable (drawable drawing capture) :=
  inferInstanceAs (Decidable (_ = true))

/-- A confidence at or above the threshold, and not above the score of the pose. -/
def Passes [Platform] (icpRmseM extrinsics : Json ℚ) (confidence : Option ℚ) : Prop :=
  ∃ p ∈ confidence, ProjectionPoseConfidence.acceptable p = true ∧
    p ≤ ProjectionPoseConfidence.score icpRmseM extrinsics

/-- An overlay of a capture, drawn as `drawing` says if it is drawn. -/
structure Draws [Platform] (drawing : Drawing) (capture : Capture) (overlay : ProjectedOverlay) :
    Prop where
  captureId : overlay.captureId = capture.id
  drawn : overlay.lowPoseConfidence = false →
    drawable drawing capture ∧ overlay.drawnWith = some (drawing.arkitToUtm, drawing.utmEpsg)
  confident : overlay.lowPoseConfidence = false →
    Passes drawing.icpRmseM capture.cameraExtrinsics overlay.poseConfidence

/-- What the sidecar is asked for a photo. -/
structure Asks [Platform] (drawing : Drawing) (capture : Capture) (payload : Json ℚ) : Prop where
  photoRef : payload.get "photo_ref" = (capture.photoRef.map .str).getD .null
  arkitToUtm : payload.get "arkit_to_utm" = drawing.arkitToUtm
  utmEpsg : payload.get "utm_epsg" = drawing.utmEpsg
  cameraPose : payload.get "camera_pose" =
    .obj [("intrinsics", capture.cameraIntrinsics), ("extrinsics", capture.cameraExtrinsics)]
  poseConfidence : payload.get "pose_confidence" =
    .num (ProjectionPoseConfidence.score drawing.icpRmseM capture.cameraExtrinsics)

/-- What the reads and writes of a projection do to the assertions of a run. -/
structure ProjectionSpec [Platform] (P : Protocol rails ι) (i : ι)
    (B : Measurement → Config rails ι → Prop)
    (C : Drawing → List (Capture × CaptureSession) → Config rails ι → Prop)
    (D : Drawing → List (Capture × CaptureSession) → Capture × CaptureSession →
      Config rails ι → Prop) : Prop where
  read : Takes P i (.latestMeasurement .projection) (fun _ => True)
    (fun latest c => ∀ m, latest = some m → B m c) (fun _ => True)
  photos : ∀ m drawing, drawing? m = some drawing →
    Takes P i .photoCaptures (B m) (C drawing) (fun _ => True)
  status : ∀ drawing captures, Takes P i .broadcastProjectionStatus (C drawing captures)
    (fun _ => C drawing captures) (C drawing captures)
  post : ∀ drawing captures capture payload timeout, capture ∈ captures →
    drawable drawing capture.1 → Asks drawing capture.1 payload →
      Takes P i (.post projectPhoto payload timeout) (C drawing captures)
        (fun _ => D drawing captures capture) (C drawing captures)
  weaken : ∀ drawing captures capture c, D drawing captures capture c → C drawing captures c
  save : ∀ drawing captures capture overlay, capture ∈ captures → Draws drawing capture.1 overlay →
    overlay.lowPoseConfidence = false →
      Takes P i (.saveOverlay overlay) (D drawing captures capture) (fun _ => C drawing captures)
        (C drawing captures)
  saveUndrawn : ∀ drawing captures capture overlay, capture ∈ captures →
    overlay.captureId = capture.1.id → overlay.lowPoseConfidence = true →
      Takes P i (.saveOverlay overlay) (C drawing captures) (fun _ => C drawing captures)
        (C drawing captures)

/-- The sidecar may lower a score, and never raises it. -/
theorem effectiveConfidence_le (railsScore : ℚ) (sidecarValue : Json ℚ) :
  effectiveConfidence railsScore sidecarValue ≤ railsScore
  := by
  rw [effectiveConfidence]
  split_ifs
  · exact le_refl _
  · exact min_le_left _ _

/-- A member is left out for `null`, which is what is read where there is no member. -/
theorem unlessNil_cases (name : String) (v : Json ℚ) :
  unlessNil name v = [] ∧ v = .null ∨ unlessNil name v = [(name, v)]
  := by
  rw [unlessNil]
  split_ifs with hnull
  · cases v <;> first | exact .inl ⟨rfl, rfl⟩ | cases hnull
  · exact .inr rfl

/-- The payload of a projection asks for the photo that it is made for. -/
theorem asks_payload [Platform] (drawing : Drawing) (capture : Capture)
    (jobId worldMeshRef : Json ℚ) :
  Asks drawing capture
    (projectPhotoPayload jobId ((capture.photoRef.map .str).getD .null)
      (.obj [("intrinsics", capture.cameraIntrinsics), ("extrinsics", capture.cameraExtrinsics)])
      (.arr drawing.facets) worldMeshRef (.arr drawing.features) drawing.arkitToUtm drawing.utmEpsg
      (.num (ProjectionPoseConfidence.score drawing.icpRmseM capture.cameraExtrinsics)))
  := by
  rw [projectPhotoPayload]
  rcases unlessNil_cases "world_mesh_ref" worldMeshRef with ⟨hmesh, -⟩ | hmesh <;>
    rcases unlessNil_cases "arkit_to_utm" drawing.arkitToUtm with
      ⟨htransform, hnil⟩ | htransform <;>
    rcases unlessNil_cases "utm_epsg" drawing.utmEpsg with ⟨hepsg, hnil'⟩ | hepsg <;>
    rw [hmesh, htransform, hepsg] <;>
    constructor <;> first | rfl | exact hnil.symm | exact hnil'.symm

namespace ProjectionSpec

variable [Platform] {B : Measurement → Config rails ι → Prop}
  {C : Drawing → List (Capture × CaptureSession) → Config rails ι → Prop}
  {D : Drawing → List (Capture × CaptureSession) → Capture × CaptureSession →
    Config rails ι → Prop}
  (h : ProjectionSpec P i B C D) {drawing : Drawing} {captures : List (Capture × CaptureSession)}
  {capture : Capture × CaptureSession}

include h

theorem keeps_persistLowConfidenceOverlay (hcapture : capture ∈ captures)
    (confidence : Option ℚ) :
  P.Keeps i (fun _ => C drawing captures) (persistLowConfidenceOverlay capture.1 confidence)
  := (h.saveUndrawn drawing captures capture _ hcapture rfl rfl).keeps

theorem keeps_broadcast :
  P.Keeps i (fun _ => C drawing captures) broadcast
  := by
  apply Protocol.Keeps.rescue (h.status drawing captures).keeps
  exact fun _ => Protocol.Keeps.ret _

theorem triple_persistOverlay (hcapture : capture ∈ captures)
    (hdrawable : drawable drawing capture.1) (response : Json ℚ) :
  P.Triple i (fun _ => D drawing captures capture)
    (persistOverlay capture.1 drawing response
      (ProjectionPoseConfidence.score drawing.icpRmseM capture.1.cameraExtrinsics))
    (fun _ _ => C drawing captures) (fun _ _ => C drawing captures)
  := by
  simp only [persistOverlay]
  split
  · next hacceptable =>
    apply (h.save drawing captures capture _ hcapture _ rfl).triple.post
    · exact fun _ _ _ hc => hc
    · exact fun _ _ _ hc => hc.2
    · constructor
      · rfl
      · exact fun _ => ⟨hdrawable, rfl⟩
      · exact fun _ => ⟨_, rfl, hacceptable, effectiveConfidence_le _ _⟩
  · apply (h.keeps_persistLowConfidenceOverlay hcapture _).pre
    exact fun _ c hc => h.weaken drawing captures capture c hc

variable [FormatAssertion]

theorem keeps_projectOne (hcapture : capture ∈ captures) :
  P.Keeps i (fun _ => C drawing captures) (projectOne capture.1 capture.2 drawing)
  := by
  simp only [projectOne]
  split
  · next hdrawable =>
    apply Protocol.Triple.getting
    intro job
    apply Protocol.Triple.pre (A := fun _ => C drawing captures) _ (fun _ _ hc => hc.2)
    apply Protocol.Triple.bind (B := fun _ _ => D drawing captures capture)
    · apply Takes.triple_request
      · exact h.post drawing captures capture _ _ hcapture hdrawable (asks_payload _ _ _ _)
      · exact h.weaken drawing captures capture
    · exact fun response => h.triple_persistOverlay hcapture hdrawable response
  · exact h.keeps_persistLowConfidenceOverlay hcapture _

theorem keeps_projectCapture (hcapture : capture ∈ captures) (tally : Tally) :
  P.Keeps i (fun _ => C drawing captures) (projectCapture drawing tally capture)
  := by
  apply Protocol.Keeps.rescue
  · apply Protocol.Keeps.bind (h.keeps_projectOne hcapture)
    exact fun _ => Protocol.Keeps.ret _
  · intro e
    split
    · apply Protocol.Keeps.bind (h.keeps_persistLowConfidenceOverlay hcapture _)
      exact fun _ => Protocol.Keeps.ret _
    · apply Protocol.Keeps.bind (h.keeps_persistLowConfidenceOverlay hcapture _)
      exact fun _ => Protocol.Keeps.ret _
    · exact Protocol.Keeps.raise _

theorem keeps_projectEach :
    ∀ (rest : List (Capture × CaptureSession)) (tally : Tally), rest ⊆ captures →
      P.Keeps i (fun _ => C drawing captures) (projectEach drawing tally rest)
  | [], _, _ => Protocol.Keeps.ret _
  | capture :: rest, tally, hrest => by
      obtain ⟨hcapture, hrest⟩ := List.cons_subset.mp hrest
      apply Protocol.Keeps.bind (h.keeps_projectCapture hcapture tally)
      exact fun tally => keeps_projectEach rest tally hrest

/-- What follows the gathering of the photos. -/
theorem triple_drawn (captures : List (Capture × CaptureSession)) :
  P.Triple i (fun _ => C drawing captures)
    (do
      let tally ← projectEach drawing ⟨false, false, 0⟩ captures
      broadcast
      if 0 < tally.transientFailures ∧ tally.anyPermanentFailure = false ∧
          tally.anySuccess = false then
        throw (.sidecar .error
          (s!"projection: all {tally.transientFailures} capture(s) failed transiently; " ++
            "retrying"))
      else return ())
    (fun _ _ _ => True) (fun _ _ _ => True)
  := by
  apply Protocol.Triple.post (B := fun _ _ => C drawing captures)
    (E := fun _ _ => C drawing captures) _ (fun _ _ _ _ => trivial) (fun _ _ _ _ => trivial)
  apply Protocol.Keeps.bind (h.keeps_projectEach captures _ (List.Subset.refl captures))
  intro tally
  apply Protocol.Keeps.bind h.keeps_broadcast
  intro _
  split
  · exact Protocol.Keeps.raise _
  · exact Protocol.Keeps.ret _

theorem keeps_call :
  P.Keeps i (fun _ _ => True) call
  := by
  apply Protocol.Triple.bind (B := fun latest _ c => ∀ m, latest = some m → B m c)
  · apply h.read.triple.post
    · exact fun _ _ _ hc => hc
    · exact fun _ _ _ _ => trivial
  · intro latest
    cases latest with
    | none => exact Protocol.Triple.ret fun _ _ _ => trivial
    | some m =>
        apply Protocol.Triple.pre (A := fun _ => B m) _ (fun _ _ hc => hc m rfl)
        cases hdrawing : drawing? m with
        | none =>
            simp only [hdrawing]
            exact Protocol.Triple.ret fun _ _ _ => trivial
        | some drawing =>
            simp only [hdrawing]
            apply Protocol.Triple.bind (B := fun captures _ => C drawing captures)
            · apply (h.photos m drawing hdrawing).triple.post
              · exact fun _ _ _ hc => hc
              · exact fun _ _ _ _ => trivial
            · exact fun captures => h.triple_drawn captures

end ProjectionSpec

end Rails
