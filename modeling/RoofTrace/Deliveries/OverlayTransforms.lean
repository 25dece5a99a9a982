import RoofTrace.Rails.Deliveries
import RoofTrace.Rails.Rows

/-!
# The transforms of overlays

Every ARKit session has an origin of its own, so that the photos of a session have to be
drawn with the transform of that session. A projection reads the transform of the latest
measurement and gathers the photos of all sessions. When all those that it may draw are of
the session of that measurement, every overlay is drawn with the transform of its session.
-/

namespace Rails

open Effects FusionOrchestrator ProjectionOrchestrator SidecarClient

namespace OverlayTransforms

variable {ι : Type} {i : ι}

/-- Whether an operation gathers the photos of the job. -/
def gathers : Op → Bool
  | .photoCaptures => true
  | _ => false

/-- The measurement that an operation has read for a projection. -/
def readForProjection : Event application → Option Measurement
  | ⟨.latestMeasurement .projection, .ok latest⟩ => latest
  | _ => none

/-- The payload of a request for a photo. -/
def askedForPhoto : Event application → Option (Json ℚ)
  | ⟨.post stage payload _, _⟩ => if stage = projectPhoto then some payload else none
  | _ => none

/-- What `what` says of the last event of `i` that it says something of. -/
def last {α : Type} [DecidableEq ι] (what : Event application → Option α) (i : ι) :
    List (ι × Event application) → Option α
  | [] => none
  | (j, e) :: past => if j = i ∧ (what e).isSome then what e else last what i past

/-- The measurement that `i` has read last for a projection. -/
def lastRead [DecidableEq ι] : ι → List (ι × Event application) → Option Measurement :=
  last readForProjection

/-- The photos that are gathered, if they may be drawn, are of the session whose fusion has
made the measurement that was read. -/
def GathersOwn [Platform] [DecidableEq ι] : StepPred rails ι := fun i o _ c =>
  gathers o = true → ∀ m ∈ lastRead i c.past, ∀ drawing ∈ drawing? m,
    ∀ photo ∈ c.world.photoCaptures, drawable drawing photo.1 →
      m.fusionSessionId = .str photo.1.captureSessionId

instance [Platform] [DecidableEq ι] (i : ι) (o : Op) (χ : rails.Choice o) (c : Config rails ι) :
    Decidable (GathersOwn i o χ c) :=
  inferInstanceAs (Decidable (gathers o = true → ∀ m ∈ lastRead i c.past, ∀ drawing ∈ drawing? m,
    ∀ photo ∈ c.world.photoCaptures, drawable drawing photo.1 →
      m.fusionSessionId = .str photo.1.captureSessionId))

/-- An overlay of a capture that is drawn with the transform of a measurement which the fusion
of the capture's session has made. -/
def DrawnFor (w : World) (capture : Capture) (overlay : ProjectedOverlay) : Prop :=
  ∃ m ∈ w.measurements, m.fusionSessionId = .str capture.captureSessionId ∧
    ∃ arkitToUtm, m.fusedArkitToUtm = some arkitToUtm ∧
      overlay.drawnWith = some (arkitToUtm, m.fusedUtmEpsg)

/-- The overlay of a capture is drawn with the transform that is in a payload for its photo. -/
structure DrawnAsAsked (capture : Capture) (payload : Json ℚ) (overlay : ProjectedOverlay) :
    Prop where
  photoRef : payload.get "photo_ref" = (capture.photoRef.map .str).getD .null
  cameraPose : payload.get "camera_pose" =
    .obj [("intrinsics", capture.cameraIntrinsics), ("extrinsics", capture.cameraExtrinsics)]
  transform : overlay.drawnWith = some (payload.get "arkit_to_utm", payload.get "utm_epsg")

/-- An overlay that is saved is not drawn, or drawn for its capture, as the sidecar was last asked
to draw it. -/
def SavesOwn [DecidableEq ι] : StepPred rails ι := fun i o _ c =>
  ∀ overlay, o = .saveOverlay overlay → overlay.lowPoseConfidence = false →
    ∃ capture ∈ c.world.captures, capture.id = overlay.captureId ∧
      DrawnFor c.world capture overlay ∧
      ∃ payload ∈ last askedForPhoto i c.past, DrawnAsAsked capture payload overlay

/-- Every overlay that is drawn is drawn for its capture. -/
def OwnOverlays (w : World) : Prop :=
  ∀ overlay ∈ w.projectedOverlays, overlay.lowPoseConfidence = false →
    (∃ capture ∈ w.captures, capture.id = overlay.captureId) ∧
      ∀ capture ∈ w.captures, capture.id = overlay.captureId → DrawnFor w capture overlay

def overlayProtocol [Platform] (ι : Type) [DecidableEq ι] : Protocol rails ι where
  ok := GathersOwn
  guar := SavesOwn

/-! ### What is kept -/

/-- The measurements of a session, with their transforms, are kept. -/
theorem drawnFor_after {o : Op} {χ : o.Choice} {w : World} {capture : Capture}
    {overlay : ProjectedOverlay} (h : DrawnFor w capture overlay) :
  DrawnFor (exec o χ w).2 capture overlay
  := by
  obtain ⟨m, hm, hsession, arkitToUtm, htransform, hdrawn⟩ := h
  obtain ⟨m', hm', hsame⟩ := kept_of_mem (o := o) (χ := χ) hm
  refine ⟨m', hm', ?_⟩
  rw [hsame]
  exact ⟨hsession, arkitToUtm, htransform, hdrawn⟩

/-- Overlays that are saved for their captures are overlays of their captures. -/
theorem ownOverlays_after [DecidableEq ι] {o : Op} {χ : o.Choice} {c : Config rails ι}
    (hids : (c.world.captures.map (·.id)).Nodup) (hsaves : SavesOwn i o χ c)
    (h : OwnOverlays c.world) :
  OwnOverlays (c.after i o χ).world
  := by
  intro overlay hoverlay hdrawn
  have hown : ∃ capture ∈ c.world.captures, capture.id = overlay.captureId ∧
      DrawnFor c.world capture overlay := by
    rcases overlay_kept_or_saved hoverlay with hbefore | rfl
    · obtain ⟨⟨capture, hcapture, hid⟩, hall⟩ := h overlay hbefore hdrawn
      exact ⟨capture, hcapture, hid, hall capture hcapture hid⟩
    · obtain ⟨capture, hcapture, hid, hfor, -⟩ := hsaves overlay rfl hdrawn
      exact ⟨capture, hcapture, hid, hfor⟩
  obtain ⟨capture, hcapture, hid, hfor⟩ := hown
  refine ⟨⟨capture, capture_kept hcapture, hid⟩, ?_⟩
  intro capture' hcapture' hid'
  have hsame : capture' = capture := by
    apply List.inj_on_of_nodup_map (captures_nodup (o := o) (χ := χ) hids) hcapture'
      (capture_kept hcapture)
    rw [hid', hid]
  rw [hsame]
  exact drawnFor_after hfor

/-- A photo that is gathered is a capture. -/
theorem capture_of_photo {w : World} {photo : Capture × CaptureSession}
    (h : photo ∈ w.photoCaptures) :
  photo.1 ∈ w.captures
  := by
  obtain ⟨capture, hcapture, hphoto⟩ := List.mem_filterMap.mp h
  obtain ⟨session, -, rfl⟩ := Option.map_eq_some_iff.mp hphoto
  exact (List.mem_filter.mp ((List.mem_insertionSort _).mp hcapture)).1

/-- A drawing has the transform of its measurement. -/
theorem transform_of_drawing {m : Measurement} {drawing : Drawing}
    (h : drawing? m = some drawing) :
  m.fusedArkitToUtm = some drawing.arkitToUtm ∧ m.fusedUtmEpsg = drawing.utmEpsg
  := by
  unfold drawing? at h
  cases htransform : m.fusedArkitToUtm with
  | none =>
      simp only [htransform] at h
      cases h
  | some arkitToUtm =>
      simp only [htransform] at h
      split at h
      · cases h
      · cases h
        exact ⟨rfl, rfl⟩

/-- What is last for `i` is not changed by the others. -/
theorem last_cons_of_ne {α : Type} [DecidableEq ι] (what : Event application → Option α) {j : ι}
    (hj : j ≠ i) (e : Event application) (past : List (ι × Event application)) :
  last what i ((j, e) :: past) = last what i past
  := if_neg fun hown => hj hown.1

/-- What has just been done is what is last. -/
theorem last_cons_self {α : Type} [DecidableEq ι] {what : Event application → Option α} {a : α}
    {e : Event application} (he : what e = some a) (past : List (ι × Event application)) :
  last what i ((i, e) :: past) = some a
  := by
  rw [last, he]
  exact if_pos ⟨rfl, rfl⟩

/-- What is not looked for changes nothing. -/
theorem last_cons_of_none {α : Type} [DecidableEq ι] {what : Event application → Option α} {j : ι}
    {e : Event application} (he : what e = none) (past : List (ι × Event application)) :
  last what i ((j, e) :: past) = last what i past
  := by
  rw [last, he]
  exact if_neg fun hsome => absurd hsome.2 Bool.false_ne_true

/-! ### Projections -/

section Projections

variable [Platform] [DecidableEq ι]

theorem guar_of_not_saved {o : Op} (ho : o.saved = none) (χ : o.Choice) (c : Config rails ι) :
  (overlayProtocol ι).guar i o χ c
  := by
  rintro overlay rfl
  cases ho

/-- The measurement that is read, as its row holds it. -/
def Reading (i : ι) (m : Measurement) (c : Config rails ι) : Prop :=
  lastRead i c.past = some m ∧ ∃ m' ∈ c.world.measurements, m.SameButWarnings m'

/-- The photos that may be drawn, with a measurement of their session whose transform they are
drawn with. -/
def OwnPhotos (drawing : Drawing) (photos : List (Capture × CaptureSession))
    (c : Config rails ι) : Prop :=
  ∀ photo ∈ photos, drawable drawing photo.1 → photo.1 ∈ c.world.captures ∧
    ∃ m ∈ c.world.measurements, m.fusionSessionId = .str photo.1.captureSessionId ∧
      m.fusedArkitToUtm = some drawing.arkitToUtm ∧ m.fusedUtmEpsg = drawing.utmEpsg

omit [Platform] in
/-- A measurement that has just been read for the projection is what it reads. -/
theorem reading_of_read {m : Measurement} {c : Config rails ι}
    (hm : m ∈ c.world.latestMeasurement) :
  Reading i m (c.after i (.latestMeasurement .projection) (none : Option String))
  := by
  constructor
  · exact last_cons_self
      (e := ⟨Op.latestMeasurement .projection, .ok c.world.latestMeasurement⟩) hm _
  · exact ⟨m, List.argmax_mem hm, .refl m⟩

omit [Platform] in
/-- What another party does leaves what the projection has read. -/
theorem reading_after {j : ι} (hj : j ≠ i) {m : Measurement} {o : Op} {χ : o.Choice}
    {c : Config rails ι} (h : Reading i m c) :
  Reading i m (c.after j o χ)
  := by
  obtain ⟨hread, m₁, hm₁, hsame₁⟩ := h
  obtain ⟨m₂, hm₂, hsame₂⟩ := kept_of_mem (o := o) (χ := χ) hm₁
  rw [lastRead, ← last_cons_of_ne _ hj] at hread
  exact ⟨hread, m₂, hm₂, hsame₁.trans hsame₂⟩

omit [DecidableEq ι] in
theorem ownPhotos_after {j : ι} {drawing : Drawing} {photos : List (Capture × CaptureSession)}
    {o : Op} {χ : o.Choice} {c : Config rails ι} (h : OwnPhotos drawing photos c) :
  OwnPhotos drawing photos (c.after j o χ)
  := by
  intro photo hphoto hdrawable
  obtain ⟨hcapture, m, hm, hown⟩ := h photo hphoto hdrawable
  obtain ⟨m', hm', hsame⟩ := kept_of_mem (o := o) (χ := χ) hm
  refine ⟨capture_kept hcapture, m', hm', ?_⟩
  rw [hsame]
  exact hown

/-- The photos that are gathered may be drawn with the transform that was read. -/
theorem ownPhotos_of_gathered {m : Measurement} {drawing : Drawing} {c : Config rails ι}
    (hdrawing : drawing? m = some drawing) (hread : Reading i m c)
    (hgathers : GathersOwn i .photoCaptures (none : Option String) c) :
  OwnPhotos drawing c.world.photoCaptures c
  := by
  obtain ⟨hlast, m', hm', hsame⟩ := hread
  obtain ⟨htransform, hepsg⟩ := transform_of_drawing hdrawing
  intro photo hphoto hdrawable
  refine ⟨capture_of_photo hphoto, m', hm', ?_⟩
  rw [hsame]
  exact ⟨hgathers rfl m hlast drawing hdrawing photo hphoto hdrawable, htransform, hepsg⟩

theorem ownPhotos_undisturbed (drawing : Drawing) (photos : List (Capture × CaptureSession)) :
  Undisturbed (overlayProtocol ι) i (OwnPhotos drawing photos)
  := by
  constructor
  · rintro c _ ⟨j, -, o, χ, -, -, rfl⟩ hown
    exact ownPhotos_after hown
  · intro o χ c ho _ hown
    refine ⟨guar_of_not_saved ?_ χ c, ownPhotos_after hown⟩
    cases o <;> first | rfl | cases ho

/-- The photos that may be drawn, once the sidecar has answered for one of them. -/
def Answered (i : ι) (drawing : Drawing) (photos : List (Capture × CaptureSession))
    (photo : Capture × CaptureSession) (c : Config rails ι) : Prop :=
  OwnPhotos drawing photos c ∧
    ∃ payload ∈ last askedForPhoto i c.past, Asks drawing photo.1 payload

/-- A drawn overlay is saved with the transform that was in the payload for its photo. -/
theorem savesOwn_of_answered {drawing : Drawing} {photos : List (Capture × CaptureSession)}
    {photo : Capture × CaptureSession} {overlay : ProjectedOverlay}
    {c : Config rails ι} (h : Answered i drawing photos photo c) (hphoto : photo ∈ photos)
    (hdraws : Draws drawing photo.1 overlay) (χ : Option String) :
  SavesOwn i (.saveOverlay overlay) χ c
  := by
  obtain ⟨hown, payload, hlast, hasks⟩ := h
  rintro _ ⟨rfl⟩ hdrawn
  obtain ⟨hdrawable, hwith⟩ := hdraws.drawn hdrawn
  obtain ⟨hcapture, m, hm, hsession, htransform, hepsg⟩ := hown photo hphoto hdrawable
  refine ⟨photo.1, hcapture, hdraws.captureId.symm, ?_, payload, hlast, ?_⟩
  · refine ⟨m, hm, hsession, _, htransform, ?_⟩
    rw [hepsg]
    exact hwith
  · constructor
    · exact hasks.photoRef
    · exact hasks.cameraPose
    · rw [hwith, hasks.arkitToUtm, hasks.utmEpsg]

theorem projectionSpec :
  ProjectionSpec (overlayProtocol ι) i (Reading i) OwnPhotos (Answered i)
  where
  read := by
    constructor
    · exact Protocol.stable_const True
    · intro χ c _ _
      use guar_of_not_saved rfl χ c
      cases χ with
      | some className => trivial
      | none =>
          intro m hm
          exact reading_of_read hm
  photos m drawing hdrawing := by
    constructor
    · rintro c _ ⟨j, hj, o, χ, -, -, rfl⟩ hread
      exact reading_after hj hread
    · intro χ c hok hread
      use guar_of_not_saved rfl χ c
      cases χ with
      | some className => trivial
      | none => exact ownPhotos_after (ownPhotos_of_gathered hdrawing hread hok)
  status drawing photos := .of_undisturbed (ownPhotos_undisturbed drawing photos) rfl
  post drawing photos photo payload timeout _ _ hasks := by
    constructor
    · exact (ownPhotos_undisturbed drawing photos).stable
    · intro χ c _ hown
      use guar_of_not_saved rfl χ c, ownPhotos_after hown
      refine ⟨payload, ?_, hasks⟩
      apply last_cons_self (e := ⟨Op.post projectPhoto payload timeout, .ok χ⟩)
      rw [askedForPhoto, if_pos rfl]
  weaken _ _ _ _ h := h.1
  save drawing photos photo overlay hphoto hdraws _ := by
    constructor
    · rintro c _ ⟨j, hj, o, χ, -, -, rfl⟩ ⟨hown, payload, hlast, hasks⟩
      use ownPhotos_after hown, payload
      refine ⟨?_, hasks⟩
      exact (last_cons_of_ne askedForPhoto hj _ _).trans hlast
    · intro χ c _ h
      constructor
      · exact savesOwn_of_answered h hphoto hdraws χ
      · cases χ <;> exact ownPhotos_after h.1
  saveUndrawn drawing photos photo overlay _ _ hlow := by
    constructor
    · exact (ownPhotos_undisturbed drawing photos).stable
    · intro χ c _ hown
      constructor
      · rintro _ ⟨rfl⟩ hdrawn
        rw [hlow] at hdrawn
        cases hdrawn
      · cases χ <;> exact ownPhotos_after hown

theorem geometry_permits :
  Permits (overlayProtocol ι) i GeometryJob.Performs
  where
  quiet o ho := by cases o <;> trivial
  update _ := trivial
  guar ho := by
    apply guar_of_not_saved
    rename_i o _ _
    cases o <;> first | rfl | exact ho.elim

theorem fusion_permits (captureSessionId : String) :
  Permits (overlayProtocol ι) i (FusionJob.Performs captureSessionId fun _ => True)
  where
  quiet o ho := by cases o <;> trivial
  update _ := trivial
  guar ho := by
    apply guar_of_not_saved
    rename_i o _ _
    cases o <;> first | rfl | exact ho.elim

theorem projection_permits :
  Permits (overlayProtocol ι) i ProjectionJob.Performs
  where
  quiet o ho := by cases o <;> trivial
  update _ := trivial
  guar ho := by
    apply guar_of_not_saved
    rename_i o _ _
    cases o <;> first | rfl | exact ho.elim

theorem program_savesOwn [FormatAssertion] (work : Delivery) (c : Config rails ι) :
  (overlayProtocol ι).wp i work.program (fun _ _ => True) c
  := by
  cases work with
  | geometry => exact wp_discarding (GeometryJob.wp_delivery geometry_permits c)
  | fusion captureSessionId =>
      apply wp_discarding
      exact FusionJob.wp_delivery (fusion_permits captureSessionId) (fun _ _ => trivial) c
  | projection =>
      apply wp_discarding
      exact ProjectionJob.wp_delivery projection_permits.toUpdates (fun _ => trivial)
        projectionSpec c
  | ingest captureSession captures =>
      intro _ _ χ _
      exact ⟨guar_of_not_saved (i := i) rfl χ _, trivial⟩

/-- Every overlay that is drawn is drawn with the transform of its capture's session, in every
interleaving of deliveries whose projections gather photos of the session that they have read
the transform of. The transform of an overlay is the one in the payload that was last
posted, which was for its photo. -/
theorem overlays_use_own_transform [FormatAssertion] (work : ι → Delivery)
    (w : World) (hids : (w.captures.map (·.id)).Nodup) (hw : OwnOverlays w)
    (schedule : List (ι × rails.Choices)) (hmeets : (deliveries work w).Meets GathersOwn schedule) :
  OwnOverlays ((deliveries work w).run schedule).config.world ∧
    (deliveries work w).Meets SavesOwn schedule
  := by
  have hstart : (deliveries work w).Keeps (overlayProtocol ι) fun _ _ _ => True :=
    fun i => program_savesOwn (work i) _
  obtain ⟨hguar, -⟩ := Pool.run_of_keeps (fun _ _ => Protocol.stable_const True) hstart hmeets
  have hinv := Pool.invariant_run (P := overlayProtocol ι)
    (A := fun c => (c.world.captures.map (·.id)).Nodup ∧ OwnOverlays c.world)
    (fun i o χ c _ hsaves hc => ⟨captures_nodup hc.1, ownOverlays_after hc.1 hsaves hc.2⟩)
    hmeets hguar ⟨hids, hw⟩
  exact ⟨hinv.2, hguar⟩

end Projections

/-! ### Two sessions -/

/-- The fusion of the capture session `1`, and a projection. -/
def fusionAndProjection : Bool → Delivery
  | true => .fusion "1"
  | false => .projection

/-- The fusion, and then the projection of `n` photos. -/
def fusedAndProjected (n : ℕ) : List (Bool × rails.Choices) :=
  List.replicate 10 (true, projecting) ++ List.replicate (4 + 2 * n) (false, projecting)

/-- The fusion of one session is followed by a projection, whose photo is drawn with the transform
of that session. -/
theorem overlays_use_own_transform_one_session :
  OwnOverlays ((@deliveries Bool anyFormat plainPlatform fusionAndProjection
      (photographedJob ["1"] [photo "a" "1"])).run (fusedAndProjected 1)).config.world ∧
    (@deliveries Bool anyFormat plainPlatform fusionAndProjection
      (photographedJob ["1"] [photo "a" "1"])).Meets SavesOwn (fusedAndProjected 1)
  := by
  apply @overlays_use_own_transform Bool plainPlatform _ anyFormat
  · decide
  · exact nofun
  · decide +kernel

/-- The world after both photos of two sessions have been drawn. -/
def drawnTogether : World :=
  ((@deliveries Bool anyFormat plainPlatform fusionAndProjection
    (photographedJob ["1", "2"] [photo "a" "1", photo "b" "2"])).run
      (fusedAndProjected 2)).config.world

/-- A photo of the capture session `2` is drawn with the transform of the session `1`. -/
theorem overlay_uses_other_transform :
  OwnOverlays (photographedJob ["1", "2"] [photo "a" "1", photo "b" "2"]) ∧
    ¬ OwnOverlays drawnTogether
  := by
  use nofun
  intro hown
  have hdrawn : ∃ overlay ∈ drawnTogether.projectedOverlays,
      overlay.lowPoseConfidence = false ∧ overlay.captureId = "b" := by
    decide +kernel
  have hcapture : ∃ capture ∈ drawnTogether.captures,
      capture.id = "b" ∧ capture.captureSessionId = "2" := by
    decide +kernel
  have hsessions : ∀ m ∈ drawnTogether.measurements, m.fusionSessionId ≠ .str "2" := by
    decide +kernel
  obtain ⟨overlay, hoverlay, hlow, hid⟩ := hdrawn
  obtain ⟨capture, hcapture, hid', hsession⟩ := hcapture
  obtain ⟨m, hm, hm', -⟩ := (hown overlay hoverlay hlow).2 capture hcapture (hid'.trans hid.symm)
  rw [hsession] at hm'
  exact hsessions m hm hm'

end OverlayTransforms

end Rails
