import RoofTrace.Effects.Play
import RoofTrace.Rails.Deliveries
import RoofTrace.Rails.Rows

/-!
# Reruns of a projection

A run of the ProjectionJob goes through all photos of the job, also those that it has drawn
before, and a photo whose call fails is given an overlay that is not drawn. What a sequence
of runs makes of the overlays is computed here from how the calls come out, when nothing but
the sidecar fails. There is one row a capture, and a run is attempted again just when all of
its photos have timed out; but an overlay that could be shown is lost whenever a later call
for its photo fails.
-/

namespace Rails

open Effects ProjectionOrchestrator SidecarClient

namespace ProjectionReruns

/-! ### What the world leaves to a run -/

/-- How a photo comes out of a run. -/
inductive Outcome where
  /-- Its pose is not good enough, so that the sidecar is not asked. -/
  | unasked
  | answered (response : Json ℚ)
  | failed (e : Exn)

/-- Whether a photo has failed in a way that may pass. -/
def Outcome.Transient : Outcome → Prop
  | .failed (.sidecar .timeoutError _) => True
  | _ => False

/-- Nothing fails but the sidecar, in one of the ways that the client knows. -/
structure SidecarOnly (χ : rails.Choices) : Prop where
  findJob : ∀ n, (χ (.findJob n) : Option String) = none
  latestMeasurement : ∀ reader, (χ (.latestMeasurement reader) : Option String) = none
  photoCaptures : (χ .photoCaptures : Option String) = none
  saveOverlay : ∀ overlay, (χ (.saveOverlay overlay) : Option String) = none
  post : ∀ stage payload timeout className,
    (χ (.post stage payload timeout) : Exchange) ≠ .raised className

/-- The choices of a run after the first `k` of them. -/
def later (k : ℕ) (χ : ℕ → rails.Choices) : ℕ → rails.Choices := fun n => χ (n + k)

/-- A run of the ProjectionJob: the number of the attempt, and the choices of the world. -/
structure Run where
  executions : ℕ
  choices : ℕ → rails.Choices

section Runs

variable [FormatAssertion] [Platform]

/-- The result of a run, and the world after it. -/
def performed (w : World) (run : Run) : Except Exn Unit × World :=
  let (result, c) := (ProjectionJob.perform run.executions).run () run.choices ⟨w, []⟩
  (result, c.world)

/-- The confidence in the pose of a photo. -/
def confidence (drawing : Drawing) (capture : Capture) : ℚ :=
  ProjectionPoseConfidence.score drawing.icpRmseM capture.cameraExtrinsics

/-- The payload of the request for a photo. -/
def payload (drawing : Drawing) (row : JobRow) (photo : Capture × CaptureSession) : Json ℚ :=
  projectPhotoPayload (.str row.id) ((photo.1.photoRef.map .str).getD .null)
    (.obj [("intrinsics", photo.1.cameraIntrinsics), ("extrinsics", photo.1.cameraExtrinsics)])
    (.arr drawing.facets) photo.2.worldMeshRef (.arr drawing.features) drawing.arkitToUtm
    drawing.utmEpsg (.num (confidence drawing photo.1))

/-- How a photo comes out, and the choices that are left after it. -/
def outcome (drawing : Drawing) (row : JobRow) (photo : Capture × CaptureSession)
    (χ : ℕ → rails.Choices) : Outcome × (ℕ → rails.Choices) :=
  if ProjectionPoseConfidence.acceptable (confidence drawing photo.1) then
    match validateRequest projectPhoto.request (payload drawing row photo) with
    | .error e => (.failed e, later 1 χ)
    | .ok _ =>
        match receive projectPhoto projectPhotoTimeoutSeconds
          (χ 0 (.post projectPhoto (payload drawing row photo) projectPhotoTimeoutSeconds)) with
        | .error e => (.failed e, later 2 χ)
        | .ok response => (.answered response, later 2 χ)
  else (.unasked, later 1 χ)

/-- How the photos come out, one after the other. -/
def outcomes (drawing : Drawing) (row : JobRow) :
    List (Capture × CaptureSession) → (ℕ → rails.Choices) → List (Capture × Outcome)
  | [], _ => []
  | photo :: photos, χ =>
      (photo.1, (outcome drawing row photo χ).1) ::
        outcomes drawing row photos (outcome drawing row photo χ).2

/-- How the photos of a job come out of a run: a run first loads the job, reads its
measurement and gathers its photos. -/
def attempted (w : World) (run : Run) : List (Capture × Outcome) :=
  match w.latestMeasurement.bind drawing? with
  | none => []
  | some drawing => outcomes drawing w.job w.photoCaptures (later 3 run.choices)

/-! ### What is claimed of a run -/

/-- The row of a capture. -/
def overlayOf (w : World) (captureId : String) : Option ProjectedOverlay :=
  w.projectedOverlays.find? (·.captureId = captureId)

/-- Whether an overlay can be shown. -/
def Drawable (overlay : ProjectedOverlay) : Prop :=
  overlay.compositeRef ≠ .null ∧ overlay.overlaySvgRef ≠ .null ∧
    overlay.lowPoseConfidence = false

/-- A capture has at most one row. -/
def OneRowEach (w : World) : Prop := (w.projectedOverlays.map (·.captureId)).Nodup

/-- A run leaves at most one row a capture, leaves alone what can be shown when its call
fails, and raises just when it has attempted a photo and all have failed transiently. -/
structure Keeps (w : World) (run : Run) : Prop where
  oneRow : OneRowEach (performed w run).2
  kept : ∀ capture e, (capture, Outcome.failed e) ∈ attempted w run →
    ∀ overlay, overlayOf w capture.id = some overlay → Drawable overlay →
      overlayOf (performed w run).2 capture.id = some overlay
  raises : (∃ e, (performed w run).1 = .error e) ↔
    attempted w run ≠ [] ∧ ∀ photo ∈ attempted w run, photo.2.Transient

/-- The same of every run of a sequence. -/
def AllKeep (w : World) : List Run → Prop
  | [] => True
  | run :: runs => Keeps w run ∧ AllKeep (performed w run).2 runs

/-- No call of a run fails for a capture whose overlay can be shown. -/
def Spares (w : World) (run : Run) : Prop :=
  ∀ capture e, (capture, Outcome.failed e) ∈ attempted w run →
    ∀ overlay, overlayOf w capture.id = some overlay → ¬ Drawable overlay

/-- The same of every run of a sequence. -/
def AllSpare (w : World) : List Run → Prop
  | [] => True
  | run :: runs => Spares w run ∧ AllSpare (performed w run).2 runs

/-! ### What a photo is given -/

/-- The overlay that is not drawn. -/
def lowConfidenceOverlay (capture : Capture) (confidence : Option ℚ) : ProjectedOverlay where
  captureId := capture.id
  compositeRef := .null
  overlaySvgRef := .null
  poseConfidence := confidence
  lowPoseConfidence := true
  occludedFacetIds := []
  drawnWith := none

/-- The overlay that is saved for a photo. -/
def overlay (drawing : Drawing) (capture : Capture) : Outcome → ProjectedOverlay
  | .unasked => lowConfidenceOverlay capture (some (confidence drawing capture))
  | .failed _ => lowConfidenceOverlay capture none
  | .answered response =>
      let narrowed :=
        effectiveConfidence (confidence drawing capture) (response.get "pose_confidence")
      if ProjectionPoseConfidence.acceptable narrowed then
        { captureId := capture.id
          compositeRef := Ruby.or (response.get "composite_ref") (response.get "overlay_ref")
          overlaySvgRef := response.get "overlay_svg_ref"
          poseConfidence := some narrowed
          lowPoseConfidence := false
          occludedFacetIds := Ruby.array (response.get "occluded_facet_ids")
          drawnWith := some (drawing.arkitToUtm, drawing.utmEpsg) }
      else lowConfidenceOverlay capture (some narrowed)

/-- What becomes of a tally with a photo. -/
def count (tally : Tally) : Outcome → Tally
  | .failed (.sidecar .timeoutError _) =>
      { tally with transientFailures := tally.transientFailures + 1 }
  | .failed _ => { tally with anyPermanentFailure := true }
  | _ => { tally with anySuccess := true }

omit [FormatAssertion] in
theorem overlay_captureId (drawing : Drawing) (capture : Capture) (out : Outcome) :
  (overlay drawing capture out).captureId = capture.id
  := by
  cases out with
  | answered response =>
      simp only [overlay]
      split <;> rfl
  | _ => rfl

end Runs

/-- What becomes of the overlays with the photos of a run. -/
def saveEach [Platform] (drawing : Drawing) (w : World) (attempted : List (Capture × Outcome)) :
    World :=
  attempted.foldl (fun w photo => w.saveOverlay (overlay drawing photo.1 photo.2)) w

/-- What becomes of a tally with the photos of a run. -/
def countEach (tally : Tally) (attempted : List (Capture × Outcome)) : Tally :=
  attempted.foldl (fun tally photo => count tally photo.2) tally

/-! ### How a run goes -/

section Playing

variable {χ : ℕ → rails.Choices} (c : Config rails Unit) (job : Job) {drawing : Drawing}

theorem play_perform (o : Op) :
  ((perform o : Method Job o.Res) job).play () χ c =
    ((c.answer o (χ 0 o), job), later 1 χ, c.after () o (χ 0 o))
  := rfl

theorem play_save (hχ : ∀ n, SidecarOnly (χ n)) (overlay : ProjectedOverlay) :
  ∃ past, ((perform (.saveOverlay overlay) : Method Job Unit) job).play () χ c =
    ((.ok (), job), later 1 χ, ⟨c.world.saveOverlay overlay, past⟩)
  := by
  use ((), ⟨.saveOverlay overlay, .ok ()⟩) :: c.past
  rw [play_perform]
  simp only [Config.answer, Config.after, exec, (hχ 0).saveOverlay]
  rfl

variable (χ) in
theorem play_request [FormatAssertion] (stage : Stage) (payload : Json ℚ) (timeout : ℕ) :
  ((request stage payload timeout : Method Job (Json ℚ)) job).play () χ c =
    match validateRequest stage.request payload with
    | .error e => ((.error e, job), χ, c)
    | .ok _ =>
        ((receive stage timeout (χ 0 (.post stage payload timeout)), job), later 1 χ,
          c.after () (.post stage payload timeout) (χ 0 (.post stage payload timeout)))
  := by
  cases hvalid : validateRequest stage.request payload with
  | error e =>
      apply Action.play_bind_of_error
      rw [hvalid]
      apply Action.play_ofExcept
  | ok _ =>
      have hfirst : ((Action.ofExcept (validateRequest stage.request payload) :
          Method Job Unit) job).play () χ c = ((.ok (), job), χ, c) := by
        rw [hvalid]
        apply Action.play_ofExcept
      unfold request
      rw [Action.play_bind_of_ok hfirst, Action.play_bind_of_ok (play_perform _ _ _)]
      apply Action.play_ofExcept

theorem play_persistLowConfidenceOverlay (hχ : ∀ n, SidecarOnly (χ n)) (capture : Capture)
    (confidence : Option ℚ) :
  ∃ past, (persistLowConfidenceOverlay capture confidence job).play () χ c =
    ((.ok (), job), later 1 χ, ⟨c.world.saveOverlay (lowConfidenceOverlay capture confidence), past⟩)
  := play_save c job hχ _

variable [Platform]

variable (drawing) in
theorem play_persistOverlay (hχ : ∀ n, SidecarOnly (χ n)) (capture : Capture)
    (response : Json ℚ) :
  ∃ past, (persistOverlay capture drawing response (confidence drawing capture) job).play () χ c =
    ((.ok (), job), later 1 χ,
      ⟨c.world.saveOverlay (overlay drawing capture (.answered response)), past⟩)
  := by
  simp only [persistOverlay, overlay]
  split
  · apply play_save c job hχ
  · apply play_persistLowConfidenceOverlay c job hχ

variable [FormatAssertion]

theorem projectOne_of_unacceptable {photo : Capture × CaptureSession}
    (h : ProjectionPoseConfidence.acceptable (confidence drawing photo.1) = false) :
  projectOne photo.1 photo.2 drawing job =
    persistLowConfidenceOverlay photo.1 (some (confidence drawing photo.1)) job
  := by
  unfold projectOne
  unfold confidence at h ⊢
  simp only [h, Bool.false_eq_true, if_false]

theorem projectOne_of_acceptable {photo : Capture × CaptureSession}
    (h : ProjectionPoseConfidence.acceptable (confidence drawing photo.1) = true) :
  projectOne photo.1 photo.2 drawing job =
    (request projectPhoto (payload drawing job.row photo) projectPhotoTimeoutSeconds >>=
      fun response => persistOverlay photo.1 drawing response (confidence drawing photo.1)) job
  := by
  unfold projectOne
  unfold confidence at h
  simp only [h, if_true]
  rfl

/-- A photo whose call fails is given an overlay that is not drawn. -/
theorem play_projectCapture_of_error (tally : Tally) {photo : Capture × CaptureSession}
    {χ' : ℕ → rails.Choices} {c' : Config rails Unit} {errorClass : SidecarErrorClass} {message : String}
    (h : (projectOne photo.1 photo.2 drawing job).play () χ c =
      ((.error (.sidecar errorClass message), job), χ', c'))
    (hχ' : ∀ n, SidecarOnly (χ' n)) :
  ∃ past, (projectCapture drawing tally photo job).play () χ c =
    ((.ok (count tally (.failed (.sidecar errorClass message))), job), later 1 χ',
      ⟨c'.world.saveOverlay (lowConfidenceOverlay photo.1 none), past⟩)
  := by
  obtain ⟨past, hsave⟩ := play_persistLowConfidenceOverlay c' job hχ' photo.1 none
  use past
  unfold projectCapture
  rw [Action.play_tryCatch_of_error _ (Action.play_bind_of_error h)]
  cases errorClass <;>
  · simp only
    rw [Action.play_bind_of_ok hsave]
    rfl

variable (drawing) in
/-- A photo is given the overlay of its outcome. -/
theorem play_projectCapture (hχ : ∀ n, SidecarOnly (χ n)) (photo : Capture × CaptureSession)
    (tally : Tally) :
  ∃ past, (projectCapture drawing tally photo job).play () χ c =
    ((.ok (count tally (outcome drawing job.row photo χ).1), job),
      (outcome drawing job.row photo χ).2,
      ⟨c.world.saveOverlay (overlay drawing photo.1 (outcome drawing job.row photo χ).1), past⟩)
  := by
  have hlater (k : ℕ) : ∀ n, SidecarOnly (later k χ n) := fun n => hχ (n + k)
  cases hacceptable : ProjectionPoseConfidence.acceptable (confidence drawing photo.1) with
  | false =>
      obtain ⟨past, hsave⟩ := play_persistLowConfidenceOverlay c job hχ photo.1
        (some (confidence drawing photo.1))
      rw [← projectOne_of_unacceptable job hacceptable] at hsave
      use past
      unfold projectCapture
      rw [Action.play_tryCatch_of_ok (Action.play_bind_of_ok hsave)]
      simp only [outcome, hacceptable, Bool.false_eq_true, if_false]
      rfl
  | true =>
      have hone := projectOne_of_acceptable job hacceptable
      have hrequest := play_request χ c job projectPhoto
        (payload drawing job.row photo) projectPhotoTimeoutSeconds
      simp only [outcome, hacceptable, if_true]
      cases hvalid : validateRequest projectPhoto.request (payload drawing job.row photo) with
      | error e =>
          obtain ⟨message, rfl⟩ := sidecar_of_validate_eq_error rfl hvalid
          simp only [hvalid] at hrequest
          apply play_projectCapture_of_error c job tally _ hχ
          rw [hone]
          exact Action.play_bind_of_error hrequest
      | ok _ =>
          simp only [hvalid] at hrequest
          cases hreceived : receive projectPhoto projectPhotoTimeoutSeconds (χ 0 (.post projectPhoto
              (payload drawing job.row photo) projectPhotoTimeoutSeconds)) with
          | error e =>
              obtain ⟨errorClass, message, rfl⟩ :=
                sidecar_of_receive_eq_error rfl ((hχ 0).post _ _ _) hreceived
              rw [hreceived] at hrequest
              have hplay : (projectOne photo.1 photo.2 drawing job).play () χ c = _ :=
                hone ▸ Action.play_bind_of_error hrequest
              obtain ⟨past, hcapture⟩ := play_projectCapture_of_error c job tally hplay (hlater 1)
              exact ⟨past, hcapture⟩
          | ok response =>
              rw [hreceived] at hrequest
              obtain ⟨past, hpersist⟩ := play_persistOverlay
                (c.after () (.post projectPhoto (payload drawing job.row photo)
                  projectPhotoTimeoutSeconds) (χ 0 (.post projectPhoto
                    (payload drawing job.row photo) projectPhotoTimeoutSeconds)))
                job drawing (hlater 1) photo.1 response
              use past
              have hplay : (projectOne photo.1 photo.2 drawing job).play () χ c = _ :=
                hone ▸ (Action.play_bind_of_ok hrequest).trans hpersist
              unfold projectCapture
              rw [Action.play_tryCatch_of_ok (Action.play_bind_of_ok hplay)]
              rfl

theorem sidecarOnly_outcome (hχ : ∀ n, SidecarOnly (χ n)) (row : JobRow)
    (photo : Capture × CaptureSession) (n : ℕ) :
  SidecarOnly ((outcome drawing row photo χ).2 n)
  := by
  unfold outcome
  split
  · split
    · apply hχ
    · split <;> apply hχ
  · apply hχ

variable (drawing) in
/-- The photos are given the overlays of their outcomes, one after the other. -/
theorem play_projectEach (photos : List (Capture × CaptureSession)) (hχ : ∀ n, SidecarOnly (χ n))
    (tally : Tally) :
  ∃ χ' past, (projectEach drawing tally photos job).play () χ c =
    ((.ok (countEach tally (outcomes drawing job.row photos χ)), job), χ',
      ⟨saveEach drawing c.world (outcomes drawing job.row photos χ), past⟩)
  := by
  induction photos generalizing χ c tally with
  | nil => exact ⟨χ, c.past, rfl⟩
  | cons photo photos ih =>
      obtain ⟨past, hfirst⟩ := play_projectCapture c job drawing hχ photo tally
      obtain ⟨χ', past', hrest⟩ := ih _ (sidecarOnly_outcome hχ job.row photo)
        (count tally (outcome drawing job.row photo χ).1)
      use χ', past'
      unfold projectEach
      rw [Action.play_bind_of_ok hfirst]
      exact hrest

variable (χ) in
omit [Platform] [FormatAssertion] in
theorem play_broadcast :
  ∃ past, (broadcast job).play () χ c = ((.ok (), job), later 1 χ, ⟨c.world, past⟩)
  := by
  cases hraised : (χ 0 .broadcastProjectionStatus : Option String) with
  | none =>
      use ((), ⟨.broadcastProjectionStatus, .ok ()⟩) :: c.past
      apply Action.play_tryCatch_of_ok
      rw [play_perform]
      simp only [Config.answer, Config.after, exec, hraised]
      rfl
  | some className =>
      use ((), ⟨.broadcastProjectionStatus, .error (.standardError className)⟩) :: c.past
      have hperform : ((perform .broadcastProjectionStatus : Method Job Unit) job).play () χ c =
          ((.error (.standardError className), job), later 1 χ, ⟨c.world,
            ((), ⟨.broadcastProjectionStatus, .error (.standardError className)⟩) :: c.past⟩) := by
        rw [play_perform]
        simp only [Config.answer, Config.after, exec, hraised]
        rfl
      unfold broadcast
      rw [Action.play_tryCatch_of_error _ hperform]
      rfl

variable (χ) in
omit [Platform] [FormatAssertion] in
/-- Saving the job does nothing to the overlays, whether it raises or not. -/
theorem play_jobSave :
  ∃ r job' χ' c', (Job.save job).play () χ c = ((r, job'), χ', c') ∧
    c'.world.projectedOverlays = c.world.projectedOverlays
  := by
  change ∃ r job' χ' c', ((if job.changes.isEmpty then return () else do
    perform (.updateJob job.changes)
    set job.saved : Method Job Unit) job).play () χ c = ((r, job'), χ', c') ∧ _
  split
  · exact ⟨.ok (), job, χ, c, rfl, rfl⟩
  · cases hraised : (χ 0 (.updateJob job.changes) : Option String) with
    | none =>
        refine ⟨.ok (), job.saved, later 1 χ, c.after () (.updateJob job.changes)
          (χ 0 (.updateJob job.changes)), ?_, ?_⟩
        · apply Action.play_bind_of_ok
          rw [play_perform]
          simp only [Config.answer, exec, hraised]
          rfl
        · simp only [Config.after, exec, hraised]
          rfl
    | some className =>
        refine ⟨.error (.standardError className), job, later 1 χ,
          c.after () (.updateJob job.changes) (χ 0 (.updateJob job.changes)), ?_, ?_⟩
        · apply Action.play_bind_of_error
          rw [play_perform]
          simp only [Config.answer, exec, hraised]
          rfl
        · simp only [Config.after, exec, hraised]
          rfl

variable (χ) in
omit [Platform] [FormatAssertion] in
/-- A failure is recorded and raised again, whatever becomes of the record. -/
theorem play_recorded (message : String) (e : Exn) :
  ∃ e' job' χ' c', ((do Job.updateLastError message; throw e : Method Job Unit) job).play () χ c =
    ((.error e', job'), χ', c') ∧ c'.world.projectedOverlays = c.world.projectedOverlays
  := by
  obtain ⟨r, job', χ', c', hsave, hoverlays⟩ :=
    play_jobSave χ c { job with lastError := some message }
  cases r with
  | ok _ =>
      refine ⟨e, job', χ', c', ?_, hoverlays⟩
      exact Action.play_bind_of_ok hsave
  | error e' =>
      refine ⟨e', job', χ', c', ?_, hoverlays⟩
      exact Action.play_bind_of_error hsave

/-- Whether a run whose photos have come out as in a tally is attempted again. -/
def Exhausted (tally : Tally) : Prop :=
  0 < tally.transientFailures ∧ tally.anyPermanentFailure = false ∧ tally.anySuccess = false

theorem play_project (hχ : ∀ n, SidecarOnly (χ n)) :
  ∃ r χ' c', (project drawing job).play () χ c = ((r, job), χ', c') ∧
    c'.world.projectedOverlays =
      (saveEach drawing c.world
        (outcomes drawing job.row c.world.photoCaptures (later 1 χ))).projectedOverlays ∧
    ((∃ e, r = .error e) ↔
      Exhausted (countEach ⟨false, false, 0⟩
        (outcomes drawing job.row c.world.photoCaptures (later 1 χ))))
  := by
  have hphotos : ((perform .photoCaptures : Method Job (List (Capture × CaptureSession)))
      job).play () χ c = ((.ok c.world.photoCaptures, job), later 1 χ,
        ⟨c.world, ((), ⟨.photoCaptures, .ok c.world.photoCaptures⟩) :: c.past⟩) := by
    rw [play_perform]
    simp only [Config.answer, Config.after, exec, (hχ 0).photoCaptures]
    rfl
  have hlater : ∀ n, SidecarOnly (later 1 χ n) := fun n => hχ (n + 1)
  obtain ⟨χ', past, heach⟩ := play_projectEach
    ⟨c.world, ((), ⟨.photoCaptures, .ok c.world.photoCaptures⟩) :: c.past⟩ job drawing
    c.world.photoCaptures hlater ⟨false, false, 0⟩
  obtain ⟨past', hbroadcast⟩ := play_broadcast χ'
    ⟨saveEach drawing c.world (outcomes drawing job.row c.world.photoCaptures (later 1 χ)), past⟩
    job
  unfold project
  rw [Action.play_bind_of_ok hphotos, Action.play_bind_of_ok heach,
    Action.play_bind_of_ok hbroadcast]
  split
  · next hexhausted =>
    exact ⟨_, _, _, rfl, rfl, ⟨fun _ => hexhausted, fun _ => ⟨_, rfl⟩⟩⟩
  · next hexhausted =>
    refine ⟨_, _, _, rfl, rfl, ⟨?_, fun h => absurd h hexhausted⟩⟩
    rintro ⟨e, he⟩
    cases he

theorem play_call (hχ : ∀ n, SidecarOnly (χ n)) :
  ∃ r χ' c', (call job).play () χ c = ((r, job), χ', c') ∧
    match c.world.latestMeasurement.bind drawing? with
    | none => r = .ok () ∧ c'.world.projectedOverlays = c.world.projectedOverlays
    | some drawing =>
        c'.world.projectedOverlays =
          (saveEach drawing c.world
            (outcomes drawing job.row c.world.photoCaptures (later 2 χ))).projectedOverlays ∧
        ((∃ e, r = .error e) ↔
          Exhausted (countEach ⟨false, false, 0⟩
            (outcomes drawing job.row c.world.photoCaptures (later 2 χ))))
  := by
  have hread : ((perform (.latestMeasurement .projection) : Method Job (Option Measurement))
      job).play () χ c = ((.ok c.world.latestMeasurement, job), later 1 χ,
        ⟨c.world, ((), ⟨.latestMeasurement .projection, .ok c.world.latestMeasurement⟩) ::
          c.past⟩) := by
    rw [play_perform]
    simp only [Config.answer, Config.after, exec, (hχ 0).latestMeasurement]
    rfl
  unfold call
  rw [Action.play_bind_of_ok hread]
  cases hlatest : c.world.latestMeasurement with
  | none => exact ⟨_, _, _, rfl, rfl, rfl⟩
  | some m =>
      cases hdrawing : drawing? m with
      | none =>
          simp only [hdrawing, Option.bind_some]
          exact ⟨_, _, _, rfl, rfl, rfl⟩
      | some drawing =>
          simp only [hdrawing, Option.bind_some]
          exact play_project _ _ (fun n => hχ (n + 1))

/-- An attempt ends as the projection does, but for the exception that it ends with. -/
theorem play_attempt {n : ℕ} {r : Except Exn Unit} {χ' : ℕ → rails.Choices}
    {c' : Config rails Unit} (h : (call job).play () χ c = ((r, job), χ', c')) :
  ∃ r' job' χ'' c'', (ProjectionJob.attempt n job).play () χ c = ((r', job'), χ'', c'') ∧
    ((∃ e, r' = .error e) ↔ ∃ e, r = .error e) ∧
    c''.world.projectedOverlays = c'.world.projectedOverlays
  := by
  cases r with
  | ok _ =>
      refine ⟨.ok (), job, χ', c', ?_, Iff.rfl, rfl⟩
      exact Action.play_tryCatch_of_ok h
  | error e =>
      obtain ⟨e', job', χ'', c'', hrecorded, hoverlays⟩ :=
        play_recorded χ' c' job (ProjectionJob.lastErrorFor n e) e
      refine ⟨.error e', job', χ'', c'', ?_, ⟨fun _ => ⟨e, rfl⟩, fun _ => ⟨e', rfl⟩⟩, hoverlays⟩
      unfold ProjectionJob.attempt
      rw [Action.play_tryCatch_of_error _ h]
      exact hrecorded

/-- What a run makes of the overlays, and when it raises. -/
theorem performed_eq (w : World) (run : Run) (hχ : ∀ n, SidecarOnly (run.choices n)) :
  match w.latestMeasurement.bind drawing? with
  | none => (¬ ∃ e, (performed w run).1 = .error e) ∧
      (performed w run).2.projectedOverlays = w.projectedOverlays
  | some drawing =>
      (performed w run).2.projectedOverlays =
        (saveEach drawing w (attempted w run)).projectedOverlays ∧
      ((∃ e, (performed w run).1 = .error e) ↔
        Exhausted (countEach ⟨false, false, 0⟩ (attempted w run)))
  := by
  obtain ⟨r, χ', c', hcall, hresult⟩ := play_call
    ⟨w, [((), ⟨.findJob run.executions, .ok w.job⟩)]⟩ (Job.ofRow w.job) (fun n => hχ (n + 1))
  obtain ⟨r', job', χ'', c'', hattempt, hraises, hoverlays⟩ :=
    play_attempt _ _ hcall
  have hperformed : performed w run = (r', c''.world) := by
    unfold performed ProjectionJob.perform
    simp only [Prog.run, Config.answer, Config.after, exec, (hχ 0).findJob, unlessRaised]
    have houtcome := Action.play_outcome hattempt
    rw [Prog.run_eq_play]
    exact congrArg (fun x => (x.1, x.2.2.world)) houtcome
  rw [hperformed]
  simp only [hraises, hoverlays]
  cases hdrawing : w.latestMeasurement.bind drawing? with
  | none =>
      simp only [hdrawing] at hresult
      obtain ⟨rfl, hsame⟩ := hresult
      refine ⟨?_, hsame⟩
      rintro ⟨_, ⟨⟩⟩
  | some drawing =>
      simp only [hdrawing] at hresult
      simp only [attempted, hdrawing]
      exact hresult

end Playing

/-! ### What a run makes of the rows -/

theorem count_of_transient {out : Outcome} (h : out.Transient) (tally : Tally) :
  count tally out = { tally with transientFailures := tally.transientFailures + 1 }
  := by
  cases out with
  | failed e =>
      cases e with
      | sidecar errorClass message => cases errorClass <;> first | rfl | cases h
      | _ => cases h
  | _ => cases h

theorem count_of_not_transient {out : Outcome} (h : ¬ out.Transient) (tally : Tally) :
  (count tally out).anyPermanentFailure = true ∨ (count tally out).anySuccess = true
  := by
  cases out with
  | failed e =>
      cases e with
      | sidecar errorClass message =>
          cases errorClass <;> first | exact .inl rfl | exact absurd trivial h
      | _ => exact .inl rfl
  | _ => exact .inr rfl

/-- A run is attempted again when it has attempted a photo and all have failed transiently. -/
theorem exhausted_countEach_iff (photos : List (Capture × Outcome)) (tally : Tally) :
  Exhausted (countEach tally photos) ↔
    tally.anyPermanentFailure = false ∧ tally.anySuccess = false ∧
      0 < tally.transientFailures + photos.length ∧ ∀ photo ∈ photos, photo.2.Transient
  := by
  induction photos generalizing tally with
  | nil =>
      simp only [countEach, List.foldl_nil, Exhausted, List.length_nil, Nat.add_zero]
      constructor
      · rintro ⟨htransient, hpermanent, hsuccess⟩
        exact ⟨hpermanent, hsuccess, htransient, nofun⟩
      · rintro ⟨hpermanent, hsuccess, htransient, -⟩
        exact ⟨htransient, hpermanent, hsuccess⟩
  | cons photo photos ih =>
      have hcons : countEach tally (photo :: photos) = countEach (count tally photo.2) photos := rfl
      rw [hcons, ih, List.forall_mem_cons]
      by_cases htransient : photo.2.Transient
      · simp only [count_of_transient htransient, htransient, true_and, List.length_cons]
        rw [Nat.add_right_comm, Nat.add_assoc]
      · have hcount := count_of_not_transient htransient tally
        constructor
        · rintro ⟨hpermanent, hsuccess, -⟩
          simp [hpermanent, hsuccess] at hcount
        · rintro ⟨-, -, -, hphoto, -⟩
          exact absurd hphoto htransient

variable {w : World}

/-- Replacing the row of a capture. -/
def replacing (overlay p : ProjectedOverlay) : ProjectedOverlay :=
  if p.captureId = overlay.captureId then overlay else p

theorem replacing_captureId (overlay p : ProjectedOverlay) :
  (replacing overlay p).captureId = p.captureId
  := by
  unfold replacing
  split_ifs with hid
  · exact hid.symm
  · rfl

/-- The overlay of a capture replaces its row, or it is the first row of the capture. -/
theorem saveOverlay_cases (w : World) (overlay : ProjectedOverlay) :
  ((∃ p ∈ w.projectedOverlays, p.captureId = overlay.captureId) ∧
      (w.saveOverlay overlay).projectedOverlays = w.projectedOverlays.map (replacing overlay)) ∨
    (∀ p ∈ w.projectedOverlays, p.captureId ≠ overlay.captureId) ∧
      (w.saveOverlay overlay).projectedOverlays = w.projectedOverlays ++ [overlay]
  := by
  unfold World.saveOverlay
  split
  · next hany =>
    obtain ⟨p, hp, hid⟩ := List.any_eq_true.mp hany
    exact .inl ⟨⟨p, hp, of_decide_eq_true hid⟩, rfl⟩
  · next hnone =>
    right
    refine ⟨fun p hp hid => hnone ?_, rfl⟩
    exact List.any_eq_true.mpr ⟨p, hp, decide_eq_true hid⟩

theorem oneRowEach_saveOverlay (h : OneRowEach w) (overlay : ProjectedOverlay) :
  OneRowEach (w.saveOverlay overlay)
  := by
  unfold OneRowEach at *
  rcases saveOverlay_cases w overlay with ⟨-, hsaved⟩ | ⟨hnone, hsaved⟩
  · rw [hsaved, List.map_map]
    simpa only [Function.comp_def, replacing_captureId] using h
  · rw [hsaved, List.map_append, List.map_singleton, ← List.concat_eq_append, List.nodup_concat]
    refine ⟨?_, h⟩
    intro hmem
    obtain ⟨p, hp, hid⟩ := List.mem_map.mp hmem
    exact hnone p hp hid

/-- The row of a capture is the overlay that was saved last for it. -/
theorem overlayOf_saveOverlay (w : World) (overlay : ProjectedOverlay) (captureId : String) :
  overlayOf (w.saveOverlay overlay) captureId =
    if captureId = overlay.captureId then some overlay else overlayOf w captureId
  := by
  unfold overlayOf
  rcases saveOverlay_cases w overlay with ⟨⟨p, hp, hid⟩, hsaved⟩ | ⟨hnone, hsaved⟩
  · rw [hsaved, List.find?_map]
    simp only [Function.comp_def, replacing_captureId]
    cases hfind : w.projectedOverlays.find? (·.captureId = captureId) with
    | none =>
        rw [List.find?_eq_none] at hfind
        rw [if_neg]
        · rfl
        · rintro rfl
          exact hfind p hp (decide_eq_true hid)
    | some q =>
        have hq : q.captureId = captureId := by
          simpa using List.find?_some hfind
        simp only [Option.map_some, replacing, hq]
        split_ifs <;> rfl
  · rw [hsaved, List.find?_append]
    split_ifs with heq
    · rw [List.find?_eq_none.mpr, Option.none_or, heq]
      · simp
      · intro p hp
        rw [heq]
        simpa using hnone p hp
    · have hother : [overlay].find? (·.captureId = captureId) = none := by
        simp [Ne.symm heq]
      rw [hother, Option.or_none]

theorem oneRowEach_saveEach [Platform] (drawing : Drawing) (photos : List (Capture × Outcome))
    (h : OneRowEach w) :
  OneRowEach (saveEach drawing w photos)
  := by
  induction photos generalizing w with
  | nil => exact h
  | cons photo photos ih => exact ih (oneRowEach_saveOverlay h _)

/-- A capture that is not attempted keeps its row. -/
theorem overlayOf_saveEach_of_not_mem [Platform] (drawing : Drawing)
    {photos : List (Capture × Outcome)} {captureId : String}
    (h : captureId ∉ photos.map (·.1.id)) :
  overlayOf (saveEach drawing w photos) captureId = overlayOf w captureId
  := by
  induction photos generalizing w with
  | nil => rfl
  | cons photo photos ih =>
      rw [List.map_cons, List.mem_cons, not_or] at h
      change overlayOf (saveEach drawing (w.saveOverlay _) photos) captureId = _
      rw [ih h.2, overlayOf_saveOverlay, overlay_captureId, if_neg h.1]

/-- The row of a capture that is attempted is the overlay of its outcome. -/
theorem overlayOf_saveEach [Platform] (drawing : Drawing) {photos : List (Capture × Outcome)}
    (hids : (photos.map (·.1.id)).Nodup) {photo : Capture × Outcome} (h : photo ∈ photos) :
  overlayOf (saveEach drawing w photos) photo.1.id = some (overlay drawing photo.1 photo.2)
  := by
  induction photos generalizing w with
  | nil => cases h
  | cons first photos ih =>
      rw [List.map_cons, List.nodup_cons] at hids
      change overlayOf (saveEach drawing (w.saveOverlay _) photos) _ = _
      rcases List.mem_cons.mp h with rfl | hrest
      · rw [overlayOf_saveEach_of_not_mem drawing hids.1, overlayOf_saveOverlay,
          overlay_captureId, if_pos rfl]
      · exact ih hids.2 hrest

/-- Captures that have ids of their own are gathered once each. -/
theorem photoCaptures_nodup (h : (w.captures.map (·.id)).Nodup) :
  (w.photoCaptures.map (·.1.id)).Nodup
  := by
  have hsublist (captures : List Capture) :
      ((captures.filterMap fun c =>
        (w.captureSessions.find? (·.id = c.captureSessionId)).map (c, ·)).map (·.1.id)).Sublist
          (captures.map (·.id)) := by
    induction captures with
    | nil => exact List.Sublist.slnil
    | cons capture captures ih =>
        rw [List.filterMap_cons]
        cases w.captureSessions.find? (·.id = capture.captureSessionId) with
        | none => exact ih.cons _
        | some session => exact ih.cons_cons _
  apply (hsublist _).nodup
  apply ((List.perm_insertionSort _ _).map _).nodup_iff.mpr
  exact (List.filter_sublist.map _).nodup h

section Runs

variable [FormatAssertion] [Platform]

theorem map_outcomes (drawing : Drawing) (row : JobRow) (photos : List (Capture × CaptureSession))
    (χ : ℕ → rails.Choices) :
  (outcomes drawing row photos χ).map (·.1) = photos.map (·.1)
  := by
  induction photos generalizing χ with
  | nil => rfl
  | cons photo photos ih => rw [outcomes, List.map_cons, ih, List.map_cons]

theorem attempted_nodup (h : (w.captures.map (·.id)).Nodup) (run : Run) :
  ((attempted w run).map (·.1.id)).Nodup
  := by
  unfold attempted
  split
  · exact List.nodup_nil
  · next drawing _ =>
    have hphotos := photoCaptures_nodup h
    rw [show (fun photo : Capture × Outcome => photo.1.id) = (·.id) ∘ (·.1) from rfl,
      ← List.map_map, map_outcomes, List.map_map]
    exact hphotos

/-- A run keeps the ids of the captures apart. -/
theorem captures_nodup_performed (h : (w.captures.map (·.id)).Nodup) (run : Run) :
  ((performed w run).2.captures.map (·.id)).Nodup
  := by
  apply Protocol.run_of_wp_free (I := rails) (p := ProjectionJob.perform run.executions)
    (c := ⟨w, []⟩) (Q := fun _ c => (c.world.captures.map (·.id)).Nodup)
  apply Protocol.wp_of_steps (Protocol.stable_of_subsingleton _) _ _ h
  exact fun o χ c _ hc => ⟨trivial, captures_nodup hc⟩

/-- A run in which nothing but the sidecar fails keeps what is claimed just when no call fails
for a capture whose overlay can be shown. -/
theorem keeps_iff_spares {run : Run} (hids : (w.captures.map (·.id)).Nodup)
    (hrows : OneRowEach w) (hχ : ∀ n, SidecarOnly (run.choices n)) :
  Keeps w run ↔ Spares w run
  := by
  have hperformed := performed_eq w run hχ
  have hattempted := attempted_nodup hids run
  constructor
  · intro hkeeps capture e hfailed overlay hoverlay hdrawable
    have hkept := hkeeps.kept capture e hfailed overlay hoverlay hdrawable
    cases hdrawing : w.latestMeasurement.bind drawing? with
    | none =>
        simp only [attempted, hdrawing] at hfailed
        cases hfailed
    | some drawing =>
        simp only [hdrawing] at hperformed
        have hafter : overlayOf (performed w run).2 capture.id =
            overlayOf (saveEach drawing w (attempted w run)) capture.id := by
          unfold overlayOf
          rw [hperformed.1]
        rw [hkept, overlayOf_saveEach drawing hattempted hfailed] at hafter
        cases hafter
        have hlow : true = false := hdrawable.2.2
        cases hlow
  · intro hspares
    constructor
    · cases hdrawing : w.latestMeasurement.bind drawing? with
      | none =>
          simp only [hdrawing] at hperformed
          rw [OneRowEach, hperformed.2]
          exact hrows
      | some drawing =>
          simp only [hdrawing] at hperformed
          rw [OneRowEach, hperformed.1]
          exact oneRowEach_saveEach drawing _ hrows
    · exact fun capture e hfailed overlay hoverlay hdrawable =>
        absurd hdrawable (hspares capture e hfailed overlay hoverlay)
    · cases hdrawing : w.latestMeasurement.bind drawing? with
      | none =>
          simp only [hdrawing] at hperformed
          have hnone : attempted w run = [] := by
            simp only [attempted, hdrawing]
          rw [hnone]
          exact ⟨fun hraises => absurd hraises hperformed.1, fun h => absurd rfl h.1⟩
      | some drawing =>
          simp only [hdrawing] at hperformed
          rw [hperformed.2, exhausted_countEach_iff]
          simp [List.length_pos_iff]

/-- A sequence of runs in which nothing but the sidecar fails keeps what is claimed just when no
call ever fails for a capture whose overlay can be shown: what a call that fails leaves is the row
without its images. -/
theorem reruns_keep_overlays_iff (w : World) (hids : (w.captures.map (·.id)).Nodup)
    (hrows : OneRowEach w) (runs : List Run)
    (hruns : ∀ run ∈ runs, ∀ n, SidecarOnly (run.choices n)) :
  AllKeep w runs ↔ AllSpare w runs
  := by
  induction runs generalizing w with
  | nil => exact Iff.rfl
  | cons run runs ih =>
      have hfirst := keeps_iff_spares hids hrows (hruns run List.mem_cons_self)
      constructor
      · rintro ⟨hkeeps, hrest⟩
        use hfirst.mp hkeeps
        apply (ih _ (captures_nodup_performed hids run) hkeeps.oneRow _).mp hrest
        exact fun r hr => hruns r (List.mem_cons_of_mem _ hr)
      · rintro ⟨hspares, hrest⟩
        have hkeeps := hfirst.mpr hspares
        use hkeeps
        apply (ih _ (captures_nodup_performed hids run) hkeeps.oneRow _).mpr hrest
        exact fun r hr => hruns r (List.mem_cons_of_mem _ hr)

end Runs

/-- A job that has been fused, with a photo. -/
def fusedJob : World :=
  { photographedJob ["1"] [photo "a" "1"] with
    measurements :=
      [{ lidarMeasurement with
          source := FusionOrchestrator.fusedSource
          provenance := .obj
            [("fusion_icp_rmse_m", .num (1 / 10)),
             (Measurement.fusionArkitToUtmKey, translation 1),
             (Measurement.fusionUtmEpsgKey, .num 32614)] }] }

/-- A run whose calls all have the same exchange. -/
def calling (exchange : Exchange) : Run where
  executions := 1
  choices := fun _ => choosing (fun _ => none) (fun _ => exchange) .timedOut

/-- A run whose photos are drawn. -/
def drawn : Run :=
  calling (.response 200 (some
    (.obj
      [("pipelineSchemaVersion", .str "0.6.0"),
       ("job_id", .str submittedJob.job.id),
       ("overlay_ref", .str "artifacts/composite.png"),
       ("overlay_svg_ref", .str "artifacts/overlay.svg")])))

/-- Two runs that both draw the photo keep its overlay exactly when they spare it. -/
theorem reruns_keep_overlays_iff_drawn :
  @AllKeep anyFormat plainPlatform fusedJob [drawn, drawn] ↔
    @AllSpare anyFormat plainPlatform fusedJob [drawn, drawn]
  := by
  apply @reruns_keep_overlays_iff anyFormat plainPlatform
  · decide
  · exact List.nodup_nil
  · intro run hrun n
    have hdrawn : run = drawn := by
      simpa using hrun
    rw [hdrawn]
    exact ⟨fun _ => rfl, fun _ => rfl, rfl, fun _ => rfl, nofun⟩

/-- A photo that has been drawn times out in the next run, and its overlay is lost. -/
theorem drawn_overlay_lost :
  ¬ @AllKeep anyFormat plainPlatform fusedJob [drawn, calling (.timeout "")]
  := by
  rintro ⟨-, hkeeps, -⟩
  have hfailed : (@attempted anyFormat plainPlatform
      (@performed anyFormat plainPlatform fusedJob drawn).2 (calling (.timeout ""))).any
        (fun photo => photo.1.id = "a" && match photo.2 with
          | .failed _ => true
          | _ => false) = true := by
    decide +kernel
  have hdrawn : (overlayOf (@performed anyFormat plainPlatform fusedJob drawn).2 "a").any
      (fun overlay => overlay.compositeRef ≠ .null && overlay.overlaySvgRef ≠ .null &&
        overlay.lowPoseConfidence = false) = true := by
    decide +kernel
  have hlost : (overlayOf (@performed anyFormat plainPlatform
      (@performed anyFormat plainPlatform fusedJob drawn).2 (calling (.timeout ""))).2 "a").all
        (·.lowPoseConfidence) = true := by
    decide +kernel
  obtain ⟨⟨capture, out⟩, hattempted, hout⟩ := List.any_eq_true.mp hfailed
  obtain ⟨overlay, hoverlay, hdrawable⟩ := (Option.any_eq_true _ _).mp hdrawn
  simp only [Bool.and_eq_true, decide_eq_true_eq] at hout hdrawable
  obtain ⟨hid, hout⟩ := hout
  cases out with
  | failed e =>
      have hkept := @Keeps.kept anyFormat plainPlatform _ _ hkeeps capture e hattempted overlay
        (hid ▸ hoverlay) ⟨hdrawable.1.1, hdrawable.1.2, hdrawable.2⟩
      rw [hid] at hkept
      rw [hkept, Option.all_some, hdrawable.2] at hlost
      cases hlost
  | _ => cases hout

end ProjectionReruns

end Rails
