import RoofTrace.Rails.FusionRule
import RoofTrace.Rails.ProjectionRule

/-!
# Deliveries

The deliveries of the jobs that belong to one job of the application, and the ingestion of
its capture sessions. Each is a party of a pool, and they are interleaved in any way.

What a delivery performs is bounded by the kind of its job: a geometry job commits
measurements that have facets, and a fusion job inserts what it makes of a response.
-/

namespace Rails

open Effects FusionOrchestrator

/-- The work that is done for a job. -/
inductive Delivery where
  | geometry
  | fusion (captureSessionId : String)
  | projection
  | ingest (captureSession : CaptureSession) (captures : List Capture)

variable {ι : Type}

section Programs

variable [FormatAssertion] [Platform]

/-- A program whose result is not looked at. -/
def discarding {α : Type} (p : Prog application (Except Exn α)) : Prog application Unit :=
  p.bind fun _ => .pure ()

def Delivery.program : Delivery → Prog application Unit
  | .geometry => discarding GeometryJob.delivery
  | .fusion captureSessionId => discarding (FusionJob.delivery captureSessionId)
  | .projection => discarding ProjectionJob.delivery
  | .ingest captureSession captures =>
      .perform (.ingestCaptureSession captureSession captures) fun _ => .pure ()

/-- The deliveries of a job, before the first of them has begun. -/
def deliveries (work : ι → Delivery) (w : World) : Pool rails ι Unit where
  config := ⟨w, []⟩
  prog := fun i => (work i).program

end Programs

variable {P : Protocol rails ι} {i : ι}

theorem wp_discarding {α : Type} {p : Prog application (Except Exn α)} {c : Config rails ι}
    {Q : Config rails ι → Prop} (h : P.wp i p (fun _ => Q) c) :
  P.wp i (discarding p) (fun _ => Q) c
  := by
  apply Protocol.wp_bind
  exact h

/-! ### What deliveries perform -/

/-- The jobs of a kind whose updates of the job are as guaranteed. -/
structure Updates (P : Protocol rails ι) (i : ι) (performs : Op → Prop) : Prop where
  update : ∀ changes, performs (.updateJob changes)
  guar : ∀ {o χ c}, performs o → P.guar i o χ c

/-- The jobs of a kind whose quiet operations and updates of the job are as guaranteed. -/
structure Permits (P : Protocol rails ι) (i : ι) (performs : Op → Prop) : Prop
    extends Updates P i performs where
  quiet : ∀ o, o.quiet = true → performs o

namespace Updates

variable {performs : Op → Prop} (h : Updates P i performs)

include h

theorem triple_save {B : Job → Prop} (hB : ∀ job, B job → B job.saved) :
  P.Triple i (fun job _ => B job) Job.save (fun _ job _ => B job)
    (fun e job _ => e.expected = false ∧ B job)
  := by
  apply Job.triple_save
  · exact fun _ => Protocol.stable_const _
  · exact fun _ _ hjob _ => hjob
  · intro job c χ hjob _ _
    use h.guar (h.update job.changes)
    cases χ with
    | none => exact hB job hjob
    | some className => exact hjob

theorem keeps_updateLastError (message : String) :
  P.Keeps i (fun _ _ => True) (Job.updateLastError message)
  := by
  apply Protocol.Triple.bind (B := fun _ _ _ => True)
  · exact Protocol.Triple.modifying fun _ _ _ => trivial
  · intro _
    apply (h.triple_save (B := fun _ => True) fun _ _ => trivial).post
    · exact fun _ _ _ hjob => hjob
    · exact fun _ _ _ hjob => hjob.2

/-- What the loading of the job is followed by. -/
theorem wp_perform (hload : ∀ n, performs (.findJob n)) {α : Type} {n : ℕ} {x : Method Job α}
    (hx : P.Keeps i (fun _ _ => True) x) (c : Config rails ι) :
  P.wp i (.perform (.findJob n) fun
      | .error e => .pure (.error e)
      | .ok row => x.outcome (Job.ofRow row)) (fun _ _ => True) c
  := by
  intro c' _ χ _
  use h.guar (hload n)
  cases c'.answer (.findJob n) χ with
  | error e => trivial
  | ok row =>
      apply Protocol.wp_mono _ (Protocol.wp_outcome (A := fun _ _ => True)
        (B := fun _ _ => True) (E := fun _ _ => True) hx trivial)
      exact fun _ _ _ => trivial

end Updates

namespace Permits

variable {performs : Op → Prop} (h : Permits P i performs)

include h

/-- What is said of no configuration in particular is not disturbed. -/
theorem undisturbed (p : Prop) :
  Undisturbed P i fun _ => p
  where
  stable := Protocol.stable_const p
  quiet o _ _ ho _ hp := ⟨h.guar (h.quiet o ho), hp⟩

theorem keeps_quiet {σ : Type} {o : Op} (ho : o.quiet = true) (B : σ → Prop) :
  P.Triple i (fun s _ => B s) (perform o) (fun _ s _ => B s)
    (fun e s _ => e.expected = false ∧ B s)
  := triple_quiet (fun s => h.undisturbed (B s)) ho

omit h in
theorem wp_retrying {α : Type} {attempt : ℕ → Prog application (Except Exn α)}
    (hattempt : ∀ n c, P.wp i (attempt n) (fun _ _ => True) c) (n remaining : ℕ)
    (c : Config rails ι) :
  P.wp i (Prog.retrying attempt n remaining) (fun _ _ => True) c
  := by
  apply Protocol.wp_retrying (A := fun _ _ => True)
  · intro m _ _ c _
    apply Protocol.wp_mono _ (hattempt m c)
    rintro (_ | _) _ _ <;> trivial
  · exact fun c _ => hattempt _ c
  · trivial

end Permits

/-! ### Geometry jobs -/

namespace GeometryJob

/-- What a geometry job performs. -/
def Performs : Op → Prop
  | .commit m _ => m.facets ≠ [] ∧ m.valid = true
  | .insertMeasurement _ => False
  | .saveOverlay _ => False
  | .ingestCaptureSession _ _ => False
  | _ => True

section

variable {performs : Op → Prop} (h : Permits P i performs)

include h

theorem keeps_broadcastStatus :
  P.Triple i (fun _ _ => True) Job.broadcastStatus (fun _ _ _ => True)
    (fun e _ _ => e.expected = false ∧ True)
  := by
  apply Protocol.Triple.getting
  intro job
  apply (h.keeps_quiet rfl fun _ => True).pre
  exact fun _ _ _ => trivial

theorem triple_advanceBy (status : Status) :
  P.Triple i (fun job _ => job.status.terminal = false) (Job.advanceBy status Job.save)
    (fun _ job _ => job.status = status) (fun e job _ => e.expected = false ∧ job.status = status)
  := by
  apply Job.triple_advanceBy (C := fun job _ => job.status = status)
  · exact fun _ _ hjob => hjob
  · exact fun _ _ _ => rfl
  · exact h.triple_save fun _ hjob => hjob

theorem keeps_failWith (message : String) :
  P.Keeps i (fun _ _ => True) (Job.failWith message)
  := by
  apply Protocol.Triple.bind (B := fun _ _ _ => True)
  · exact Protocol.Triple.modifying fun _ _ _ => trivial
  · intro _
    apply Protocol.Triple.bind (B := fun _ _ _ => True)
    · apply (h.triple_save (B := fun _ => True) fun _ _ => trivial).post
      · exact fun _ _ _ hjob => hjob
      · exact fun _ _ _ _ => trivial
    · intro _
      apply (keeps_broadcastStatus h).post
      · exact fun _ _ _ hjob => hjob
      · exact fun _ _ _ _ => trivial

theorem keeps_recordCrash (n : ℕ) (e : Exn) :
  P.Keeps i (fun _ _ => True) (recordCrash n e)
  := by
  apply Protocol.Triple.getting
  intro job
  apply Protocol.Triple.pre (A := fun _ _ => True) _ (fun _ _ _ => trivial)
  split
  · exact Protocol.Triple.ret fun _ _ _ => trivial
  · split
    · exact keeps_failWith h _
    · exact h.keeps_updateLastError _

end

variable (h : Permits P i Performs)

include h

theorem pipelineSpec [FormatAssertion] [Platform] :
  PipelineSpec P i (fun job _ => job.status.terminal = false) (fun _ _ => True) (fun _ _ => True)
    (fun _ _ _ => True)
  where
  isOpen hjob := hjob
  undisturbed _ := h.undisturbed _
  undisturbedDone _ _ := h.undisturbed _
  undisturbedError _ := h.undisturbed _
  advance status hstatus := by
    apply (triple_advanceBy h status).post
    · rintro _ _ _ rfl
      exact hstatus
    · rintro _ _ _ ⟨-, rfl⟩
      exact hstatus
  cache := by
    apply Job.triple_cachedMeasurement (fun _ => h.undisturbed _) (fun _ _ hjob => hjob)
      (fun _ _ _ => trivial)
    intro m
    apply Protocol.Triple.bind ((triple_advanceBy h .ready).post (C := fun _ _ _ => True)
      (fun _ _ _ _ => trivial) (fun _ _ _ hjob => ⟨hjob.1, trivial⟩))
    exact fun _ => keeps_broadcastStatus h
  commit m hm := by
    apply Protocol.Triple.pre (A := fun job _ => job.status.terminal = false) _
      (fun _ _ hjob => hjob.2)
    apply Job.triple_createAndAdvance (C := fun _ _ => True)
    · exact fun _ => h.undisturbed _
    · exact fun _ _ hjob => hjob
    · exact fun _ _ _ => trivial
    · exact fun _ => Protocol.stable_const _
    · exact fun _ _ _ => trivial
    · intro job c χ hvalid _ _
      use h.guar ⟨hm, hvalid⟩
      cases χ <;> trivial
  fail message := (keeps_failWith h message).pre fun _ _ _ => trivial
  error _ := trivial
  errorDone _ := trivial

theorem keeps_attempt [FormatAssertion] [Platform] (n : ℕ) :
  P.Keeps i (fun _ _ => True) (attempt n)
  := by
  intro job c _
  cases hterminal : job.status.terminal with
  | true =>
      have hskipped := triple_attempt_of_terminal (P := P) (i := i) (n := n) (B := fun _ _ => True)
      exact hskipped.post (fun _ _ _ _ => trivial) (fun _ _ _ _ => trivial) job c
        ⟨hterminal, trivial⟩
  | false =>
      have hattempt := (pipelineSpec h).triple_attempt (keeps_recordCrash h n)
      exact hattempt.post (fun _ _ _ _ => trivial) (fun _ _ _ _ => trivial) job c hterminal

/-- A delivery of a geometry job performs nothing that is not permitted to it, whatever it is
answered. -/
theorem wp_delivery [FormatAssertion] [Platform] (c : Config rails ι) :
  P.wp i delivery (fun _ _ => True) c
  := Permits.wp_retrying
    (fun n c => h.wp_perform (fun _ => trivial) (keeps_attempt h n) c) _ _ c

end GeometryJob

/-! ### Fusion jobs -/

namespace FusionJob

/-- What the fusion job of a capture session performs, when the responses are `good`. -/
def Performs (captureSessionId : String) (good : Json ℚ → Prop) : Op → Prop
  | .insertMeasurement m => ∃ captureSession prior response now,
      captureSession.id = captureSessionId ∧ good response ∧ aligned response = true ∧
        m = fusedMeasurement captureSession prior response now
  | .commit _ _ => False
  | .saveOverlay _ => False
  | .ingestCaptureSession _ _ => False
  | _ => True

variable {captureSessionId : String} {good : Json ℚ → Prop}
  (h : Permits P i (Performs captureSessionId good))

include h

theorem takes_trivially {o : Op} (ho : Performs captureSessionId good o) :
  Takes P i o (fun _ => True) (fun _ _ => True) (fun _ => True)
  := Takes.of_guar (fun _ _ => h.guar ho) (fun _ _ => trivial)

theorem keeps_appendFailureWarning {σ : Type} (message : String) (m : Option Measurement) :
  P.Triple i (fun (_ : σ) _ => True) (appendFailureWarning message m) (fun _ _ _ => True)
    (fun e _ _ => e.expected = false ∧ True)
  := by
  have hwarn (m : Measurement) : P.Triple i (fun (_ : σ) _ => True) (warn message m)
      (fun _ _ _ => True) (fun e _ _ => e.expected = false ∧ True) := by
    unfold warn
    split
    · exact Protocol.Triple.ret fun _ _ _ => trivial
    · apply Takes.triple
      exact takes_trivially h trivial
  cases m with
  | some m => exact hwarn m
  | none =>
      apply Protocol.Triple.bind
        (takes_trivially h (o := .latestMeasurement .failureWarning) trivial).triple
      intro latest
      cases latest with
      | none => exact Protocol.Triple.ret fun _ _ _ => trivial
      | some m => exact hwarn m

theorem fusionSpec [FormatAssertion] [Platform] {captureSession : CaptureSession}
    (hsession : captureSession.id = captureSessionId)
    (hgood : ∀ {payload timeout exchange c response},
      P.ok i (.post SidecarClient.fuseCapture payload timeout) exchange c →
      SidecarClient.receive SidecarClient.fuseCapture timeout exchange = .ok response →
        good response) :
  FusionSpec P i captureSession good (fun _ => True) (fun _ => True) (fun _ _ => True)
    (fun _ => True) (fun _ => True) (fun _ _ => True) (fun _ _ => True)
  where
  read := takes_trivially h trivial
  undisturbed _ := h.undisturbed _
  undisturbedWarned := h.undisturbed _
  undisturbedError := h.undisturbed _
  goodResponse hok _ := hgood hok
  lateTime _ := trivial
  skip _ _ := keeps_appendFailureWarning h _ _
  unaligned _ _ _ _ _ := keeps_appendFailureWarning h _ _
  failed _ := (keeps_appendFailureWarning h _ _).post (fun _ _ _ _ => trivial)
    (fun _ _ _ _ => trivial)
  insert prior response now _ hresponse haligned _ :=
    takes_trivially h ⟨captureSession, prior, response, now, hsession, hresponse, haligned, rfl⟩
  complete _ _ := takes_trivially h trivial
  enqueue _ := takes_trivially h trivial
  error _ := trivial
  warned _ := trivial

theorem keeps_recordFailure (n : ℕ) (e : Exn) :
  P.Keeps i (fun _ _ => True) (recordFailure n e)
  := by
  unfold recordFailure
  split
  · apply (keeps_appendFailureWarning h _ _).post
    · exact fun _ _ _ _ => trivial
    · exact fun _ _ _ _ => trivial
  · exact h.keeps_updateLastError _

/-- A delivery of a fusion job performs nothing that is not permitted to it, when the responses that
it accepts are good. -/
theorem wp_delivery [FormatAssertion] [Platform]
    (hgood : ∀ {payload timeout exchange c response},
      P.ok i (.post SidecarClient.fuseCapture payload timeout) exchange c →
      SidecarClient.receive SidecarClient.fuseCapture timeout exchange = .ok response →
        good response) (c : Config rails ι) :
  P.wp i (delivery captureSessionId) (fun _ _ => True) c
  := by
  have hspec : FusionAttemptSpec P i captureSessionId (fun _ => True) (fun _ => True)
      (fun _ => True) (fun _ => True) (fun _ => True) (fun _ _ => True) := by
    constructor
    · exact h.undisturbed _
    · apply Takes.of_guar
      · exact fun _ _ => h.guar trivial
      · intro latest c
        split <;> trivial
    · exact fun captureSession hsession => (fusionSpec h hsession hgood).triple_call
    · exact fun _ => trivial
  apply Permits.wp_retrying
  intro n c
  apply h.wp_perform (fun _ => trivial)
  apply (hspec.triple_attempt (keeps_recordFailure h n)).post
  · exact fun _ _ _ _ => trivial
  · exact fun _ _ _ hc => hc

end FusionJob

/-! ### Projection jobs -/

namespace ProjectionJob

/-- What a projection job performs, apart from the overlays that it saves. -/
def Performs : Op → Prop
  | .commit _ _ => False
  | .insertMeasurement _ => False
  | .updateWarnings _ _ => False
  | .saveOverlay _ => False
  | .ingestCaptureSession _ _ => False
  | _ => True

/-- A delivery of a projection job performs what its specification says and what is permitted to it.
-/
theorem wp_delivery [FormatAssertion] [Platform] {performs : Op → Prop}
    (h : Updates P i performs) (hload : ∀ n, performs (.findJob n))
    {B : Measurement → Config rails ι → Prop}
    {C : ProjectionOrchestrator.Drawing → List (Capture × CaptureSession) → Config rails ι → Prop}
    {D : ProjectionOrchestrator.Drawing → List (Capture × CaptureSession) →
      Capture × CaptureSession → Config rails ι → Prop}
    (hspec : ProjectionSpec P i B C D) (c : Config rails ι) :
  P.wp i delivery (fun _ _ => True) c
  := by
  apply Permits.wp_retrying
  intro n c
  apply h.wp_perform hload
  apply Protocol.Keeps.rescue hspec.keeps_call
  intro e
  apply Protocol.Keeps.bind (h.keeps_updateLastError _)
  exact fun _ => Protocol.Keeps.raise e

end ProjectionJob

/-! ### A job with photos -/

/-- A photo taken from the origin of its session. -/
def photo (id captureSessionId : String) : Capture where
  id := id
  captureSessionId := captureSessionId
  sequenceIndex := 0
  photoRef := some s!"uploads/{submittedJob.job.id}/photo_00.jpg"
  cameraIntrinsics := .arr ([100, 0, 50, 0, 100, 50, 0, 0, 1].map .num)
  cameraExtrinsics := translation 0

/-- A job that is ready, with a measurement, capture sessions and their photos. -/
def photographedJob (captureSessions : List String) (photos : List Capture) : World :=
  { measuredJob captureSessions with captures := photos }

def projectionResponse : Json ℚ :=
  .obj
    [("pipelineSchemaVersion", .str "0.6.0"),
     ("job_id", .str submittedJob.job.id),
     ("overlay_ref", .str "artifacts/overlay.png")]

/-- The choices of a world in which fusions and projections succeed. -/
def projecting : rails.Choices :=
  choosing (fun _ => none)
    (fun stage => .response 200 (some
      (if stage.path = SidecarClient.fuseCapture.path then
        fusionResponse [flatFacet] (translation 1)
      else projectionResponse)))
    .timedOut

end Rails
