import RoofTrace.Rails.GeometryJob

/-!
# The rule of the pipeline

What a run of the pipeline keeps, from what its writes keep. Most operations of a run write
nothing that is of interest: they are quiet. A `PipelineSpec` says what holds of the job
while the pipeline runs (`A`), after the commit (`R`), after a failure that is expected
(`F`) and after an exception (`E`), and asks only for what the writes do to these. The
facets of the measurement that is committed are known not to be empty, and its fingerprint
to be that of the job.
-/

namespace Rails

open Effects

/-- Operations that write neither the job nor a row that belongs to it. -/
def Op.quiet : Op → Bool
  | .findCaptureSession _ => true
  | .now => true
  | .latestMeasurement _ => true
  | .insertInTransaction _ => true
  | .broadcastStatus _ => true
  | .broadcastFusionStatus _ _ => true
  | .broadcastProjectionStatus => true
  | .post _ _ _ => true
  | .startVlm => true
  | .joinVlm => true
  | .cleanupVlm => true
  | .findOrCreateReport => true
  | .findReport => true
  | _ => false

variable {ι σ α : Type} {P : Protocol rails ι} {i : ι}

/-- An operation raises nothing that the orchestrator expects. -/
theorem expected_of_exec_eq_error {o : Op} {χ : o.Choice} {w : World} {e : Exn}
    (h : (exec o χ w).1 = .error e) :
  e.expected = false
  := by
  cases o <;> simp only [exec, unlessRaised] at h <;> (try split at h) <;>
    (try split at h) <;> first | cases h; done | (cases h; rfl)

/-- A quiet operation keeps the job and its measurements. -/
theorem quiet_keeps {o : Op} (ho : o.quiet = true) (χ : o.Choice) (w : World) :
  (exec o χ w).2.job = w.job ∧ (exec o χ w).2.measurements = w.measurements
  := by
  cases o <;> first | cases ho; done | exact ⟨rfl, rfl⟩ | cases χ <;> exact ⟨rfl, rfl⟩

/-- An assertion that neither the other parties nor the quiet operations of `i` disturb. -/
structure Undisturbed (P : Protocol rails ι) (i : ι) (B : Config rails ι → Prop) : Prop where
  stable : P.Stable i B
  quiet : ∀ (o : Op) (χ : o.Choice) (c : Config rails ι), o.quiet = true → P.ok i o χ c → B c →
    P.guar i o χ c ∧ B (c.after i o χ)

/-- An assertion together with a proposition is not disturbed when the assertion is not. -/
theorem Undisturbed.and_const {B : Config rails ι → Prop} (h : Undisturbed P i B) (p : Prop) :
  Undisturbed P i fun c => p ∧ B c
  := by
  constructor
  · exact (Protocol.stable_const p).and h.stable
  · intro o χ c ho hok hB
    obtain ⟨hguar, hafter⟩ := h.quiet o χ c ho hok hB.2
    exact ⟨hguar, hB.1, hafter⟩

/-- A quiet operation keeps what is undisturbed. -/
theorem triple_quiet {A : σ → Config rails ι → Prop} (hA : ∀ s, Undisturbed P i (A s)) {o : Op}
    (ho : o.quiet = true) :
  P.Triple i A (perform o) (fun _ => A) (fun e s c => e.expected = false ∧ A s c)
  := by
  apply Protocol.triple_perform
  · exact fun s => (hA s).stable
  · intro s c χ hok hs
    obtain ⟨hguar, hafter⟩ := (hA s).quiet o χ c ho hok hs
    use hguar
    cases hanswer : c.answer o χ with
    | ok a => exact hafter
    | error e => exact ⟨expected_of_exec_eq_error hanswer, hafter⟩

/-- A quiet operation keeps what is not disturbed. -/
theorem keeps_quiet {A : σ → Config rails ι → Prop} (hA : ∀ s, Undisturbed P i (A s)) {o : Op}
    (ho : o.quiet = true) :
  P.Keeps i A (perform o : Method σ _)
  := (triple_quiet hA ho).post (fun _ _ _ h => h) (fun _ _ _ h => h.2)

/-- A request to the sidecar keeps what is not disturbed. -/
theorem keeps_request [FormatAssertion] {A : σ → Config rails ι → Prop}
    (hA : ∀ s, Undisturbed P i (A s)) (stage : SidecarClient.Stage) (payload : Json ℚ)
    (timeout : ℕ) :
  P.Keeps i A (request stage payload timeout)
  := by
  apply Protocol.Keeps.bind (Protocol.Keeps.ofExcept _)
  intro _
  apply Protocol.Keeps.bind (keeps_quiet hA rfl)
  intro exchange
  apply Protocol.Keeps.ofExcept

/-- An operation that takes `A` to `B` of its answer, or to `E` when it raises. -/
structure Takes (P : Protocol rails ι) (i : ι) (o : Op) (A : Config rails ι → Prop)
    (B : o.Res → Config rails ι → Prop) (E : Config rails ι → Prop) : Prop where
  stable : P.Stable i A
  step : ∀ (χ : o.Choice) (c : Config rails ι), P.ok i o χ c → A c →
    P.guar i o χ c ∧ match c.answer o χ with
      | .ok a => B a (c.after i o χ)
      | .error _ => E (c.after i o χ)

namespace Takes

variable {o : Op} {A : Config rails ι → Prop} {B : o.Res → Config rails ι → Prop}
  {E : Config rails ι → Prop}

/-- What is said of the state alone is kept. -/
theorem triple_keeping (h : Takes P i o A B E) (S : σ → Prop) :
  P.Triple i (fun s c => S s ∧ A c) (perform o) (fun a s c => S s ∧ B a c)
    (fun e _ c => e.expected = false ∧ E c)
  := by
  apply Protocol.triple_perform
  · exact fun s => (Protocol.stable_const (S s)).and h.stable
  · rintro s c χ hok ⟨hs, hc⟩
    obtain ⟨hguar, hafter⟩ := h.step χ c hok hc
    use hguar
    cases hanswer : c.answer o χ with
    | ok a =>
        rw [hanswer] at hafter
        exact ⟨hs, hafter⟩
    | error e =>
        rw [hanswer] at hafter
        exact ⟨expected_of_exec_eq_error hanswer, hafter⟩

/-- The triple of an operation that takes one assertion to another. -/
theorem triple (h : Takes P i o A B E) :
  P.Triple i (fun _ : σ => A) (perform o) (fun a _ => B a) (fun e _ c => e.expected = false ∧ E c)
  := (h.triple_keeping fun _ => True).conseq (fun _ _ hc => ⟨trivial, hc⟩) (fun _ _ _ hc => hc.2)
    (fun _ _ _ hc => hc)

/-- An operation of which nothing needs to be known. -/
theorem of_guar {B : o.Res → Config rails ι → Prop} (hguar : ∀ χ c, P.guar i o χ c)
    (hB : ∀ a c, B a c) :
  Takes P i o (fun _ => True) B (fun _ => True)
  where
  stable := Protocol.stable_const _
  step χ c _ _ := by
    use hguar χ c
    split
    · apply hB
    · trivial

/-- A quiet operation keeps what is undisturbed. -/
theorem of_undisturbed (h : Undisturbed P i A) (ho : o.quiet = true) :
  Takes P i o A (fun _ => A) A
  where
  stable := h.stable
  step χ c hok hc := by
    obtain ⟨hguar, hafter⟩ := h.quiet o χ c ho hok hc
    use hguar
    split <;> exact hafter

/-- An operation that keeps an assertion, whether it raises or not. -/
theorem keeps (h : Takes P i o A (fun _ => A) A) :
  P.Keeps i (fun _ : σ => A) (perform o)
  := h.triple.post (fun _ _ _ hc => hc) (fun _ _ _ hc => hc.2)

/-- A request takes `A` to what its exchange takes it to, or back to `A` when it raises. -/
theorem triple_request [FormatAssertion] {stage : SidecarClient.Stage} {payload : Json ℚ}
    {timeout : ℕ} {D : Config rails ι → Prop}
    (h : Takes P i (.post stage payload timeout) A (fun _ => D) A) (hD : ∀ c, D c → A c) :
  P.Triple i (fun _ : σ => A) (request stage payload timeout) (fun _ _ => D) (fun _ _ => A)
  := by
  apply Protocol.Triple.bind (Protocol.Keeps.ofExcept _)
  intro _
  apply Protocol.Triple.bind (B := fun _ _ => D)
  · apply h.triple.post
    · exact fun _ _ _ hc => hc
    · exact fun _ _ _ hc => hc.2
  · intro exchange
    apply (Protocol.Keeps.ofExcept _).post
    · exact fun _ _ _ hc => hc
    · exact fun _ _ c hc => hD c hc

end Takes

/-! ### Writes of the job -/

/-- An UPDATE keeps the inputs of the job and writes what the copy holds. -/
theorem job_after_save {job : Job} {w : World} (hrow : job.row = w.job) :
  w.job.apply job.changes = { job.row with status := job.status, lastError := job.lastError }
  := by
  rw [← hrow]
  exact Job.apply_changes job

/-- What holds after a search for a measurement: `R` of the one that is found, or else `A`. -/
def found {σ : Type} (R : Measurement → σ → Config rails ι → Prop)
    (A : σ → Config rails ι → Prop) : Option Measurement → σ → Config rails ι → Prop
  | some m => R m
  | none => A

namespace Job

variable {A C B E : Job → Config rails ι → Prop}

/-- An UPDATE of the job, which has its effect or raises. -/
theorem triple_save (hA : ∀ job, P.Stable i (A job))
    (hclean : ∀ job c, A job c → job.changes.isEmpty = true → B job c)
    (hwrite : ∀ job c (χ : Option String), A job c → job.changes.isEmpty = false →
      P.ok i (.updateJob job.changes) χ c →
      P.guar i (.updateJob job.changes) χ c ∧
        match χ with
        | none => B job.saved (c.after i (.updateJob job.changes) none)
        | some className =>
            E job (c.after i (.updateJob job.changes) (some className))) :
  P.Triple i A save (fun _ => B) (fun e job c => e.expected = false ∧ E job c)
  := by
  apply Protocol.Triple.getting
  intro job
  split
  · next hempty =>
    apply Protocol.Triple.ret
    rintro _ c ⟨rfl, hc⟩
    exact hclean _ c hc hempty
  · next hempty =>
    rw [Bool.not_eq_true] at hempty
    apply Protocol.Triple.bind (B := fun _ s c => s = job ∧ B job.saved c)
    · apply Protocol.triple_perform
      · exact fun s => (Protocol.stable_const (s = job)).and (hA s)
      · rintro _ c χ hok ⟨rfl, hc⟩
        obtain ⟨hguar, hafter⟩ := hwrite _ c χ hc hempty hok
        use hguar
        cases χ with
        | none => exact ⟨rfl, hafter⟩
        | some className => exact ⟨rfl, hafter⟩
    · intro _
      rintro _ c ⟨rfl, hc⟩
      exact hc

/-- An advance assigns the status and then saves it, unless the job is terminal. -/
theorem triple_advanceBy {D : α → Job → Config rails ι → Prop} {status : Status}
    {save : Method Job α} (hopen : ∀ job c, A job c → job.status.terminal = false)
    (hassign : ∀ job c, A job c → C { job with status := status } c)
    (hsave : P.Triple i C save D (fun e job c => e.expected = false ∧ E job c)) :
  P.Triple i A (advanceBy status save) D (fun e job c => e.expected = false ∧ E job c)
  := by
  apply Protocol.Triple.getting
  intro job
  split
  · next hterminal =>
    rintro _ c ⟨rfl, hc⟩
    rw [hopen _ c hc] at hterminal
    cases hterminal
  · apply Protocol.Triple.bind (B := fun _ => C)
    · apply Protocol.Triple.modifying
      rintro s c ⟨_, hc⟩
      exact hassign s c hc
    · intro _
      exact hsave

/-- What passes the INSERT in a transaction is valid. -/
theorem triple_insertInTransaction (hA : ∀ job, Undisturbed P i (A job))
    (m : MeasurementAttributes) :
  P.Triple i A (perform (.insertInTransaction m)) (fun _ job c => m.valid = true ∧ A job c)
    (fun e job c => e.expected = false ∧ A job c)
  := by
  apply Protocol.triple_perform
  · exact fun job => (hA job).stable
  · intro job c χ hok hc
    obtain ⟨hguar, hafter⟩ := (hA job).quiet (.insertInTransaction m) χ c rfl hok hc
    use hguar
    cases hanswer : c.answer (.insertInTransaction m) χ with
    | error e => exact ⟨expected_of_exec_eq_error hanswer, hafter⟩
    | ok a =>
        refine ⟨?_, hafter⟩
        cases hvalid : m.valid with
        | true => rfl
        | false => cases χ <;> simp [Config.answer, exec, unlessRaised, hvalid] at hanswer

/-- The transaction of a measurement, which commits or raises. -/
theorem triple_createAndAdvance {R : Measurement → Job → Config rails ι → Prop}
    {m : MeasurementAttributes} (hA : ∀ job, Undisturbed P i (A job))
    (hopen : ∀ job c, A job c → job.status.terminal = false)
    (hassign : ∀ job c, A job c → C { job with status := .ready } c)
    (hC : ∀ job, P.Stable i (C job)) (hE : ∀ job c, A job c → E job c)
    (hcommit : ∀ job c (χ : Option String), m.valid = true → C job c →
      P.ok i (.commit m job.changes) χ c →
      P.guar i (.commit m job.changes) χ c ∧
        match χ with
        | none =>
            R ⟨m, c.world.measurements.length⟩ job.saved
              (c.after i (.commit m job.changes) none)
        | some className =>
            E job (c.after i (.commit m job.changes) (some className))) :
  P.Triple i A (MeasurementOrchestrator.createAndAdvance m) R
    (fun e job c => e.expected = false ∧ E job c)
  := by
  apply Protocol.Triple.bind (B := fun _ job c => m.valid = true ∧ A job c)
  · apply (triple_insertInTransaction hA m).post
    · exact fun _ _ _ hc => hc
    · exact fun _ job c hc => ⟨hc.1, hE job c hc.2⟩
  · intro _
    apply Protocol.Triple.assuming
    intro hvalid
    apply triple_advanceBy (C := C) hopen hassign
    apply Protocol.Triple.getting
    intro job
    apply Protocol.Triple.bind (B := fun measurement s c => s = job ∧ R measurement job.saved c)
    · apply Protocol.triple_perform
      · exact fun s => (Protocol.stable_const (s = job)).and (hC s)
      · rintro _ c χ hok ⟨rfl, hc⟩
        obtain ⟨hguar, hafter⟩ := hcommit _ c χ hvalid hc hok
        use hguar
        cases χ with
        | none => exact ⟨rfl, hafter⟩
        | some className => exact ⟨rfl, hafter⟩
    · intro measurement
      rintro _ c ⟨rfl, hc⟩
      exact hc

/-- The cache finds nothing, or it advances the job for the measurement that it finds. -/
theorem triple_cachedMeasurement [Platform] {R : Measurement → Job → Config rails ι → Prop}
    (hA : ∀ job, Undisturbed P i (A job))
    (hopen : ∀ job c, A job c → job.status.terminal = false) (hE : ∀ job c, A job c → E job c)
    (hadvance : ∀ m, P.Triple i A (advanceTo .ready) (fun _ => R m)
      (fun e job c => e.expected = false ∧ E job c)) :
  P.Triple i A cachedMeasurement (found R A) (fun e job c => e.expected = false ∧ E job c)
  := by
  have hquiet : ∀ {o : Op}, o.quiet = true → P.Triple i A (perform o : Method Job _) (fun _ => A)
      (fun e job c => e.expected = false ∧ E job c) := by
    intro o ho
    apply (triple_quiet hA ho).post
    · exact fun _ _ _ hc => hc
    · exact fun _ job c hc => ⟨hc.1, hE job c hc.2⟩
  apply Protocol.Triple.bind (hquiet rfl)
  intro latest
  cases latest with
  | none => exact Protocol.Triple.ret fun _ _ hc => hc
  | some recent =>
      apply Protocol.Triple.bind (hquiet rfl)
      intro now
      split
      · exact Protocol.Triple.ret fun _ _ hc => hc
      · apply Protocol.Triple.getting
        intro job
        split
        · split
          · apply Protocol.Triple.pre (A := A) _ (fun _ _ hc => hc.2)
            apply Protocol.Triple.bind (hadvance recent)
            intro _
            exact Protocol.Triple.ret fun _ _ hc => hc
          · next hnot =>
            rintro s c ⟨rfl, hc⟩
            have hstatus := hopen s c hc
            have hready : s.status ≠ .ready := by
              intro hready
              rw [hready] at hstatus
              cases hstatus
            exact absurd ⟨hready, hstatus⟩ hnot
        · apply Protocol.Triple.ret
          exact fun _ _ hc => hc.2

end Job

/-! ### Methods of the orchestrator -/

namespace MeasurementOrchestrator

variable {A : Job → Config rails ι → Prop}

/-- An assertion on the job of an orchestrator. -/
abbrev ofJob (A : Job → Config rails ι → Prop) : MeasurementOrchestrator → Config rails ι → Prop :=
  fun o c => A o.job c

/-- A triple of the job is one of the orchestrator. -/
theorem triple_onJob {x : Method Job α} {B : α → Job → Config rails ι → Prop}
    {D : Exn → Job → Config rails ι → Prop} (hx : P.Triple i A x B D) :
  P.Triple i (ofJob A) (onJob x) (fun a => ofJob (B a)) (fun e => ofJob (D e))
  := by
  apply Protocol.Triple.within
  intro o
  apply hx.pre
  rintro job c ⟨ho, rfl⟩
  exact ho

/-- What a method of the detection keeps, whatever the job, is kept in the orchestrator. -/
theorem keeps_onVlm {x : Method VlmRunner α} (hx : ∀ job, P.Keeps i (fun _ => A job) x) :
  P.Keeps i (ofJob A) (onVlm x)
  := by
  apply Protocol.Triple.within
  intro o
  apply Protocol.Triple.pre (hx o.job)
  rintro vlm c ⟨ho, rfl⟩
  exact ho

/-- A stage that is degraded keeps what the stage keeps. -/
theorem keeps_degrading {stage : Method MeasurementOrchestrator (Json ℚ)}
    {degraded : Exn → Json ℚ} (hstage : P.Keeps i (ofJob A) stage) :
  P.Keeps i (ofJob A) (degrading stage degraded)
  := by
  apply Protocol.Keeps.rescue hstage
  intro e
  split
  · apply Protocol.Keeps.raise
  · apply Protocol.Keeps.ret
  · apply Protocol.Keeps.raise

/-- The runner's own fields are no matter to an assertion on the job. -/
theorem keeps_modify (f : VlmRunner → VlmRunner) (B : Config rails ι → Prop) :
  P.Keeps i (fun _ => B) (modify f : Method VlmRunner Unit)
  := Protocol.Triple.modifying fun _ _ hc => hc

/-- The cleanup of the detection keeps what is not disturbed. -/
theorem triple_cleanup (hA : ∀ job, Undisturbed P i (A job)) :
  P.Triple i (ofJob A) (onVlm VlmRunner.cleanup) (fun _ => ofJob A)
    (fun e o c => e.expected = false ∧ A o.job c)
  := by
  apply Protocol.Triple.within
  intro o
  apply Protocol.Triple.getting
  intro vlm
  apply Protocol.Triple.bind (B := fun _ _ c => A o.job c)
  · apply Protocol.Triple.modifying
    rintro _ c ⟨rfl, hc, rfl⟩
    exact hc
  · intro _
    split
    · apply triple_quiet (fun _ => hA o.job) rfl
    · apply Protocol.Triple.ret
      exact fun _ _ hc => hc

/-- The report is minted by quiet operations. -/
theorem triple_ensureReportFor (hA : ∀ job, Undisturbed P i (A job)) :
  P.Triple i A ensureReportFor (fun _ => A) (fun e job c => e.expected = false ∧ A job c)
  := by
  apply Protocol.Triple.rescue (triple_quiet hA rfl)
  intro e
  split
  · apply (triple_quiet hA rfl).pre
    exact fun _ _ hc => hc.2
  · apply Protocol.Triple.raise
    exact fun _ _ hc => hc

end MeasurementOrchestrator

/-! ### The rule -/

/-- What is known after an exception: only one that is unexpected comes from a write. -/
abbrev broken (A E : Job → Config rails ι → Prop) (e : Exn) : Job → Config rails ι → Prop :=
  fun job c => (e.expected = true → A job c) ∧ E job c

/-- After an exception that no sidecar raises, the run is broken in the job. -/
theorem broken_of_unexpected {A E : Job → Config rails ι → Prop} {e : Exn} {job : Job}
    {c : Config rails ι} (hc : e.expected = false ∧ E job c) :
  broken A E e job c
  := by
  refine ⟨fun he => ?_, hc.2⟩
  rw [hc.1] at he
  cases he

/-- What the writes of the pipeline do to the assertions of a run. -/
structure PipelineSpec [FormatAssertion] [Platform] (P : Protocol rails ι) (i : ι)
    (A E F : Job → Config rails ι → Prop) (R : Measurement → Job → Config rails ι → Prop) :
    Prop where
  isOpen : ∀ {job c}, A job c → job.status.terminal = false
  undisturbed : ∀ job, Undisturbed P i (A job)
  undisturbedDone : ∀ m job, Undisturbed P i (R m job)
  undisturbedError : ∀ job, Undisturbed P i (E job)
  advance : ∀ status, status.terminal = false → P.Keeps i A (Job.advanceBy status Job.save)
  cache : P.Triple i A Job.cachedMeasurement (found R A)
    (fun e job c => e.expected = false ∧ E job c)
  commit : ∀ m, m.facets ≠ [] →
    P.Triple i (fun job c => m.sourceFingerprint = some (Job.fingerprint job.row) ∧ A job c)
      (MeasurementOrchestrator.createAndAdvance m) R
      (fun e job c => e.expected = false ∧ E job c)
  fail : ∀ message, P.Triple i A (Job.failWith message) (fun _ => F) (fun _ => E)
  error : ∀ {job c}, A job c → E job c
  errorDone : ∀ {m job c}, R m job c → E job c

namespace PipelineSpec

open MeasurementOrchestrator MeasurementAssembler

variable [FormatAssertion] [Platform] {A E F : Job → Config rails ι → Prop}
  {R : Measurement → Job → Config rails ι → Prop} (h : PipelineSpec P i A E F R)

include h

/-- A method that keeps the assertion has the triple of a part of the pipeline. -/
theorem of_keeps {x : Method MeasurementOrchestrator α} (hx : P.Keeps i (ofJob A) x) :
  P.Triple i (ofJob A) x (fun _ => ofJob A) (fun e => ofJob (broken A E e))
  := by
  apply hx.post
  · exact fun _ _ _ hc => hc
  · exact fun _ _ _ hc => ⟨fun _ => hc, h.error hc⟩

/-- An advance to a status that is not terminal keeps the assertion of the run. -/
theorem keeps_advanceTo {status : Status} (hstatus : status.terminal = false) :
  P.Keeps i A (Job.advanceTo status)
  := by
  apply Protocol.Keeps.bind (h.advance status hstatus)
  intro _
  apply Protocol.Triple.getting
  intro job
  apply (keeps_quiet h.undisturbed rfl).pre
  rintro _ c ⟨rfl, hc⟩
  exact hc

/-! ### Stages -/

/-- A stage: the job is advanced, and the sidecar is asked for what `next` says. -/
theorem keeps_stage {status : Status} (hstatus : status.terminal = false)
    {next : Method MeasurementOrchestrator α} (hnext : P.Keeps i (ofJob A) next) :
  P.Keeps i (ofJob A) (do onJob (Job.advanceTo status); next)
  := by
  apply Protocol.Keeps.bind
  · apply triple_onJob (h.keeps_advanceTo hstatus)
  · intro _
    exact hnext

/-- A request to the sidecar keeps the assertion of the run. -/
theorem keeps_request (stage : SidecarClient.Stage) (payload : Json ℚ) (timeout : ℕ) :
  P.Keeps i (ofJob A) (request stage payload timeout)
  := Rails.keeps_request (fun o : MeasurementOrchestrator => h.undisturbed o.job) _ _ _

/-- Reopening the job keeps the assertion of the run. -/
theorem keeps_reopen :
  P.Keeps i (ofJob A) reopen
  := by
  apply Protocol.Triple.getting
  intro o
  split
  · next hterminal =>
    rintro _ c ⟨rfl, hc⟩
    rw [h.isOpen hc] at hterminal
    cases hterminal
  · apply Protocol.Triple.ret
    exact fun _ _ hc => hc.2

/-- The stage of the address keeps the assertion of the run. -/
theorem keeps_resolveAddressStage :
  P.Keeps i (ofJob A) resolveAddressStage
  := by
  apply h.keeps_stage rfl
  apply Protocol.Triple.getting
  intro o
  apply (h.keeps_request _ _ _).pre
  exact fun _ _ hc => hc.2

/-- The LiDAR stage keeps the assertion of the run, degraded or not. -/
theorem keeps_lidarStage (buildingPolygon parcelPolygon : Json ℚ) :
  P.Keeps i (ofJob A) (lidarStage buildingPolygon parcelPolygon)
  := keeps_degrading (h.keeps_stage rfl (h.keeps_request _ _ _))

/-- The outline stage keeps the assertion of the run, degraded or not. -/
theorem keeps_refineStage (imageTileRef priorPolygon imageGeoBounds : Json ℚ) :
  P.Keeps i (ofJob A) (refineStage imageTileRef priorPolygon imageGeoBounds)
  := keeps_degrading (h.keeps_stage rfl (h.keeps_request _ _ _))

/-- Fitting the planes keeps the assertion of the run. -/
theorem keeps_fitPlanesStage (lidarResponse refinedPolygon : Json ℚ) :
  P.Keeps i (ofJob A) (fitPlanesStage lidarResponse refinedPolygon)
  := by
  apply h.keeps_stage rfl
  apply Protocol.Keeps.bind (Protocol.Keeps.ofExcept _)
  intro lidar
  apply Protocol.Keeps.bind (Protocol.Keeps.ofExcept _)
  intro pointArrayRef
  apply Protocol.Keeps.bind (Protocol.Keeps.ofExcept _)
  intro utmZone
  apply h.keeps_request

/-- The fallback measurement keeps the assertion of the run. -/
theorem keeps_fallbackStage (refinedPolygon resolve : Json ℚ) :
  P.Keeps i (ofJob A) (fallbackStage refinedPolygon resolve)
  := by
  apply h.keeps_stage rfl
  apply Protocol.Keeps.bind (Protocol.Keeps.ofExcept _)
  intro utmZone
  apply h.keeps_request

/-- The geometry stage keeps the assertion of the run, on either path. -/
theorem keeps_geometryStage (resolve lidarResponse refinedPolygon : Json ℚ) :
  P.Keeps i (ofJob A) (geometryStage resolve lidarResponse refinedPolygon)
  := by
  rw [geometryStage]
  split
  · apply Protocol.Keeps.bind (h.keeps_fitPlanesStage _ _)
    intro geometry
    apply Protocol.Keeps.ret
  · apply Protocol.Keeps.bind
    · apply keeps_onVlm
      intro job
      unfold noteLidarMissing
      split
      · apply keeps_modify
      · apply keeps_modify
    · intro _
      apply Protocol.Keeps.bind (h.keeps_fallbackStage _ _)
      intro geometry
      apply Protocol.Keeps.ret

/-- The start of the detection keeps the assertion of the run. -/
theorem keeps_start :
  P.Keeps i (ofJob A) (onVlm VlmRunner.start)
  := by
  apply keeps_onVlm
  intro job
  apply Protocol.Keeps.bind (keeps_quiet (fun _ => h.undisturbed job) rfl)
  intro _
  apply keeps_modify

/-- Joining the detection keeps the assertion of the run. -/
theorem keeps_join :
  P.Keeps i (ofJob A) (onVlm VlmRunner.join)
  := by
  apply keeps_onVlm
  intro job
  apply Protocol.Keeps.bind (keeps_modify _ _)
  intro _
  apply Protocol.Keeps.bind (keeps_quiet (fun _ => h.undisturbed job) rfl)
  intro result
  cases result with
  | timedOut =>
      apply Protocol.Keeps.bind (keeps_modify _ _)
      intro _
      apply Protocol.Keeps.ret
  | error message =>
      apply Protocol.Keeps.bind (keeps_modify _ _)
      intro _
      apply Protocol.Keeps.ret
  | features features => apply Protocol.Keeps.ret

/-! ### The commit -/

/-- A measurement with facets is persisted as the specification of the commit says. -/
theorem triple_persist {doc : Json ℚ} (hfacets : Ruby.array (doc.get "facets") ≠ [])
    (provenance : Json ℚ) (warnings : List (Json ℚ))
    (totalPerimeterFt geocode parcelPolygon : Json ℚ) :
  P.Triple i A (persist doc provenance warnings totalPerimeterFt geocode parcelPolygon) R
    (broken A E)
  := by
  apply Protocol.Triple.getting
  intro job
  apply Protocol.Triple.bind (B := fun _ s c => s = job ∧ A s c)
  · apply Protocol.Triple.post (keeps_quiet (fun s => (h.undisturbed s).and_const (s = job)) rfl)
    · exact fun _ _ _ hc => hc
    · exact fun e s c hc => ⟨fun _ => hc.2, h.error hc.2⟩
  · intro generatedAt
    apply Protocol.Triple.bind (B := R)
    · apply (h.commit _ hfacets).conseq
      · rintro s c ⟨rfl, hc⟩
        exact ⟨rfl, hc⟩
      · exact fun _ _ _ hc => hc
      · exact fun _ _ _ hc => broken_of_unexpected hc
    · intro measurement
      have hdone : ∀ e s c, e.expected = false ∧ R measurement s c → broken A E e s c :=
        fun e s c hc => broken_of_unexpected ⟨hc.1, h.errorDone hc.2⟩
      apply Protocol.Triple.bind (B := fun _ => R measurement)
      · apply (triple_ensureReportFor (h.undisturbedDone measurement)).post
        · exact fun _ _ _ hc => hc
        · exact hdone
      · intro _
        apply Protocol.Triple.bind (B := fun _ => R measurement)
        · apply Protocol.Triple.getting
          intro job'
          apply Protocol.Triple.conseq (triple_quiet (h.undisturbedDone measurement) rfl)
          · exact fun _ _ hc => hc.2
          · exact fun _ _ _ hc => hc
          · exact hdone
        · intro _
          apply Protocol.Triple.ret
          exact fun _ _ hc => hc

/-- A measurement with facets is assembled, and then it is persisted. -/
theorem triple_assembleAndPersist {s : StageOutputs}
    (hfacets : Ruby.array (s.geometry.get "facets") ≠ []) :
  P.Triple i (ofJob A) (assembleAndPersist s) (fun m => ofJob (R m)) (fun e => ofJob (broken A E e))
  := by
  apply Protocol.Triple.getting
  intro o
  apply Protocol.Triple.pre (A := ofJob A) _ (fun _ _ hc => hc.2)
  apply Protocol.Triple.bind (h.of_keeps (Protocol.Keeps.ofExcept _))
  intro _
  apply Protocol.Triple.bind
    (h.of_keeps (keeps_quiet (fun o : MeasurementOrchestrator => h.undisturbed o.job) rfl))
  intro now
  apply triple_onJob
  apply h.triple_persist
  rw [buildMeasurementDocument_facets]
  exact hfacets

/-! ### The chain -/

/-- The stages, for a job that is reopened for them. -/
theorem triple_runPipelineStages {B : MeasurementOrchestrator → Config rails ι → Prop}
    (hreopen : P.Triple i B reopen (fun _ => ofJob A) (fun e => ofJob (broken A E e))) :
  P.Triple i B runPipelineStages (fun m => ofJob (R m)) (fun e => ofJob (broken A E e))
  := by
  apply Protocol.Triple.bind hreopen
  intro _
  apply Protocol.Triple.bind (h.of_keeps h.keeps_resolveAddressStage)
  intro resolve
  apply Protocol.Triple.getting
  intro o
  apply Protocol.Triple.pre (A := ofJob A) _ (fun _ _ hc => hc.2)
  apply Protocol.Triple.bind (h.of_keeps (Protocol.Keeps.ofExcept _))
  intro buildingPolygon
  apply Protocol.Triple.bind (h.of_keeps (h.keeps_stage rfl (h.keeps_request _ _ _)))
  intro imagery
  apply Protocol.Triple.bind (h.of_keeps (Protocol.Keeps.ofExcept _))
  intro imageTileRef
  apply Protocol.Triple.bind (h.of_keeps (Protocol.Keeps.ofExcept _))
  intro imageGeoBounds
  apply Protocol.Triple.bind (h.of_keeps (triple_onJob (h.keeps_advanceTo rfl)))
  intro _
  apply Protocol.Triple.bind (h.of_keeps h.keeps_start)
  intro _
  apply Protocol.Triple.bind (h.of_keeps (h.keeps_lidarStage _ _))
  intro lidarResponse
  apply Protocol.Triple.bind (h.of_keeps (h.keeps_refineStage _ _ _))
  intro refined
  apply Protocol.Triple.bind (h.of_keeps (Protocol.Keeps.ofExcept _))
  intro refinedPolygon
  apply Protocol.Triple.bind (h.of_keeps (h.keeps_geometryStage _ _ _))
  rintro ⟨geometry, source⟩
  apply Protocol.Triple.bind (B := fun _ o c => Ruby.array (geometry.get "facets") ≠ [] ∧ A o.job c)
  · apply Protocol.Triple.ofExcept
    · intro _ hguard o c hc
      refine ⟨fun hempty => ?_, hc⟩
      rw [guardFacets, hempty] at hguard
      cases hguard
    · intro e _ o c hc
      exact ⟨fun _ => hc, h.error hc⟩
  · intro _
    apply Protocol.Triple.assuming
    intro hfacets
    apply Protocol.Triple.bind (h.of_keeps h.keeps_join)
    intro features
    exact h.triple_assembleAndPersist hfacets

/-- The pipeline establishes what the commit does, from what reopening the job establishes. -/
theorem triple_runPipeline {B : MeasurementOrchestrator → Config rails ι → Prop}
    (hreopen : P.Triple i B reopen (fun _ => ofJob A) (fun e => ofJob (broken A E e))) :
  P.Triple i B runPipeline (fun m => ofJob (R m)) (fun e => ofJob (broken A E e))
  := by
  apply Protocol.Triple.ensuring (h.triple_runPipelineStages hreopen)
  · intro m
    apply (triple_cleanup (h.undisturbedDone m)).post
    · exact fun _ _ _ hc => hc
    · exact fun _ _ _ hc => broken_of_unexpected ⟨hc.1, h.errorDone hc.2⟩
  · intro e
    cases he : e.expected with
    | true =>
        apply (triple_cleanup h.undisturbed).conseq
        · exact fun _ _ hc => hc.1 he
        · exact fun _ _ _ hc => ⟨fun _ => hc, h.error hc⟩
        · exact fun _ _ _ hc => broken_of_unexpected ⟨hc.1, h.error hc.2⟩
    | false =>
        apply (triple_cleanup h.undisturbedError).conseq
        · exact fun _ _ hc => hc.2
        · exact fun _ _ _ hc => broken_of_unexpected ⟨he, hc⟩
        · exact fun _ _ _ hc => broken_of_unexpected hc

/-- A failure that is expected fails the job. -/
theorem triple_failWith (message : String) :
  P.Triple i (ofJob A) (do onJob (Job.failWith message); return none)
    (fun m o => found R F m o.job) (fun _ => ofJob E)
  := by
  apply Protocol.Triple.bind (triple_onJob (h.fail message))
  intro _
  apply Protocol.Triple.ret
  exact fun _ _ hc => hc

/-- A call returns a measurement that was found or committed, and when it raises the exception is
handled. -/
theorem triple_call :
  P.Triple i (ofJob A) call (fun m o => found R F m o.job) (fun _ => ofJob E)
  := by
  apply Protocol.Triple.rescue (F := fun e => ofJob (broken A E e))
  · apply Protocol.Triple.bind (B := fun m => ofJob (found R A m))
    · apply (triple_onJob h.cache).post
      · exact fun _ _ _ hc => hc
      · exact fun _ _ _ hc => broken_of_unexpected hc
    · intro m
      cases m with
      | some cached =>
          apply Protocol.Triple.ret
          exact fun _ _ hc => hc
      | none =>
          apply Protocol.Triple.bind (h.triple_runPipeline (h.of_keeps h.keeps_reopen))
          intro measurement
          apply Protocol.Triple.ret
          exact fun _ _ hc => hc
  · intro e
    split
    · apply (h.triple_failWith _).pre
      exact fun _ _ hc => hc.1 rfl
    · apply (h.triple_failWith _).pre
      exact fun _ _ hc => hc.1 rfl
    · apply (h.triple_failWith _).pre
      exact fun _ _ hc => hc.1 rfl
    · apply (h.triple_failWith _).pre
      exact fun _ _ hc => hc.1 rfl
    · apply Protocol.Triple.raise
      exact fun _ _ hc => hc.2

/-! ### Attempts -/

/-- What holds of the job at the end of an attempt that does not raise. -/
def ended (F : Job → Config rails ι → Prop) (R : Measurement → Job → Config rails ι → Prop) :
    GeometryJob.Outcome → Job → Config rails ι → Prop
  | .skipped => fun _ _ => False
  | .failed => F
  | .measured m => R m

/-- An attempt at a job that is not terminal. -/
theorem triple_attempt {n : ℕ} {X : Job → Config rails ι → Prop}
    (hcrash : ∀ e, P.Triple i E (GeometryJob.recordCrash n e) (fun _ => X) (fun _ => X)) :
  P.Triple i A (GeometryJob.attempt n) (ended F R) (fun _ => X)
  := by
  apply Protocol.Triple.rescue (F := fun _ => E)
  · apply Protocol.Triple.getting
    intro job
    split
    · next hterminal =>
      rintro _ c ⟨rfl, hc⟩
      rw [h.isOpen hc] at hterminal
      cases hterminal
    · apply Protocol.Triple.pre (A := A) _ (fun _ _ hc => hc.2)
      apply Protocol.Triple.bind (B := found R F)
      · apply Protocol.Triple.within
        intro job
        apply h.triple_call.pre
        rintro o c ⟨hc, rfl⟩
        exact hc
      · intro m
        cases m with
        | some measurement =>
            apply Protocol.Triple.ret
            exact fun _ _ hc => hc
        | none =>
            apply Protocol.Triple.ret
            exact fun _ _ hc => hc
  · intro e
    apply Protocol.Triple.bind (hcrash e)
    intro _
    apply Protocol.Triple.raise
    exact fun _ _ hc => hc

end PipelineSpec

/-- An attempt at a terminal job does nothing. -/
theorem triple_attempt_of_terminal [FormatAssertion] [Platform] {n : ℕ}
    {B : Job → Config rails ι → Prop} :
  P.Triple i (fun job c => job.status.terminal = true ∧ B job c) (GeometryJob.attempt n)
    (fun outcome job c => outcome = .skipped ∧ B job c) (fun _ _ _ => False)
  := by
  apply Protocol.Triple.rescue (F := fun _ _ _ => False)
  · apply Protocol.Triple.getting
    intro job
    split
    · exact Protocol.Triple.ret fun _ _ hc => ⟨rfl, hc.2.2⟩
    · next hopen =>
      rintro s _ ⟨rfl, hterminal, _⟩
      exact absurd hterminal hopen
  · intro _ _ _ hfalse
    exact hfalse.elim

end Rails
