import RoofTrace.Rails.FusionJob
import RoofTrace.Rails.PipelineRule

/-!
# The rule of a fusion

What a fusion keeps, from what its writes keep. A `FusionSpec` says what holds before the
measurement to refine is read (`A₀`) and once it has been (`A`), after a warning (`W`), after
the insertion (`R`) and the enqueuing (`D`), and after an exception (`E`). Of the response
of the sidecar it is known that it is `good`, and of the time of the insertion that it is
`late`.
-/

namespace Rails

open Effects SidecarClient FusionOrchestrator

variable {ι σ α : Type} {P : Protocol rails ι} {i : ι}

/-- What the reads and writes of a fusion do to the assertions of a run. -/
structure FusionSpec [FormatAssertion] [Platform] (P : Protocol rails ι) (i : ι)
    (captureSession : CaptureSession) (good : Json ℚ → Prop) (late : ℕ → Prop)
    (A₀ : Config rails ι → Prop) (A : Option Measurement → Config rails ι → Prop)
    (W E : Config rails ι → Prop) (R D : Measurement → Config rails ι → Prop) : Prop where
  read : Takes P i (.latestMeasurement .prior) A₀ A E
  undisturbed : ∀ prior, Undisturbed P i (A prior)
  undisturbedWarned : Undisturbed P i W
  undisturbedError : Undisturbed P i E
  goodResponse : ∀ {prior payload timeout exchange c response},
    P.ok i (.post fuseCapture payload timeout) exchange c → A prior c →
    receive fuseCapture timeout exchange = .ok response → good response
  lateTime : ∀ {prior c passed}, A prior c → late (c.world.clock + passed + 1)
  skip : ∀ prior : Option Measurement, prior.filter (·.lidarAvailable) = none →
    P.Triple i (fun _ : FusionOrchestrator => A prior)
      (appendFailureWarning "icp_skipped: lidar_unavailable" prior) (fun _ _ => W)
      (fun e _ c => e.expected = false ∧ E c)
  unaligned : ∀ prior response, prior.lidarAvailable = true → good response →
    aligned response = false →
    P.Triple i (fun _ : FusionOrchestrator => A (some prior))
      (appendFailureWarning (alignmentWarning (response.get "icp_rmse_m")) (some prior))
      (fun _ _ => W) (fun e _ c => e.expected = false ∧ E c)
  failed : ∀ prior, P.Triple i (fun _ : FusionOrchestrator => A prior)
    (appendFailureWarning "fusion_failed: sidecar_error" prior) (fun _ _ => E) (fun _ _ => E)
  insert : ∀ prior response now, prior.lidarAvailable = true → good response →
    aligned response = true → late now →
    Takes P i (.insertMeasurement (fusedMeasurement captureSession prior response now))
      (A (some prior)) R E
  complete : ∀ m rmse, Takes P i (.broadcastFusionStatus .complete rmse) (R m) (fun _ => R m) E
  enqueue : ∀ m, Takes P i .enqueueProjectionJob (R m) (fun _ => D m) E
  error : ∀ {prior c}, A prior c → E c
  warned : ∀ {c}, W c → E c

namespace FusionSpec

variable {captureSession : CaptureSession} {good : Json ℚ → Prop} {late : ℕ → Prop}
  {A₀ W E : Config rails ι → Prop} {A : Option Measurement → Config rails ι → Prop}
  {R D : Measurement → Config rails ι → Prop}

/-- What holds once the measurement to refine has been read. -/
abbrev refining (captureSession : CaptureSession) (A : Option Measurement → Config rails ι → Prop)
    (prior : Option Measurement) (o : FusionOrchestrator) (c : Config rails ι) : Prop :=
  (o.captureSession = captureSession ∧ o.prior = prior) ∧ A prior c

/-- What is known after an exception: one that is expected comes after the measurement to
refine has been read, and before anything is written. -/
abbrev raised (captureSession : CaptureSession) (A : Option Measurement → Config rails ι → Prop)
    (E : Config rails ι → Prop) (e : Exn) (o : FusionOrchestrator) (c : Config rails ι) : Prop :=
  (e.expected = true → refining captureSession A o.prior o c) ∧ E c

theorem raised_of_unexpected {e : Exn} {o : FusionOrchestrator} {c : Config rails ι}
    (hc : e.expected = false ∧ E c) :
  raised captureSession A E e o c
  := by
  refine ⟨fun he => ?_, hc.2⟩
  rw [hc.1] at he
  cases he

theorem triple_appendPriorWarning {prior : Option Measurement} {message : String}
    {B : Config rails ι → Prop} {F : Exn → Config rails ι → Prop}
    (hwarn : P.Triple i (fun _ : FusionOrchestrator => A prior)
      (appendFailureWarning message prior) (fun _ _ => B) (fun e _ => F e)) :
  P.Triple i (refining captureSession A prior) (appendPriorWarning message) (fun _ _ => B)
    (fun e _ => F e)
  := by
  apply Protocol.Triple.getting
  rintro o
  rintro s c ⟨rfl, ⟨_, hprior⟩, hc⟩
  rw [hprior]
  exact hwarn s c hc

variable [FormatAssertion] [Platform] (h : FusionSpec P i captureSession good late A₀ A W E R D)

include h

theorem undisturbed_refining (prior : Option Measurement) (o : FusionOrchestrator) :
  Undisturbed P i (refining captureSession A prior o)
  := (h.undisturbed prior).and_const _

/-- A warning, and the announcement that the fusion has failed. -/
theorem triple_warned {prior : Option Measurement} {message : String} {rmse : Json ℚ}
    (hwarn : P.Triple i (fun _ : FusionOrchestrator => A prior)
      (appendFailureWarning message prior) (fun _ _ => W)
      (fun e _ c => e.expected = false ∧ E c)) :
  P.Triple i (refining captureSession A prior)
    (do
      appendPriorWarning message
      perform (.broadcastFusionStatus .failed rmse)
      return none)
    (fun m o => found (fun m _ => D m) (fun _ => W) m o) (raised captureSession A E)
  := by
  apply Protocol.Triple.bind (B := fun _ _ => W)
  · apply (triple_appendPriorWarning hwarn).post
    · exact fun _ _ _ hc => hc
    · exact fun _ _ _ hc => raised_of_unexpected hc
  · intro _
    apply Protocol.Triple.bind (B := fun _ _ => W)
    · apply (triple_quiet (fun _ => h.undisturbedWarned) rfl).post
      · exact fun _ _ _ hc => hc
      · exact fun _ _ _ hc => raised_of_unexpected ⟨hc.1, h.warned hc.2⟩
    · intro _
      exact Protocol.Triple.ret fun _ _ hc => hc

theorem triple_persistFusedMeasurement {prior : Measurement} {response : Json ℚ}
    (hprior : prior.lidarAvailable = true) (hgood : good response)
    (haligned : aligned response = true) :
  P.Triple i (refining captureSession A (some prior)) (persistFusedMeasurement prior response)
    (fun m _ => R m) (raised captureSession A E)
  := by
  apply Protocol.Triple.getting
  intro o
  apply Protocol.Triple.bind
    (B := fun now (s : FusionOrchestrator) c =>
      (o.captureSession = captureSession ∧ late now) ∧ A (some prior) c)
  · apply Protocol.triple_perform
    · exact fun s => (Protocol.stable_const (s = o)).and
        (h.undisturbed_refining (some prior) s).stable
    · rintro s c passed hok ⟨rfl, ⟨hsession, _⟩, hc⟩
      obtain ⟨hguar, hafter⟩ := (h.undisturbed (some prior)).quiet .now passed c rfl hok hc
      exact ⟨hguar, ⟨hsession, h.lateTime hc⟩, hafter⟩
  · intro now
    apply Protocol.Triple.assuming
    rintro ⟨rfl, hlate⟩
    apply (h.insert prior response now hprior hgood haligned hlate).triple.post
    · exact fun _ _ _ hc => hc
    · exact fun _ _ _ hc => raised_of_unexpected hc

theorem triple_fuse {prior : Measurement} {response : Json ℚ}
    (hprior : prior.lidarAvailable = true) (hgood : good response) :
  P.Triple i (refining captureSession A (some prior)) (fuse prior response)
    (fun m o => found (fun m _ => D m) (fun _ => W) m o) (raised captureSession A E)
  := by
  unfold fuse
  cases haligned : aligned response with
  | true =>
      apply Protocol.Triple.bind (h.triple_persistFusedMeasurement hprior hgood haligned)
      intro m
      apply Protocol.Triple.bind (B := fun _ _ => R m)
      · apply (h.complete m _).triple.post
        · exact fun _ _ _ hc => hc
        · exact fun _ _ _ hc => raised_of_unexpected hc
      · intro _
        apply Protocol.Triple.bind (B := fun _ _ => D m)
        · apply (h.enqueue m).triple.post
          · exact fun _ _ _ hc => hc
          · exact fun _ _ _ hc => raised_of_unexpected hc
        · intro _
          exact Protocol.Triple.ret fun _ _ hc => hc
  | false => exact h.triple_warned (h.unaligned prior response hprior hgood haligned)

/-- The request of a fusion: an exception leaves everything as it is. -/
theorem triple_request {prior : Option Measurement} {payload : Json ℚ} {timeout : ℕ} :
  P.Triple i (refining captureSession A prior) (request fuseCapture payload timeout)
    (fun response o c => good response ∧ refining captureSession A prior o c)
    (raised captureSession A E)
  := by
  have hraised {e : Exn} {o : FusionOrchestrator} {c : Config rails ι} :
      refining captureSession A prior o c → raised captureSession A E e o c := by
    rintro ⟨⟨hsession, rfl⟩, hc⟩
    exact ⟨fun _ => ⟨⟨hsession, rfl⟩, hc⟩, h.error hc⟩
  apply Protocol.Triple.bind (B := fun _ => refining captureSession A prior)
  · apply (Protocol.Keeps.ofExcept _).post
    · exact fun _ _ _ hc => hc
    · exact fun _ _ _ hc => hraised hc
  · intro _
    apply Protocol.Triple.bind (B := fun exchange o c =>
      (∀ response, receive fuseCapture timeout exchange = .ok response → good response) ∧
        refining captureSession A prior o c)
    · apply Protocol.triple_perform
      · exact fun o => (h.undisturbed_refining prior o).stable
      · intro o c exchange hok hc
        obtain ⟨hguar, hafter⟩ := (h.undisturbed_refining prior o).quiet
          (.post fuseCapture payload timeout) exchange c rfl hok hc
        exact ⟨hguar, fun _ => h.goodResponse hok hc.2, hafter⟩
    · intro exchange
      apply Protocol.Triple.assuming
      intro hgood
      apply Protocol.Triple.ofExcept
      · exact fun response hresponse _ _ hc => ⟨hgood response hresponse, hc⟩
      · exact fun _ _ _ _ hc => hraised hc

theorem triple_refine :
  P.Triple i (fun o c => o.captureSession = captureSession ∧ A₀ c) refine
    (fun m o => found (fun m _ => D m) (fun _ => W) m o) (raised captureSession A E)
  := by
  apply Protocol.Triple.bind (B := fun latest o c => o.captureSession = captureSession ∧ A latest c)
  · apply (h.read.triple_keeping _).post
    · exact fun _ _ _ hc => hc
    · exact fun _ _ _ hc => raised_of_unexpected hc
  · intro latest
    apply Protocol.Triple.bind (B := fun _ => refining captureSession A latest)
    · exact Protocol.Triple.modifying fun _ _ hc => ⟨⟨hc.1, rfl⟩, hc.2⟩
    · intro _
      cases hfilter : latest.filter (·.lidarAvailable) with
      | none => exact h.triple_warned (h.skip latest hfilter)
      | some prior =>
          obtain ⟨rfl, hprior⟩ := Option.filter_eq_some_iff.mp hfilter
          apply Protocol.Triple.bind (B := fun _ => refining captureSession A (some prior))
          · apply (triple_quiet (h.undisturbed_refining (some prior)) rfl).post
            · exact fun _ _ _ hc => hc
            · exact fun _ _ _ hc => raised_of_unexpected ⟨hc.1, h.error hc.2.2⟩
          · intro _
            apply Protocol.Triple.getting
            intro o
            apply Protocol.Triple.pre (A := refining captureSession A (some prior))
              _ (fun _ _ hc => hc.2)
            apply Protocol.Triple.bind h.triple_request
            intro response
            apply Protocol.Triple.assuming
            intro hgood
            exact h.triple_fuse hprior hgood

theorem triple_call :
  P.Triple i (fun o c => o.captureSession = captureSession ∧ A₀ c) call
    (fun m o => found (fun m _ => D m) (fun _ => W) m o) (fun _ _ => E)
  := by
  apply Protocol.Triple.rescue h.triple_refine
  intro e
  split
  · next errorClass message =>
    apply Protocol.Triple.bind (B := fun _ _ => E)
    · rintro o c ⟨hc, -⟩
      exact triple_appendPriorWarning (h.failed o.prior) o c (hc rfl)
    · intro _
      apply Protocol.Triple.bind (keeps_quiet (fun _ => h.undisturbedError) rfl)
      intro _
      exact Protocol.Triple.raise fun _ _ hc => hc
  · exact Protocol.Triple.raise fun _ _ hc => hc.2

end FusionSpec

/-! ### Attempts -/

/-- The capture session that is found is the one that was looked for. -/
theorem id_of_findCaptureSession {id : String} {χ : Option String} {w : World}
    {captureSession : CaptureSession}
    (h : (exec (.findCaptureSession id) χ w).1 = .ok captureSession) :
  captureSession.id = id
  := by
  cases χ with
  | some className => cases h
  | none =>
      cases hfind : w.captureSessions.find? (·.id = id) with
      | none =>
          simp only [exec, unlessRaised, hfind] at h
          cases h
      | some found =>
          simp only [exec, unlessRaised, hfind] at h
          cases h
          simpa using List.find?_some hfind

/-- What holds of the database at the end of an attempt that does not raise. -/
def FusionJob.ended (K W : Config rails ι → Prop) (D : Measurement → Config rails ι → Prop) :
    FusionJob.Outcome → Config rails ι → Prop
  | .alreadyFused => K
  | .warned => W
  | .fused m => D m

/-- What the reads and writes of an attempt do, from `B` at its beginning: `K` holds when the
job is found to be fused. -/
structure FusionAttemptSpec [FormatAssertion] [Platform] (P : Protocol rails ι) (i : ι)
    (captureSessionId : String) (B A₀ K W E : Config rails ι → Prop)
    (D : Measurement → Config rails ι → Prop) : Prop where
  undisturbed : Undisturbed P i B
  check : Takes P i (.latestMeasurement .alreadyFused) B
    (fun latest => if latest.any (·.source == fusedSource) then K else A₀) E
  call : ∀ captureSession : CaptureSession, captureSession.id = captureSessionId →
    P.Triple i (fun o c => o.captureSession = captureSession ∧ A₀ c) FusionOrchestrator.call
      (fun m o => found (fun m _ => D m) (fun _ => W) m o) (fun _ _ => E)
  error : ∀ {c}, B c → E c

theorem FusionAttemptSpec.triple_attempt [FormatAssertion] [Platform] {captureSessionId : String}
    {B A₀ K W E X : Config rails ι → Prop} {D : Measurement → Config rails ι → Prop}
    (h : FusionAttemptSpec P i captureSessionId B A₀ K W E D) {n : ℕ}
    (hrecord : ∀ e, P.Triple i (fun _ => E) (FusionJob.recordFailure n e) (fun _ _ => X)
      (fun _ _ => X)) :
  P.Triple i (fun _ => B) (FusionJob.attempt captureSessionId n)
    (fun outcome _ => FusionJob.ended K W D outcome) (fun _ _ => X)
  := by
  apply Protocol.Triple.rescue (F := fun _ _ => E)
  · apply Protocol.Triple.bind (B := fun captureSession (_ : Job) c =>
      captureSession.id = captureSessionId ∧ B c)
    · apply Protocol.triple_perform
      · exact fun _ => h.undisturbed.stable
      · intro s c χ hok hc
        obtain ⟨hguar, hafter⟩ :=
          h.undisturbed.quiet (.findCaptureSession captureSessionId) χ c rfl hok hc
        use hguar
        cases hanswer : c.answer (.findCaptureSession captureSessionId) χ with
        | ok captureSession => exact ⟨id_of_findCaptureSession hanswer, hafter⟩
        | error e => exact h.error hafter
    · intro captureSession
      apply Protocol.Triple.assuming
      intro hsession
      apply Protocol.Triple.bind
      · apply h.check.triple.post
        · exact fun _ _ _ hc => hc
        · exact fun _ _ _ hc => hc.2
      · intro latest
        split
        · exact Protocol.Triple.ret fun _ _ hc => hc
        · apply Protocol.Triple.bind
            (B := fun m s => found (fun m (_ : Job) => D m) (fun _ => W) m s)
          · apply Protocol.Triple.within
            intro job
            apply (h.call captureSession hsession).conseq
            · rintro _ c ⟨hc, rfl⟩
              exact ⟨rfl, hc⟩
            · rintro (_ | m) _ _ hc <;> exact hc
            · exact fun _ _ _ hc => hc
          · intro m
            cases m with
            | some measurement => exact Protocol.Triple.ret fun _ _ hc => hc
            | none => exact Protocol.Triple.ret fun _ _ hc => hc
  · intro e
    apply Protocol.Triple.bind (hrecord e)
    intro _
    exact Protocol.Triple.raise fun _ _ hc => hc

end Rails
