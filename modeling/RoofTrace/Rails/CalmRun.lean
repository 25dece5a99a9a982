import RoofTrace.Effects.Play
import RoofTrace.Rails.PipelineRun

/-!
# Runs in which no operation raises

The exceptions of a calm run come from what the stages are answered, not from the operations
of the application. When such an exception is one that the orchestrator expects, the job is
failed, and the measurements are what they were before the run.
-/

namespace Rails

open Effects

/-- No operation raises. -/
def Calm : StepPred rails Unit := fun _ o χ c => ∃ a, c.answer o χ = .ok a

instance (i : Unit) (o : Op) (χ : Op.Choice o) (c : Config rails Unit) :
    Decidable (Calm i o χ c) :=
  match h : c.answer o χ with
  | .ok a => .isTrue ⟨a, h⟩
  | .error _ => .isFalse fun ⟨_, ha⟩ => nomatch h.symm.trans ha

/-- What is said of the job and its measurements alone is not disturbed. -/
theorem undisturbed_of_rows {R : StepPred rails Unit} {B : Config rails Unit → Prop}
    (hB : ∀ c c' : Config rails Unit, c'.world.job = c.world.job →
      c'.world.measurements = c.world.measurements → B c → B c') :
  Undisturbed (Protocol.supposing R) () B
  where
  stable := Protocol.stable_of_subsingleton _
  quiet o χ c ho _ h := by
    obtain ⟨hjob, hmeasurements⟩ := quiet_keeps ho χ c.world
    exact ⟨trivial, hB c _ hjob hmeasurements h⟩

/-- A quiet operation of a calm run keeps what is not disturbed, and does not raise. -/
theorem triple_calm {σ : Type} {A : σ → Config rails Unit → Prop}
    (hA : ∀ s, Undisturbed (Protocol.supposing Calm) () (A s)) {o : Op} (ho : o.quiet = true) :
  (Protocol.supposing Calm).Triple () A (perform o) (fun _ => A) (fun _ _ _ => False)
  := by
  apply Protocol.triple_perform
  · exact fun s => (hA s).stable
  · intro s c χ hok hs
    use trivial
    obtain ⟨a, ha⟩ := hok
    rw [ha]
    exact ((hA s).quiet o χ c ho ⟨a, ha⟩ hs).2

/-! ### The job -/

/-- The copy has been read from the row, and the measurements are given. -/
def Unmeasured (ms : List Measurement) (job : Job) (c : Config rails Unit) : Prop :=
  job.row = c.world.job ∧ c.world.measurements = ms

/-- The same, for a job that is not terminal. -/
def Underway (ms : List Measurement) (job : Job) (c : Config rails Unit) : Prop :=
  job.status.terminal = false ∧ Unmeasured ms job c

section Jobs

variable {ms : List Measurement}

theorem undisturbed_unmeasured {R : StepPred rails Unit} (job : Job) :
  Undisturbed (Protocol.supposing R) () (Unmeasured ms job)
  := by
  apply undisturbed_of_rows
  intro c c' hjob hmeasurements h
  unfold Unmeasured
  rw [hjob, hmeasurements]
  exact h

theorem undisturbed_underway {R : StepPred rails Unit} (job : Job) :
  Undisturbed (Protocol.supposing R) () (Underway ms job)
  := (undisturbed_unmeasured job).and_const _

/-- An UPDATE in a calm run writes what the copy holds. -/
theorem triple_save_calm (S : Status → Prop) :
  (Protocol.supposing Calm).Triple () (fun job c => S job.status ∧ Unmeasured ms job c) Job.save
    (fun _ job c => S job.status ∧ Unmeasured ms job c ∧ job.row.status = job.status)
    (fun _ _ _ => False)
  := by
  apply Protocol.Triple.post
  · apply Job.triple_save
      (B := fun job c => S job.status ∧ Unmeasured ms job c ∧ job.row.status = job.status)
      (E := fun _ _ => False)
    · exact fun _ => Protocol.stable_of_subsingleton _
    · intro job c hjob hempty
      refine ⟨hjob.1, hjob.2, ?_⟩
      rw [Job.row_of_changes_isEmpty hempty]
    · rintro job c χ ⟨hstatus, hrow, hms⟩ _ hok
      use trivial
      cases χ with
      | some className =>
          obtain ⟨a, ha⟩ := hok
          cases ha
      | none =>
          have hjob := job_after_save hrow
          refine ⟨hstatus, ⟨?_, hms⟩, ?_⟩
          · rw [Job.saved_row]
            exact hjob.symm
          · rw [Job.saved_row]
            rfl
  · exact fun _ _ _ hjob => hjob
  · exact fun _ _ _ hjob => hjob.2

/-- A failure fails the job, and leaves its measurements alone. -/
theorem triple_failWith_calm (message : String) :
  (Protocol.supposing Calm).Triple () (Unmeasured ms) (Job.failWith message)
    (fun _ _ c => c.world.job.status = .failed ∧ c.world.measurements = ms)
    (fun _ _ _ => False)
  := by
  apply Protocol.Triple.bind (B := fun _ job c => job.status = .failed ∧ Unmeasured ms job c)
  · exact Protocol.Triple.modifying fun _ _ hjob => ⟨rfl, hjob⟩
  · intro _
    apply Protocol.Triple.bind
      (B := fun _ _ (c : Config rails Unit) =>
        c.world.job.status = .failed ∧ c.world.measurements = ms)
    · apply (triple_save_calm (· = .failed)).post
      · rintro _ job c ⟨hstatus, ⟨hrow, hms⟩, hsaved⟩
        rw [← hrow, hsaved]
        exact ⟨hstatus, hms⟩
      · exact fun _ _ _ hfalse => hfalse
    · intro _
      apply Protocol.Triple.getting
      intro job
      apply Protocol.Triple.pre
      · apply triple_calm (A := fun _ (c : Config rails Unit) =>
          c.world.job.status = .failed ∧ c.world.measurements = ms) _ rfl
        intro _
        apply undisturbed_of_rows
        intro c c' hjob hmeasurements h
        rw [hjob, hmeasurements]
        exact h
      · exact fun _ _ hc => hc.2

end Jobs

namespace MeasurementOrchestrator

/-! ### The pipeline -/

variable [FormatAssertion] [Platform] {ms : List Measurement}

theorem calmSpec :
  PipelineSpec (Protocol.supposing Calm) () (Underway ms) (fun _ _ => True)
    (fun _ c => c.world.job.status = .failed ∧ c.world.measurements = ms) (fun _ _ _ => True)
  where
  isOpen hjob := hjob.1
  undisturbed := undisturbed_underway
  undisturbedDone _ _ := undisturbed_of_rows fun _ _ _ _ h => h
  undisturbedError _ := undisturbed_of_rows fun _ _ _ _ h => h
  advance status hstatus := by
    apply Protocol.Triple.post
    · apply Job.triple_advanceBy (C := Underway ms)
        (D := fun _ : Unit => Underway ms) (E := fun _ _ => False)
      · exact fun _ _ hjob => hjob.1
      · exact fun _ _ hjob => ⟨hstatus, hjob.2⟩
      · apply (triple_save_calm fun status => status.terminal = false).post
        · exact fun _ _ _ hjob => ⟨hjob.1, hjob.2.1⟩
        · exact fun _ _ _ hfalse => hfalse.elim
    · exact fun _ _ _ hjob => hjob
    · exact fun _ _ _ hfalse => hfalse.2.elim
  cache := by
    apply Job.triple_cachedMeasurement undisturbed_underway
    · exact fun _ _ hjob => hjob.1
    · exact fun _ _ _ => trivial
    · intro m
      apply (silently_advanceTo (B := fun _ => True) (fun _ _ _ _ _ => trivial) _).conseq
      · exact fun _ _ _ => trivial
      · exact fun _ _ _ hc => hc
      · exact fun _ _ _ hc => hc
  commit m _ := by
    apply Protocol.Triple.pre
    · apply Job.triple_createAndAdvance (A := Underway ms) (C := fun _ _ => True)
        (E := fun _ _ => True) undisturbed_underway
      · exact fun _ _ hjob => hjob.1
      · exact fun _ _ _ => trivial
      · exact fun _ => Protocol.stable_const _
      · exact fun _ _ _ => trivial
      · intro job c χ _ _ _
        use trivial
        cases χ <;> trivial
    · exact fun _ _ hjob => hjob.2
  fail message := by
    apply (triple_failWith_calm message).conseq
    · exact fun _ _ hjob => hjob.2
    · exact fun _ _ _ hc => hc
    · exact fun _ _ _ _ => trivial
  error _ := trivial
  errorDone _ := trivial

omit [FormatAssertion] in
/-- The cache raises nothing that is expected, and leaves the job alone when it finds nothing. -/
theorem triple_cachedMeasurement_unmeasured {R : StepPred rails Unit} :
  (Protocol.supposing R).Triple () (Unmeasured ms) Job.cachedMeasurement
    (found (fun _ _ _ => True) (Unmeasured ms)) (fun e _ _ => e.expected = false)
  := by
  have hquiet {o : Op} (ho : o.quiet = true) :
      (Protocol.supposing R).Triple () (Unmeasured ms) (perform o : Method Job _)
        (fun _ => Unmeasured ms) (fun e _ _ => e.expected = false) := by
    apply (triple_quiet undisturbed_unmeasured ho).post
    · exact fun _ _ _ hc => hc
    · exact fun _ _ _ hc => hc.1
  apply Protocol.Triple.bind (hquiet rfl)
  intro latest
  cases latest with
  | none => exact Protocol.Triple.ret fun _ _ hc => hc
  | some recent =>
      apply Protocol.Triple.bind (hquiet rfl)
      intro now
      split
      · exact Protocol.Triple.ret fun _ _ hc => hc
      · apply Protocol.Triple.getting
        intro job
        split
        · split
          · apply Protocol.Triple.bind (B := fun _ _ _ => True)
            · apply (silently_advanceTo (B := fun _ => True) (fun _ _ _ _ _ => trivial) _).conseq
              · exact fun _ _ _ => trivial
              · exact fun _ _ _ hc => hc
              · exact fun _ _ _ hc => hc.1
            · intro _
              exact Protocol.Triple.ret fun _ _ _ => trivial
          · exact Protocol.Triple.ret fun _ _ _ => trivial
        · exact Protocol.Triple.ret fun _ _ hc => hc.2

omit [FormatAssertion] [Platform] in
/-- A job is open once it has been reopened. -/
theorem triple_reopen_unmeasured :
  (Protocol.supposing Calm).Triple () (ofJob (Unmeasured ms)) reopen (fun _ => ofJob (Underway ms))
    (fun _ _ _ => False)
  := by
  apply Protocol.Triple.getting
  intro o
  split
  · apply Protocol.Triple.pre (A := ofJob (Unmeasured ms)) _ (fun _ _ hc => hc.2)
    apply triple_onJob (D := fun _ _ _ => False) (B := fun _ => Underway ms)
    apply Protocol.Triple.bind
      (B := fun _ job c => job.status.terminal = false ∧ Unmeasured ms job c)
    · exact Protocol.Triple.modifying fun _ _ hjob => ⟨rfl, hjob⟩
    · intro _
      apply (triple_save_calm fun status => status.terminal = false).post
      · exact fun _ _ _ hjob => ⟨hjob.1, hjob.2.1⟩
      · exact fun _ _ _ hfalse => hfalse
  · next hopen =>
    rintro _ c ⟨rfl, hc⟩
    exact ⟨Bool.eq_false_iff.mpr hopen, hc⟩

variable (ms) in
/-- An exception that is expected leaves the job under way. -/
theorem triple_attempted :
  (Protocol.supposing Calm).Triple () (ofJob (Unmeasured ms)) attempted (fun _ _ _ => True)
    (fun e o c => e.expected = true → Unmeasured ms o.job c)
  := by
  have hunexpected {e : Exn} {o : MeasurementOrchestrator} {c : Config rails Unit}
      (he : e.expected = false) : e.expected = true → Unmeasured ms o.job c := by
    intro hexpected
    rw [he] at hexpected
    cases hexpected
  apply Protocol.Triple.bind (B := fun m => ofJob (found (fun _ _ _ => True) (Unmeasured ms) m))
  · apply (triple_onJob triple_cachedMeasurement_unmeasured).post
    · exact fun _ _ _ hc => hc
    · exact fun _ _ _ hc => hunexpected hc
  · intro m
    cases m with
    | some cached => exact Protocol.Triple.ret fun _ _ _ => trivial
    | none =>
        apply Protocol.Triple.bind (B := fun _ _ _ => True)
        · apply (calmSpec.triple_runPipeline (B := ofJob (Unmeasured ms)) _).post
          · exact fun _ _ _ _ => trivial
          · exact fun _ _ _ hc he => (hc.1 he).2
          · apply triple_reopen_unmeasured.post
            · exact fun _ _ _ hc => hc
            · exact fun _ _ _ hfalse => hfalse.elim
        · intro measurement
          exact Protocol.Triple.ret fun _ _ _ => trivial

end MeasurementOrchestrator

end Rails
