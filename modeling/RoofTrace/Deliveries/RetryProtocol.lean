import RoofTrace.Rails.PipelineRule

/-!
# The retry protocol of the geometry job

The attempts of one geometry job by a single worker. Between attempts the job is
unfinished, failed, or done, with one measurement of its inputs; an attempt at a job that
is failed or done only loads it. Two kinds of exceptions get in the way. Before the last
attempt, one that strikes when a failure is announced leaves a failed job behind an
unexpected exception. On the last attempt, one that strikes when the job is loaded or a
terminal status is written leaves the job unfinished for good: the copy has been assigned
the terminal status already, so that the `rescue` takes the job to be settled.
-/

namespace Rails

open Effects

namespace RetryProtocol

open GeometryJob

/-! ### Attempts -/

section Attempts

variable [FormatAssertion] [Platform]

/-- The world after `n` attempts, with the choices of the world in each of them. -/
def worldAfter (χs : ℕ → ℕ → rails.Choices) (w : World) : ℕ → World
  | 0 => w
  | n + 1 => ((GeometryJob.perform (n + 1)).run () (χs n) ⟨worldAfter χs w n, []⟩).2.world

/-- The run of the attempt that follows `n` attempts. -/
def attemptRun (χs : ℕ → ℕ → rails.Choices) (w : World) (n : ℕ) :
    Except Exn Outcome × Config rails Unit :=
  (GeometryJob.perform (n + 1)).run () (χs n) ⟨worldAfter χs w n, []⟩

end Attempts

/-! ### The states between attempts -/

section States

variable [Platform] (fp : String)

/-- The measurements of the inputs with a fingerprint. -/
def measurementsOf (w : World) : List Measurement :=
  w.measurements.filter (·.sourceFingerprint = some fp)

/-- A job with these inputs that is not terminal and has no measurement of them. -/
def Unfinished (w : World) : Prop :=
  Job.fingerprint w.job = fp ∧ w.job.status.terminal = false ∧ measurementsOf fp w = []

/-- A job that is failed, and has no measurement of its inputs. -/
def Failed (w : World) : Prop :=
  Job.fingerprint w.job = fp ∧ w.job.status = .failed ∧ measurementsOf fp w = []

/-- A job that is ready, with the one measurement of its inputs. -/
def Done (w : World) : Prop :=
  Job.fingerprint w.job = fp ∧ w.job.status = .ready ∧ (measurementsOf fp w).length = 1

end States

/-! ### Exceptions that get in the way -/

/-- Whether an operation must not raise, from the status of the row. On the last attempt
these are the operations that load the job or write a terminal status, and before it those
that announce a failure or load a failed job. -/
def critical (last : Bool) (status : Status) : Op → Bool
  | .findJob _ => last || status = .failed
  | .updateJob changes => last && changes.status.any (·.terminal)
  | .commit _ changes => last && changes.status.any (·.terminal)
  | .broadcastStatus announced => !last && announced = .failed
  | _ => false

/-- The operations that must not raise do not. -/
def Succeeds (last : Bool) : StepPred rails Unit := fun _ o χ c =>
  critical last c.world.job.status o = true → ∃ a, c.answer o χ = .ok a

def retryProtocol (last : Bool) : Protocol rails Unit where
  ok := Succeeds last
  guar _ _ _ _ := True

/-! ### What an attempt keeps -/

section Assertions

variable [Platform] (fp : String) (last : Bool)

/-- The copy is what the row holds, and the job is unfinished. -/
def Running (job : Job) (c : Config rails Unit) : Prop :=
  job.row = c.world.job ∧ job.status.terminal = false ∧ Unfinished fp c.world

/-- What an attempt leaves behind that raises. -/
def Resting (w : World) : Prop :=
  Done fp w ∨ match last with
    | false => Unfinished fp w
    | true => Failed fp w

/-- What holds of a copy when an exception has been raised. -/
def Interrupted (job : Job) (c : Config rails Unit) : Prop :=
  Running fp job c ∨ job.status.terminal = true ∧ Resting fp last c.world

end Assertions

section Rules

variable {fp : String} {last : Bool}

/-- What is said of the job and its measurements alone is not disturbed. -/
theorem undisturbed_of_world {B : Config rails Unit → Prop}
    (hB : ∀ c c' : Config rails Unit, c'.world.job = c.world.job →
      c'.world.measurements = c.world.measurements → B c → B c') :
  Undisturbed (retryProtocol last) () B
  where
  stable := Protocol.stable_of_subsingleton _
  quiet o χ c ho _ h := by
    obtain ⟨hjob, hmeasurements⟩ := quiet_keeps ho χ c.world
    exact ⟨trivial, hB c _ hjob hmeasurements h⟩

/-! ### What is performed -/

/-- Whether an operation has been performed. -/
def Performed (o : Op) (c : Config rails Unit) : Prop := ∃ e ∈ c.past, e.2.1 = o

/-- What has been performed remains performed, whatever a method does next. -/
theorem keeps_performed {σ α : Type} (o : Op) (x : Method σ α) :
  (retryProtocol last).Keeps () (fun _ => Performed o) x
  := by
  apply Protocol.Keeps.of_steps (Protocol.stable_of_subsingleton _)
  rintro o' χ c _ ⟨e, he, ho⟩
  exact ⟨trivial, e, List.mem_cons_of_mem _ he, ho⟩

/-! ### The opening of an attempt -/

/-- The operations of an attempt before the first request of the pipeline. -/
def opens (n : ℕ) : Op → Bool
  | .findJob m => m = n
  | .latestMeasurement .idempotencyCache => true
  | .now => true
  | .updateJob changes => changes.status = some .resolvingAddress
  | .broadcastStatus status => status = .resolvingAddress
  | _ => false

/-- Nothing has been performed but these operations, and none has raised. -/
def Opening (n : ℕ) (past : List (Unit × Event application)) : Prop :=
  ∀ e ∈ past, opens n e.2.1 = true ∧ ∃ a, e.2.2 = .ok a

/-- The first exception of an attempt is one of these operations. -/
inductive Halted (n : ℕ) : List (Unit × Event application) → Prop where
  | mk {later earlier : List (Unit × Event application)} {o : Op} {e : Exn}
      (opening : Opening n earlier) (raised : opens n o = true) :
      Halted n (later ++ ((), ⟨o, .error e⟩) :: earlier)

open MeasurementOrchestrator SidecarClient in
/-- The first stage has been announced, and then its request has been posted, when it is valid. -/
inductive Posted [FormatAssertion] (n : ℕ) (address : String) :
    List (Unit × Event application) → Prop where
  | mk {later earlier : List (Unit × Event application)} (opening : Opening n earlier)
      (announced : ((), ⟨.broadcastStatus .resolvingAddress, .ok ()⟩) ∈ earlier)
      (posted : validateRequest resolveAddress.request (resolveAddressPayload (.str address)) =
          .ok () →
        ∃ later' answer, later = later' ++ [((), ⟨.post resolveAddress
          (resolveAddressPayload (.str address)) stageTimeoutSeconds, answer⟩)]) :
      Posted n address (later ++ earlier)

section Opening

variable {n : ℕ} {address : String} {past : List (Unit × Event application)}

/-- An attempt that was halted remains halted. -/
theorem Halted.cons (h : Halted n past) (event : Unit × Event application) :
  Halted n (event :: past)
  := by
  obtain ⟨opening, raised⟩ := h
  rw [← List.cons_append]
  exact ⟨opening, raised⟩

/-- A request that was posted remains posted. -/
theorem Posted.cons [FormatAssertion] (h : Posted n address past)
    (event : Unit × Event application) :
  Posted n address (event :: past)
  := by
  obtain ⟨opening, announced, posted⟩ := h
  rw [← List.cons_append]
  refine ⟨opening, announced, fun hvalid => ?_⟩
  obtain ⟨later', answer, rfl⟩ := posted hvalid
  exact ⟨event :: later', answer, rfl⟩

/-- An operation that opens the attempt goes on with it, or it halts it. -/
theorem Opening.after {o : Op} (ho : opens n o = true) {c : Config rails Unit}
    (h : Opening n c.past) (χ : rails.Choice o) :
  match c.answer o χ with
  | .ok _ => Opening n (c.after () o χ).past
  | .error _ => Halted n (c.after () o χ).past
  := by
  rw [Config.after_past]
  cases hanswer : c.answer o χ with
  | ok a =>
      intro e he
      rcases List.mem_cons.mp he with rfl | he
      · exact ⟨ho, a, rfl⟩
      · exact h e he
  | error e =>
      have hhalted : Halted n ([] ++ ((), (⟨o, .error e⟩ : Event application)) :: c.past) := ⟨h, ho⟩
      exact hhalted

/-- A request that was posted remains posted, whatever a method does next. -/
theorem keeps_posted [FormatAssertion] {σ α : Type} (x : Method σ α) :
  (retryProtocol last).Keeps () (fun _ c => Posted n address c.past) x
  := by
  apply Protocol.Keeps.of_steps (Protocol.stable_of_subsingleton _)
  exact fun o χ c _ h => ⟨trivial, h.cons _⟩

end Opening

/-! ### What holds while an attempt runs -/

variable [Platform]

/-- Quiet operations leave a running attempt as it is. -/
theorem undisturbed_running (job : Job) :
  Undisturbed (retryProtocol last) () (Running fp job)
  := by
  apply undisturbed_of_world
  intro c c' hjob hmeasurements h
  simp only [Running, Unfinished, measurementsOf, hjob, hmeasurements] at h ⊢
  exact h

/-- Quiet operations leave a job done that is done. -/
theorem undisturbed_done (job : Job) :
  Undisturbed (retryProtocol last) () fun c => job.status.terminal = true ∧ Done fp c.world
  := by
  apply undisturbed_of_world
  intro c c' hjob hmeasurements h
  simp only [Done, measurementsOf, hjob, hmeasurements] at h ⊢
  exact h

/-- Quiet operations leave an interrupted attempt as it is. -/
theorem undisturbed_interrupted (job : Job) :
  Undisturbed (retryProtocol last) () (Interrupted fp last job)
  := by
  apply undisturbed_of_world
  intro c c' hjob hmeasurements h
  cases last <;>
    (simp only [Interrupted, Running, Resting, Unfinished, Failed, Done, measurementsOf, hjob,
      hmeasurements] at h ⊢
     exact h)

/-! ### Writes -/

/-- An UPDATE of a copy that is not terminal. -/
theorem triple_save :
  (retryProtocol last).Triple () (Running fp) Job.save (fun _ => Running fp)
    (fun e job c => e.expected = false ∧ Running fp job c)
  := by
  apply Job.triple_save
  · exact fun job => (undisturbed_running job).stable
  · exact fun _ _ hjob _ => hjob
  · rintro job c χ ⟨hrow, hopen, hfp, hstatus, hnone⟩ _ _
    use trivial
    cases χ with
    | some className => exact ⟨hrow, hopen, hfp, hstatus, hnone⟩
    | none =>
        have hjob := job_after_save hrow
        refine ⟨?_, hopen, ?_, ?_, hnone⟩
        · rw [Job.saved_row]
          exact hjob.symm
        · change Job.fingerprint (c.world.job.apply job.changes) = fp
          rw [hjob, ← hfp, ← hrow]
          rfl
        · change (c.world.job.apply job.changes).status.terminal = false
          rw [hjob]
          exact hopen

/-- An advance to a status that is not terminal keeps the attempt running. -/
theorem keeps_advanceBy {status : Status} (hstatus : status.terminal = false) :
  (retryProtocol last).Keeps () (Running fp) (Job.advanceBy status Job.save)
  := by
  apply Protocol.Triple.post
  · apply Job.triple_advanceBy (C := Running fp) _ _ triple_save
    · exact fun _ _ hjob => hjob.2.1
    · exact fun _ _ hjob => ⟨hjob.1, hstatus, hjob.2.2⟩
  · exact fun _ _ _ hjob => hjob
  · exact fun _ _ _ hjob => hjob.2

/-- A copy that has been assigned a terminal status which the row does not have yet. -/
def Assigned (fp : String) (status : Status) (job : Job) (c : Config rails Unit) : Prop :=
  job.row = c.world.job ∧ job.status = status ∧ Unfinished fp c.world

/-- Quiet operations leave an assigned copy as it is. -/
theorem undisturbed_assigned (status : Status) (job : Job) :
  Undisturbed (retryProtocol last) () (Assigned fp status job)
  := by
  apply undisturbed_of_world
  intro c c' hjob hmeasurements h
  simp only [Assigned, Unfinished, measurementsOf, hjob, hmeasurements] at h ⊢
  exact h

/-- The terminal status of an assigned copy is among the changes that are saved. -/
theorem changes_of_assigned {status : Status} (hterminal : status.terminal = true) {job : Job}
    {c : Config rails Unit} (h : Assigned fp status job c) :
  job.status ≠ job.row.status ∧ job.changes.status = some status
  := by
  obtain ⟨hrow, rfl, -, hopen, -⟩ := h
  have hne : job.status ≠ job.row.status := by
    intro heq
    rw [heq, hrow, hopen] at hterminal
    cases hterminal
  exact ⟨hne, Job.changes_status_of_ne hne⟩

/-- An exception in a write of a terminal status is possible before the last attempt only,
and then the job is still unfinished. -/
theorem resting_of_raised {o : Op} {χ : o.Choice} {c : Config rails Unit}
    (hok : Succeeds last () o χ c) (hcritical : critical last c.world.job.status o = last)
    (hraised : ∀ a, c.answer o χ ≠ .ok a) (h : Unfinished fp c.world) :
  Resting fp last c.world
  := by
  right
  cases last with
  | false => exact h
  | true =>
      obtain ⟨a, ha⟩ := hok hcritical
      exact absurd ha (hraised a)

/-- A failure leaves the job failed. When it raises the job is at rest: on the last attempt it is
failed, and otherwise it is unfinished. -/
theorem triple_failWith (message : String) :
  (retryProtocol last).Triple () (Running fp) (Job.failWith message)
    (fun _ job c => job.status.terminal = true ∧ Failed fp c.world)
    (fun _ job c => job.status.terminal = true ∧ Resting fp last c.world)
  := by
  apply Protocol.Triple.bind (B := fun _ => Assigned fp .failed)
  · exact Protocol.Triple.modifying fun _ _ hjob => ⟨hjob.1, rfl, hjob.2.2⟩
  · intro _
    apply Protocol.Triple.bind (B := fun _ job c => job.status = .failed ∧ Failed fp c.world)
    · apply Protocol.Triple.post
      · apply Job.triple_save (B := fun job c => job.status = .failed ∧ Failed fp c.world)
          (E := fun job c => job.status = .failed ∧ Resting fp last c.world)
        · exact fun job => (undisturbed_assigned .failed job).stable
        · intro job c hjob hempty
          rw [Job.changes_isEmpty_of_ne (changes_of_assigned rfl hjob).1] at hempty
          cases hempty
        · intro job c χ hjob _ hok
          have hchange := (changes_of_assigned rfl hjob).2
          obtain ⟨hrow, hstatus, hunfinished⟩ := hjob
          use trivial
          cases χ with
          | some className =>
              use hstatus
              apply resting_of_raised hok _ _ hunfinished
              · simp only [critical, hchange]
                exact Bool.and_true last
              · rintro a ⟨⟩
          | none =>
              use hstatus
              have hjob := job_after_save hrow
              refine ⟨?_, ?_, hunfinished.2.2⟩
              · change Job.fingerprint (c.world.job.apply job.changes) = fp
                rw [hjob, ← hunfinished.1, ← hrow]
                rfl
              · change (c.world.job.apply job.changes).status = .failed
                rw [hjob]
                exact hstatus
      · exact fun _ _ _ hjob => hjob
      · rintro e job c ⟨-, hstatus, hresting⟩
        rw [hstatus]
        exact ⟨rfl, hresting⟩
    · intro _
      apply Protocol.Triple.getting
      intro job
      apply Protocol.triple_perform
      · exact fun _ => Protocol.stable_of_subsingleton _
      · rintro s c χ hok ⟨rfl, hstatus, hfailed⟩
        have hterminal : s.status.terminal = true := by
          rw [hstatus]
          rfl
        use trivial
        cases χ with
        | none => exact ⟨hterminal, hfailed⟩
        | some className =>
            refine ⟨hterminal, .inr ?_⟩
            rw [hstatus] at hok
            cases last with
            | true => exact hfailed
            | false =>
                -- Before the last attempt the announcement does not raise.
                obtain ⟨a, ha⟩ := hok rfl
                cases ha

/-- The commit leaves the job done, with its only measurement. When it raises the measurement was
not inserted, or the exception came after the commit. -/
theorem triple_commit {m : MeasurementAttributes} (hm : m.sourceFingerprint = some fp) :
  (retryProtocol last).Triple () (Running fp) (MeasurementOrchestrator.createAndAdvance m)
    (fun _ job c => job.status.terminal = true ∧ Done fp c.world)
    (fun e job c => e.expected = false ∧ Interrupted fp last job c)
  := by
  apply Job.triple_createAndAdvance (C := Assigned fp .ready)
  · exact undisturbed_running
  · exact fun _ _ hjob => hjob.2.1
  · exact fun _ _ hjob => ⟨hjob.1, rfl, hjob.2.2⟩
  · exact fun job => (undisturbed_assigned .ready job).stable
  · exact fun _ _ hjob => .inl hjob
  · intro job c χ _ hjob hok
    have hchange := (changes_of_assigned rfl hjob).2
    obtain ⟨hrow, hstatus, hunfinished⟩ := hjob
    use trivial
    cases χ with
    | some className =>
        right
        use by rw [hstatus]; rfl
        apply resting_of_raised hok _ _ hunfinished
        · simp only [critical, hchange]
          exact Bool.and_true last
        · rintro a ⟨⟩
    | none =>
        use by rw [Job.saved_status, hstatus]; rfl
        have hjob := job_after_save hrow
        refine ⟨?_, ?_, ?_⟩
        · change Job.fingerprint (c.world.job.apply job.changes) = fp
          rw [hjob, ← hunfinished.1, ← hrow]
          rfl
        · change (c.world.job.apply job.changes).status = .ready
          rw [hjob]
          exact hstatus
        · change ((c.world.measurements ++ [(⟨m, c.world.measurements.length⟩ : Measurement)]).filter
            (·.sourceFingerprint = some fp)).length = 1
          have hnone : c.world.measurements.filter (·.sourceFingerprint = some fp) = [] :=
            hunfinished.2.2
          rw [List.filter_append, hnone]
          simp [hm]

/-- An unfinished job has nothing in the cache, and is left alone by the lookup: `K` is kept by
the reads, and `X` holds when one of them raises. -/
theorem triple_lookup {K X : Job → Config rails Unit → Prop}
    {D : Measurement → Job → Config rails Unit → Prop}
    (hrunning : ∀ job c, K job c → Running fp job c)
    (hread : ∀ job c (χ : Option String), K job c →
      match χ with
      | none => K job (c.after () (.latestMeasurement .idempotencyCache) none)
      | some className =>
          X job (c.after () (.latestMeasurement .idempotencyCache) (some className)))
    (hnow : ∀ job c (passed : ℕ), K job c → K job (c.after () .now passed)) :
  (retryProtocol last).Triple () K Job.cachedMeasurement (found D K)
    (fun e job c => e.expected = false ∧ X job c)
  := by
  apply Protocol.Triple.bind
    (B := fun m job c => (∀ recent, m = some recent → recent.sourceFingerprint ≠ some fp) ∧
      K job c)
  · apply Protocol.triple_perform
    · exact fun _ => Protocol.stable_of_subsingleton _
    · intro job c χ hok hjob
      use trivial
      cases χ with
      | some className => exact ⟨rfl, hread job c (some className) hjob⟩
      | none =>
          refine ⟨?_, hread job c none hjob⟩
          intro recent hrecent hfp
          have hmem : recent ∈ measurementsOf fp c.world := by
            apply List.mem_filter.mpr
            refine ⟨List.argmax_mem hrecent, ?_⟩
            simpa using hfp
          rw [(hrunning job c hjob).2.2.2.2] at hmem
          cases hmem
  · intro m
    cases m with
    | none =>
        apply Protocol.Triple.ret
        exact fun _ _ hjob => hjob.2
    | some recent =>
        apply Protocol.Triple.assuming
        intro hrecent
        apply Protocol.Triple.bind (B := fun _ => K)
        · apply Protocol.triple_perform
          · exact fun _ => Protocol.stable_of_subsingleton _
          · exact fun job c passed _ hjob => ⟨trivial, hnow job c passed hjob⟩
        · intro now
          split
          · exact Protocol.Triple.ret fun _ _ hjob => hjob
          · apply Protocol.Triple.getting
            intro job
            split
            · next hfp =>
              rintro s c ⟨rfl, hjob⟩
              have hcopy := hrunning s c hjob
              rw [hcopy.1, hcopy.2.2.1] at hfp
              exact absurd hfp (hrecent recent rfl)
            · apply Protocol.Triple.ret
              exact fun _ _ hjob => hjob.2

/-- An unfinished job has no measurement in the cache. -/
theorem triple_cachedMeasurement {D : Measurement → Job → Config rails Unit → Prop} :
  (retryProtocol last).Triple () (Running fp) Job.cachedMeasurement (found D (Running fp))
    (fun e job c => e.expected = false ∧ Interrupted fp last job c)
  := by
  apply triple_lookup
  · exact fun _ _ hjob => hjob
  · intro job c χ hjob
    cases χ with
    | none => exact hjob
    | some className => exact .inl hjob
  · exact fun _ _ _ hjob => hjob

/-- What the pipeline does in one attempt, as the rule of the pipeline asks for it. -/
theorem pipelineSpec [FormatAssertion] :
  PipelineSpec (retryProtocol last) () (Running fp) (Interrupted fp last)
    (fun job c => job.status.terminal = true ∧ Failed fp c.world)
    (fun _ job c => job.status.terminal = true ∧ Done fp c.world)
  where
  isOpen hjob := hjob.2.1
  undisturbed := undisturbed_running
  undisturbedDone _ := undisturbed_done
  undisturbedError := undisturbed_interrupted
  advance _ hstatus := keeps_advanceBy hstatus
  cache := triple_cachedMeasurement
  commit m _ := by
    rintro job c ⟨hm, hjob⟩
    rw [hjob.1, hjob.2.2.1] at hm
    exact triple_commit hm job c hjob
  fail message := (triple_failWith message).post (fun _ _ _ hjob => hjob)
    (fun _ _ _ hjob => .inr hjob)
  error hjob := .inl hjob
  errorDone hjob := .inr ⟨hjob.1, .inl hjob.2⟩

/-! ### Attempts -/

/-- When the exception of an attempt has been recorded the job is at rest. -/
theorem triple_recordCrash {n : ℕ} (hlast : last = decide (maxAttempts ≤ n)) (e : Exn) :
  (retryProtocol last).Triple () (Interrupted fp last) (recordCrash n e)
    (fun _ _ c => Resting fp last c.world) (fun _ _ c => Resting fp last c.world)
  := by
  apply Protocol.Triple.getting
  intro job
  split
  · next hterminal =>
    apply Protocol.Triple.ret
    rintro s c ⟨rfl, hjob | hjob⟩
    · rw [hjob.2.1] at hterminal
      cases hterminal
    · exact hjob.2
  · next hopen =>
    apply Protocol.Triple.pre (A := Running fp)
    · split
      · next hn =>
        rw [decide_eq_true hn] at hlast
        subst hlast
        apply (triple_failWith _).post
        · exact fun _ _ _ hjob => .inr hjob.2
        · exact fun _ _ _ hjob => hjob.2
      · next hn =>
        rw [decide_eq_false hn] at hlast
        subst hlast
        apply Protocol.Triple.bind (B := fun _ => Running fp)
        · exact Protocol.Triple.modifying fun _ _ hjob => hjob
        · intro _
          apply triple_save.post
          · exact fun _ _ _ hjob => .inr hjob.2.2
          · exact fun _ _ _ hjob => .inr hjob.2.2.2
    · rintro s c ⟨rfl, hjob | hjob⟩
      · exact hjob
      · exact absurd hjob.1 hopen

/-- What an attempt at an unfinished job comes to. -/
def Attempted (fp : String) (last : Bool) : Except Exn Outcome → World → Prop
  | .ok .skipped, _ => False
  | .ok .failed, w => Failed fp w
  | .ok (.measured _), w => Done fp w
  | .error _, w => Resting fp last w

/-- An attempt on an unfinished job leaves it as its outcome says. -/
theorem perform_of_unfinished [FormatAssertion] {n : ℕ}
    (hlast : last = decide (maxAttempts ≤ n)) {c : Config rails Unit}
    (h : Unfinished fp c.world) :
  (retryProtocol last).wp () (GeometryJob.perform n) (fun r c => Attempted fp last r c.world) c
  := by
  intro c' hrely χ hok
  have h' : Unfinished fp c'.world :=
    (Protocol.stable_of_subsingleton
      fun c : Config rails Unit => Unfinished fp c.world).rely hrely h
  use trivial
  cases χ with
  | some className =>
      right
      cases last with
      | false => exact h'
      | true =>
          obtain ⟨a, ha⟩ := hok rfl
          cases ha
  | none =>
      have hended : (retryProtocol last).Triple () (Running fp) (GeometryJob.attempt n)
          (fun outcome _ c => Attempted fp last (.ok outcome) c.world)
          (fun e _ c => Attempted fp last (.error e) c.world) := by
        apply (pipelineSpec.triple_attempt (triple_recordCrash hlast)).post
        · intro outcome job c hjob
          cases outcome with
          | skipped => exact hjob
          | failed => exact hjob.2
          | measured m => exact hjob.2
        · exact fun _ _ _ hjob => hjob
      have hworld : (c'.after () (Op.findJob n) none).world = c'.world := rfl
      have hrunning : Running fp (Job.ofRow c'.world.job) (c'.after () (Op.findJob n) none) := by
        unfold Running
        rw [hworld]
        exact ⟨rfl, h'.2.1, h'⟩
      have hwp := Protocol.wp_outcome hended hrunning
      apply Protocol.wp_mono _ hwp
      intro r c hr
      cases r <;> exact hr

/-! ### The pipeline is run -/

section Chain

variable [FormatAssertion] {n : ℕ} {address : String}

/-- A copy of an unfinished job as it was loaded, while the attempt is opened. -/
def Begun (fp : String) (n : ℕ) (address : String) (job : Job) (c : Config rails Unit) : Prop :=
  (job.row.address = address ∧ job.lastError = job.row.lastError) ∧ Running fp job c ∧
    Opening n c.past

/-- What is known after an exception: one that is expected comes from the pipeline. -/
def Stopped (n : ℕ) (address : String) (e : Exn) (c : Config rails Unit) : Prop :=
  Posted n address c.past ∨ e.expected = false ∧ Halted n c.past

omit [FormatAssertion] in
/-- The copy is advanced to the first stage and the row is updated. -/
theorem triple_advanceBy_begun :
  (retryProtocol last).Triple () (Begun fp n address)
    (Job.advanceBy .resolvingAddress Job.save)
    (fun _ job c => job.status = .resolvingAddress ∧ job.row.address = address ∧
      Opening n c.past)
    (fun e _ c => e.expected = false ∧ Halted n c.past)
  := by
  apply Job.triple_advanceBy (C := fun job c => job.status = .resolvingAddress ∧
    job.row.address = address ∧ job.lastError = job.row.lastError ∧ Opening n c.past)
  · exact fun _ _ hjob => hjob.2.1.2.1
  · exact fun _ _ hjob => ⟨rfl, hjob.1.1, hjob.1.2, hjob.2.2⟩
  · apply Job.triple_save
    · exact fun _ => Protocol.stable_of_subsingleton _
    · exact fun _ _ hjob _ => ⟨hjob.1, hjob.2.1, hjob.2.2.2⟩
    · rintro job c χ ⟨hstatus, haddress, herror, hopening⟩ hdirty _
      use trivial
      have hchanges : job.changes.status = some .resolvingAddress := by
        rw [← hstatus]
        apply Job.changes_status_of_ne
        intro heq
        simp [JobChanges.isEmpty, Job.changes, heq, herror] at hdirty
      have hopens : opens n (.updateJob job.changes) = true := decide_eq_true hchanges
      have hafter := hopening.after hopens χ
      cases χ with
      | none => exact ⟨hstatus, haddress, hafter⟩
      | some className => exact hafter

omit [FormatAssertion] in
/-- The first stage is announced, or the attempt is halted by an exception of its opening. -/
theorem triple_advanceTo_begun :
  (retryProtocol last).Triple () (Begun fp n address) (Job.advanceTo .resolvingAddress)
    (fun _ job c => job.row.address = address ∧ Opening n c.past ∧
      ((), ⟨.broadcastStatus .resolvingAddress, .ok ()⟩) ∈ c.past)
    (fun e _ c => e.expected = false ∧ Halted n c.past)
  := by
  apply Protocol.Triple.bind triple_advanceBy_begun
  intro _
  apply Protocol.Triple.getting
  intro job
  apply Protocol.triple_perform
  · exact fun _ => Protocol.stable_of_subsingleton _
  · rintro s c χ _ ⟨rfl, hstatus, haddress, hopening⟩
    use trivial
    rw [hstatus]
    have hafter := hopening.after (o := .broadcastStatus .resolvingAddress) rfl χ
    cases χ with
    | none => exact ⟨haddress, hafter, List.mem_cons_self⟩
    | some className => exact ⟨rfl, hafter⟩

open MeasurementOrchestrator SidecarClient

omit [Platform] in
/-- The request of the first stage is posted. -/
theorem triple_request_begun :
  (retryProtocol last).Triple ()
    (fun (_ : MeasurementOrchestrator) c => Opening n c.past ∧
      ((), ⟨.broadcastStatus .resolvingAddress, .ok ()⟩) ∈ c.past)
    (request resolveAddress (resolveAddressPayload (.str address)) stageTimeoutSeconds)
    (fun _ _ c => Posted n address c.past) (fun _ _ c => Posted n address c.past)
  := by
  unfold request
  cases hvalid : validateRequest resolveAddress.request (resolveAddressPayload (.str address)) with
  | error e =>
      apply Protocol.Triple.bind (B := fun _ _ _ => False)
      · apply Protocol.Triple.raise
        rintro _ c ⟨hopening, hannounced⟩
        refine @Posted.mk _ n address [] c.past hopening hannounced fun hok => ?_
        rw [hvalid] at hok
        cases hok
      · exact fun _ _ _ hfalse => hfalse.elim
  | ok _ =>
      apply Protocol.Triple.bind (Protocol.Triple.ofExcept (fun _ _ _ _ hc => hc) nofun)
      intro _
      apply Protocol.Triple.bind (B := fun _ _ c => Posted n address c.past)
      · apply Protocol.triple_perform
        · exact fun _ => Protocol.stable_of_subsingleton _
        · rintro s c exchange _ ⟨hopening, hannounced⟩
          use trivial
          have hposted := @Posted.mk _ n address
            [((), ⟨.post resolveAddress (resolveAddressPayload (.str address)) stageTimeoutSeconds,
              c.answer (.post resolveAddress (resolveAddressPayload (.str address))
                stageTimeoutSeconds) exchange⟩)] c.past hopening hannounced
            fun _ => ⟨[], _, rfl⟩
          exact hposted
      · exact fun _ => keeps_posted _

/-- The stages of the pipeline begin with the request of the first one, unless an operation raised
before. -/
theorem runPipelineStages_posts :
  (retryProtocol last).Triple () (ofJob (Begun fp n address)) runPipelineStages
    (fun _ _ c => Posted n address c.past) (fun e _ c => Stopped n address e c)
  := by
  have hrest {α β : Type} (f : α → Method MeasurementOrchestrator β) (a : α) :
      (retryProtocol last).Triple () (fun _ c => Posted n address c.past) (f a)
        (fun _ _ c => Posted n address c.past) (fun e _ c => Stopped n address e c) :=
    (keeps_posted (f a)).post (fun _ _ _ hc => hc) (fun _ _ _ hc => .inl hc)
  apply Protocol.Triple.bind (B := fun _ => ofJob (Begun fp n address))
  · apply Protocol.Triple.getting
    intro o
    split
    · next hterminal =>
      rintro _ c ⟨rfl, hc⟩
      rw [hc.2.1.2.1] at hterminal
      cases hterminal
    · exact Protocol.Triple.ret fun _ _ hc => hc.2
  · intro _
    apply Protocol.Triple.bind (B := fun _ _ c => Posted n address c.past) _ (hrest _)
    apply Protocol.Triple.bind
    · apply (triple_onJob triple_advanceTo_begun).post
      · exact fun _ _ _ hc => hc
      · exact fun _ _ _ hc => .inr hc
    · intro _
      apply Protocol.Triple.getting
      intro o
      apply Protocol.Triple.pre (A := fun (_ : MeasurementOrchestrator) c =>
        o.job.row.address = address ∧ Opening n c.past ∧
          ((), ⟨.broadcastStatus .resolvingAddress, .ok ()⟩) ∈ c.past)
      · apply Protocol.Triple.assuming
        rintro rfl
        exact triple_request_begun.post (fun _ _ _ hc => hc) (fun _ _ _ hc => .inl hc)
      · rintro _ c ⟨rfl, hc⟩
        exact hc

omit [Platform] in
/-- A stopped attempt remains stopped. -/
theorem Stopped.after {e : Exn} {o : Op} {χ : rails.Choice o} {c : Config rails Unit}
    (h : Stopped n address e c) :
  Stopped n address e (c.after () o χ)
  := h.imp (·.cons _) fun h => ⟨h.1, h.2.cons _⟩

/-- A call that does not raise has posted the request of the first stage. -/
theorem call_posts :
  (retryProtocol last).Triple () (ofJob (Begun fp n address)) call
    (fun _ _ c => Posted n address c.past) (fun e _ c => Stopped n address e c)
  := by
  apply Protocol.Triple.rescue (F := fun e _ c => Stopped n address e c)
  · apply Protocol.Triple.bind
      (B := fun m => ofJob (found (fun _ _ _ => False) (Begun fp n address) m))
    · apply (triple_onJob (triple_lookup (K := Begun fp n address)
        (X := fun _ c => Halted n c.past) (fun _ _ hjob => hjob.2.1) _ _)).post
      · exact fun _ _ _ hc => hc
      · exact fun _ _ c hc => .inr hc
      · rintro job c χ ⟨hjob, hrunning, hopening⟩
        have hafter := hopening.after (o := .latestMeasurement .idempotencyCache) rfl χ
        cases χ with
        | none => exact ⟨hjob, hrunning, hafter⟩
        | some className => exact hafter
      · rintro job c passed ⟨hjob, hrunning, hopening⟩
        exact ⟨hjob, hrunning, hopening.after (o := .now) rfl passed⟩
    · intro m
      cases m with
      | some cached => exact fun _ _ hfalse => hfalse.elim
      | none =>
          apply Protocol.Triple.bind (B := fun _ _ c => Posted n address c.past)
          · apply Protocol.Triple.ensuring runPipelineStages_posts
            · exact fun _ => (keeps_posted _).post (fun _ _ _ hc => hc) (fun _ _ _ hc => .inl hc)
            · intro e
              apply (triple_cleanup (A := fun _ c => Stopped n address e c) _).post
              · exact fun _ _ _ hc => hc
              · exact fun _ _ _ hc => hc.2.imp id fun h => ⟨hc.1, h.2⟩
              · exact fun _ => ⟨Protocol.stable_of_subsingleton _,
                  fun _ _ _ _ _ hc => ⟨trivial, hc.after⟩⟩
          · exact fun _ => Protocol.Triple.ret fun _ _ hc => hc
  · intro e
    have hfail {message : String} (he : e.expected = true) : (retryProtocol last).Triple ()
        (fun _ c => Stopped n address e c)
        (do onJob (Job.failWith message); return none : Method _ (Option Measurement))
        (fun _ _ c => Posted n address c.past) (fun e _ c => Stopped n address e c) := by
      apply (keeps_posted _).conseq
      · rintro _ c (hposted | ⟨hunexpected, -⟩)
        · exact hposted
        · rw [he] at hunexpected
          cases hunexpected
      · exact fun _ _ _ hc => hc
      · exact fun _ _ _ hc => .inl hc
    split
    · exact hfail rfl
    · exact hfail rfl
    · exact hfail rfl
    · exact hfail rfl
    · exact Protocol.Triple.raise fun _ _ hc => hc

end Chain

open MeasurementOrchestrator in
/-- A call looks for a measurement first. -/
theorem call_looksUp [FormatAssertion] :
  (retryProtocol last).Triple () (fun _ _ => True) call
    (fun _ _ => Performed (.latestMeasurement .idempotencyCache))
    (fun _ _ => Performed (.latestMeasurement .idempotencyCache))
  := by
  apply Protocol.Triple.rescue
    (F := fun _ _ => Performed (.latestMeasurement .idempotencyCache))
  · apply Protocol.Triple.bind
      (B := fun _ _ => Performed (.latestMeasurement .idempotencyCache))
    · apply Protocol.Triple.within
      intro o
      apply Protocol.Triple.bind
        (B := fun _ _ => Performed (.latestMeasurement .idempotencyCache))
      · apply Protocol.triple_perform
        · exact fun _ => Protocol.stable_of_subsingleton _
        · intro job c χ _ _
          use trivial
          cases χ <;> exact ⟨_, List.mem_cons_self, rfl⟩
      · exact fun _ => keeps_performed _ _
    · exact fun _ => keeps_performed _ _
  · exact fun _ => keeps_performed _ _

/-- An attempt searches the cache and posts the request of the first stage, unless an operation
raised before. -/
theorem attempt_performs [FormatAssertion] (n : ℕ) (address : String) :
  (retryProtocol last).Triple () (Begun fp n address) (GeometryJob.attempt n)
    (fun _ _ c => Performed (.latestMeasurement .idempotencyCache) c ∧ Posted n address c.past)
    (fun _ _ c => Performed (.latestMeasurement .idempotencyCache) c ∧
      (Posted n address c.past ∨ Halted n c.past))
  := by
  apply Protocol.Triple.rescue
    (F := fun e _ c => Performed (.latestMeasurement .idempotencyCache) c ∧ Stopped n address e c)
  · apply Protocol.Triple.getting
    intro job
    split
    · next hterminal =>
      rintro _ c ⟨rfl, hc⟩
      rw [hc.2.1.2.1] at hterminal
      cases hterminal
    · apply Protocol.Triple.bind (B := fun _ _ c =>
        Performed (.latestMeasurement .idempotencyCache) c ∧ Posted n address c.past)
      · apply Protocol.Triple.within
        intro job
        apply (call_looksUp.and call_posts).pre
        rintro o c ⟨hc, rfl⟩
        exact ⟨trivial, hc.2⟩
      · intro m
        cases m with
        | some measurement => exact Protocol.Triple.ret fun _ _ hc => hc
        | none => exact Protocol.Triple.ret fun _ _ hc => hc
  · intro e
    have hrecord : (retryProtocol last).Keeps () (fun (_ : Job) c =>
        Performed (.latestMeasurement .idempotencyCache) c ∧
          (Posted n address c.past ∨ Halted n c.past)) (recordCrash n e) := by
      apply Protocol.Keeps.of_steps (Protocol.stable_of_subsingleton _)
      rintro o χ c _ ⟨⟨event, hevent, ho⟩, hbegins⟩
      exact ⟨trivial, ⟨event, List.mem_cons_of_mem _ hevent, ho⟩,
        hbegins.imp (·.cons _) (·.cons _)⟩
    apply Protocol.Triple.bind (hrecord.pre fun _ _ hc => ⟨hc.1, hc.2.imp id (·.2)⟩)
    intro _
    exact Protocol.Triple.raise fun _ _ hc => hc

/-- An attempt that runs the pipeline. Once it has loaded the job it looks for a measurement. It
announces the first stage and posts its request, unless one of the operations up to there
raises; and unless the attempt raises it does so. -/
structure RunsPipeline [FormatAssertion] (n : ℕ) (address : String) (r : Except Exn Outcome)
    (c : Config rails Unit) : Prop where
  looksUp : (∃ row, ((), ⟨Op.findJob n, .ok row⟩) ∈ c.past) →
    Performed (.latestMeasurement .idempotencyCache) c
  begins : Posted n address c.past ∨ Halted n c.past
  ends : (∃ outcome, r = .ok outcome) → Posted n address c.past

/-- An attempt on an unfinished job runs the pipeline. -/
theorem runsPipeline_of_unfinished [FormatAssertion] (n : ℕ) {w : World} (h : Unfinished fp w) :
  (retryProtocol last).wp () (GeometryJob.perform n) (RunsPipeline n w.job.address) ⟨w, []⟩
  := by
  intro c' hrely χ _
  have hc : c' = ⟨w, []⟩ :=
    (Protocol.stable_of_subsingleton fun c => c = (⟨w, []⟩ : Config rails Unit)).rely hrely rfl
  subst hc
  use trivial
  have hempty : Opening n (⟨w, []⟩ : Config rails Unit).past := List.forall_mem_nil _
  have hafter := hempty.after (o := .findJob n) (decide_eq_true rfl) χ
  cases χ with
  | some className =>
      constructor
      · rintro ⟨row, hrow⟩
        rw [Config.after_past, List.mem_singleton] at hrow
        cases hrow
      · exact .inr hafter
      · rintro ⟨outcome, ⟨⟩⟩
  | none =>
      have hbegun : Begun fp n w.job.address (Job.ofRow w.job)
          (Config.after (⟨w, []⟩ : Config rails Unit) () (Op.findJob n) none) :=
        ⟨⟨rfl, rfl⟩, ⟨rfl, h.2.1, h⟩, hafter⟩
      have hwp := Protocol.wp_outcome (P := retryProtocol last)
        (attempt_performs n w.job.address) hbegun
      apply Protocol.wp_mono _ hwp
      rintro (e | outcome) c hc
      · exact ⟨fun _ => hc.1, hc.2, by rintro ⟨_, ⟨⟩⟩⟩
      · exact ⟨fun _ => hc.1, .inl hc.2, fun _ => hc.2⟩

/-! ### Attempts at a terminal job -/

/-- What is left of a terminal job after an attempt. -/
def Loaded (n : ℕ) (w : World) (c : Config rails Unit) : Prop :=
  c.world = w ∧ ∀ e ∈ c.past, e.2.1 = Op.findJob n

/-- An attempt at a terminal job only loads it. -/
theorem perform_of_terminal [FormatAssertion] (n : ℕ) {w : World}
    (hterminal : w.job.status.terminal = true) :
  (retryProtocol last).wp () (GeometryJob.perform n)
    (fun r c => Loaded n w c ∧ (∀ outcome, r = .ok outcome → outcome = .skipped) ∧
      (last = false → w.job.status = .failed → ∃ outcome, r = .ok outcome)) ⟨w, []⟩
  := by
  intro c' hrely χ hok
  have hc : c' = ⟨w, []⟩ :=
    (Protocol.stable_of_subsingleton fun c => c = (⟨w, []⟩ : Config rails Unit)).rely hrely rfl
  subst hc
  use trivial
  have hloaded : Loaded n w (Config.after (⟨w, []⟩ : Config rails Unit) () (Op.findJob n) χ) := by
    constructor
    · cases χ <;> rfl
    · intro e he
      rw [Config.after_past, List.mem_singleton] at he
      rw [he]
  cases χ with
  | some className =>
      refine ⟨hloaded, by rintro outcome ⟨⟩, ?_⟩
      rintro rfl hfailed
      have hcritical : critical false w.job.status (.findJob n) = true := by
        rw [hfailed]
        rfl
      obtain ⟨a, ha⟩ := hok hcritical
      cases ha
  | none =>
      have hattempt := (triple_attempt_of_terminal (P := retryProtocol last) (i := ())
        (n := n) (B := fun _ => Loaded n w)).post
        (C := fun outcome _ c => Loaded n w c ∧ outcome = .skipped) (F := fun _ _ _ => False)
        (fun _ _ _ h => ⟨h.2, h.1⟩) (fun _ _ _ h => h)
      have hwp := Protocol.wp_outcome (s := Job.ofRow w.job) hattempt ⟨hterminal, hloaded⟩
      apply Protocol.wp_mono _ hwp
      rintro (e | outcome) c hc
      · exact hc.elim
      · refine ⟨hc.1, ?_, fun _ _ => ⟨outcome, rfl⟩⟩
        rintro _ ⟨rfl⟩
        exact hc.2

end Rules

/-! ### Sequences of attempts -/

section Sequences

variable [Platform] {fp : String} {w : World}

/-- Whether a job is unfinished, failed or done. -/
def Accounted (fp : String) (w : World) : Prop := Unfinished fp w ∨ Failed fp w ∨ Done fp w

/-- A failed job is in a terminal status. -/
theorem Failed.terminal (h : Failed fp w) :
  w.job.status.terminal = true
  := by
  rw [h.2.1]
  rfl

/-- A job that is done is in a terminal status. -/
theorem Done.terminal (h : Done fp w) :
  w.job.status.terminal = true
  := by
  rw [h.2.1]
  rfl

/-- After an attempt the job is unfinished, failed or done. -/
theorem Attempted.accounted {last : Bool} {r : Except Exn Outcome} (h : Attempted fp last r w) :
  Accounted fp w
  := by
  rcases r with e | ⟨_ | _ | m⟩
  · rcases h with h | h
    · exact .inr (.inr h)
    · cases last with
      | false => exact .inl h
      | true => exact .inr (.inl h)
  · exact h.elim
  · exact .inr (.inl h)
  · exact .inr (.inr h)

/-- A job that is accounted for is ready exactly when a measurement was inserted for it, and then it
is the only one. -/
theorem measured_of_accounted {w' : World} (hw : measurementsOf fp w = []) (h : Accounted fp w') :
  (w'.job.status = .ready ↔
    ∃ m ∈ measurementsOf (Job.fingerprint w'.job) w', m ∉ w.measurements) ∧
  (measurementsOf (Job.fingerprint w'.job) w').length ≤ 1
  := by
  rcases h with ⟨rfl, hstatus, hnone⟩ | ⟨rfl, hstatus, hnone⟩ | ⟨rfl, hstatus, hone⟩
  · rw [hnone]
    refine ⟨⟨fun hready => ?_, nofun⟩, Nat.zero_le 1⟩
    rw [hready] at hstatus
    cases hstatus
  · rw [hnone]
    refine ⟨⟨fun hready => ?_, nofun⟩, Nat.zero_le 1⟩
    rw [hready] at hstatus
    cases hstatus
  · obtain ⟨m, hm⟩ := List.length_eq_one_iff.mp hone
    refine ⟨⟨fun _ => ⟨m, ?_, ?_⟩, fun _ => hstatus⟩, Nat.le_of_eq hone⟩
    · rw [hm]
      exact List.mem_singleton_self m
    · intro hold
      have hfp : m ∈ measurementsOf (Job.fingerprint w'.job) w' := by
        rw [hm]
        exact List.mem_singleton_self m
      have hmem : m ∈ measurementsOf (Job.fingerprint w'.job) w :=
        List.mem_filter.mpr ⟨hold, (List.mem_filter.mp hfp).2⟩
      rw [hw] at hmem
      cases hmem

variable [FormatAssertion] {χs : ℕ → ℕ → rails.Choices}

/-- No exception gets in the way of the attempts. -/
def Unobstructed (χs : ℕ → ℕ → rails.Choices) (w : World) : Prop :=
  ∀ n < maxAttempts, (GeometryJob.perform (n + 1)).Meets
    (Succeeds (decide (maxAttempts ≤ n + 1))) () (χs n) (⟨worldAfter χs w n, []⟩ : Config rails Unit)

/-- An attempt at an unfinished job runs the pipeline, and leaves the job as its outcome says. -/
theorem attempted_of_unfinished (hmeets : Unobstructed χs w) {n : ℕ} (hn : n < maxAttempts)
    (h : Unfinished fp (worldAfter χs w n)) :
  Attempted fp (decide (maxAttempts ≤ n + 1)) (attemptRun χs w n).1 (worldAfter χs w (n + 1)) ∧
    RunsPipeline (n + 1) (worldAfter χs w n).job.address (attemptRun χs w n).1 (attemptRun χs w n).2
  := by
  have hattempted := perform_of_unfinished (n := n + 1) (c := ⟨worldAfter χs w n, []⟩) rfl h
  have hruns : (retryProtocol (decide (maxAttempts ≤ n + 1))).wp ()
      (GeometryJob.perform (n + 1)) (RunsPipeline (n + 1) (worldAfter χs w n).job.address)
        ⟨worldAfter χs w n, []⟩ :=
    runsPipeline_of_unfinished (n + 1) h
  constructor
  · exact (Protocol.run_of_wp hattempted (hmeets n hn)).2
  · exact (Protocol.run_of_wp hruns (hmeets n hn)).2

/-- An attempt at a terminal job only loads it and skips it, and it does not raise when the job has
failed and the attempt is not the last one. -/
theorem attempted_of_terminal (hmeets : Unobstructed χs w) {n : ℕ} (hn : n < maxAttempts)
    (hterminal : (worldAfter χs w n).job.status.terminal = true) :
  Loaded (n + 1) (worldAfter χs w n) (attemptRun χs w n).2 ∧
    (∀ outcome, (attemptRun χs w n).1 = .ok outcome → outcome = .skipped) ∧
    (n + 1 < maxAttempts → (worldAfter χs w n).job.status = .failed →
      ∃ outcome, (attemptRun χs w n).1 = .ok outcome)
  := by
  have hrun := (Protocol.run_of_wp (perform_of_terminal (n + 1) hterminal) (hmeets n hn)).2
  refine ⟨hrun.1, hrun.2.1, fun hlt => hrun.2.2 ?_⟩
  rw [decide_eq_false (Nat.not_le.mpr hlt)]

/-- A job that is terminal is left alone from then on. -/
theorem worldAfter_of_terminal (hmeets : Unobstructed χs w) {n m : ℕ} (hnm : n ≤ m)
    (hm : m ≤ maxAttempts) (hterminal : (worldAfter χs w n).job.status.terminal = true) :
  worldAfter χs w m = worldAfter χs w n
  := by
  induction m, hnm using Nat.le_induction with
  | base => rfl
  | succ m _ ih =>
      have hsame := ih (Nat.le_of_succ_le hm)
      rw [← hsame] at hterminal ⊢
      exact (attempted_of_terminal hmeets hm hterminal).1.1

/-- Every attempt leaves the job unfinished, failed or done. -/
theorem accounted (hmeets : Unobstructed χs w) (hw : Unfinished fp w) {n : ℕ}
    (hn : n ≤ maxAttempts) :
  Accounted fp (worldAfter χs w n)
  := by
  induction n with
  | zero => exact .inl hw
  | succ n ih =>
      rcases ih (Nat.le_of_succ_le hn) with h | h | h
      · exact (attempted_of_unfinished hmeets hn h).1.accounted
      · rw [worldAfter_of_terminal hmeets (Nat.le_succ n) hn h.terminal]
        exact .inr (.inl h)
      · rw [worldAfter_of_terminal hmeets (Nat.le_succ n) hn h.terminal]
        exact .inr (.inr h)

/-- An attempt that is not skipped finds the job unfinished. -/
theorem unfinished_of_not_skipped (hmeets : Unobstructed χs w) (hw : Unfinished fp w) {n : ℕ}
    (hn : n < maxAttempts) {outcome : Outcome} (hok : (attemptRun χs w n).1 = .ok outcome)
    (hskipped : outcome ≠ .skipped) :
  Unfinished fp (worldAfter χs w n)
  := by
  rcases accounted hmeets hw (Nat.le_of_lt hn) with h | h | h
  · exact h
  · exact absurd ((attempted_of_terminal hmeets hn h.terminal).2.1 _ hok) hskipped
  · exact absurd ((attempted_of_terminal hmeets hn h.terminal).2.1 _ hok) hskipped

/-- What is claimed of the attempts at a job. -/
structure Retried (χs : ℕ → ℕ → rails.Choices) (w : World) : Prop where
  /-- After an expected failure the job is failed, and no later attempt works at it. -/
  afterFailure : ∀ n < maxAttempts, (attemptRun χs w n).1 = .ok .failed →
    (worldAfter χs w (n + 1)).job.status = .failed ∧
      ∀ m, n < m → m < maxAttempts →
        ∀ e ∈ (attemptRun χs w m).2.past, e.2.1 = Op.findJob (m + 1)
  /-- After an exception before the commit the next attempt runs the pipeline. -/
  afterCrash : ∀ n e, n + 1 < maxAttempts → (attemptRun χs w n).1 = .error e →
    measurementsOf (Job.fingerprint (worldAfter χs w (n + 1)).job) (worldAfter χs w (n + 1)) = [] →
    (worldAfter χs w (n + 1)).job.status.terminal = false ∧
      RunsPipeline (n + 2) (worldAfter χs w (n + 1)).job.address (attemptRun χs w (n + 1)).1
        (attemptRun χs w (n + 1)).2
  /-- After the last attempt the job is settled. -/
  settled : ∀ n < maxAttempts,
    (∃ outcome, (attemptRun χs w n).1 = .ok outcome) ∨ n + 1 = maxAttempts →
    (worldAfter χs w (n + 1)).job.status = .ready ∨ (worldAfter χs w (n + 1)).job.status = .failed
  /-- The job is ready when the attempts have made a measurement of its inputs, and they make
  no second one. -/
  measured : ∀ n ≤ maxAttempts,
    ((worldAfter χs w n).job.status = .ready ↔
      ∃ m ∈ measurementsOf (Job.fingerprint (worldAfter χs w n).job) (worldAfter χs w n),
        m ∉ w.measurements) ∧
    (measurementsOf (Job.fingerprint (worldAfter χs w n).job) (worldAfter χs w n)).length ≤ 1

/-- Once an attempt has failed the job, the attempts after it only load it. -/
theorem afterFailure_of_unobstructed (hmeets : Unobstructed χs w) (hw : Unfinished fp w) {n : ℕ}
    (hn : n < maxAttempts) (hfailed : (attemptRun χs w n).1 = .ok .failed) :
  (worldAfter χs w (n + 1)).job.status = .failed ∧
    ∀ m, n < m → m < maxAttempts → ∀ e ∈ (attemptRun χs w m).2.past, e.2.1 = Op.findJob (m + 1)
  := by
  have hopen := unfinished_of_not_skipped hmeets hw hn hfailed nofun
  have hattempted := (attempted_of_unfinished hmeets hn hopen).1
  rw [hfailed] at hattempted
  have hafter : Failed fp (worldAfter χs w (n + 1)) := hattempted
  use hafter.2.1
  intro m hnm hm
  have hterminal : (worldAfter χs w m).job.status.terminal = true := by
    rw [worldAfter_of_terminal hmeets hnm (Nat.le_of_lt hm) hafter.terminal]
    exact hafter.terminal
  exact (attempted_of_terminal hmeets hm hterminal).1.2

/-- An attempt that raises before it has a measurement leaves the job open, and the next one runs
the pipeline. -/
theorem afterCrash_of_unobstructed (hmeets : Unobstructed χs w) (hw : Unfinished fp w) {n : ℕ}
    {e : Exn} (hn : n + 1 < maxAttempts) (hraised : (attemptRun χs w n).1 = .error e)
    (hnone : measurementsOf (Job.fingerprint (worldAfter χs w (n + 1)).job)
      (worldAfter χs w (n + 1)) = []) :
  (worldAfter χs w (n + 1)).job.status.terminal = false ∧
    RunsPipeline (n + 2) (worldAfter χs w (n + 1)).job.address (attemptRun χs w (n + 1)).1
        (attemptRun χs w (n + 1)).2
  := by
  have hn' := Nat.lt_of_succ_lt hn
  have hnotDone : ¬ Done fp (worldAfter χs w (n + 1)) := by
    rintro ⟨rfl, -, hlength⟩
    rw [hnone] at hlength
    cases hlength
  have hunfinished : Unfinished fp (worldAfter χs w (n + 1)) := by
    rcases accounted hmeets hw (Nat.le_of_lt hn') with h | h | h
    · have hattempted := (attempted_of_unfinished hmeets hn' h).1
      rw [hraised, decide_eq_false (Nat.not_le.mpr hn)] at hattempted
      exact hattempted.resolve_left hnotDone
    · obtain ⟨outcome, hok⟩ := (attempted_of_terminal hmeets hn' h.terminal).2.2 hn h.2.1
      rw [hraised] at hok
      cases hok
    · rw [worldAfter_of_terminal hmeets (Nat.le_succ n) hn' h.terminal] at hnotDone
      exact absurd h hnotDone
  exact ⟨hunfinished.2.1, (attempted_of_unfinished hmeets hn hunfinished).2⟩

/-- The job is ready or failed after an attempt that returned and after the last one. -/
theorem settled_of_unobstructed (hmeets : Unobstructed χs w) (hw : Unfinished fp w) {n : ℕ}
    (hn : n < maxAttempts)
    (hlast : (∃ outcome, (attemptRun χs w n).1 = .ok outcome) ∨ n + 1 = maxAttempts) :
  (worldAfter χs w (n + 1)).job.status = .ready ∨ (worldAfter χs w (n + 1)).job.status = .failed
  := by
  rcases accounted hmeets hw (Nat.le_of_lt hn) with h | h | h
  · have hattempted := (attempted_of_unfinished hmeets hn h).1
    cases hr : (attemptRun χs w n).1 with
    | ok outcome =>
        rw [hr] at hattempted
        cases outcome with
        | skipped => exact hattempted.elim
        | failed => exact .inr hattempted.2.1
        | measured m => exact .inl hattempted.2.1
    | error e =>
        have hfinal : n + 1 = maxAttempts := hlast.resolve_left (by rw [hr]; rintro ⟨_, ⟨⟩⟩)
        rw [hr, decide_eq_true (Nat.le_of_eq hfinal.symm)] at hattempted
        rcases hattempted with hdone | hfailed
        · exact .inl hdone.2.1
        · exact .inr hfailed.2.1
  · rw [worldAfter_of_terminal hmeets (Nat.le_succ n) hn h.terminal]
    exact .inr h.2.1
  · rw [worldAfter_of_terminal hmeets (Nat.le_succ n) hn h.terminal]
    exact .inl h.2.1

/-- The attempts at a new job settle it, unless an exception gets in the way. Once an attempt has
failed the job the others only load it, after a crash that left no measurement the next attempt runs
the pipeline, after the last one the job is ready or failed, and it is ready exactly when it has
been measured, which it is at most once. -/
theorem retries_settle (hnew : w.job.status.terminal = false)
    (hnone : measurementsOf (Job.fingerprint w.job) w = []) (hmeets : Unobstructed χs w) :
  Retried χs w
  := by
  have hw : Unfinished (Job.fingerprint w.job) w := ⟨rfl, hnew, hnone⟩
  constructor
  · exact fun n hn hfailed => afterFailure_of_unobstructed hmeets hw hn hfailed
  · exact fun n e hn hraised hbefore => afterCrash_of_unobstructed hmeets hw hn hraised hbefore
  · exact fun n hn hlast => settled_of_unobstructed hmeets hw hn hlast
  · exact fun n hn => measured_of_accounted hnone (accounted hmeets hw hn)

end Sequences

/-- The choices of a world in which the imagery of the job is measured, and the operations in
`raised` raise. -/
def measuring (raised : Op → Option String) : rails.Choices :=
  choosing raised (imageryExchange [flatFacet]) .timedOut

/-- The detection of the first attempt cannot be started. -/
def crashingOnce : ℕ → ℕ → rails.Choices
  | 0, _ => measuring fun
      | .startVlm => some "ThreadError"
      | _ => none
  | _ + 1, _ => measuring fun _ => none

/-- The first attempt crashes, and the second one runs the pipeline. -/
theorem retries_settle_crash :
  @Retried plainPlatform anyFormat crashingOnce submittedJob ∧
    @RunsPipeline anyFormat 2 submittedJob.job.address
      (@attemptRun anyFormat plainPlatform crashingOnce submittedJob 1).1
      (@attemptRun anyFormat plainPlatform crashingOnce submittedJob 1).2
  := by
  have hretried : @Retried plainPlatform anyFormat crashingOnce submittedJob := by
    apply @retries_settle plainPlatform submittedJob anyFormat
    · rfl
    · rfl
    · intro n _
      apply Protocol.prog_meets_of_forall
      intro _ o c hcritical
      cases n <;> cases o <;> first | exact ⟨_, rfl⟩ | cases hcritical
  refine ⟨hretried, ?_⟩
  obtain ⟨-, hafterCrash, -, -⟩ := hretried
  cases hcrash : (@attemptRun anyFormat plainPlatform crashingOnce submittedJob 0).1 with
  | ok outcome =>
      have hraised : (@attemptRun anyFormat plainPlatform crashingOnce submittedJob 0).1.isOk
          = false := by
        decide +kernel
      rw [hcrash] at hraised
      cases hraised
  | error e => exact (hafterCrash 0 e (by decide) hcrash (by decide +kernel)).2

/-- The connection to the database breaks whenever a measurement is committed. -/
def breaking : Op → Option String
  | .commit _ _ => some "ActiveRecord::ConnectionFailed"
  | _ => none

/-- Attempts that end without a terminal status. -/
theorem retries_leave_job_open :
  ¬ @Retried plainPlatform anyFormat (fun _ _ => measuring breaking) submittedJob
  := by
  intro h
  obtain ⟨-, -, hsettled, -⟩ := h
  have hlast := hsettled 2 (by decide) (.inr rfl)
  revert hlast
  decide +kernel

end RetryProtocol

end Rails
