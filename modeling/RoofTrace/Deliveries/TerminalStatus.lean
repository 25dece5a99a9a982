import RoofTrace.Rails.PipelineRule

/-!
# A terminal status stays

Several deliveries of one geometry job, each with its own copy of the row. The guard of
`advance_to!` and the checks of the job look at the copy, while a write goes to the row. So
a delivery never writes the status after it has made the job terminal itself, nor reaches
`reset_for_rerun!`; but one that has been overtaken, as another delivery has made the job
terminal in the meantime, overwrites the status that is terminal. When a delivery that has been
overtaken has no stage left to begin and no failure to record, a status that is terminal stays
as it is.
-/

namespace Rails

open Effects

/-- The status that an operation has written. -/
def writtenStatus : Event application → Option Status
  | ⟨.updateJob changes, .ok _⟩ => changes.status
  | ⟨.commit _ changes, .ok _⟩ => changes.status
  | _ => none

/-- Whether an operation has loaded the job. -/
def loadsJob : Event application → Bool
  | ⟨.findJob _, .ok _⟩ => true
  | _ => false

/-- An operation leaves in the row the status that it has written. -/
theorem exec_job_status (o : Op) (χ : o.Choice) (w : World) :
  (exec o χ w).2.job.status = (writtenStatus ⟨o, (exec o χ w).1⟩).getD w.job.status
  := by
  cases o with
  | now => rfl
  | post stage payload timeout => rfl
  | joinVlm => rfl
  | insertMeasurement m =>
      cases χ with
      | some className => rfl
      | none =>
          simp only [exec, unlessRaised]
          split <;> rfl
  | ingestCaptureSession session captures =>
      cases χ with
      | some className => rfl
      | none =>
          simp only [exec, unlessRaised]
          split <;> rfl
  | _ => cases χ <;> rfl

variable {ι : Type}

/-- Whether another party has made the job terminal since `i` last loaded its row or wrote
its status. -/
def Overtaken (i : ι) : List (ι × Event application) → Prop
  | [] => False
  | (j, e) :: past =>
      (j ≠ i ∧ ∃ status, writtenStatus e = some status ∧ status.terminal = true) ∨
        ¬ (j = i ∧ (loadsJob e = true ∨ (writtenStatus e).isSome)) ∧ Overtaken i past

/-- Whether a party that is overtaken may take a step: it begins no stage and records no failure,
for which it would update the job, and it commits a measurement only of a job that is ready. -/
def yields (status : Status) : Op → Bool
  | .updateJob _ => false
  | .commit _ _ => status = .ready
  | _ => true

/-- A party that has been overtaken has no work left that it may not do. -/
def Yields : StepPred rails ι := fun i o _ c =>
  Overtaken i c.past → yields c.world.job.status o = true

/-- A write of the status changes no status that is terminal. -/
def SafeWrite : StepPred rails ι := fun _ o χ c =>
  ∀ status, writtenStatus ⟨o, c.answer o χ⟩ = some status → c.world.job.status.terminal = true →
    status = c.world.job.status

def terminalProtocol (ι : Type) : Protocol rails ι where
  ok := Yields
  guar := SafeWrite

/-- The row is not terminal, unless `i` has been overtaken. -/
def InSight (i : ι) (c : Config rails ι) : Prop :=
  ¬ Overtaken i c.past → c.world.job.status.terminal = false

namespace TerminalStatus

open GeometryJob

variable {i : ι}

/-- A copy that is not terminal has the row in sight. -/
def Guarded (i : ι) (job : Job) (c : Config rails ι) : Prop :=
  job.status.terminal = false → InSight i c

/-- A copy that is not terminal, and has the row in sight. -/
def Open (i : ι) (job : Job) (c : Config rails ι) : Prop :=
  job.status.terminal = false ∧ InSight i c

/-- An open copy is guarded. -/
theorem guarded_of_open {job : Job} {c : Config rails ι} (h : Open i job c) :
  Guarded i job c
  := fun _ => h.2

/-- An operation that writes no status and loads no job keeps the row in sight. -/
theorem inSight_after {j : ι} {o : Op} {χ : o.Choice} {c : Config rails ι}
    (hwrite : writtenStatus ⟨o, c.answer o χ⟩ = none) (hload : loadsJob ⟨o, c.answer o χ⟩ = false)
    (h : InSight i c) :
  InSight i (c.after j o χ)
  := by
  intro hnot
  rw [Config.after_world, exec_job_status]
  change ((writtenStatus ⟨o, c.answer o χ⟩).getD c.world.job.status).terminal = false
  rw [hwrite]
  apply h
  intro hovertaken
  apply hnot
  right
  refine ⟨?_, hovertaken⟩
  rintro ⟨_, hloaded | hwritten⟩
  · rw [hload] at hloaded
    cases hloaded
  · rw [hwrite] at hwritten
    cases hwritten

/-- A write of a status that is not terminal leaves a row that is not. -/
theorem inSight_of_write {j : ι} {o : Op} {χ : o.Choice} {c : Config rails ι} {status : Status}
    (hwrite : writtenStatus ⟨o, c.answer o χ⟩ = some status) (hopen : status.terminal = false) :
  InSight i (c.after j o χ)
  := by
  intro _
  rw [Config.after_world, exec_job_status]
  change ((writtenStatus ⟨o, c.answer o χ⟩).getD c.world.job.status).terminal = false
  rw [hwrite]
  exact hopen

/-- The other parties keep the row in sight, or overtake. -/
theorem stable_inSight :
  (terminalProtocol ι).Stable i (InSight i)
  := by
  rintro c _ ⟨j, hj, o, χ, -, -, rfl⟩ h
  cases hwrite : writtenStatus ⟨o, c.answer o χ⟩ with
  | none =>
      intro hnot
      rw [Config.after_world, exec_job_status]
      change ((writtenStatus ⟨o, c.answer o χ⟩).getD c.world.job.status).terminal = false
      rw [hwrite]
      apply h
      intro hovertaken
      apply hnot
      right
      exact ⟨fun hown => hj hown.1, hovertaken⟩
  | some status =>
      cases hterminal : status.terminal with
      | true =>
          intro hnot
          exact absurd (.inl ⟨hj, status, hwrite, hterminal⟩) hnot
      | false => exact inSight_of_write hwrite hterminal

/-- A quiet operation writes no status and does not load the job. -/
theorem quiet_silent {o : Op} (ho : o.quiet = true) (answer : Except Exn o.Res) :
  writtenStatus ⟨o, answer⟩ = none ∧ loadsJob ⟨o, answer⟩ = false
  := by
  cases o <;> first | cases ho; done | exact ⟨rfl, rfl⟩

/-- A quiet operation is a safe write, as it writes nothing. -/
theorem safeWrite_of_quiet {o : Op} {χ : o.Choice} {c : Config rails ι} (ho : o.quiet = true) :
  SafeWrite i o χ c
  := by
  intro status hstatus
  rw [(quiet_silent ho _).1] at hstatus
  cases hstatus

/-- What is in sight stays in sight after a quiet operation. -/
theorem inSight_after_quiet {o : Op} {χ : o.Choice} {c : Config rails ι} (ho : o.quiet = true)
    (h : InSight i c) :
  InSight i (c.after i o χ)
  := inSight_after (quiet_silent ho _).1 (quiet_silent ho _).2 h

/-- Quiet operations do not disturb an open copy. -/
theorem undisturbed_open (job : Job) :
  Undisturbed (terminalProtocol ι) i (Open i job)
  where
  stable := (Protocol.stable_const _).and stable_inSight
  quiet _ _ _ ho _ h := ⟨safeWrite_of_quiet (i := i) ho, h.1, inSight_after_quiet ho h.2⟩

/-- Quiet operations do not disturb a guarded copy. -/
theorem undisturbed_guarded (job : Job) :
  Undisturbed (terminalProtocol ι) i (Guarded i job)
  where
  stable c c' hstep h hopen := stable_inSight c c' hstep (h hopen)
  quiet _ _ _ ho _ h := ⟨safeWrite_of_quiet (i := i) ho, fun hopen => inSight_after_quiet ho (h hopen)⟩

/-! ### Writes -/

/-- What is written of a row that is in sight changes no status that is terminal. -/
theorem eq_of_inSight {status : Status} {c : Config rails ι} (h : InSight i c)
    (hnot : ¬ Overtaken i c.past) (hterminal : c.world.job.status.terminal = true) :
  status = c.world.job.status
  := by
  rw [h hnot] at hterminal
  cases hterminal

/-- A party that has the row in sight updates the job safely. -/
theorem safeWrite_updateJob {changes : JobChanges} {χ : Option String} {c : Config rails ι}
    (h : InSight i c) (hok : Yields i (.updateJob changes) χ c) :
  SafeWrite i (.updateJob changes) χ c
  := by
  intro status _ hterminal
  apply eq_of_inSight h _ hterminal
  intro hovertaken
  nomatch hok hovertaken

/-- A party that has the row in sight commits a measurement safely: it makes the job ready. -/
theorem safeWrite_commit {m : MeasurementAttributes} {changes : JobChanges} {χ : Option String}
    {c : Config rails ι} (h : InSight i c)
    (hready : ∀ status, changes.status = some status → status = .ready)
    (hok : Yields i (.commit m changes) χ c) :
  SafeWrite i (.commit m changes) χ c
  := by
  intro status hwrite hterminal
  by_cases hovertaken : Overtaken i c.past
  · have hrow : c.world.job.status = .ready := of_decide_eq_true (hok hovertaken)
    rw [hrow]
    cases χ with
    | some className => nomatch hwrite
    | none => exact hready status hwrite
  · exact eq_of_inSight h hovertaken hterminal

/-- The UPDATE of a copy is safe while the row is in sight, and it leaves the copy guarded. -/
theorem triple_save (status : Status) :
  (terminalProtocol ι).Triple i (fun job c => job.status = status ∧ InSight i c) Job.save
    (fun _ job c => job.status = status ∧ Guarded i job c)
    (fun e job c => e.expected = false ∧ job.status = status ∧ Guarded i job c)
  := by
  apply Job.triple_save
  · exact fun _ => (Protocol.stable_const _).and stable_inSight
  · exact fun _ _ hjob _ => ⟨hjob.1, fun _ => hjob.2⟩
  · intro job c χ hjob _ hok
    use safeWrite_updateJob hjob.2 hok
    cases χ with
    | some className => exact ⟨hjob.1, fun _ => inSight_after rfl rfl hjob.2⟩
    | none =>
        refine ⟨hjob.1, fun hopen => ?_⟩
        cases hchange : job.changes.status with
        | none => exact inSight_after hchange rfl hjob.2
        | some written =>
            apply inSight_of_write (o := .updateJob job.changes) (χ := none) hchange
            rw [Job.eq_of_changes_status hchange]
            exact hopen

/-- An advance to a status that is not terminal keeps the copy open. -/
theorem keeps_advanceBy {status : Status} (hstatus : status.terminal = false) :
  (terminalProtocol ι).Keeps i (Open i) (Job.advanceBy status Job.save)
  := by
  have hopen : ∀ job c, job.status = status ∧ Guarded i job c → Open i job c := by
    rintro job c ⟨rfl, hjob⟩
    exact ⟨hstatus, hjob hstatus⟩
  apply Protocol.Triple.post
  · apply Job.triple_advanceBy (E := Open i) (C := fun job c => job.status = status ∧ InSight i c)
      (D := fun _ => Open i)
    · exact fun _ _ hjob => hjob.1
    · exact fun _ _ hjob => ⟨rfl, hjob.2⟩
    · apply (triple_save status).post
      · exact fun _ job c hjob => hopen job c hjob
      · exact fun _ job c hjob => ⟨hjob.1, hopen job c hjob.2⟩
  · exact fun _ _ _ hjob => hjob
  · exact fun _ _ _ hjob => hjob.2

/-- A broadcast keeps the copy guarded, as it writes no status and loads no job. -/
theorem triple_broadcastStatus :
  (terminalProtocol ι).Triple i (Guarded i) Job.broadcastStatus (fun _ => Guarded i)
    (fun e job c => e.expected = false ∧ Guarded i job c)
  := by
  apply Protocol.Triple.getting
  intro job
  apply (triple_quiet undisturbed_guarded rfl).pre
  exact fun _ _ hjob => hjob.2

/-- An advance to `ready` leaves the copy guarded. -/
theorem triple_advanceTo_ready :
  (terminalProtocol ι).Triple i (Open i) (Job.advanceTo .ready) (fun _ => Guarded i)
    (fun e job c => e.expected = false ∧ Guarded i job c)
  := by
  apply Protocol.Triple.bind (B := fun _ => Guarded i)
  · apply Job.triple_advanceBy (C := fun job c => job.status = .ready ∧ InSight i c)
    · exact fun _ _ hjob => hjob.1
    · exact fun _ _ hjob => ⟨rfl, hjob.2⟩
    · apply (triple_save .ready).post
      · exact fun _ _ _ hjob => hjob.2
      · exact fun _ _ _ hjob => ⟨hjob.1, hjob.2.2⟩
  · exact fun _ => triple_broadcastStatus

/-- A failure leaves the copy guarded, as the status that it assigns is terminal, whether the UPDATE
succeeds or raises. -/
theorem triple_failWith (message : String) :
  (terminalProtocol ι).Triple i (Open i) (Job.failWith message) (fun _ => Guarded i)
    (fun _ => Guarded i)
  := by
  apply Protocol.Triple.bind (B := fun _ job c => job.status = .failed ∧ InSight i c)
  · exact Protocol.Triple.modifying fun _ _ hjob => ⟨rfl, hjob.2⟩
  · intro _
    apply Protocol.Triple.bind (B := fun _ => Guarded i)
    · apply (triple_save .failed).post
      · exact fun _ _ _ hjob => hjob.2
      · exact fun _ _ _ hjob => hjob.2.2
    · intro _
      apply triple_broadcastStatus.post
      · exact fun _ _ _ hjob => hjob
      · exact fun _ _ _ hjob => hjob.2

/-- The commit leaves the copy guarded, whether it succeeds or raises. -/
theorem triple_commit (m : MeasurementAttributes) :
  (terminalProtocol ι).Triple i (Open i) (MeasurementOrchestrator.createAndAdvance m)
    (fun _ => Guarded i) (fun e job c => e.expected = false ∧ Guarded i job c)
  := by
  have hready : ∀ (job : Job) (c : Config rails ι), job.status = .ready → Guarded i job c := by
    intro job c hstatus hopen
    rw [hstatus] at hopen
    cases hopen
  apply Job.triple_createAndAdvance (C := fun job c => job.status = .ready ∧ InSight i c)
  · exact undisturbed_open
  · exact fun _ _ hjob => hjob.1
  · exact fun _ _ hjob => ⟨rfl, hjob.2⟩
  · exact fun _ => (Protocol.stable_const _).and stable_inSight
  · exact fun _ _ hjob => guarded_of_open hjob
  · intro job c χ _ hjob hok
    have hchanges : ∀ status, job.changes.status = some status → status = .ready :=
      fun status hstatus => (Job.eq_of_changes_status hstatus).trans hjob.1
    use safeWrite_commit hjob.2 hchanges hok
    cases χ with
    | some className => exact hready job _ hjob.1
    | none => exact hready job.saved _ hjob.1

/-- What the pipeline does to the status, as the rule of the pipeline asks for it. -/
theorem pipelineSpec [FormatAssertion] [Platform] :
  PipelineSpec (terminalProtocol ι) i (Open i) (Guarded i) (Guarded i) (fun _ => Guarded i)
  where
  isOpen hjob := hjob.1
  undisturbed := undisturbed_open
  undisturbedDone _ := undisturbed_guarded
  undisturbedError := undisturbed_guarded
  advance _ hstatus := keeps_advanceBy hstatus
  cache := Job.triple_cachedMeasurement undisturbed_open (fun _ _ hjob => hjob.1)
    (fun _ _ hjob => guarded_of_open hjob) (fun _ => triple_advanceTo_ready)
  commit m _ := (triple_commit m).pre fun _ _ hjob => hjob.2
  fail := triple_failWith
  error := guarded_of_open
  errorDone hjob := hjob

/-! ### Deliveries -/

/-- The recording of a crash is safe, as it reads the status of the copy before. -/
theorem triple_recordCrash (n : ℕ) (e : Exn) :
  (terminalProtocol ι).Triple i (Guarded i) (recordCrash n e) (fun _ _ _ => True)
    (fun _ _ _ => True)
  := by
  apply Protocol.Triple.getting
  intro job
  split
  · exact Protocol.Triple.ret fun _ _ _ => trivial
  · next hopen =>
    rw [Bool.not_eq_true] at hopen
    split
    · apply (triple_failWith _).conseq
      · rintro s _ ⟨rfl, hjob⟩
        exact ⟨hopen, hjob hopen⟩
      · exact fun _ _ _ _ => trivial
      · exact fun _ _ _ _ => trivial
    · apply Protocol.Triple.bind (B := fun _ s c => s.status = job.status ∧ InSight i c)
      · apply Protocol.Triple.modifying
        rintro s _ ⟨rfl, hjob⟩
        exact ⟨rfl, hjob hopen⟩
      · intro _
        apply (triple_save job.status).post
        · exact fun _ _ _ _ => trivial
        · exact fun _ _ _ _ => trivial

/-- An attempt is safe: it writes a status only when its copy has not been terminal before, so that
the row is in sight. -/
theorem triple_attempt [FormatAssertion] [Platform] (n : ℕ) :
  (terminalProtocol ι).Triple i (Guarded i) (attempt n) (fun _ _ _ => True) (fun _ _ _ => True)
  := by
  intro job c hjob
  cases hterminal : job.status.terminal with
  | true =>
      have hskipped := triple_attempt_of_terminal (P := terminalProtocol ι) (i := i) (n := n)
        (B := fun _ _ => True)
      exact hskipped.post (fun _ _ _ _ => trivial) (fun _ _ _ _ => trivial) job c
        ⟨hterminal, trivial⟩
  | false =>
      apply Protocol.Triple.post (pipelineSpec.triple_attempt (triple_recordCrash n))
      · exact fun _ _ _ _ => trivial
      · exact fun _ _ _ _ => trivial
      · exact ⟨hterminal, hjob hterminal⟩

/-- An execution of the job is safe. -/
theorem perform_safe [FormatAssertion] [Platform] (n : ℕ) (c : Config rails ι) :
  (terminalProtocol ι).wp i (GeometryJob.perform n) (fun _ _ => True) c
  := by
  intro c' _ χ _
  constructor
  · intro status hwrite
    cases χ <;> cases hwrite
  · cases χ with
    | some className => trivial
    | none =>
        apply Protocol.wp_mono _ (Protocol.wp_outcome (triple_attempt n) _)
        · exact fun _ _ _ => trivial
        · -- The copy that has been loaded is what the row holds.
          exact fun hopen _ => hopen

/-- A delivery is safe, by induction on the attempts that are left. -/
theorem delivery_safe [FormatAssertion] [Platform] (c : Config rails ι) :
  (terminalProtocol ι).wp i delivery (fun _ _ => True) c
  := by
  apply Protocol.wp_retrying (A := fun _ _ => True)
  · intro m _ _ c _
    apply Protocol.wp_mono _ (perform_safe m c)
    intro r _ _
    cases r <;> trivial
  · intro c _
    exact perform_safe _ c
  · trivial

/-- Deliveries of the job, none of which has begun. -/
def deliveries [FormatAssertion] [Platform] (ι : Type) (w : World) :
    Pool rails ι (Except Exn Outcome) where
  config := ⟨w, []⟩
  prog := fun _ => delivery

/-- In every interleaving of deliveries in which one that has been overtaken has no stage left to
begin and no failure to record, a status that is terminal stays as it is. -/
theorem terminal_status_stays [FormatAssertion] [Platform] [DecidableEq ι] (w : World)
    (before after : List (ι × rails.Choices))
    (hyields : (deliveries ι w).Meets Yields (before ++ after))
    (hterminal : ((deliveries ι w).run before).config.world.job.status.terminal = true) :
  ((deliveries ι w).run (before ++ after)).config.world.job.status
    = ((deliveries ι w).run before).config.world.job.status
  := by
  have hstable : ∀ (i : ι) (_ : Except Exn Outcome),
      (terminalProtocol ι).Stable i fun _ => True := fun _ _ => Protocol.stable_const True
  have hstart : (deliveries ι w).Keeps (terminalProtocol ι) fun _ _ _ => True :=
    fun _ => delivery_safe _
  rw [Pool.run_append]
  obtain ⟨hbefore, hafter⟩ := Pool.meets_append.mp hyields
  obtain ⟨-, hmiddle⟩ := Pool.run_of_keeps hstable hstart hbefore
  obtain ⟨hsafe, -⟩ := Pool.run_of_keeps hstable hmiddle hafter
  apply Pool.invariant_run (P := terminalProtocol ι)
    (A := fun c => c.world.job.status = ((deliveries ι w).run before).config.world.job.status)
    _ hafter hsafe rfl
  intro i o χ c _ hguar hc
  rw [Config.after_world, exec_job_status]
  change (writtenStatus ⟨o, c.answer o χ⟩).getD c.world.job.status = _
  cases hwrite : writtenStatus ⟨o, c.answer o χ⟩ with
  | none => exact hc
  | some status =>
      rw [← hc] at hterminal ⊢
      exact hguar status hwrite hterminal

instance decidableOvertaken [DecidableEq ι] (i : ι) :
    (past : List (ι × Event application)) → Decidable (Overtaken i past)
  | [] => .isFalse id
  | (j, e) :: past =>
      have : Decidable (∃ status, writtenStatus e = some status ∧ status.terminal = true) :=
        decidable_of_iff ((writtenStatus e).any (·.terminal) = true) (Option.any_eq_true _ _)
      have := decidableOvertaken i past
      inferInstanceAs (Decidable ((j ≠ i ∧ ∃ status, writtenStatus e = some status ∧
          status.terminal = true) ∨
        ¬ (j = i ∧ (loadsJob e = true ∨ (writtenStatus e).isSome)) ∧ Overtaken i past))

instance [DecidableEq ι] (i : ι) (o : Op) (χ : rails.Choice o) (c : Config rails ι) :
    Decidable (Yields i o χ c) :=
  inferInstanceAs (Decidable (Overtaken i c.past → yields c.world.job.status o = true))

/-- A delivery whose first attempt crashes as it looks for a measurement, and another one that
then completes the job. -/
def crashedAndCompleted : List (Bool × rails.Choices) :=
  List.replicate 3 (true, choosing (fun
      | .latestMeasurement _ => some "ActiveRecord::ConnectionFailed"
      | _ => none) (imageryExchange [flatFacet]) .timedOut) ++
    List.replicate 27 (false, choosing (fun _ => none) (imageryExchange [flatFacet]) .timedOut)

/-- The delivery that has been overtaken is attempted again. -/
def attemptedAgain : List (Bool × rails.Choices) :=
  List.replicate 4 (true, choosing (fun _ => none) (imageryExchange [flatFacet]) .timedOut)

/-- A delivery that has been overtaken is attempted again, and the status of the job stays what the
other delivery made it. -/
theorem terminal_status_stays_overtaken :
  Overtaken true ((@deliveries anyFormat plainPlatform Bool submittedJob).run
      crashedAndCompleted).config.past ∧
    ((@deliveries anyFormat plainPlatform Bool submittedJob).run
      (crashedAndCompleted ++ attemptedAgain)).config.world.job.status =
    ((@deliveries anyFormat plainPlatform Bool submittedJob).run
      crashedAndCompleted).config.world.job.status
  := by
  constructor
  · decide +kernel
  · apply @terminal_status_stays Bool anyFormat plainPlatform
    · decide +kernel
    · decide +kernel

/-! ### A delivery that is overtaken -/

/-- Two deliveries load the job and find no measurement; then one of them completes it. -/
def completed : List (Bool × rails.Choices) :=
  let calm := choosing (fun _ => none) (imageryExchange [flatFacet]) .timedOut
  [(true, calm), (true, calm), (false, calm)] ++ List.replicate 26 (false, calm)

/-- The other one goes on, and its first stage times out. -/
def overtaken : List (Bool × rails.Choices) :=
  List.replicate 4
    (true, choosing (fun _ => none) (fun _ => .timeout "Net::ReadTimeout") .timedOut)

/-- A job that is ready is failed by a delivery that has been overtaken. -/
theorem ready_status_overwritten :
  ((@deliveries anyFormat plainPlatform Bool submittedJob).run completed).config.world.job.status
      = .ready ∧
    ((@deliveries anyFormat plainPlatform Bool submittedJob).run
      (completed ++ overtaken)).config.world.job.status = .failed
  := by
  decide +kernel

end TerminalStatus

end Rails
