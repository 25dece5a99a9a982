import RoofTrace.Phone.StatusPoll
import RoofTrace.Deliveries.TerminalStatus
import RoofTrace.Effects.Play

/-!
# Progress of a run

The statuses of a job have an order, in which the status page and the phone show how far the
pipeline has come. A run of the orchestrator writes `detecting_features`, as it starts the
detection, before `fetching_lidar`, which is earlier in the order. What is written is ordered
exactly when the run ends before its LiDAR stage begins, and so is then the progress that a
poller shows.
-/

namespace Rails

open Effects

/-! ### The order of the statuses -/

namespace Status

/-- The text of the column. -/
def rawValue : Status → String
  | pending => "pending"
  | resolvingAddress => "resolving_address"
  | fetchingImagery => "fetching_imagery"
  | fetchingLidar => "fetching_lidar"
  | refiningOutline => "refining_outline"
  | detectingFeatures => "detecting_features"
  | fittingPlanes => "fitting_planes"
  | ready => "ready"
  | failed => "failed"

/-- The position of a status in the enum. -/
def order : Status → ℕ
  | pending => 0
  | resolvingAddress => 1
  | fetchingImagery => 2
  | fetchingLidar => 3
  | refiningOutline => 4
  | detectingFeatures => 5
  | fittingPlanes => 6
  | ready => 7
  | failed => 8

theorem order_le_failed (status : Status) :
  status.order ≤ failed.order
  := by
  cases status <;> decide

end Status

namespace Progress

/-! ### What a poller sees -/

open Phone StatusPollViewModel

/-- What requests for a job answer while it takes statuses, one after the other: `none` is a
request that fails. -/
inductive Answers : List Status → List (Option JobStatus) → Prop where
  | done {statuses} : Answers statuses []
  | lost {statuses responses} :
      Answers statuses responses → Answers statuses (none :: responses)
  | answered {status statuses responses} (lastError : Option String) :
      Answers (status :: statuses) responses →
        Answers (status :: statuses) (some (.init status.rawValue lastError) :: responses)
  | advanced {status statuses responses} :
      Answers statuses responses → Answers (status :: statuses) responses

/-- The stage that is shown as active for a status. -/
def stageIndex : Status → ℕ
  | .pending => 0
  | .resolvingAddress => 0
  | .fetchingImagery => 1
  | .fetchingLidar => 2
  | .refiningOutline => 3
  | .detectingFeatures => 4
  | .fittingPlanes => 5
  | .ready => 5
  | .failed => 5

/-- The progress that is shown for a status. -/
def fraction (status : Status) : ℚ := (stageIndex status + 1 : ℕ) / Stage.allCases.length

theorem progressFraction_init (status : Status) (lastError : Option String) :
  progressFraction (some (.init status.rawValue lastError)) = fraction status
  := by
  cases status <;> rfl

theorem fraction_le {status status' : Status} (h : status.order ≤ status'.order) :
  fraction status ≤ fraction status'
  := by
  have hindex : stageIndex status ≤ stageIndex status' := by
    revert h
    cases status <;> cases status' <;> decide
  unfold fraction
  gcongr

/-- Nothing that is shown is less than the progress of the first poll. -/
theorem fraction_none_le (status : Status) :
  progressFraction none ≤ fraction status
  := fraction_le (show Status.pending.order ≤ status.order from Nat.zero_le _)

section

variable {statuses : List Status} {responses : List (Option JobStatus)} {job : Option JobStatus}

/-- Progress that does not decrease, from a value that is not less than what is shown. -/
theorem shown_cons {job' : Option JobStatus} {jobs : List (Option JobStatus)}
    (h : (jobs.map progressFraction).Pairwise (· ≤ ·) ∧
      ∀ shown ∈ jobs, progressFraction job' ≤ progressFraction shown)
    (hle : progressFraction job ≤ progressFraction job') :
  ((job :: jobs).map progressFraction).Pairwise (· ≤ ·) ∧
    ∀ shown ∈ job :: jobs, progressFraction job ≤ progressFraction shown
  := by
  constructor
  · rw [List.map_cons, List.pairwise_cons]
    constructor
    · intro _ hmem
      obtain ⟨shown, hshown, rfl⟩ := List.mem_map.mp hmem
      exact le_trans hle (h.2 shown hshown)
    · exact h.1
  · intro shown hshown
    obtain rfl | hshown := List.mem_cons.mp hshown
    · exact le_refl _
    · exact le_trans hle (h.2 shown hshown)

/-- What is shown while the statuses of a job are polled is at least what is shown already. -/
theorem le_of_answers (hanswers : Answers statuses responses)
    (hjob : ∀ status ∈ statuses, progressFraction job ≤ fraction status)
    (hordered : (statuses.map fraction).Pairwise (· ≤ ·)) :
  ((pollUntilTerminal job responses).map progressFraction).Pairwise (· ≤ ·) ∧
    ∀ shown ∈ pollUntilTerminal job responses, progressFraction job ≤ progressFraction shown
  := by
  induction hanswers generalizing job with
  | done =>
      simp only [pollUntilTerminal, List.map_cons, List.map_nil, List.mem_singleton, forall_eq,
        le_refl, and_true]
      apply List.pairwise_singleton
  | lost _ ih => exact shown_cons (ih hjob hordered) (le_refl _)
  | @answered status statuses responses lastError hanswers ih =>
      have hnext : progressFraction job ≤
          progressFraction (some (.init status.rawValue lastError)) := by
        rw [progressFraction_init]
        exact hjob status List.mem_cons_self
      have hrest : ∀ status' ∈ status :: statuses,
          progressFraction (some (.init status.rawValue lastError)) ≤ fraction status' := by
        intro status' hstatus'
        rw [progressFraction_init]
        rw [List.map_cons, List.pairwise_cons] at hordered
        obtain rfl | hstatus' := List.mem_cons.mp hstatus'
        · exact le_refl _
        · exact hordered.1 _ (List.mem_map_of_mem hstatus')
      unfold pollUntilTerminal
      split
      · apply shown_cons _ hnext
        constructor
        · apply List.pairwise_singleton
        · intro shown hshown
          rw [List.mem_singleton.mp hshown]
      · exact shown_cons (ih hrest hordered) hnext
  | advanced _ ih =>
      rw [List.map_cons, List.pairwise_cons] at hordered
      exact ih (fun status hstatus => hjob status (List.mem_cons_of_mem _ hstatus)) hordered.2

end

/-! ### The stages before LiDAR -/

open MeasurementOrchestrator

section

variable [FormatAssertion] [Platform]

/-- The pipeline up to its LiDAR stage, with what the rest needs of it. -/
def approach : Method MeasurementOrchestrator (Json ℚ × Json ℚ × Json ℚ × Json ℚ × Json ℚ) := do
  reopen
  let resolve ← resolveAddressStage
  let o ← get
  let buildingPolygon ←
    Action.ofExcept (pickBuildingPolygon o.job.row.polygonSelection resolve)
  let imagery ← imageryStage buildingPolygon
  let imageTileRef ← Action.ofExcept (Ruby.fetch imagery "image_tile_ref")
  let imageGeoBounds ← Action.ofExcept (Ruby.fetch imagery "image_geo_bounds")
  onJob (Job.advanceTo .detectingFeatures)
  onVlm VlmRunner.start
  return (resolve, buildingPolygon, imagery, imageTileRef, imageGeoBounds)

/-- The pipeline from its LiDAR stage on. -/
def descent (resolve buildingPolygon imagery imageTileRef imageGeoBounds : Json ℚ) :
    Method MeasurementOrchestrator Measurement := do
  let lidarResponse ← lidarStage buildingPolygon (resolveParcel resolve)
  let refined ← refineStage imageTileRef buildingPolygon imageGeoBounds
  let refinedPolygon ← Action.ofExcept (Ruby.fetch refined "refined_polygon")
  let (geometry, source) ← geometryStage resolve lidarResponse refinedPolygon
  Action.ofExcept (guardFacets geometry)
  let features ← onVlm VlmRunner.join
  assembleAndPersist
    { resolve, buildingPolygon, imagery, lidarResponse, refined, refinedPolygon, geometry,
      source, features }

theorem runPipelineStages_eq :
  runPipelineStages =
    approach >>= fun (resolve, buildingPolygon, imagery, imageTileRef, imageGeoBounds) =>
      descent resolve buildingPolygon imagery imageTileRef imageGeoBounds
  := by
  simp only [runPipelineStages, approach, descent, bind_assoc, pure_bind]

/-- A run up to the write of `fetching_lidar`; `false` when it reuses a measurement. -/
def beginLidar : Method MeasurementOrchestrator Bool := do
  match ← onJob Job.cachedMeasurement with
  | some _ => return false
  | none =>
      let _ ← approach
      onJob (Job.advanceBy .fetchingLidar Job.save)
      return true

variable (w : World) (χ : ℕ → rails.Choices)

/-- The orchestrator of the job, which has just been loaded. -/
def orchestrator (w : World) : MeasurementOrchestrator := .new (.ofRow w.job)

/-- Whether the LiDAR stage of a run begins: no measurement is reused, the stages before it
succeed, and `fetching_lidar` is written. -/
def LidarBegins : Prop :=
  (beginLidar (orchestrator w)).play () χ ⟨w, []⟩ |>.1.1 = .ok true

/-- The statuses that have been written, the last one first. -/
def wrote (c : Config rails Unit) : List Status :=
  c.past.filterMap fun (_, event) => writtenStatus event

/-- The statuses that a run writes. -/
def statuses : List Status :=
  (wrote ((call (orchestrator w)).play () χ ⟨w, []⟩).2.2).reverse

/-- The statuses are written in their order. -/
def StatusesOrdered : Prop := (statuses w χ).Pairwise fun s s' => s.order ≤ s'.order

/-- No poller sees the progress of a run decrease. -/
def ProgressOrdered : Prop := ∀ responses, Answers (statuses w χ) responses →
  ((pollUntilTerminal none responses).map progressFraction).Pairwise (· ≤ ·)

end

/-! ### What is written -/

/-- Statuses in their order, the last one first. -/
def Ordered (written : List Status) : Prop := written.Pairwise fun s s' => s'.order ≤ s.order

/-- Statuses in their order, which may be followed by a status. -/
def Below (status : Status) (written : List Status) : Prop :=
  Ordered written ∧ ∀ s ∈ written, s.order ≤ status.order

/-- The copy of a job that is not terminal has the status of its row, and may be advanced to a
status. -/
structure Before (status : Status) (job : Job) (written : List Status) : Prop where
  synced : job.row.status = job.status
  isOpen : job.status.terminal = false
  below : Below status written

/-- The job is at a status. -/
structure At (status : Status) (job : Job) (written : List Status) : Prop where
  synced : job.row.status = job.status
  reached : job.status = status
  below : Below status written

theorem Below.cons {status status' : Status} {written : List Status} (h : Below status written)
    (hle : status.order ≤ status'.order) :
  Below status' (status :: written)
  := by
  unfold Below Ordered
  rw [List.pairwise_cons]
  refine ⟨⟨h.2, h.1⟩, ?_⟩
  intro s hs
  obtain rfl | hs := List.mem_cons.mp hs
  · exact hle
  · exact le_trans (h.2 s hs) hle

theorem Ordered.below_failed {written : List Status} (h : Ordered written) :
  Below .failed written
  := ⟨h, fun s _ => s.order_le_failed⟩

theorem At.before {status status' : Status} {job : Job} {written : List Status}
    (h : At status job written) (hopen : status.terminal = false)
    (hle : status.order ≤ status'.order) :
  Before status' job written
  := ⟨h.synced, h.reached ▸ hopen, h.below.1, fun s hs => le_trans (h.below.2 s hs) hle⟩

/-- A quiet operation writes no status. -/
theorem wrote_of_quiet {o : Op} (ho : o.quiet = true) (χ : o.Choice) (c : Config rails Unit) :
  wrote (c.after () o χ) = wrote c
  := by
  cases o <;> first | rfl | (nomatch ho)

theorem wrote_of_updateJob (changes : JobChanges) (c : Config rails Unit) :
  wrote (c.after () (.updateJob changes) none) = changes.status.toList ++ wrote c
  := by
  cases hstatus : changes.status with
  | none => exact List.filterMap_cons_none hstatus
  | some status => exact List.filterMap_cons_some hstatus

/-- What is said of the statuses that have been written is not disturbed. -/
theorem undisturbed_of_wrote (B : List Status → Prop) :
  Undisturbed Protocol.free () fun c => B (wrote c)
  := by
  constructor
  · apply Protocol.stable_of_subsingleton
  · intro o χ c ho _ hB
    use trivial
    rw [wrote_of_quiet ho]
    exact hB

/-! ### Writes -/

section

variable {σ : Type} {A : σ → List Status → Prop}

theorem keeps_of_quiet {o : Op} (ho : o.quiet = true) :
  Protocol.free.Keeps () (fun s c => A s (wrote c)) (perform o : Method σ o.Res)
  := Rails.keeps_quiet (fun s => undisturbed_of_wrote (A s)) ho

end

/-- An UPDATE of the status writes it, unless the row has it. -/
theorem triple_save (status : Status) (q : Prop) :
  Protocol.free.Triple () (fun job c => job.status = status ∧ Below status (wrote c) ∧
      (q → job.row.status ≠ status))
    Job.save (fun _ job c => At status job (wrote c) ∧ (q → status ∈ wrote c))
    (fun e _ c => e.expected = false ∧ Ordered (wrote c))
  := by
  apply Job.triple_save
  · intro _
    apply Protocol.stable_of_subsingleton
  · rintro job c ⟨rfl, hbelow, hne⟩ hempty
    have hsynced : job.row.status = job.status :=
      congrArg JobRow.status (Job.row_of_changes_isEmpty hempty)
    exact ⟨⟨hsynced, rfl, hbelow⟩, fun hq => absurd hsynced (hne hq)⟩
  · rintro job c χ ⟨rfl, hbelow, hne⟩ - -
    use trivial
    cases χ with
    | some className => exact hbelow.1
    | none =>
        have hsynced : job.saved.row.status = job.saved.status := by
          rw [Job.saved_row, Job.saved_status]
        have hwrote := wrote_of_updateJob job.changes c
        by_cases hsame : job.status = job.row.status
        · have hchanges : job.changes.status = none := if_pos hsame
          rw [hchanges] at hwrote
          dsimp only
          rw [hwrote]
          exact ⟨⟨hsynced, rfl, hbelow⟩, fun hq => absurd hsame.symm (hne hq)⟩
        · rw [Job.changes_status_of_ne hsame] at hwrote
          dsimp only
          rw [hwrote]
          exact ⟨⟨hsynced, rfl, hbelow.cons (le_refl _)⟩, fun _ => List.mem_cons_self⟩

/-- The UPDATE of `advance_to!`. -/
theorem triple_advanceBy (status : Status) (q : Prop) :
  Protocol.free.Triple () (fun job c => Before status job (wrote c) ∧ (q → job.status ≠ status))
    (Job.advanceBy status Job.save)
    (fun _ job c => At status job (wrote c) ∧ (q → status ∈ wrote c))
    (fun e _ c => e.expected = false ∧ Ordered (wrote c))
  := by
  apply Job.triple_advanceBy (C := fun job c => job.status = status ∧ Below status (wrote c) ∧
    (q → job.row.status ≠ status))
  · exact fun _ _ h => h.1.isOpen
  · rintro job c ⟨hbefore, hne⟩
    refine ⟨rfl, hbefore.below, fun hq => ?_⟩
    change job.row.status ≠ status
    rw [hbefore.synced]
    exact hne hq
  · apply triple_save

theorem triple_advanceTo (status : Status) (q : Prop) :
  Protocol.free.Triple () (fun job c => Before status job (wrote c) ∧ (q → job.status ≠ status))
    (Job.advanceTo status)
    (fun _ job c => At status job (wrote c) ∧ (q → status ∈ wrote c))
    (fun _ _ c => Ordered (wrote c))
  := by
  apply Protocol.Triple.bind
  · apply (triple_advanceBy status q).post
    · exact fun _ _ _ h => h
    · exact fun _ _ _ h => h.2
  · intro _
    apply Protocol.Triple.getting
    intro job
    apply (keeps_of_quiet (A := fun job written => At status job written ∧
      (q → status ∈ written)) rfl).conseq
    · exact fun _ _ h => h.2
    · exact fun _ _ _ h => h
    · exact fun _ _ _ h => h.1.below.1

/-- A job that has just been loaded, before anything is written. -/
structure Fresh (job : Job) (written : List Status) : Prop where
  synced : job.row.status = job.status
  nothing : written = []

theorem Fresh.below {job : Job} {written : List Status} (h : Fresh job written)
    (status : Status) :
  Below status written
  := by
  rw [h.nothing]
  exact ⟨List.Pairwise.nil, fun s hs => absurd hs List.not_mem_nil⟩

theorem triple_resetForRerun :
  Protocol.free.Triple () (fun job c => Fresh job (wrote c)) Job.resetForRerun
    (fun _ job c => At .pending job (wrote c)) (fun _ _ c => Ordered (wrote c))
  := by
  apply Protocol.Triple.bind (B := fun _ job c => job.status = .pending ∧
    Below .pending (wrote c) ∧ (False → job.row.status ≠ .pending))
  · apply Protocol.Triple.modifying
    exact fun job c h => ⟨rfl, h.below _, False.elim⟩
  · intro _
    apply (triple_save .pending False).post
    · exact fun _ _ _ h => h.1
    · exact fun _ _ _ h => h.2

theorem triple_reopen :
  Protocol.free.Triple () (ofJob fun job c => Fresh job (wrote c)) reopen
    (fun _ => ofJob fun job c => Before .resolvingAddress job (wrote c))
    (fun _ _ c => Ordered (wrote c))
  := by
  apply Protocol.Triple.getting
  intro o
  split
  · apply (triple_onJob triple_resetForRerun).conseq
    · exact fun _ _ h => h.2
    · exact fun _ _ _ h => h.before rfl (by decide)
    · exact fun _ _ _ h => h
  · next hopen =>
    apply Protocol.Triple.ret
    rintro _ c ⟨rfl, h⟩
    exact ⟨h.synced, Bool.eq_false_iff.mpr hopen, h.below _⟩

/-- The job is at a status, which has been written. -/
def Reached (status : Status) (job : Job) (written : List Status) : Prop :=
  At status job written ∧ status ∈ written

section

variable {α : Type} {A : Job → List Status → Prop} {x : Method MeasurementOrchestrator α}

/-- What is kept, the statuses being in order, is kept up to an exception. -/
theorem triple_of_keeps (hA : ∀ job written, A job written → Ordered written)
    (hx : Protocol.free.Keeps () (ofJob fun job c => A job (wrote c)) x) :
  Protocol.free.Triple () (ofJob fun job c => A job (wrote c)) x
    (fun _ => ofJob fun job c => A job (wrote c)) (fun _ _ c => Ordered (wrote c))
  := hx.post (fun _ _ _ h => h) (fun _ o _ h => hA o.job _ h)

theorem ordered_of_at {status : Status} (job : Job) (written : List Status)
    (h : At status job written) :
  Ordered written
  := h.below.1

/-- The job is advanced from a status to a later one. -/
theorem triple_advance {status status' : Status} (hopen : status.terminal = false)
    (hlt : status.order < status'.order) :
  Protocol.free.Triple () (ofJob fun job c => At status job (wrote c))
    (onJob (Job.advanceTo status')) (fun _ => ofJob fun job c => Reached status' job (wrote c))
    (fun _ _ c => Ordered (wrote c))
  := by
  apply (triple_onJob (triple_advanceTo status' True)).conseq
  · intro o c h
    use h.before hopen (le_of_lt hlt)
    rintro - hstatus
    rw [← hstatus, h.reached] at hlt
    exact lt_irrefl _ hlt
  · exact fun _ _ _ h => ⟨h.1, h.2 trivial⟩
  · exact fun _ _ _ h => h

theorem keeps_request [FormatAssertion] (stage : SidecarClient.Stage) (payload : Json ℚ)
    (timeout : ℕ) :
  Protocol.free.Keeps () (ofJob fun job c => A job (wrote c))
    (request stage payload timeout : Method MeasurementOrchestrator (Json ℚ))
  := Rails.keeps_request (fun o : MeasurementOrchestrator => undisturbed_of_wrote (A o.job)) _ _ _

theorem keeps_start :
  Protocol.free.Keeps () (ofJob fun job c => A job (wrote c)) (onVlm VlmRunner.start)
  := by
  apply keeps_onVlm (A := fun job c => A job (wrote c))
  intro job
  apply Protocol.Keeps.bind (keeps_of_quiet (A := fun _ => A job) rfl)
  intro _
  apply keeps_modify

end

section

variable [FormatAssertion]

theorem triple_resolveAddressStage :
  Protocol.free.Triple () (ofJob fun job c => Before .resolvingAddress job (wrote c))
    resolveAddressStage (fun _ => ofJob fun job c => At .resolvingAddress job (wrote c))
    (fun _ _ c => Ordered (wrote c))
  := by
  apply Protocol.Triple.bind (B := fun _ => ofJob fun job c => At .resolvingAddress job (wrote c))
  · apply (triple_onJob (triple_advanceTo .resolvingAddress False)).conseq
    · exact fun _ _ h => ⟨h, False.elim⟩
    · exact fun _ _ _ h => h.1
    · exact fun _ _ _ h => h
  · intro _
    apply Protocol.Triple.getting
    intro o
    apply (triple_of_keeps ordered_of_at (keeps_request _ _ _)).pre
    exact fun _ _ h => h.2

theorem triple_imageryStage (buildingPolygon : Json ℚ) :
  Protocol.free.Triple () (ofJob fun job c => At .resolvingAddress job (wrote c))
    (imageryStage buildingPolygon) (fun _ => ofJob fun job c => At .fetchingImagery job (wrote c))
    (fun _ _ c => Ordered (wrote c))
  := by
  apply Protocol.Triple.bind (B := fun _ => ofJob fun job c => At .fetchingImagery job (wrote c))
  · apply (triple_advance rfl (by decide)).post
    · exact fun _ _ _ h => h.1
    · exact fun _ _ _ h => h
  · intro _
    apply triple_of_keeps ordered_of_at (keeps_request _ _ _)

/-- The stages before LiDAR write statuses in their order, with `detecting_features` last. -/
theorem triple_approach [Platform] :
  Protocol.free.Triple () (ofJob fun job c => Fresh job (wrote c)) approach
    (fun _ => ofJob fun job c => Reached .detectingFeatures job (wrote c))
    (fun _ _ c => Ordered (wrote c))
  := by
  apply Protocol.Triple.bind triple_reopen
  intro _
  apply Protocol.Triple.bind triple_resolveAddressStage
  intro resolve
  apply Protocol.Triple.getting
  intro o
  apply Protocol.Triple.pre (A := ofJob fun job c => At .resolvingAddress job (wrote c)) _
    (fun _ _ h => h.2)
  apply Protocol.Triple.bind (triple_of_keeps ordered_of_at (Protocol.Keeps.ofExcept _))
  intro buildingPolygon
  apply Protocol.Triple.bind (triple_imageryStage buildingPolygon)
  intro imagery
  apply Protocol.Triple.bind (triple_of_keeps ordered_of_at (Protocol.Keeps.ofExcept _))
  intro imageTileRef
  apply Protocol.Triple.bind (triple_of_keeps ordered_of_at (Protocol.Keeps.ofExcept _))
  intro imageGeoBounds
  apply Protocol.Triple.bind (triple_advance rfl (by decide))
  intro _
  apply Protocol.Triple.bind
    (triple_of_keeps (fun _ _ h => h.1.below.1) keeps_start)
  intro _
  apply Protocol.Triple.ret
  exact fun _ _ h => h

/-- `fetching_lidar` has just been written, and `detecting_features` before it. -/
def Regressed (written : List Status) : Prop :=
  ∃ earlier, written = .fetchingLidar :: earlier ∧ .detectingFeatures ∈ earlier

omit [FormatAssertion] in
/-- From `detecting_features`, the UPDATE to `fetching_lidar` goes back. -/
theorem triple_beginStage :
  Protocol.free.Triple () (fun job c => Reached .detectingFeatures job (wrote c))
    (Job.advanceBy .fetchingLidar Job.save) (fun _ _ c => Regressed (wrote c))
    (fun e _ c => e.expected = false ∧ Ordered (wrote c))
  := by
  apply Job.triple_advanceBy (C := fun job c => job.status = .fetchingLidar ∧
    job.row.status = .detectingFeatures ∧ Ordered (wrote c) ∧ .detectingFeatures ∈ wrote c)
  · rintro job c ⟨hat, -⟩
    rw [hat.reached]
    rfl
  · rintro job c ⟨hat, hmem⟩
    exact ⟨rfl, hat.synced.trans hat.reached, hat.below.1, hmem⟩
  · apply Job.triple_save
    · intro _
      apply Protocol.stable_of_subsingleton
    · rintro job c ⟨hstatus, hrow, -⟩ hempty
      have hsynced := congrArg JobRow.status (Job.row_of_changes_isEmpty hempty)
      rw [hrow] at hsynced
      change Status.detectingFeatures = job.status at hsynced
      rw [hstatus] at hsynced
      nomatch hsynced
    · rintro job c χ ⟨hstatus, hrow, hordered, hmem⟩ - -
      use trivial
      cases χ with
      | some className => exact hordered
      | none =>
          have hne : job.status ≠ job.row.status := by
            rw [hstatus, hrow]
            decide
          have hwrote := wrote_of_updateJob job.changes c
          rw [Job.changes_status_of_ne hne, hstatus] at hwrote
          exact ⟨wrote c, hwrote, hmem⟩

omit [FormatAssertion] in
theorem triple_cachedMeasurement [Platform] :
  Protocol.free.Triple () (fun job c => Fresh job (wrote c)) Job.cachedMeasurement
    (found (fun _ _ c => Ordered (wrote c)) fun job c => Fresh job (wrote c))
    (fun _ _ c => Ordered (wrote c))
  := by
  have hquiet : ∀ {o : Op}, o.quiet = true → Protocol.free.Triple ()
      (fun job c => Fresh job (wrote c)) (perform o : Method Job o.Res)
      (fun _ job c => Fresh job (wrote c)) (fun _ _ c => Ordered (wrote c)) := by
    intro o ho
    apply (keeps_of_quiet (A := Fresh) ho).post
    · exact fun _ _ _ h => h
    · exact fun _ _ _ h => (h.below .pending).1
  apply Protocol.Triple.bind (hquiet rfl)
  intro latest
  cases latest with
  | none => exact Protocol.Triple.ret fun _ _ h => h
  | some recent =>
      apply Protocol.Triple.bind (hquiet rfl)
      intro now
      split
      · exact Protocol.Triple.ret fun _ _ h => h
      · apply Protocol.Triple.getting
        intro job
        split
        · split
          · next hopen =>
            apply Protocol.Triple.bind (B := fun _ _ c => Ordered (wrote c))
            · apply (triple_advanceTo .ready False).conseq
              · rintro _ c ⟨rfl, h⟩
                exact ⟨⟨h.synced, hopen.2, h.below _⟩, False.elim⟩
              · exact fun _ _ _ h => h.1.below.1
              · exact fun _ _ _ h => h
            · intro _
              exact Protocol.Triple.ret fun _ _ h => h
          · apply Protocol.Triple.ret
            exact fun _ _ h => (h.2.below .pending).1
        · apply Protocol.Triple.ret
          exact fun _ _ h => h.2

/-- Up to its LiDAR stage a run writes statuses in their order, and then it goes back. -/
theorem triple_beginLidar [Platform] :
  Protocol.free.Triple () (ofJob fun job c => Fresh job (wrote c)) beginLidar
    (fun begun _ c => if begun then Regressed (wrote c) else Ordered (wrote c))
    (fun _ _ c => Ordered (wrote c))
  := by
  apply Protocol.Triple.bind (triple_onJob triple_cachedMeasurement)
  intro cached
  cases cached with
  | some m => exact Protocol.Triple.ret fun _ _ h => h
  | none =>
      apply Protocol.Triple.bind triple_approach
      intro _
      apply Protocol.Triple.bind
      · apply (triple_onJob triple_beginStage).post
        · exact fun _ _ _ h => h
        · exact fun _ _ _ h => h.2
      · intro _
        exact Protocol.Triple.ret fun _ _ h => h

/-! ### The rest of a run -/

omit [FormatAssertion] in
theorem keeps_failWith (message : String) :
  Protocol.free.Keeps () (fun _ c => Ordered (wrote c)) (onJob (Job.failWith message))
  := by
  apply triple_onJob (A := fun _ c => Ordered (wrote c)) (B := fun _ _ c => Ordered (wrote c))
    (D := fun _ _ c => Ordered (wrote c))
  apply Protocol.Triple.bind (B := fun _ job c => job.status = .failed ∧
    Below .failed (wrote c) ∧ (False → job.row.status ≠ .failed))
  · apply Protocol.Triple.modifying
    exact fun _ _ h => ⟨rfl, h.below_failed, False.elim⟩
  · intro _
    apply Protocol.Triple.bind (B := fun _ _ c => Ordered (wrote c))
    · apply (triple_save .failed False).post
      · exact fun _ _ _ h => h.1.below.1
      · exact fun _ _ _ h => h.2
    · intro _
      apply Protocol.Triple.getting
      intro job
      apply (keeps_of_quiet (A := fun _ => Ordered) rfl).pre
      exact fun _ _ h => h.2

/-- What `call` does with an exception. -/
def recover : Exn → Method MeasurementOrchestrator (Option Measurement)
  | .sidecar .schemaError message => do
      onJob (Job.failWith
        s!"Pipeline contract violation at {offendingStage message}: {message}")
      return none
  | .geometricFailure message => do
      onJob (Job.failWith message)
      return none
  | .sidecar .timeoutError message => do
      onJob (Job.failWith s!"A pipeline stage timed out: {message}")
      return none
  | .sidecar _ message => do
      onJob (Job.failWith s!"Pipeline stage failed: {message}")
      return none
  | e => throw e

/-- What `call` does after the search for a measurement. -/
def afterLookup [Platform] :
    Option Measurement → Method MeasurementOrchestrator (Option Measurement)
  | some cached => return some cached
  | none => do
      let measurement ← runPipeline
      return some measurement

theorem call_eq [Platform] :
  call = tryCatch (onJob Job.cachedMeasurement >>= afterLookup) recover
  := by
  have hafter : afterLookup = fun
      | some cached => (return some cached : Method MeasurementOrchestrator (Option Measurement))
      | none => do
          let measurement ← runPipeline
          return some measurement := by
    funext cached
    cases cached <;> rfl
  rw [hafter]
  rfl

omit [FormatAssertion] in
theorem keeps_recover (e : Exn) :
  Protocol.free.Keeps () (fun _ c => Ordered (wrote c)) (recover e)
  := by
  have hfail : ∀ message, Protocol.free.Keeps () (fun _ c => Ordered (wrote c)) (do
      onJob (Job.failWith message)
      return none : Method MeasurementOrchestrator (Option Measurement)) := by
    intro message
    apply Protocol.Keeps.bind (keeps_failWith message)
    intro _
    apply Protocol.Keeps.ret
  unfold recover
  split
  · apply hfail
  · apply hfail
  · apply hfail
  · apply hfail
  · apply Protocol.Keeps.raise

omit [FormatAssertion] in
/-- A run that raises in its pipeline writes at most `failed`. -/
theorem triple_raising [Platform] {x : Method MeasurementOrchestrator Measurement}
    (hx : Protocol.free.Triple () (fun _ c => Ordered (wrote c)) x (fun _ _ _ => False)
      (fun _ _ c => Ordered (wrote c))) :
  Protocol.free.Keeps () (fun _ c => Ordered (wrote c))
    (tryCatch (x.ensuring (onVlm VlmRunner.cleanup) >>= fun m => return some m) recover)
  := by
  apply Protocol.Keeps.rescue _ keeps_recover
  apply Protocol.Triple.bind (B := fun _ _ _ => False)
  · apply Protocol.Triple.ensuring hx
    · intro _ _ _ h
      exact h.elim
    · intro _
      apply (triple_cleanup (A := fun _ c => Ordered (wrote c))
        fun _ => undisturbed_of_wrote Ordered).post
      · exact fun _ _ _ h => h
      · exact fun _ _ _ h => h.2
  · intro _ _ _ h
    exact h.elim

omit [FormatAssertion] in
/-- What an action that is played ends with. -/
theorem ends_of_triple {σ α : Type} {A : σ → Config rails Unit → Prop} {x : Method σ α}
    {B : α → σ → Config rails Unit → Prop} {E : Exn → σ → Config rails Unit → Prop}
    (h : Protocol.free.Triple () A x B E) {s s' : σ} {r : Except Exn α}
    {χ χ' : ℕ → rails.Choices} {c c' : Config rails Unit} (hs : A s c)
    (hplay : (x s).play () χ c = ((r, s'), χ', c')) :
  Protocol.Ends B E (r, s') c'
  := by
  have hrun := Protocol.run_of_wp_free (h s c hs) χ
  rw [Prog.run_eq_play, hplay] at hrun
  exact hrun

omit [FormatAssertion] in
/-- An exception of the UPDATE of `advance_to!` is not one that the orchestrator expects. -/
theorem triple_advanceBy_unexpected (status : Status) :
  (Protocol.free (I := rails)).Triple () (fun _ _ => True) (Job.advanceBy status Job.save)
    (fun _ _ _ => True) (fun e _ _ => e.expected = false)
  := by
  have hsave : (Protocol.free (I := rails)).Triple () (fun _ _ => True) Job.save (fun _ _ _ => True)
      (fun e _ _ => e.expected = false) := by
    apply (Job.triple_save (A := fun _ _ => True) (B := fun _ _ => True) (E := fun _ _ => True)
      (fun _ => Protocol.stable_const _) (fun _ _ _ _ => trivial) _).post
    · exact fun _ _ _ h => h
    · exact fun _ _ _ h => h.1
    · intro _ _ χ _ _ _
      use trivial
      cases χ <;> trivial
  apply Protocol.Triple.getting
  intro job
  split
  · apply Protocol.Triple.raise
    exact fun _ _ _ => rfl
  · apply Protocol.Triple.bind (B := fun _ _ _ => True)
    · apply Protocol.Triple.modifying
      exact fun _ _ _ => trivial
    · intro _
      exact hsave

omit [FormatAssertion] in
/-- The LiDAR stage of a job that is not advanced raises as the UPDATE does. -/
theorem triple_lidarStage_raising (e : Exn) (he : e.expected = false)
    (request : Method MeasurementOrchestrator (Json ℚ)) (degraded : Exn → Json ℚ) :
  Protocol.free.Triple () (fun _ c => Ordered (wrote c))
    (degrading (do
      onJob (Action.ofExcept (.error e) >>= fun _ : Unit => Job.broadcastStatus)
      request) degraded)
    (fun _ _ _ => False) (fun _ _ c => Ordered (wrote c))
  := by
  apply Protocol.Triple.rescue (F := fun e' _ c => e' = e ∧ Ordered (wrote c))
  · apply Protocol.Triple.bind (B := fun _ _ _ => False)
    · apply triple_onJob (A := fun _ c => Ordered (wrote c)) (B := fun _ _ _ => False)
        (D := fun e' _ c => e' = e ∧ Ordered (wrote c))
      exact fun _ _ h => ⟨rfl, h⟩
    · intro _ _ _ h
      exact h.elim
  · rintro e' o c ⟨rfl, hc⟩
    cases e' with
    | sidecar errorClass message => nomatch he
    | _ => exact hc

/-- The LiDAR stage goes on from where `fetching_lidar` is written; when it is not, the stage raises
and writes nothing. -/
theorem lidarStage_goes_on {o o' : MeasurementOrchestrator} {r : Except Exn Unit}
    {χ χ' : ℕ → rails.Choices} {c c' : Config rails Unit} (buildingPolygon parcelPolygon : Json ℚ)
    (hplay : (onJob (Job.advanceBy .fetchingLidar Job.save) o).play () χ c = ((r, o'), χ', c')) :
  ∃ rest : Method MeasurementOrchestrator (Json ℚ),
    (lidarStage buildingPolygon parcelPolygon o).Continues () χ c (rest o') χ' c' ∧
      ∀ e, r = .error e → Protocol.free.Triple () (fun _ c => Ordered (wrote c)) rest
        (fun _ _ _ => False) (fun _ _ c => Ordered (wrote c))
  := by
  use degrading (do
    onJob (Action.ofExcept r >>= fun _ => Job.broadcastStatus)
    request SidecarClient.ingestLidar (SidecarClient.ingestLidarPayload buildingPolygon parcelPolygon)
      stageTimeoutSeconds) syntheticLidarMissing
  constructor
  · apply Action.continues_tryCatch
    apply Action.continues_bind
    apply Action.continues_within (fun _ => Job.broadcastStatus) _ _ hplay
    · exact fun _ _ => rfl
    · exact fun _ _ _ => rfl
  · rintro e rfl
    apply triple_lidarStage_raising
    have hends := ends_of_triple (triple_onJob (triple_advanceBy_unexpected .fetchingLidar))
      (A := fun _ _ => True) trivial hplay
    exact hends

/-- The pipeline goes on from where `fetching_lidar` is written; when it is not, it raises and
writes nothing more. -/
theorem pipeline_goes_on [Platform] {o o' : MeasurementOrchestrator} {r : Except Exn Unit}
    {χ χ' : ℕ → rails.Choices} {c c' : Config rails Unit}
    (hbegin : ((approach >>= fun _ => onJob (Job.advanceBy .fetchingLidar Job.save)) o).play () χ c
      = ((r, o'), χ', c')) :
  ∃ rest : Method MeasurementOrchestrator Measurement,
    (runPipelineStages o).Continues () χ c (rest o') χ' c' ∧
      ∀ e, r = .error e → Protocol.free.Triple () (fun _ c => Ordered (wrote c)) rest
        (fun _ _ _ => False) (fun _ _ c => Ordered (wrote c))
  := by
  rw [runPipelineStages_eq]
  cases happroach : (approach o).play () χ c with
  | mk out₁ rest₁ =>
      obtain ⟨r₁, o₁⟩ := out₁
      obtain ⟨χ₁, c₁⟩ := rest₁
      cases r₁ with
      | error e =>
          rw [Action.play_bind_of_error happroach] at hbegin
          cases hbegin
          refine ⟨_ >>= _, Action.continues_bind (Action.continues_of_play happroach) _, ?_⟩
          intro _ _
          exact fun _ _ h => h
      | ok stages =>
          obtain ⟨resolve, buildingPolygon, imagery, imageTileRef, imageGeoBounds⟩ := stages
          rw [Action.play_bind_of_ok happroach] at hbegin
          obtain ⟨rest, hrest, hraises⟩ :=
            lidarStage_goes_on buildingPolygon (resolveParcel resolve) hbegin
          refine ⟨rest >>= _, Prog.Continues.trans (Action.continues_bind
            (Action.continues_of_play happroach) _) (Action.continues_bind hrest _), ?_⟩
          intro e he
          apply Protocol.Triple.bind (hraises e he)
          intro _ _ _ h
          exact h.elim

/-- A run goes on from where `beginLidar` ends; when its LiDAR stage has not begun, it keeps the
statuses in their order. -/
theorem goes_on [Platform] {o o' : MeasurementOrchestrator} {r : Except Exn Bool}
    {χ χ' : ℕ → rails.Choices} {c c' : Config rails Unit}
    (hbegin : (beginLidar o).play () χ c = ((r, o'), χ', c')) :
  ∃ rest : Method MeasurementOrchestrator (Option Measurement),
    (call o).Continues () χ c (rest o') χ' c' ∧
      (r ≠ .ok true → Protocol.free.Keeps () (fun _ c => Ordered (wrote c)) rest)
  := by
  rw [call_eq]
  unfold beginLidar at hbegin
  cases hlookup : (onJob Job.cachedMeasurement o).play () χ c with
  | mk out₁ rest₁ =>
      obtain ⟨r₁, o₁⟩ := out₁
      obtain ⟨χ₁, c₁⟩ := rest₁
      have hfirst := Action.continues_tryCatch
        (Action.continues_bind (Action.continues_of_play hlookup) afterLookup) recover
      cases r₁ with
      | error e =>
          rw [Action.play_bind_of_error hlookup] at hbegin
          cases hbegin
          refine ⟨tryCatch (_ >>= _) _, hfirst, fun _ => ?_⟩
          apply Protocol.Keeps.rescue _ keeps_recover
          exact fun _ _ h => h
      | ok cached =>
          rw [Action.play_bind_of_ok hlookup] at hbegin
          cases cached with
          | some m =>
              cases hbegin
              refine ⟨tryCatch (_ >>= _) _, hfirst, fun _ => ?_⟩
              exact fun _ _ h => h
          | none =>
              change ((approach >>= fun _ => onJob (Job.advanceBy .fetchingLidar Job.save) >>=
                fun _ => return true) o₁).play () χ₁ c₁ = _ at hbegin
              rw [← bind_assoc] at hbegin
              cases hstage : ((approach >>= fun _ => onJob (Job.advanceBy .fetchingLidar Job.save))
                  o₁).play () χ₁ c₁ with
              | mk out₂ rest₂ =>
                  obtain ⟨r₂, o₂⟩ := out₂
                  obtain ⟨χ₂, c₂⟩ := rest₂
                  obtain ⟨rest, hrest, hraises⟩ := pipeline_goes_on hstage
                  have hgoes := Prog.Continues.trans hfirst (Action.continues_tryCatch
                    (Action.continues_bind
                      (Action.continues_ensuring hrest (onVlm VlmRunner.cleanup))
                      fun m => return some m) recover)
                  cases r₂ with
                  | error e =>
                      rw [Action.play_bind_of_error hstage] at hbegin
                      cases hbegin
                      exact ⟨_, hgoes, fun _ => triple_raising (hraises e rfl)⟩
                  | ok _ =>
                      rw [Action.play_bind_of_ok hstage] at hbegin
                      cases hbegin
                      exact ⟨_, hgoes, fun h => absurd rfl h⟩

/-! ### Progress -/

variable (w : World) (χ : ℕ → rails.Choices)

omit [FormatAssertion] in
theorem fresh_orchestrator : Fresh (orchestrator w).job (wrote ⟨w, []⟩) := ⟨rfl, rfl⟩

/-- A run that ends before its LiDAR stage begins writes statuses in their order. -/
theorem statusesOrdered_of_not_lidarBegins [Platform] (h : ¬ LidarBegins w χ) :
  StatusesOrdered w χ
  := by
  rcases hplay : (beginLidar (orchestrator w)).play () χ ⟨w, []⟩ with ⟨⟨r, o⟩, χ', c⟩
  have hends := ends_of_triple triple_beginLidar (fresh_orchestrator w) hplay
  have hr : r ≠ .ok true := by
    intro hr
    apply h
    unfold LidarBegins
    rw [hplay]
    exact hr
  have hordered : Ordered (wrote c) := by
    cases r with
    | error e => exact hends
    | ok begun =>
        cases begun with
        | false => exact hends
        | true => exact absurd rfl hr
  obtain ⟨rest, hgoes, hkeeps⟩ := goes_on hplay
  rcases hrest : (rest o).play () χ' c with ⟨⟨r', o'⟩, χ'', c'⟩
  have hfinal : Ordered (wrote c') := by
    have hends' := ends_of_triple (hkeeps hr) hordered hrest
    cases r' with
    | error e => exact hends'
    | ok _ => exact hends'
  unfold StatusesOrdered statuses
  rw [hgoes, hrest, List.pairwise_reverse]
  exact hfinal

/-- A run whose LiDAR stage begins writes `detecting_features` and, later, `fetching_lidar`. -/
theorem regressed_of_lidarBegins [Platform] (h : LidarBegins w χ) :
  ∃ before between after,
    statuses w χ = before ++ .detectingFeatures :: between ++ .fetchingLidar :: after
  := by
  rcases hplay : (beginLidar (orchestrator w)).play () χ ⟨w, []⟩ with ⟨⟨r, o⟩, χ', c⟩
  have hends := ends_of_triple triple_beginLidar (fresh_orchestrator w) hplay
  unfold LidarBegins at h
  rw [hplay] at h
  obtain rfl : r = .ok true := h
  obtain ⟨earlier, hwrote, hmem⟩ := hends
  obtain ⟨rest, hgoes, -⟩ := goes_on hplay
  obtain ⟨later, hlater⟩ := Prog.past_suffix_play () (rest o) χ' c
  obtain ⟨newer, older, rfl⟩ := List.append_of_mem hmem
  have hfinal : statuses w χ =
      ((later.filterMap fun (_, event) => writtenStatus event) ++ wrote c).reverse := by
    unfold statuses
    rw [hgoes]
    unfold wrote
    rw [← hlater, List.filterMap_append]
  rw [hfinal, hwrote]
  use older.reverse, newer.reverse,
    (later.filterMap fun (_, event) => writtenStatus event).reverse
  simp

omit [FormatAssertion] in
/-- Polls of a status and then of another one show the progress of both. -/
theorem answers_both (before between after : List Status) (status status' : Status) :
  Answers (before ++ status :: between ++ status' :: after)
    [some (.init status.rawValue none), some (.init status'.rawValue none)]
  := by
  have hskip : ∀ (skipped statuses : List Status) (responses : List (Option JobStatus)),
      Answers statuses responses → Answers (skipped ++ statuses) responses := by
    intro skipped statuses responses h
    induction skipped with
    | nil => exact h
    | cons _ _ ih => exact ih.advanced
  rw [List.append_assoc]
  apply hskip
  apply Answers.answered
  apply Answers.advanced
  apply hskip
  apply Answers.answered
  apply Answers.done

/-- Once its LiDAR stage begins, the statuses of a run are not in their order. -/
theorem not_statusesOrdered [Platform] (h : LidarBegins w χ) : ¬ StatusesOrdered w χ
  := by
  intro hordered
  obtain ⟨before, between, after, hstatuses⟩ := regressed_of_lidarBegins w χ h
  unfold StatusesOrdered at hordered
  rw [hstatuses, List.pairwise_append] at hordered
  have hle := hordered.2.2 .detectingFeatures (by simp) .fetchingLidar (by simp)
  exact absurd hle (by decide)

/-- Once its LiDAR stage begins, two polls show the progress of a run decrease. -/
theorem not_progressOrdered [Platform] (h : LidarBegins w χ) : ¬ ProgressOrdered w χ
  := by
  intro hordered
  obtain ⟨before, between, after, hstatuses⟩ := regressed_of_lidarBegins w χ h
  have hanswers := answers_both before between after .detectingFeatures .fetchingLidar
  rw [← hstatuses] at hanswers
  have hshown := hordered _ hanswers
  revert hshown
  decide +kernel

/-- While statuses are written in their order, the progress of a run does not decrease. -/
theorem progressOrdered_of_statusesOrdered [Platform] (h : StatusesOrdered w χ) :
  ProgressOrdered w χ
  := by
  intro responses hanswers
  apply (le_of_answers hanswers (fun status _ => fraction_none_le status) _).1
  rw [List.pairwise_map]
  exact h.imp fraction_le

/-- The statuses of a run are written in their order exactly when its LiDAR stage does not begin, and
so does then the progress that is shown for every schedule of polls. -/
theorem ordered_iff [Platform] :
  (StatusesOrdered w χ ↔ ¬ LidarBegins w χ) ∧ (ProgressOrdered w χ ↔ ¬ LidarBegins w χ)
  := by
  constructor
  · constructor
    · intro hordered hbegins
      exact not_statusesOrdered w χ hbegins hordered
    · exact statusesOrdered_of_not_lidarBegins w χ
  · constructor
    · intro hordered hbegins
      exact not_progressOrdered w χ hbegins hordered
    · intro hbegins
      apply progressOrdered_of_statusesOrdered
      exact statusesOrdered_of_not_lidarBegins w χ hbegins

end

/-! ### A run on imagery -/

/-- Requests that succeed but for LiDAR and the outline, which time out. -/
def onImagery : ℕ → rails.Choices :=
  fun _ => choosing (fun _ => none) (imageryExchange [flatFacet]) .timedOut

/-- The progress of a run that completes the job decreases. -/
theorem submitted_run_goes_back :
  ¬ @StatusesOrdered anyFormat plainPlatform submittedJob onImagery ∧
    ¬ @ProgressOrdered anyFormat plainPlatform submittedJob onImagery
  := by
  have hbegins : @LidarBegins anyFormat plainPlatform submittedJob onImagery := by
    have hended : ((@beginLidar anyFormat plainPlatform (orchestrator submittedJob)).play ()
        onImagery ⟨submittedJob, []⟩).1.1.toOption = some true := by
      decide +kernel
    unfold LidarBegins
    cases hr : ((@beginLidar anyFormat plainPlatform (orchestrator submittedJob)).play ()
        onImagery ⟨submittedJob, []⟩).1.1 with
    | error e =>
        rw [hr] at hended
        nomatch hended
    | ok begun =>
        rw [hr] at hended
        exact congrArg _ (Option.some.inj hended)
  constructor
  · exact @not_statusesOrdered anyFormat submittedJob onImagery plainPlatform hbegins
  · exact @not_progressOrdered anyFormat submittedJob onImagery plainPlatform hbegins

end Progress

end Rails
