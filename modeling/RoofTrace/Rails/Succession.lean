import RoofTrace.Rails.PipelineRun

/-!
# What follows the failure of an optional stage

The LiDAR and the outline stage are optional. When the request of one of them fails with an
exception that degrades the stage, the run begins the next stage: the status of the job is the
next thing that is written, it is broadcast, and the request of the next stage is posted if it can
be made of what the stages were answered. `Settled` says so of all that has passed, and every run
of the orchestrator ends with it.
-/

namespace Rails

open Effects SidecarClient

namespace Succession

open MeasurementOrchestrator

/-! ### The next stage -/

/-- Stages whose failure degrades a run. -/
def Optional (stage : Stage) : Prop := stage = ingestLidar ∨ stage = refineOutline

/-- The status of the job during an optional stage. -/
def statusOf (stage : Stage) : Status :=
  if stage = ingestLidar then .fetchingLidar else .refiningOutline

/-- The status of the job during the stage that follows an optional stage. -/
def nextStatus (stage : Stage) : Status :=
  if stage = ingestLidar then .refiningOutline else .fittingPlanes

/-- The LiDAR is ingested in the status that fetches it. -/
theorem statusOf_ingestLidar :
  statusOf ingestLidar = .fetchingLidar
  := if_pos rfl

/-- The outline is refined in the status of its name. -/
theorem statusOf_refineOutline :
  statusOf refineOutline = .refiningOutline
  := by decide

/-- The LiDAR stage is followed by the outline stage. -/
theorem nextStatus_ingestLidar :
  nextStatus ingestLidar = .refiningOutline
  := if_pos rfl

/-- The outline stage is followed by the geometry stage. -/
theorem nextStatus_refineOutline :
  nextStatus refineOutline = .fittingPlanes
  := by decide

section Requests

variable [FormatAssertion]

/-- The request of a stage, if its payload is valid. -/
def validRequest (stage : Stage) (payload : Json ℚ) : Except Exn (Stage × Json ℚ) := do
  validateRequest stage.request payload
  return (stage, payload)

/-- The request of the outline stage. -/
def outlineRequest (imagery buildingPolygon : Json ℚ) : Except Exn (Stage × Json ℚ) := do
  let imageTileRef ← Ruby.fetch imagery "image_tile_ref"
  let imageGeoBounds ← Ruby.fetch imagery "image_geo_bounds"
  validRequest refineOutline (refineOutlinePayload imageTileRef buildingPolygon imageGeoBounds)

/-- The request of the stage that measures the geometry. -/
def geometryRequest (resolve lidarResponse refinedPolygon : Json ℚ) :
    Except Exn (Stage × Json ℚ) :=
  if lidarIsAvailable lidarResponse then do
    let lidar ← Ruby.fetch lidarResponse "lidar"
    let pointArrayRef ← Ruby.fetch lidar "point_array_ref"
    let utmZone ← Ruby.fetch lidarResponse "utm_zone"
    validRequest fitPlanes (fitPlanesPayload pointArrayRef utmZone refinedPolygon)
  else do
    let utmZone ← deriveUtmEpsg resolve
    validRequest fallbackMeasurement
      (fallbackMeasurementPayload refinedPolygon (.num defaultInferredPitchDegrees) utmZone)

/-- The request that follows an optional stage, after the facts before that stage. Of an outline
that is not refined it has the building polygon. -/
inductive NextRequest : Stage → List Fact → Except Exn (Stage × Json ℚ) → Prop where
  | outline {resolve imagery buildingPolygon : Json ℚ} {selection : ℤ}
      (picked : pickBuildingPolygon selection resolve = .ok buildingPolygon) :
      NextRequest ingestLidar
        [.posted renderImagery (.ok imagery), .posted resolveAddress (.ok resolve)]
        (outlineRequest imagery buildingPolygon)
  | geometry {resolve imagery buildingPolygon : Json ℚ} {lidar : Except Exn (Json ℚ)}
      {selection : ℤ} (picked : pickBuildingPolygon selection resolve = .ok buildingPolygon) :
      NextRequest refineOutline
        [.posted ingestLidar lidar, .posted renderImagery (.ok imagery),
          .posted resolveAddress (.ok resolve)]
        (geometryRequest resolve (orElse syntheticLidarMissing lidar) buildingPolygon)

end Requests

/-! ### What follows -/

/-- What has passed since a stage failed begins with the next stage: the status of the job is
written and broadcast, and the request of the stage is posted. -/
inductive BeginsNext (stage : Stage) (request : Except Exn (Stage × Json ℚ)) :
    List (Unit × Event application) → Prop where
  | unwritten {changes : JobChanges} {e : Exn} {rest : List (Unit × Event application)}
      (status : changes.status = some (nextStatus stage)) :
      BeginsNext stage request (((), ⟨.updateJob changes, .error e⟩) :: rest)
  | unannounced {changes : JobChanges} {e : Exn} {rest : List (Unit × Event application)}
      (status : changes.status = some (nextStatus stage)) :
      BeginsNext stage request
        (((), ⟨.updateJob changes, .ok ()⟩) ::
          ((), ⟨.broadcastStatus (nextStatus stage), .error e⟩) :: rest)
  | announced {changes : JobChanges} {rest : List (Unit × Event application)}
      (status : changes.status = some (nextStatus stage))
      (posted : ∀ next payload, request = .ok (next, payload) → ∃ answer rest',
        rest = ((), ⟨.post next payload stageTimeoutSeconds, answer⟩) :: rest') :
      BeginsNext stage request
        (((), ⟨.updateJob changes, .ok ()⟩) ::
          ((), ⟨.broadcastStatus (nextStatus stage), .ok ()⟩) :: rest)

/-- The next stage has begun however the past goes on from there. -/
theorem BeginsNext.append {stage : Stage} {request : Except Exn (Stage × Json ℚ)}
    {past more : List (Unit × Event application)} (h : BeginsNext stage request past) :
  BeginsNext stage request (past ++ more)
  := by
  cases h with
  | unwritten status => exact .unwritten status
  | unannounced status => exact .unannounced status
  | announced status posted =>
      apply BeginsNext.announced status
      intro next payload hrequest
      obtain ⟨answer, rest', rfl⟩ := posted next payload hrequest
      exact ⟨answer, rest' ++ more, rfl⟩

section Settled

variable [FormatAssertion]

/-- An event is a request of an optional stage that failed so as to degrade the run. -/
inductive Failure (stage : Stage) : Unit × Event application → Prop where
  | mk {payload : Json ℚ} {timeout : ℕ} {exchange : Exchange} {e : Exn}
      (optional : Optional stage) (received : receive stage timeout exchange = .error e)
      (degrading : Degrading e) :
      Failure stage ((), ⟨.post stage payload timeout, .ok exchange⟩)

/-- What has passed since an event is what follows the failure of a stage. -/
def Followed (stage : Stage) (earlier later : List (Unit × Event application)) : Prop :=
  ∃ request, NextRequest stage (facts earlier) request ∧ BeginsNext stage request later.reverse

/-- What followed a failure still follows it when more has passed. -/
theorem Followed.append {stage : Stage} {earlier later : List (Unit × Event application)}
    (h : Followed stage earlier later) (more : List (Unit × Event application)) :
  Followed stage earlier (more ++ later)
  := by
  obtain ⟨request, hnext, hbegins⟩ := h
  refine ⟨request, hnext, ?_⟩
  rw [List.reverse_append]
  exact hbegins.append

/-- After every failure of an optional stage the next stage has begun. -/
def Settled (past : List (Unit × Event application)) : Prop :=
  ∀ stage later event earlier, past = later ++ event :: earlier → Failure stage event →
    Followed stage earlier later

/-- It has, except perhaps after the last event. -/
def SettledBefore (past : List (Unit × Event application)) : Prop :=
  ∀ stage later event earlier, past = later ++ event :: earlier → later ≠ [] →
    Failure stage event → Followed stage earlier later

variable {past earlier : List (Unit × Event application)} {event : Unit × Event application}
  {stage : Stage}

/-- At the start no stage has failed. -/
theorem settled_nil :
  Settled []
  := by
  intro stage later event earlier hpast
  simp at hpast

/-- A settled past remains settled before one more event, whatever it is. -/
theorem Settled.before (h : Settled past) (event : Unit × Event application) :
  SettledBefore (event :: past)
  := by
  intro stage later event' earlier hpast hlater hfailure
  obtain ⟨last, later', rfl⟩ := List.exists_cons_of_ne_nil hlater
  obtain ⟨-, hpast⟩ := List.cons.inj hpast
  exact (h stage later' event' earlier hpast hfailure).append [last]

/-- A past is settled when it is settled before its last event and that event is no failure. -/
theorem SettledBefore.settled (h : SettledBefore (event :: past))
    (hevent : ∀ stage, ¬ Failure stage event) :
  Settled (event :: past)
  := by
  intro stage later event' earlier hpast hfailure
  cases later with
  | nil =>
      cases hpast
      exact absurd hfailure (hevent stage)
  | cons last later' => exact h stage _ event' earlier hpast (List.cons_ne_nil _ _) hfailure

/-- A settled past remains settled after an event that is no failure. -/
theorem Settled.cons (h : Settled past) (hevent : ∀ stage, ¬ Failure stage event) :
  Settled (event :: past)
  := (h.before event).settled hevent

/-- An event is a failure of one stage only. -/
theorem Failure.stage_eq {stage' : Stage} (h : Failure stage event) (h' : Failure stage' event) :
  stage' = stage
  := by
  cases h
  cases h'
  rfl

/-- When the next stage has begun after a failure, all is settled but the last event. -/
theorem SettledBefore.extend {last : Unit × Event application}
    {later : List (Unit × Event application)} (h : SettledBefore (event :: earlier))
    (hfailure : Failure stage event) (hfollowed : Followed stage earlier (last :: later))
    (hlater : ∀ event' ∈ later, ∀ stage', ¬ Failure stage' event') :
  SettledBefore (last :: later ++ event :: earlier)
  := by
  intro stage' later' event' earlier' hpast hne hfailure'
  rcases List.append_eq_append_iff.mp hpast with ⟨between, rfl, hrest⟩ | ⟨between, hlast, hrest⟩
  · cases between with
    | nil =>
        cases hrest
        rw [hfailure.stage_eq hfailure', List.append_nil]
        exact hfollowed
    | cons first between' =>
        have hbefore := h stage' (first :: between') event' earlier' hrest (List.cons_ne_nil _ _)
          hfailure'
        exact hbefore.append _
  · cases between with
    | nil =>
        cases hrest
        rw [hfailure.stage_eq hfailure']
        rw [List.append_nil] at hlast
        rw [← hlast]
        exact hfollowed
    | cons first between' =>
        obtain ⟨rfl, -⟩ := List.cons.inj hrest
        obtain ⟨first', later'', rfl⟩ := List.exists_cons_of_ne_nil hne
        obtain ⟨-, hlater'⟩ := List.cons.inj hlast
        refine absurd hfailure' (hlater event' ?_ stage')
        rw [hlater']
        exact List.mem_append_right _ List.mem_cons_self

/-! ### Methods -/

variable {R : StepPred rails Unit} {L : List Fact} {σ α β : Type}

/-- An event that posts nothing is no failure. -/
theorem not_failure_of_silent {o : Op} (ho : o.silent = true) (answer : Except Exn o.Res)
    (stage : Stage) :
  ¬ Failure stage ((), ⟨o, answer⟩)
  := by
  rintro ⟨⟩
  cases ho

/-- A silent operation is no fact of the run. -/
theorem facts_cons_of_silent {o : Op} (ho : o.silent = true) (answer : Except Exn o.Res) :
  facts (((), ⟨o, answer⟩) :: past) = facts past
  := by
  rw [facts, List.filterMap_cons, factOf_of_silent ho]
  rfl

/-- A silent operation is no failure, so that the past remains settled. -/
theorem mute_settled :
  Mute fun c => Settled c.past
  := fun _ _ _ ho hc => hc.cons (not_failure_of_silent ho _)

/-- The facts of a run that is settled. -/
def Known (L : List Fact) (c : Config rails Unit) : Prop := facts c.past = L ∧ Settled c.past

/-- Silent operations change neither the facts that are known nor that the past is settled. -/
theorem mute_known (L : List Fact) :
  Mute (Known L)
  := fun o χ c ho hc => ⟨mute_facts L o χ c ho hc.1, mute_settled o χ c ho hc.2⟩

/-- A method that leaves a run settled. -/
abbrev Goes (R : StepPred rails Unit) (x : Method σ α) : Prop :=
  (Protocol.supposing R).Keeps () (fun _ c => Settled c.past) x

/-- A method that adds facts to those of a run, or leaves it settled. -/
abbrev Adds (R : StepPred rails Unit) (L : List Fact) (x : Method σ α) (L' : α → List Fact) :
    Prop :=
  (Protocol.supposing R).Triple () (fun _ => Known L) x (fun a _ => Known (L' a))
    (fun _ _ c => Settled c.past)

/-- A silent method leaves the past settled. -/
theorem goes_of_silently {x : Method σ α} (hx : Silently R (fun c => Settled c.past) x) :
  Goes R x
  := hx.post (fun _ _ _ hc => hc) (fun _ _ _ hc => hc.2)

/-- A silent method adds no facts. -/
theorem adds_of_silently {x : Method σ α} (hx : Silently R (Known L) x) :
  Adds R L x fun _ => L
  := hx.post (fun _ _ _ hc => hc) (fun _ _ _ hc => hc.2.2)

omit [FormatAssertion] in
/-- What a method of a part keeps is kept. -/
theorem triple_within {τ : Type} {enter : τ → σ} {leave : σ → τ → τ} {x : Method σ α}
    {A : Config rails Unit → Prop} {B : α → Config rails Unit → Prop}
    {E : Exn → Config rails Unit → Prop}
    (hx : (Protocol.supposing R).Triple () (fun _ => A) x (fun a _ => B a) (fun e _ => E e)) :
  (Protocol.supposing R).Triple () (fun _ => A) (x.within enter leave) (fun a _ => B a)
    (fun e _ => E e)
  := by
  apply Protocol.Triple.within
  intro o
  exact Protocol.Triple.pre hx fun _ _ hc => hc.1

/-- A method that reads the state leaves the past settled when its continuations do. -/
theorem goes_get {f : σ → Method σ α} (hf : ∀ s, Goes R (f s)) :
  Goes R (get >>= f)
  := by
  apply Protocol.Triple.getting
  intro s
  exact Protocol.Triple.pre (hf s) fun _ _ hc => hc.2

/-- A change of the state leaves the past settled. -/
theorem goes_modify (f : σ → σ) :
  Goes R (modify f : Method σ Unit)
  := Protocol.Triple.modifying fun _ _ hc => hc

/-- An operation that posts no request of an optional stage. -/
theorem goes_perform {o : Op}
    (ho : ∀ answer stage, ¬ Failure stage ((), ⟨o, answer⟩)) :
  Goes R (perform o : Method σ _)
  := by
  apply Protocol.triple_perform
  · exact fun _ => Protocol.stable_of_subsingleton _
  · intro s c χ _ hc
    use trivial
    have hafter : Settled (c.after () o χ).past := hc.cons (ho _)
    cases c.answer o χ <;> exact hafter

/-! ### Requests -/

/-- After the last event, the failure of a stage, the next stage has to begin. -/
structure Failing (stage : Stage) (L : List Fact) (e : Exn)
    (past : List (Unit × Event application)) : Prop where
  degrading : Degrading e
  facts : facts past = .posted stage (.error e) :: L
  last : ∃ event earlier, past = event :: earlier ∧ Failure stage event ∧
    Rails.facts earlier = L ∧ SettledBefore past

/-- The request is the next thing that has to be posted, if anything has to be. -/
def Due (request : Except Exn (Stage × Json ℚ)) (past : List (Unit × Event application)) : Prop :=
  Settled past ∨ ∃ stage event earlier changes, Failure stage event ∧
    SettledBefore (event :: earlier) ∧ NextRequest stage (facts earlier) request ∧
      changes.status = some (nextStatus stage) ∧
        past = ((), ⟨.broadcastStatus (nextStatus stage), .ok ()⟩) ::
          ((), ⟨.updateJob changes, .ok ()⟩) :: event :: earlier

/-- Nothing has to be posted when the request cannot be made. -/
theorem Due.settled_of_error {e : Exn} (h : Due (.error e) past) :
  Settled past
  := by
  rcases h with hsettled | ⟨stage, event, earlier, changes, hfailure, hbefore, hnext, hstatus, rfl⟩
  · exact hsettled
  · have hfollowed : Followed stage earlier
        [((), ⟨.broadcastStatus (nextStatus stage), .ok ()⟩), ((), ⟨.updateJob changes, .ok ()⟩)] :=
      ⟨_, hnext, .announced hstatus nofun⟩
    apply (hbefore.extend hfailure hfollowed ?_).settled
    · exact not_failure_of_silent rfl _
    · intro event' hevent'
      rw [List.mem_singleton.mp hevent']
      exact not_failure_of_silent rfl _

/-- The request is posted. -/
theorem Due.before_of_ok {next : Stage} {payload : Json ℚ} (h : Due (.ok (next, payload)) past)
    (answer : Except Exn Exchange) :
  SettledBefore (((), ⟨.post next payload stageTimeoutSeconds, answer⟩) :: past)
  := by
  rcases h with hsettled | ⟨stage, event, earlier, changes, hfailure, hbefore, hnext, hstatus, rfl⟩
  · exact hsettled.before _
  · have hfollowed : Followed stage earlier
        [((), ⟨.post next payload stageTimeoutSeconds, answer⟩),
          ((), ⟨.broadcastStatus (nextStatus stage), .ok ()⟩),
          ((), ⟨.updateJob changes, .ok ()⟩)] := by
      refine ⟨_, hnext, .announced hstatus ?_⟩
      rintro next' payload' ⟨⟩
      exact ⟨answer, [], rfl⟩
    apply hbefore.extend hfailure hfollowed
    intro event' hevent'
    simp only [List.mem_cons, List.not_mem_nil, or_false] at hevent'
    rcases hevent' with rfl | rfl
    · exact not_failure_of_silent rfl _
    · exact not_failure_of_silent rfl _

/-- The request of a stage is answered, or it fails: only with the failure of an optional stage is
the run not settled. -/
theorem triple_request (stage : Stage) (payload : Json ℚ) :
  (Protocol.supposing R).Triple ()
    (fun (_ : σ) c => facts c.past = L ∧ Due (validRequest stage payload) c.past)
    (request stage payload stageTimeoutSeconds)
    (fun response _ => Known (.posted stage (.ok response) :: L))
    (fun e _ c => (¬ Degrading e ∨ ¬ Optional stage) ∧ Settled c.past ∨
      Failing stage L e c.past)
  := by
  apply Protocol.Triple.bind (B := fun _ _ c => facts c.past = L ∧
    Due (.ok (stage, payload)) c.past)
  · apply Protocol.Triple.ofExcept
    · intro _ hvalid s c hc
      rw [validRequest, hvalid] at hc
      exact hc
    · intro e he s c hc
      rw [validRequest, he] at hc
      exact .inl ⟨.inl (not_degrading_of_validate he), hc.2.settled_of_error⟩
  · intro _
    let asked (exchange : Exchange) : Unit × Event application :=
      ((), ⟨.post stage payload stageTimeoutSeconds, .ok exchange⟩)
    apply Protocol.Triple.bind (B := fun exchange _ c => ∃ earlier,
      c.past = asked exchange :: earlier ∧ facts earlier = L ∧ SettledBefore c.past)
    · apply Protocol.triple_perform
      · exact fun _ => Protocol.stable_of_subsingleton _
      · rintro s c exchange _ ⟨hfacts, hdue⟩
        exact ⟨trivial, c.past, rfl, hfacts, hdue.before_of_ok _⟩
    · intro exchange
      have hfacts (c : Config rails Unit) (earlier : List (Unit × Event application))
          (hpast : c.past = asked exchange :: earlier) :
          facts c.past = .posted stage (receive stage stageTimeoutSeconds exchange) ::
            facts earlier := by
        rw [hpast]
        rfl
      apply Protocol.Triple.ofExcept
      · rintro response hresponse s c ⟨earlier, hpast, rfl, hbefore⟩
        constructor
        · rw [hfacts c earlier hpast, hresponse]
        · rw [hpast] at hbefore ⊢
          apply hbefore.settled
          rintro stage' ⟨optional, received, -⟩
          rw [hresponse] at received
          cases received
      · rintro e he s c ⟨earlier, hpast, rfl, hbefore⟩
        by_cases hfailure : Optional stage ∧ Degrading e
        · right
          refine ⟨hfailure.2, ?_, _, earlier, hpast, ⟨hfailure.1, he, hfailure.2⟩, rfl, hbefore⟩
          rw [hfacts c earlier hpast, he]
        · left
          constructor
          · tauto
          · rw [hpast] at hbefore ⊢
            apply hbefore.settled
            rintro stage' ⟨optional, received, degrading⟩
            rw [he] at received
            cases received
            exact hfailure ⟨optional, degrading⟩

/-! ### The status of the job -/

/-- The job and its row have a status. -/
def Synced (status : Status) (job : Job) : Prop := job.status = status ∧ job.row.status = status

omit [FormatAssertion] in
/-- What is saved is synced. -/
theorem triple_save {B : Config rails Unit → Prop} (hB : Mute B) {status : Status} :
  (Protocol.supposing R).Triple () (fun job c => job.status = status ∧ B c) Job.save
    (fun _ job c => Synced status job ∧ B c) (fun _ _ => B)
  := by
  apply Protocol.Triple.getting
  intro job
  split
  · next hclean =>
    apply Protocol.Triple.ret
    rintro _ c ⟨rfl, hstatus, hc⟩
    refine ⟨⟨hstatus, ?_⟩, hc⟩
    rw [Job.row_of_changes_isEmpty hclean]
    exact hstatus
  · apply Protocol.Triple.bind (B := fun _ _ c => job.status = status ∧ B c)
    · have hmute : Mute fun c => job.status = status ∧ B c :=
        fun o χ c ho hc => ⟨hc.1, hB o χ c ho hc.2⟩
      apply (silently_perform hmute rfl).conseq
      · rintro _ c ⟨rfl, hc⟩
        exact hc
      · exact fun _ _ _ hc => hc
      · exact fun _ _ _ hc => hc.2.2
    · rintro _ _ c ⟨hstatus, hc⟩
      exact ⟨⟨hstatus, (congrArg JobRow.status (Job.saved_row job)).trans hstatus⟩, hc⟩

omit [FormatAssertion] in
/-- An advance leaves a copy whose status is that of its row. -/
theorem triple_advanceTo {B : Config rails Unit → Prop} (hB : Mute B) (status : Status) :
  (Protocol.supposing R).Triple () (fun _ => B) (Job.advanceTo status)
    (fun _ job c => Synced status job ∧ B c) (fun _ _ => B)
  := by
  apply Protocol.Triple.bind (B := fun _ job c => Synced status job ∧ B c)
  · apply Protocol.Triple.getting
    intro job
    split
    · exact Protocol.Triple.raise fun _ _ hc => hc.2
    · apply Protocol.Triple.bind (B := fun _ job c => job.status = status ∧ B c)
      · exact Protocol.Triple.modifying fun _ _ hc => ⟨rfl, hc.2⟩
      · exact fun _ => triple_save hB
  · intro _
    apply Protocol.Triple.getting
    intro job
    apply Protocol.triple_perform
    · exact fun _ => Protocol.stable_of_subsingleton _
    · rintro s c χ _ ⟨rfl, hjob, hc⟩
      use trivial
      have hafter := hB (.broadcastStatus s.status) χ c rfl hc
      cases c.answer (.broadcastStatus s.status) χ with
      | ok a => exact ⟨hjob, hafter⟩
      | error e => exact hafter

section Written

variable {status old : Status} {before : List (Unit × Event application)}

omit [FormatAssertion] in
/-- A status that the row does not have is written. -/
theorem triple_save_written (hne : status ≠ old) :
  (Protocol.supposing R).Triple ()
    (fun job c => job.status = status ∧ job.row.status = old ∧ c.past = before) Job.save
    (fun _ job c => Synced status job ∧ ∃ changes, changes.status = some status ∧
      c.past = ((), ⟨.updateJob changes, .ok ()⟩) :: before)
    (fun _ _ c => ∃ changes e, changes.status = some status ∧
      c.past = ((), ⟨.updateJob changes, .error e⟩) :: before)
  := by
  have hwritten (job : Job) (hstatus : job.status = status) (hrow : job.row.status = old) :
      job.status ≠ job.row.status := by
    rw [hstatus, hrow]
    exact hne
  apply Protocol.Triple.getting
  intro job
  split
  · next hclean =>
    rintro s c ⟨rfl, hstatus, hrow, -⟩
    rw [Job.changes_isEmpty_of_ne (hwritten s hstatus hrow)] at hclean
    cases hclean
  · apply Protocol.Triple.bind (B := fun _ _ c => job.status = status ∧
      job.changes.status = some status ∧
        c.past = ((), ⟨.updateJob job.changes, .ok ()⟩) :: before)
    · apply Protocol.triple_perform
      · exact fun _ => Protocol.stable_of_subsingleton _
      · rintro s c χ _ ⟨rfl, hstatus, hrow, rfl⟩
        use trivial
        have hchanges : s.changes.status = some status := by
          rw [Job.changes_status_of_ne (hwritten s hstatus hrow), hstatus]
        cases χ with
        | none => exact ⟨hstatus, hchanges, rfl⟩
        | some className => exact ⟨s.changes, _, hchanges, rfl⟩
    · rintro _ _ c ⟨hstatus, hchanges, hpast⟩
      refine ⟨⟨hstatus, ?_⟩, job.changes, hchanges, hpast⟩
      exact (congrArg JobRow.status (Job.saved_row job)).trans hstatus

omit [FormatAssertion] in
/-- The status of the job is written and broadcast. -/
theorem triple_advanceTo_written (hne : status ≠ old) (hopen : old.terminal = false) :
  (Protocol.supposing R).Triple () (fun job c => Synced old job ∧ c.past = before)
    (Job.advanceTo status)
    (fun _ job c => Synced status job ∧ ∃ changes, changes.status = some status ∧
      c.past = ((), ⟨.broadcastStatus status, .ok ()⟩) :: ((), ⟨.updateJob changes, .ok ()⟩) ::
        before)
    (fun _ _ c => ∃ changes e, changes.status = some status ∧
      (c.past = ((), ⟨.updateJob changes, .error e⟩) :: before ∨
        c.past = ((), ⟨.broadcastStatus status, .error e⟩) ::
          ((), ⟨.updateJob changes, .ok ()⟩) :: before))
  := by
  apply Protocol.Triple.bind (B := fun _ job c => Synced status job ∧
    ∃ changes, changes.status = some status ∧
      c.past = ((), ⟨.updateJob changes, .ok ()⟩) :: before)
  · apply Protocol.Triple.getting
    intro job
    split
    · next hterminal =>
      rintro s c ⟨rfl, ⟨hstatus, -⟩, -⟩
      rw [hstatus, hopen] at hterminal
      cases hterminal
    · apply Protocol.Triple.bind (B := fun _ job c => job.status = status ∧
        job.row.status = old ∧ c.past = before)
      · apply Protocol.Triple.modifying
        rintro _ c ⟨-, hsynced, hpast⟩
        exact ⟨rfl, hsynced.2, hpast⟩
      · intro _
        apply (triple_save_written hne).post
        · exact fun _ _ _ hc => hc
        · rintro _ _ c ⟨changes, e, hchanges, hpast⟩
          exact ⟨changes, e, hchanges, .inl hpast⟩
  · intro _
    apply Protocol.Triple.getting
    intro job
    apply Protocol.triple_perform
    · exact fun _ => Protocol.stable_of_subsingleton _
    · rintro s c χ _ ⟨rfl, ⟨rfl, hrow⟩, changes, hchanges, hpast⟩
      use trivial
      cases χ with
      | none =>
          refine ⟨⟨rfl, hrow⟩, changes, hchanges, ?_⟩
          rw [← hpast]
          rfl
      | some className =>
          refine ⟨changes, .standardError className, hchanges, .inr ?_⟩
          rw [← hpast]
          rfl

end Written

/-- After the failure of an optional stage the status of the next stage is written and
broadcast. -/
theorem triple_advanceTo_failing {event : Unit × Event application}
    {earlier : List (Unit × Event application)} {request : Except Exn (Stage × Json ℚ)}
    (hfailure : Failure stage event) (hbefore : SettledBefore (event :: earlier))
    (hnext : NextRequest stage (facts earlier) request) :
  (Protocol.supposing R).Triple ()
    (fun job c => Synced (statusOf stage) job ∧ c.past = event :: earlier)
    (Job.advanceTo (nextStatus stage))
    (fun _ job c => Synced (nextStatus stage) job ∧ facts c.past = facts (event :: earlier) ∧
      Due request c.past)
    (fun _ _ c => Settled c.past)
  := by
  have hne : nextStatus stage ≠ statusOf stage ∧ (statusOf stage).terminal = false := by
    unfold nextStatus statusOf
    split_ifs <;> decide
  apply (triple_advanceTo_written hne.1 hne.2).post
  · rintro _ job c ⟨hsynced, changes, hstatus, hpast⟩
    refine ⟨hsynced, ?_,
      .inr ⟨stage, event, earlier, changes, hfailure, hbefore, hnext, hstatus, hpast⟩⟩
    rw [hpast, facts_cons_of_silent rfl, facts_cons_of_silent rfl]
  · rintro _ _ c ⟨changes, e, hstatus, hpast | hpast⟩
    · rw [hpast]
      have hfollowed : Followed stage earlier [((), ⟨.updateJob changes, .error e⟩)] :=
        ⟨request, hnext, .unwritten hstatus⟩
      apply (hbefore.extend hfailure hfollowed (List.forall_mem_nil _)).settled
      exact not_failure_of_silent rfl _
    · rw [hpast]
      have hfollowed : Followed stage earlier
          [((), ⟨.broadcastStatus (nextStatus stage), .error e⟩),
            ((), ⟨.updateJob changes, .ok ()⟩)] :=
        ⟨request, hnext, .unannounced hstatus⟩
      apply (hbefore.extend hfailure hfollowed ?_).settled
      · exact not_failure_of_silent rfl _
      · intro event' hevent'
        rw [List.mem_singleton.mp hevent']
        exact not_failure_of_silent rfl _

/-- An optional stage has come to an outcome, after which the next stage has to begin if it is a
failure. -/
def Passed (stage : Stage) (L : List Fact) (outcome : Except Exn (Json ℚ)) (job : Job)
    (c : Config rails Unit) : Prop :=
  facts c.past = .posted stage outcome :: L ∧ Synced (statusOf stage) job ∧
    (Settled c.past ∨ ∃ e, outcome = .error e ∧ Failing stage L e c.past)

/-- The status of the stage that follows an optional stage is written and broadcast. -/
theorem triple_advanceTo_passed {outcome : Except Exn (Json ℚ)}
    {request : Except Exn (Stage × Json ℚ)}
    (hnext : ∀ e, outcome = .error e → NextRequest stage L request) :
  (Protocol.supposing R).Triple () (Passed stage L outcome) (Job.advanceTo (nextStatus stage))
    (fun _ job c => Synced (nextStatus stage) job ∧ facts c.past = .posted stage outcome :: L ∧
      Due request c.past)
    (fun _ _ c => Settled c.past)
  := by
  rintro job c ⟨hfacts, hsynced, hsettled | ⟨e, houtcome, hfailing⟩⟩
  · apply (triple_advanceTo (mute_known (.posted stage outcome :: L)) _).post _ _ job c
      ⟨hfacts, hsettled⟩
    · exact fun _ _ _ hc => ⟨hc.1, hc.2.1, .inl hc.2.2⟩
    · exact fun _ _ _ hc => hc.2
  · obtain ⟨event, earlier, hpast, hfailure, rfl, hbefore⟩ := hfailing.last
    rw [hpast] at hbefore hfacts
    have hadvance := triple_advanceTo_failing (R := R) hfailure hbefore (hnext e houtcome)
    rw [hfacts] at hadvance
    exact hadvance job c ⟨hsynced, hpast⟩

/-! ### Stages -/

omit [FormatAssertion] in
/-- A method of the job is run in the orchestrator. -/
theorem triple_onJob {A : Job → Config rails Unit → Prop} {B : α → Job → Config rails Unit → Prop}
    {E : Config rails Unit → Prop} {x : Method Job α}
    (hx : (Protocol.supposing R).Triple () A x B (fun _ _ => E)) :
  (Protocol.supposing R).Triple () (fun o => A o.job) (onJob x) (fun a o => B a o.job)
    (fun _ _ => E)
  := by
  apply Protocol.Triple.within
  intro o
  apply hx.pre
  rintro _ c ⟨hc, rfl⟩
  exact hc

omit [FormatAssertion] in
/-- What is raised while the job is advanced does not degrade a stage. -/
theorem triple_advanceTo_not_degrading (status : Status) :
  (Protocol.supposing R).Triple () (fun _ _ => True) (onJob (Job.advanceTo status))
    (fun _ _ _ => True) (fun e _ _ => ¬ Degrading e)
  := by
  apply Protocol.Triple.within
  intro o
  apply (silently_advanceTo (B := fun _ => True) (fun _ _ _ _ _ => trivial) status).conseq
  · exact fun _ _ _ => trivial
  · exact fun _ _ _ _ => trivial
  · rintro e _ _ ⟨hunexpected, -⟩ hdegrading
    rw [hdegrading.expected] at hunexpected
    cases hunexpected

/-- An optional stage comes to an outcome, or leaves the run settled. -/
theorem triple_optional {A : MeasurementOrchestrator → Config rails Unit → Prop} {payload : Json ℚ}
    {degraded : Exn → Json ℚ} (hstage : Optional stage)
    (hadvance : (Protocol.supposing R).Triple () A (onJob (Job.advanceTo (statusOf stage)))
      (fun _ o c => Synced (statusOf stage) o.job ∧ facts c.past = L ∧
        Due (validRequest stage payload) c.past)
      (fun _ _ c => Settled c.past)) :
  (Protocol.supposing R).Triple () A
    (degrading
      (do
        onJob (Job.advanceTo (statusOf stage))
        request stage payload stageTimeoutSeconds)
      degraded)
    (fun response o c => ∃ outcome, response = orElse degraded outcome ∧
      Passed stage L outcome o.job c)
    (fun _ _ c => Settled c.past)
  := by
  apply Protocol.Triple.rescue (F := fun e o c => ¬ Degrading e ∧ Settled c.past ∨
    Synced (statusOf stage) o.job ∧ Failing stage L e c.past)
  · apply Protocol.Triple.bind (B := fun _ o c => Synced (statusOf stage) o.job ∧
      facts c.past = L ∧ Due (validRequest stage payload) c.past)
    · apply (hadvance.and (triple_advanceTo_not_degrading (statusOf stage))).conseq
      · exact fun _ _ hc => ⟨hc, trivial⟩
      · exact fun _ _ _ hc => hc.1
      · exact fun _ _ _ hc => .inl ⟨hc.2, hc.1⟩
    · intro _
      have hsynced : (Protocol.supposing R).Keeps ()
          (fun (o : MeasurementOrchestrator) _ => Synced (statusOf stage) o.job)
          (request stage payload stageTimeoutSeconds) := by
        apply keeps_request
        intro o
        exact ⟨Protocol.stable_const _, fun _ _ _ _ _ hc => ⟨trivial, hc⟩⟩
      apply (hsynced.and (triple_request (R := R) stage payload)).post
      · rintro response o c ⟨hsynced, hfacts, hsettled⟩
        exact ⟨.ok response, rfl, hfacts, hsynced, .inl hsettled⟩
      · rintro e o c ⟨hsynced, ⟨hnot, hsettled⟩ | hfailing⟩
        · exact .inl ⟨hnot.resolve_right (not_not_intro hstage), hsettled⟩
        · exact .inr ⟨hsynced, hfailing⟩
  · intro e
    have hraise (he : ¬ Degrading e) : (Protocol.supposing R).Triple ()
        (fun o c => ¬ Degrading e ∧ Settled c.past ∨
          Synced (statusOf stage) o.job ∧ Failing stage L e c.past)
        (throw e : Method MeasurementOrchestrator (Json ℚ))
        (fun response o c => ∃ outcome, response = orElse degraded outcome ∧
          Passed stage L outcome o.job c)
        (fun _ _ c => Settled c.past) := by
      apply Protocol.Triple.raise
      rintro o c (⟨-, hsettled⟩ | ⟨-, hfailing⟩)
      · exact hsettled
      · exact absurd hfailing.degrading he
    have hret (he : Degrading e) : (Protocol.supposing R).Triple ()
        (fun o c => ¬ Degrading e ∧ Settled c.past ∨
          Synced (statusOf stage) o.job ∧ Failing stage L e c.past)
        (pure (degraded e) : Method MeasurementOrchestrator (Json ℚ))
        (fun response o c => ∃ outcome, response = orElse degraded outcome ∧
          Passed stage L outcome o.job c)
        (fun _ _ c => Settled c.past) := by
      apply Protocol.Triple.ret
      rintro o c (⟨hnot, -⟩ | ⟨hsynced, hfailing⟩)
      · exact absurd he hnot
      · exact ⟨.error e, rfl, hfailing.facts, hsynced, .inr ⟨e, rfl, hfailing⟩⟩
    cases e with
    | sidecar errorClass message =>
        cases errorClass with
        | schemaError =>
            apply hraise
            rintro ⟨_, _, ⟨⟩, hclass⟩
            exact hclass rfl
        | _ => exact hret ⟨_, _, rfl, by decide⟩
    | _ =>
        apply hraise
        rintro ⟨_, _, ⟨⟩, _⟩

/-- A request of a stage that is not optional, when it is due. -/
theorem triple_required (hstage : ¬ Optional stage) (payload : Json ℚ) :
  (Protocol.supposing R).Triple ()
    (fun (_ : σ) c => facts c.past = L ∧ Due (validRequest stage payload) c.past)
    (request stage payload stageTimeoutSeconds)
    (fun response _ => Known (.posted stage (.ok response) :: L))
    (fun _ _ c => Settled c.past)
  := by
  apply (triple_request stage payload).post
  · exact fun _ _ _ hc => hc
  · rintro e _ c (⟨-, hsettled⟩ | hfailing)
    · exact hsettled
    · obtain ⟨event, earlier, -, hfailure, -⟩ := hfailing.last
      cases hfailure with
      | mk optional received degrading => exact absurd optional hstage

/-- What the request that is due is made of, if it is there. -/
theorem triple_ofExcept_due {r : Except Exn α} {f : α → Except Exn (Stage × Json ℚ)} :
  (Protocol.supposing R).Triple () (fun (_ : σ) c => facts c.past = L ∧ Due (r >>= f) c.past)
    (Action.ofExcept r) (fun a _ c => facts c.past = L ∧ Due (f a) c.past)
    (fun _ _ c => Settled c.past)
  := by
  cases r with
  | ok a => exact fun _ _ hc => hc
  | error e => exact fun _ _ hc => hc.2.settled_of_error

section Geometry

variable {resolve lidarResponse refinedPolygon : Json ℚ} {outcome : Except Exn (Json ℚ)}
  (hnext : ∀ e, outcome = .error e →
    NextRequest refineOutline L (geometryRequest resolve lidarResponse refinedPolygon))

include hnext

/-- The job is advanced to the stage that measures the geometry. -/
theorem triple_advanceTo_fittingPlanes :
  (Protocol.supposing R).Triple () (fun o c => Passed refineOutline L outcome o.job c)
    (onJob (Job.advanceTo .fittingPlanes))
    (fun _ _ c => facts c.past = .posted refineOutline outcome :: L ∧
      Due (geometryRequest resolve lidarResponse refinedPolygon) c.past)
    (fun _ _ c => Settled c.past)
  := by
  have hadvance := triple_advanceTo_passed (R := R) hnext
  rw [nextStatus_refineOutline] at hadvance
  apply (triple_onJob hadvance).post
  · exact fun _ _ _ hc => hc.2
  · exact fun _ _ _ hc => hc

/-- After the outline stage the planes are fitted, with the request that follows it. -/
theorem triple_fitPlanesStage (havailable : lidarIsAvailable lidarResponse = true) :
  (Protocol.supposing R).Triple () (fun o c => Passed refineOutline L outcome o.job c)
    (fitPlanesStage lidarResponse refinedPolygon) (fun _ _ c => Settled c.past)
    (fun _ _ c => Settled c.past)
  := by
  have hadvance := triple_advanceTo_fittingPlanes (R := R) hnext
  rw [geometryRequest, if_pos havailable] at hadvance
  apply Protocol.Triple.bind hadvance
  intro _
  apply Protocol.Triple.bind triple_ofExcept_due
  intro lidar
  apply Protocol.Triple.bind triple_ofExcept_due
  intro pointArrayRef
  apply Protocol.Triple.bind triple_ofExcept_due
  intro utmZone
  apply (triple_required (by unfold Optional; decide) _).post
  · exact fun _ _ _ hc => hc.2
  · exact fun _ _ _ hc => hc

/-- After the outline stage the roof is measured without LiDAR, with the request that follows it. -/
theorem triple_fallbackStage (havailable : ¬ lidarIsAvailable lidarResponse = true) :
  (Protocol.supposing R).Triple () (fun o c => Passed refineOutline L outcome o.job c)
    (fallbackStage refinedPolygon resolve) (fun _ _ c => Settled c.past)
    (fun _ _ c => Settled c.past)
  := by
  have hadvance := triple_advanceTo_fittingPlanes (R := R) hnext
  rw [geometryRequest, if_neg havailable] at hadvance
  apply Protocol.Triple.bind hadvance
  intro _
  apply Protocol.Triple.bind triple_ofExcept_due
  intro utmZone
  apply (triple_required (by unfold Optional; decide) _).post
  · exact fun _ _ _ hc => hc.2
  · exact fun _ _ _ hc => hc

/-- After the outline stage the geometry is measured, with LiDAR or without it. -/
theorem triple_geometryStage [Platform] :
  (Protocol.supposing R).Triple () (fun o c => Passed refineOutline L outcome o.job c)
    (geometryStage resolve lidarResponse refinedPolygon) (fun _ _ c => Settled c.past)
    (fun _ _ c => Settled c.past)
  := by
  rw [geometryStage]
  split
  · next havailable =>
    apply Protocol.Triple.bind (triple_fitPlanesStage hnext havailable)
    intro geometry
    exact Protocol.Triple.ret fun _ _ hc => hc
  · next havailable =>
    apply Protocol.Triple.bind (B := fun _ o c => Passed refineOutline L outcome o.job c)
    · apply Protocol.Triple.within
      rintro o _ c ⟨hc, rfl⟩
      unfold noteLidarMissing
      split
      · exact hc
      · exact hc
    · intro _
      apply Protocol.Triple.bind (triple_fallbackStage hnext havailable)
      intro geometry
      exact Protocol.Triple.ret fun _ _ hc => hc

end Geometry

/-! ### The pipeline -/

/-- The facts of a run are not added to by an advance. -/
theorem adds_advanceTo (status : Status) :
  Adds R L (onJob (Job.advanceTo status)) fun _ => L
  := triple_within (adds_of_silently (silently_advanceTo (mute_known L) status))

/-- A request of a stage that is not optional. -/
theorem adds_request (hstage : ¬ Optional stage) (payload : Json ℚ) :
  Adds R L (request stage payload stageTimeoutSeconds : Method σ _)
    fun response => .posted stage (.ok response) :: L
  := (triple_required hstage payload).pre fun _ _ hc => ⟨hc.1, .inl hc.2⟩

/-- Reopening the job adds nothing. -/
theorem adds_reopen :
  Adds R L reopen fun _ => L
  := by
  apply Protocol.Triple.getting
  intro o
  apply Protocol.Triple.pre (A := fun _ => Known L) _ (fun _ _ hc => hc.2)
  split
  · apply triple_within
    apply adds_of_silently
    apply silently_bind (silently_modify _)
    intro _
    exact silently_save (mute_known L)
  · exact Protocol.Triple.ret fun _ _ hc => hc

/-- The stage of the address adds its response. -/
theorem adds_resolveAddressStage :
  Adds R L resolveAddressStage fun resolve => .posted resolveAddress (.ok resolve) :: L
  := by
  apply Protocol.Triple.bind (adds_advanceTo _)
  intro _
  apply Protocol.Triple.getting
  intro o
  apply Protocol.Triple.pre (adds_request (by unfold Optional; decide) _)
  exact fun _ _ hc => hc.2

/-- The stage of the imagery adds its response. -/
theorem adds_imageryStage (buildingPolygon : Json ℚ) :
  Adds R L (imageryStage buildingPolygon) fun imagery => .posted renderImagery (.ok imagery) :: L
  := by
  apply Protocol.Triple.bind (adds_advanceTo _)
  intro _
  exact adds_request (by unfold Optional; decide) _

/-- The start of the detection adds nothing. -/
theorem adds_start :
  Adds R L (onVlm VlmRunner.start) fun _ => L
  := by
  apply triple_within
  apply adds_of_silently
  apply silently_bind (silently_perform (mute_known L) rfl)
  intro _
  exact silently_modify _

/-- A value that may not be there. -/
theorem triple_ofExcept_known {r : Except Exn α} :
  (Protocol.supposing R).Triple () (fun (_ : σ) => Known L) (Action.ofExcept r)
    (fun a _ c => r = .ok a ∧ Known L c) (fun _ _ c => Settled c.past)
  := Protocol.Triple.ofExcept (fun _ ha _ _ hc => ⟨ha, hc⟩) (fun _ _ _ _ hc => hc.2)

/-- Joining the detection leaves the past settled. -/
theorem goes_join :
  Goes R (onVlm VlmRunner.join)
  := by
  apply triple_within
  apply Protocol.Keeps.bind (goes_modify _)
  intro _
  apply Protocol.Keeps.bind (goes_perform fun _ _ => by rintro ⟨⟩)
  intro result
  cases result with
  | timedOut => exact Protocol.Keeps.bind (goes_modify _) fun _ => Protocol.Keeps.ret _
  | error message => exact Protocol.Keeps.bind (goes_modify _) fun _ => Protocol.Keeps.ret _
  | features features => exact Protocol.Keeps.ret _

/-- Persisting the measurement leaves the past settled. -/
theorem goes_createAndAdvance (m : MeasurementAttributes) :
  Goes R (createAndAdvance m)
  := by
  apply Protocol.Keeps.bind (goes_of_silently (silently_perform mute_settled rfl))
  intro _
  apply goes_get
  intro job
  split
  · exact Protocol.Keeps.raise _
  · apply Protocol.Keeps.bind (goes_modify _)
    intro _
    apply goes_get
    intro job'
    apply Protocol.Keeps.bind (goes_perform fun _ _ => by rintro ⟨⟩)
    intro measurement
    exact Protocol.Keeps.bind (fun _ _ hc => hc) fun _ => Protocol.Keeps.ret _

/-- A LiDAR stage that fails is replaced by the synthetic response, and the failure has not been
followed by anything yet. -/
theorem triple_lidarStage (buildingPolygon parcelPolygon : Json ℚ) :
  (Protocol.supposing R).Triple () (fun _ => Known L) (lidarStage buildingPolygon parcelPolygon)
    (fun response o c => ∃ outcome, response = orElse syntheticLidarMissing outcome ∧
      Passed ingestLidar L outcome o.job c)
    (fun _ _ c => Settled c.past)
  := by
  rw [lidarStage, ← statusOf_ingestLidar]
  apply triple_optional (.inl rfl)
  apply (triple_onJob (triple_advanceTo (mute_known L) _)).post
  · exact fun _ _ _ hc => ⟨hc.1, hc.2.1, .inl hc.2.2⟩
  · exact fun _ _ _ hc => hc.2

/-- The outline stage, whatever the LiDAR stage has come to. -/
theorem triple_refineStage {resolve imagery buildingPolygon imageTileRef imageGeoBounds : Json ℚ}
    {lidar : Except Exn (Json ℚ)} {selection : ℤ}
    (hpicked : pickBuildingPolygon selection resolve = .ok buildingPolygon)
    (himageTileRef : Ruby.fetch imagery "image_tile_ref" = .ok imageTileRef)
    (himageGeoBounds : Ruby.fetch imagery "image_geo_bounds" = .ok imageGeoBounds) :
  (Protocol.supposing R).Triple ()
    (fun o c => Passed ingestLidar
      [.posted renderImagery (.ok imagery), .posted resolveAddress (.ok resolve)] lidar o.job c)
    (refineStage imageTileRef buildingPolygon imageGeoBounds)
    (fun response o c => ∃ outcome,
      response = orElse (syntheticUnrefinedOutline buildingPolygon) outcome ∧
        Passed refineOutline
          [.posted ingestLidar lidar, .posted renderImagery (.ok imagery),
            .posted resolveAddress (.ok resolve)] outcome o.job c)
    (fun _ _ c => Settled c.past)
  := by
  have hnext : NextRequest ingestLidar
      [.posted renderImagery (.ok imagery), .posted resolveAddress (.ok resolve)]
      (outlineRequest imagery buildingPolygon) := .outline hpicked
  rw [outlineRequest, himageTileRef, himageGeoBounds] at hnext
  have hadvance := triple_onJob (triple_advanceTo_passed (R := R) fun e (_ : lidar = .error e) =>
    hnext)
  rw [nextStatus_ingestLidar, ← statusOf_refineOutline] at hadvance
  rw [refineStage, ← statusOf_refineOutline]
  exact triple_optional (.inr rfl) hadvance

variable [Platform]

/-- Assembling and persisting the measurement leaves the past settled. -/
theorem goes_assembleAndPersist (outputs : MeasurementAssembler.StageOutputs) :
  Goes R (assembleAndPersist outputs)
  := by
  apply goes_get
  intro o
  apply Protocol.Keeps.bind (Protocol.Keeps.ofExcept _)
  intro _
  apply Protocol.Keeps.bind (goes_of_silently (silently_perform mute_settled rfl))
  intro now
  apply triple_within
  apply goes_get
  intro job
  apply Protocol.Keeps.bind (goes_of_silently (silently_perform mute_settled rfl))
  intro generatedAt
  apply Protocol.Keeps.bind (goes_createAndAdvance _)
  intro measurement
  apply Protocol.Keeps.bind (goes_of_silently (silently_ensureReportFor mute_settled))
  intro _
  apply Protocol.Keeps.bind (goes_of_silently (silently_broadcastStatus mute_settled))
  intro _
  exact Protocol.Keeps.ret _

/-- A run of the stages is settled. -/
theorem triple_runPipelineStages :
  (Protocol.supposing R).Triple () (fun _ => Known []) runPipelineStages
    (fun _ _ c => Settled c.past) (fun _ _ c => Settled c.past)
  := by
  apply Protocol.Triple.bind adds_reopen
  intro _
  apply Protocol.Triple.bind adds_resolveAddressStage
  intro resolve
  apply Protocol.Triple.getting
  intro o
  apply Protocol.Triple.pre (A := fun _ => Known [.posted resolveAddress (.ok resolve)]) _
    (fun _ _ hc => hc.2)
  apply Protocol.Triple.bind triple_ofExcept_known
  intro buildingPolygon
  apply Protocol.Triple.assuming
  intro hpicked
  apply Protocol.Triple.bind (adds_imageryStage buildingPolygon)
  intro imagery
  apply Protocol.Triple.bind triple_ofExcept_known
  intro imageTileRef
  apply Protocol.Triple.assuming
  intro himageTileRef
  apply Protocol.Triple.bind triple_ofExcept_known
  intro imageGeoBounds
  apply Protocol.Triple.assuming
  intro himageGeoBounds
  apply Protocol.Triple.bind (adds_advanceTo _)
  intro _
  apply Protocol.Triple.bind adds_start
  intro _
  apply Protocol.Triple.bind (triple_lidarStage _ _)
  intro lidarResponse
  apply Protocol.Triple.exists_pre
  intro lidar
  apply Protocol.Triple.assuming
  rintro rfl
  apply Protocol.Triple.bind (triple_refineStage hpicked himageTileRef himageGeoBounds)
  intro refined
  apply Protocol.Triple.exists_pre
  intro outcome
  apply Protocol.Triple.assuming
  rintro rfl
  apply Protocol.Triple.bind (B := fun refinedPolygon o c =>
    Ruby.fetch (orElse (syntheticUnrefinedOutline buildingPolygon) outcome) "refined_polygon" =
      .ok refinedPolygon ∧ Passed refineOutline
        [.posted ingestLidar lidar, .posted renderImagery (.ok imagery),
          .posted resolveAddress (.ok resolve)] outcome o.job c)
  · apply Protocol.Triple.ofExcept
    · exact fun _ hfetch _ _ hc => ⟨hfetch, hc⟩
    · rintro e he o c ⟨-, -, hsettled | ⟨e', rfl, -⟩⟩
      · exact hsettled
      · cases he
  intro refinedPolygon
  apply Protocol.Triple.assuming
  intro hfetch
  apply Protocol.Triple.bind
  · apply triple_geometryStage
    rintro e rfl
    cases hfetch
    exact .geometry hpicked
  rintro ⟨geometry, source⟩
  apply Protocol.Triple.bind (Protocol.Keeps.ofExcept _)
  intro _
  apply Protocol.Triple.bind goes_join
  intro features
  exact goes_assembleAndPersist _

omit [Platform] in
/-- Cleaning up after the detection leaves the past settled. -/
theorem goes_cleanup :
  Goes R (onVlm VlmRunner.cleanup)
  := by
  apply triple_within
  apply goes_of_silently
  apply silently_get
  intro vlm
  apply silently_bind (silently_modify _)
  intro _
  split
  · exact silently_perform mute_settled rfl
  · exact silently_ret _

/-- A run of the orchestrator is settled. -/
theorem triple_attempted :
  (Protocol.supposing R).Triple () (fun _ => Known []) attempted (fun _ _ c => Settled c.past)
    (fun _ _ c => Settled c.past)
  := by
  apply Protocol.Triple.bind (B := fun _ _ => Known [])
  · exact triple_within (adds_of_silently (silently_cachedMeasurement (mute_known [])))
  · intro cached
    cases cached with
    | some recent => exact Protocol.Triple.ret fun _ _ hc => hc.2
    | none =>
        apply Protocol.Triple.bind
        · exact Protocol.Triple.ensuring triple_runPipelineStages (fun _ => goes_cleanup)
            (fun _ => goes_cleanup)
        · intro measurement
          exact Protocol.Triple.ret fun _ _ hc => hc

/-- After every failure of an optional stage in a run the next stage has begun. -/
theorem settled_run (w : World) (job : Job) (χ : ℕ → rails.Choices) :
  Settled ((attempted (new job)).run () χ ⟨w, []⟩).2.past
  := by
  have hsettled := Protocol.run_of_wp_free (triple_attempted (R := fun _ _ _ _ => True) (new job)
    ⟨w, []⟩ ⟨rfl, settled_nil⟩) χ
  revert hsettled
  generalize (attempted (new job)).run () χ ⟨w, []⟩ = result
  obtain ⟨⟨r, o⟩, c⟩ := result
  cases r <;> exact fun hsettled => hsettled

end Settled

end Succession

end Rails
