import RoofTrace.Rails.PipelineRule

/-!
# What a run of the pipeline commits

The facts of a run are what the stages were answered, what the detection has come to, and the
measurement that was committed. A `StageRun` is what the stages of a run have come to, with
the measurement that is made of it. A run commits nothing, or the measurement of the stages
whose facts are those of the run.
-/

namespace Rails

open Effects SidecarClient

/-! ### Facts -/

inductive Fact where
  | posted (stage : SidecarClient.Stage) (outcome : Except Exn (Json ℚ))
  | joined (result : VlmResult)
  | committed (m : Measurement)

section Facts

variable [FormatAssertion]

def factOf : Event application → Option Fact
  | ⟨.post stage _ timeout, .ok exchange⟩ => some (.posted stage (receive stage timeout exchange))
  | ⟨.joinVlm, .ok result⟩ => some (.joined result)
  | ⟨.commit _ _, .ok m⟩ => some (.committed m)
  | _ => none

/-- The facts of a run, the last one first. -/
def facts (past : List (Unit × Event application)) : List Fact :=
  past.filterMap fun e => factOf e.2

/-- Operations that are no fact. -/
def Op.silent : Op → Bool
  | .post _ _ _ => false
  | .joinVlm => false
  | .commit _ _ => false
  | _ => true

/-- A silent operation is no fact. -/
theorem factOf_of_silent {o : Op} (h : o.silent = true) (x : Except Exn o.Res) :
  factOf ⟨o, x⟩ = none
  := by
  cases o <;> first | rfl | cases h

/-- A response that a stage was answered is one that its definition accepts. -/
theorem accepted_of_mem_facts {past : List (Unit × Event application)} {stage : Stage}
    {response : Json ℚ} (h : .posted stage (.ok response) ∈ facts past) :
  validateResponse stage.response response = .ok ()
  := by
  obtain ⟨⟨_, o, answer⟩, -, hfact⟩ := List.mem_filterMap.mp h
  unfold factOf at hfact
  split at hfact
  · simp only [Option.some.injEq, Fact.posted.injEq] at hfact
    obtain ⟨rfl, hreceived⟩ := hfact
    apply accepted_of_receive_eq_ok hreceived
  · cases hfact
  · cases hfact
  · cases hfact

end Facts

/-! ### The stages of a run -/

namespace MeasurementOrchestrator

open MeasurementAssembler

/-- The exceptions that degrade a stage. -/
def Degrading (e : Exn) : Prop :=
  ∃ errorClass message, e = .sidecar errorClass message ∧ errorClass ≠ .schemaError

/-- What `note_lidar_missing` adds to the warnings. -/
def lidarNote [Platform] (lidarResponse : Json ℚ) : Json ℚ :=
  let warning := Ruby.first (Ruby.array (lidarResponse.get "warnings"))
  if Ruby.truthy (lidarResponse.get "degraded") then warning
  else
    let reason :=
      Ruby.or (Ruby.or warning ((lidarResponse.get "lidar").get "status"))
        (.str "no 3DEP coverage")
    .str s!"lidar_missing: {Platform.toS reason}"

/-- What `join` adds to the warnings. -/
def vlmNotes : VlmResult → List (Json ℚ)
  | .timedOut =>
      [.str s!"vlm_failed: detection timed out after {VlmRunner.vlmJoinTimeoutSeconds}s"]
  | .error message => [.str s!"vlm_failed: {message}"]
  | .features _ => []

/-- What `join` returns. -/
def vlmFeatures : VlmResult → List (Json ℚ)
  | .features features => Ruby.array features
  | _ => []

/-- The response of a stage whose failure degrades the run, or what stands in for it. -/
def orElse (degraded : Exn → Json ℚ) : Except Exn (Json ℚ) → Json ℚ
  | .ok response => response
  | .error e => degraded e

/-- What the stages of a run have come to. -/
structure StageRun where
  resolve : Json ℚ
  buildingPolygon : Json ℚ
  imagery : Json ℚ
  lidar : Except Exn (Json ℚ)
  refine : Except Exn (Json ℚ)
  refinedPolygon : Json ℚ
  geometry : Json ℚ
  detection : VlmResult

namespace StageRun

variable (r : StageRun)

/-- The response of the LiDAR stage, or what stands in for it. -/
def lidarResponse : Json ℚ := orElse syntheticLidarMissing r.lidar

/-- The response of the outline stage, or what stands in for it. -/
def refined : Json ℚ := orElse (syntheticUnrefinedOutline r.buildingPolygon) r.refine

def source : String := if lidarIsAvailable r.lidarResponse then "fusion" else "imagery"

def geometryStage : SidecarClient.Stage :=
  if lidarIsAvailable r.lidarResponse then fitPlanes else fallbackMeasurement

/-- The warnings that the run itself accumulates. -/
def accumulated [Platform] : List (Json ℚ) :=
  (if lidarIsAvailable r.lidarResponse then [] else [lidarNote r.lidarResponse]) ++
    vlmNotes r.detection

def warnings [Platform] : List (Json ℚ) :=
  collectWarnings r.accumulated r.imagery r.refined r.geometry

def confidence : ℚ := overallConfidence r.resolve r.geometry (r.source == "fusion")

def outputs : StageOutputs where
  resolve := r.resolve
  buildingPolygon := r.buildingPolygon
  imagery := r.imagery
  lidarResponse := r.lidarResponse
  refined := r.refined
  refinedPolygon := r.refinedPolygon
  geometry := r.geometry
  source := r.source
  features := vlmFeatures r.detection

def document (jobId : String) : Json ℚ := buildMeasurementDocument jobId r.outputs r.confidence

/-- The facts of a run before it commits, the last one first. -/
def facts : List Fact :=
  [.joined r.detection, .posted r.geometryStage (.ok r.geometry), .posted refineOutline r.refine,
    .posted ingestLidar r.lidar, .posted renderImagery (.ok r.imagery),
    .posted resolveAddress (.ok r.resolve)]

end StageRun

/-- A measurement has the members of a document, and warnings. -/
structure RowOf (document : Json ℚ) (warnings : List (Json ℚ)) (m : Measurement) : Prop where
  footprint : m.footprint = document.get "footprint"
  roofOutline : m.roofOutline = document.get "roof_outline"
  lidar : m.lidar = document.get "lidar"
  facets : m.facets = Ruby.array (document.get "facets")
  features : m.features = Ruby.array (document.get "features")
  source : m.source = Ruby.text (document.get "source")
  confidence : m.confidence = Ruby.toF (document.get "confidence")
  warnings : m.warnings = warnings

/-- A measurement is that of the stages of a run, whose facts are those of the stages. -/
structure Commits [FormatAssertion] [Platform] (r : StageRun) (m : Measurement)
    (facts : List Fact) : Prop where
  facts : facts = .committed m :: r.facts
  lidar : ∀ e, r.lidar = .error e → Degrading e
  refine : ∀ e, r.refine = .error e → Degrading e
  picked : ∃ selection, pickBuildingPolygon selection r.resolve = .ok r.buildingPolygon
  refinedPolygon : Ruby.fetch r.refined "refined_polygon" = .ok r.refinedPolygon
  row : ∃ jobId, validateMeasurement (r.document jobId) = .ok () ∧
    RowOf (r.document jobId) r.warnings m

/-! ### The columns of a measurement -/

section Columns

variable {r : StageRun} {m : Measurement} {jobId : String} {warnings : List (Json ℚ)}

/-- The source of a row is that of its run. -/
theorem RowOf.source_eq (h : RowOf (r.document jobId) warnings m) :
  m.source = r.source
  := h.source

/-- The members of a document that are polygons are the same when the polygons are. -/
theorem RowOf.roofOutline_eq_footprint (h : RowOf (r.document jobId) warnings m)
    (hsame : r.refinedPolygon = r.buildingPolygon) :
  m.roofOutline = m.footprint
  := by
  rw [h.roofOutline, h.footprint]
  simp only [StageRun.document, buildMeasurementDocument, StageRun.outputs, hsame, ifTruthy,
    unlessNil]
  split_ifs <;> rfl

end Columns

/-! ### What is no fact -/

/-- An assertion that is kept by what is no fact. -/
def Mute (B : Config rails Unit → Prop) : Prop :=
  ∀ (o : Op) (χ : rails.Choice o) (c : Config rails Unit), o.silent = true → B c →
    B (c.after () o χ)

/-- The facts of a run are not added to by silent operations. -/
theorem mute_facts [FormatAssertion] (L : List Fact) :
  Mute fun c => facts c.past = L
  := by
  intro o χ c ho hc
  rw [← hc, Config.after_past, facts, List.filterMap_cons, factOf_of_silent ho]
  rfl

section Silently

variable {R : StepPred rails Unit} {σ α β : Type} {B : Config rails Unit → Prop}

/-- A method of which nothing is a fact, and that raises nothing that is expected. -/
abbrev Silently (R : StepPred rails Unit) (B : Config rails Unit → Prop) (x : Method σ α) : Prop :=
  (Protocol.supposing R).Triple () (fun _ => B) x (fun _ _ => B)
    (fun e _ c => e.expected = false ∧ B c)

/-- A silent operation is silent. -/
theorem silently_perform (hB : Mute B) {o : Op} (ho : o.silent = true) :
  Silently R B (perform o : Method σ _)
  := by
  apply Protocol.triple_perform
  · exact fun _ => Protocol.stable_of_subsingleton _
  · intro s c χ _ hc
    use trivial
    cases hanswer : c.answer o χ with
    | ok a => exact hB o χ c ho hc
    | error e => exact ⟨expected_of_exec_eq_error hanswer, hB o χ c ho hc⟩

/-- A result is silent. -/
theorem silently_ret (a : α) :
  Silently R B (pure a : Method σ α)
  := Protocol.Triple.ret fun _ _ hc => hc

/-- A change of the fields is silent. -/
theorem silently_modify (f : σ → σ) :
  Silently R B (modify f : Method σ Unit)
  := Protocol.Triple.modifying fun _ _ hc => hc

/-- Two silent methods are silent together. -/
theorem silently_bind {x : Method σ α} {f : α → Method σ β} (hx : Silently R B x)
    (hf : ∀ a, Silently R B (f a)) :
  Silently R B (x >>= f)
  := Protocol.Triple.bind hx hf

/-- Reading the fields is silent. -/
theorem silently_get {f : σ → Method σ α} (hf : ∀ s, Silently R B (f s)) :
  Silently R B (get >>= f)
  := by
  apply Protocol.Triple.getting
  intro s
  apply (hf s).pre
  exact fun _ _ hc => hc.2

/-- An UPDATE of the job is silent. -/
theorem silently_save (hB : Mute B) :
  Silently R B Job.save
  := by
  apply silently_get
  intro job
  split
  · apply silently_ret
  · apply silently_bind (silently_perform hB rfl)
    intro _
    exact Protocol.Triple.modifying fun _ _ hc => hc

/-- A broadcast is silent. -/
theorem silently_broadcastStatus (hB : Mute B) :
  Silently R B Job.broadcastStatus
  := silently_get fun _ => silently_perform hB rfl

/-- An advance is silent. -/
theorem silently_advanceTo (hB : Mute B) (status : Status) :
  Silently R B (Job.advanceTo status)
  := by
  apply silently_bind
  · apply silently_get
    intro job
    split
    · exact Protocol.Triple.raise fun _ _ hc => ⟨rfl, hc⟩
    · apply silently_bind (silently_modify _)
      intro _
      apply silently_save hB
  · intro _
    apply silently_broadcastStatus hB

/-- A failure of the job is silent. -/
theorem silently_failWith (hB : Mute B) (message : String) :
  Silently R B (Job.failWith message)
  := by
  apply silently_bind (silently_modify _)
  intro _
  apply silently_bind (silently_save hB)
  intro _
  apply silently_broadcastStatus hB

/-- A search of the cache is silent. -/
theorem silently_cachedMeasurement [Platform] (hB : Mute B) :
  Silently R B Job.cachedMeasurement
  := by
  apply silently_bind (silently_perform hB rfl)
  intro latest
  cases latest with
  | none => apply silently_ret
  | some recent =>
      apply silently_bind (silently_perform hB rfl)
      intro now
      split
      · apply silently_ret
      · apply silently_get
        intro job
        split
        · split
          · apply silently_bind (silently_advanceTo hB _)
            intro _
            apply silently_ret
          · apply silently_ret
        · apply silently_ret

/-- The report is ensured silently. -/
theorem silently_ensureReportFor (hB : Mute B) :
  Silently R B (ensureReportFor : Method σ Unit)
  := by
  apply Protocol.Triple.rescue (silently_perform hB rfl)
  intro e
  split
  · apply (silently_perform hB rfl).pre
    exact fun _ _ hc => hc.2
  · exact Protocol.Triple.raise fun _ _ hc => hc

end Silently

/-! ### What is a fact -/

section Stages

variable [FormatAssertion] {R : StepPred rails Unit} {L : List Fact} {ws : List (Json ℚ)}
  {α : Type}

/-- The facts of the run so far, and the warnings that it has accumulated. -/
def At (L : List Fact) (ws : List (Json ℚ)) (o : MeasurementOrchestrator)
    (c : Config rails Unit) : Prop :=
  facts c.past = L ∧ o.vlm.warnings = ws

/-- Nothing has been committed. -/
def Uncommitted (c : Config rails Unit) : Prop := ∀ m, .committed m ∉ facts c.past

/-- Silent operations leave an orchestrator where it is. -/
theorem mute_at (o : MeasurementOrchestrator) :
  Mute (At L ws o)
  := fun o' χ c ho hc => ⟨mute_facts L o' χ c ho hc.1, hc.2⟩

/-- Nothing has been committed as long as no fact is a commit. -/
theorem At.uncommitted {o : MeasurementOrchestrator} {c : Config rails Unit} (h : At L ws o c)
    (hL : ∀ m, .committed m ∉ L) :
  Uncommitted c
  := by
  unfold Uncommitted
  rw [h.1]
  exact hL

omit [FormatAssertion] in
/-- What degrades a run is expected. -/
theorem Degrading.expected {e : Exn} (h : Degrading e) :
  e.expected = true
  := by
  obtain ⟨errorClass, message, rfl, -⟩ := h
  rfl

/-- A violation of the contract does not degrade a run. -/
theorem not_degrading_of_validate {failure entity : String} {payload : Json ℚ} {e : Exn}
    (h : validate failure entity payload = .error e) :
  ¬ Degrading e
  := by
  rintro ⟨errorClass, message, rfl, hclass⟩
  cases hentity : PipelineSchema.def? entity with
  | none =>
      simp only [validate, valid, hentity, bind, Except.bind] at h
      cases h
  | some schema =>
      obtain ⟨message', hschema⟩ := sidecar_of_validate_eq_error (by rw [hentity]; rfl) h
      cases hschema
      exact hclass rfl

/-- What holds after an exception of a stage: it was received, or it does not degrade. -/
def Failed (stage : SidecarClient.Stage) (L : List Fact) (ws : List (Json ℚ)) (e : Exn)
    (o : MeasurementOrchestrator) (c : Config rails Unit) : Prop :=
  At (.posted stage (.error e) :: L) ws o c ∨ (¬ Degrading e ∧ At L ws o c)

/-- Nothing has been committed when a stage has failed. -/
theorem Failed.uncommitted {stage : SidecarClient.Stage} {e : Exn} {o : MeasurementOrchestrator}
    {c : Config rails Unit} (h : Failed stage L ws e o c) (hL : ∀ m, .committed m ∉ L) :
  Uncommitted c
  := by
  rcases h with hreceived | ⟨-, hbefore⟩
  · apply hreceived.uncommitted
    intro m hm
    rcases List.mem_cons.mp hm with heq | hrest
    · cases heq
    · exact hL m hrest
  · exact hbefore.uncommitted hL

/-- A silent method of the job leaves the orchestrator where it is. -/
theorem triple_onJob_at {x : Method Job α} (hx : ∀ B, Mute B → Silently R B x) :
  (Protocol.supposing R).Triple () (At L ws) (onJob x) (fun _ => At L ws)
    (fun e o c => e.expected = false ∧ At L ws o c)
  := by
  apply Protocol.Triple.within
  intro o
  apply (hx (At L ws o) (mute_at o)).conseq
  · exact fun _ _ hc => hc.1
  · exact fun _ _ _ hc => hc
  · exact fun _ _ _ hc => hc

/-- The request of a stage is answered, or it fails. -/
theorem triple_request_at (stage : SidecarClient.Stage) (payload : Json ℚ) (timeout : ℕ) :
  (Protocol.supposing R).Triple () (At L ws) (request stage payload timeout)
    (fun response => At (.posted stage (.ok response) :: L) ws) (Failed stage L ws)
  := by
  apply Protocol.Triple.bind (B := fun _ => At L ws)
  · apply Protocol.Triple.ofExcept
    · exact fun _ _ _ _ hc => hc
    · exact fun e he _ _ hc => .inr ⟨not_degrading_of_validate he, hc⟩
  · intro _
    apply Protocol.Triple.bind
      (B := fun exchange => At (.posted stage (receive stage timeout exchange) :: L) ws)
    · apply Protocol.triple_perform
      · exact fun _ => Protocol.stable_of_subsingleton _
      · intro o c exchange _ hc
        use trivial
        refine ⟨?_, hc.2⟩
        rw [← hc.1]
        rfl
    · intro exchange
      apply Protocol.Triple.ofExcept
      · intro response hresponse o c hc
        rw [hresponse] at hc
        exact hc
      · intro e he o c hc
        rw [he] at hc
        exact .inl hc

/-- A stage: the job is advanced before the request. -/
theorem triple_stage_at (status : Status) {stage : SidecarClient.Stage}
    {next : Method MeasurementOrchestrator (Json ℚ)}
    (hnext : (Protocol.supposing R).Triple () (At L ws) next
      (fun response => At (.posted stage (.ok response) :: L) ws) (Failed stage L ws)) :
  (Protocol.supposing R).Triple () (At L ws) (do onJob (Job.advanceTo status); next)
    (fun response => At (.posted stage (.ok response) :: L) ws) (Failed stage L ws)
  := by
  apply Protocol.Triple.bind (B := fun _ => At L ws)
  · apply (triple_onJob_at fun _ hB => silently_advanceTo hB status).post
    · exact fun _ _ _ hc => hc
    · rintro e o c ⟨hunexpected, hc⟩
      right
      refine ⟨fun hdegrading => ?_, hc⟩
      rw [hdegrading.expected] at hunexpected
      cases hunexpected
  · intro _
    exact hnext

/-- A stage whose failure degrades the run is answered, or its failure is received. -/
theorem triple_degrading_at {stage : SidecarClient.Stage} {degraded : Exn → Json ℚ}
    {x : Method MeasurementOrchestrator (Json ℚ)} (hL : ∀ m, .committed m ∉ L)
    (hx : (Protocol.supposing R).Triple () (At L ws) x
      (fun response => At (.posted stage (.ok response) :: L) ws) (Failed stage L ws)) :
  (Protocol.supposing R).Triple () (At L ws) (degrading x degraded)
    (fun response o c => ∃ outcome, response = orElse degraded outcome ∧
      (∀ e, outcome = .error e → Degrading e) ∧ At (.posted stage outcome :: L) ws o c)
    (fun _ _ => Uncommitted)
  := by
  apply Protocol.Triple.rescue (F := Failed stage L ws)
  · apply hx.post
    · exact fun response _ _ hc => ⟨.ok response, rfl, nofun, hc⟩
    · exact fun _ _ _ hc => hc
  · have hraise (e : Exn) : (Protocol.supposing R).Triple () (Failed stage L ws e)
        (throw e : Method MeasurementOrchestrator (Json ℚ))
        (fun response o c => ∃ outcome, response = orElse degraded outcome ∧
          (∀ e, outcome = .error e → Degrading e) ∧ At (.posted stage outcome :: L) ws o c)
        (fun _ _ => Uncommitted) :=
      Protocol.Triple.raise fun _ _ hc => hc.uncommitted hL
    intro e
    cases e with
    | sidecar errorClass message =>
        by_cases hclass : errorClass = .schemaError
        · subst hclass
          exact hraise _
        · have hdegrading : Degrading (.sidecar errorClass message) := ⟨_, _, rfl, hclass⟩
          have hret : (Protocol.supposing R).Triple ()
              (Failed stage L ws (.sidecar errorClass message))
              (pure (degraded (.sidecar errorClass message)) :
                Method MeasurementOrchestrator (Json ℚ))
              (fun response o c => ∃ outcome, response = orElse degraded outcome ∧
                (∀ e, outcome = .error e → Degrading e) ∧ At (.posted stage outcome :: L) ws o c)
              (fun _ _ => Uncommitted) := by
            apply Protocol.Triple.ret
            rintro o c (hreceived | ⟨hnot, -⟩)
            · refine ⟨.error _, rfl, ?_, hreceived⟩
              rintro e he
              cases he
              exact hdegrading
            · exact absurd hdegrading hnot
          cases errorClass <;> first | exact absurd rfl hclass | exact hret
    | _ => exact hraise _

/-! ### The commit -/

/-- Nothing has been committed since, or a row with a property. -/
def MayCommit (L : List Fact) (S : Measurement → Prop) (c : Config rails Unit) : Prop :=
  facts c.past = L ∨ ∃ m, S m ∧ facts c.past = .committed m :: L

/-- The transaction commits its measurement, or nothing. -/
theorem triple_createAndAdvance_at (attributes : MeasurementAttributes) :
  (Protocol.supposing R).Triple () (fun _ c => facts c.past = L) (createAndAdvance attributes)
    (fun m _ c => m.toMeasurementAttributes = attributes ∧ facts c.past = .committed m :: L)
    (fun _ _ c => facts c.past = L)
  := by
  have hmute : Mute fun c => facts c.past = L := mute_facts L
  apply Protocol.Triple.bind (B := fun _ _ c => facts c.past = L)
  · apply (silently_perform hmute rfl).post
    · exact fun _ _ _ hc => hc
    · exact fun _ _ _ hc => hc.2
  · intro _
    apply Protocol.Triple.getting
    intro job
    split
    · exact Protocol.Triple.raise fun _ _ hc => hc.2
    · apply Protocol.Triple.bind (B := fun _ _ c => facts c.past = L)
      · exact Protocol.Triple.modifying fun _ _ hc => hc.2
      · intro _
        apply Protocol.Triple.getting
        intro job'
        apply Protocol.Triple.bind (B := fun m _ c =>
          m.toMeasurementAttributes = attributes ∧ facts c.past = .committed m :: L)
        · apply Protocol.triple_perform
          · exact fun _ => Protocol.stable_of_subsingleton _
          · rintro s c χ _ ⟨-, hc⟩
            use trivial
            cases χ with
            | none => exact ⟨rfl, by rw [← hc]; rfl⟩
            | some className => exact hc
        · intro m
          apply Protocol.Triple.bind (B := fun _ _ c =>
            m.toMeasurementAttributes = attributes ∧ facts c.past = .committed m :: L)
          · exact fun _ _ hc => hc
          · intro _
            exact Protocol.Triple.ret fun _ _ hc => hc

variable [Platform]

/-- What is persisted is committed as a row of the document. -/
theorem triple_persist_at (doc provenance : Json ℚ) (warnings : List (Json ℚ))
    (totalPerimeterFt geocode parcelPolygon : Json ℚ) :
  (Protocol.supposing R).Triple () (fun _ c => facts c.past = L)
    (persist doc provenance warnings totalPerimeterFt geocode parcelPolygon)
    (fun m _ c => RowOf doc warnings m ∧ facts c.past = .committed m :: L)
    (fun _ _ => MayCommit L (RowOf doc warnings))
  := by
  apply Protocol.Triple.getting
  intro job
  apply Protocol.Triple.bind (B := fun _ _ c => facts c.past = L)
  · apply Protocol.Triple.conseq (silently_perform (mute_facts L) rfl)
    · exact fun _ _ hc => hc.2
    · exact fun _ _ _ hc => hc
    · exact fun _ _ _ hc => .inl hc.2
  · intro generatedAt
    apply Protocol.Triple.bind
      (B := fun m _ c => RowOf doc warnings m ∧ facts c.past = .committed m :: L)
    · apply (triple_createAndAdvance_at _).post
      · rintro m _ c ⟨hattributes, hc⟩
        refine ⟨?_, hc⟩
        constructor <;> simp only [hattributes]
      · exact fun _ _ _ hc => .inl hc
    · intro m
      have hmute : Mute fun c => RowOf doc warnings m ∧ facts c.past = .committed m :: L :=
        fun o χ c ho hc => ⟨hc.1, mute_facts _ o χ c ho hc.2⟩
      apply Protocol.Triple.bind
        (B := fun _ _ c => RowOf doc warnings m ∧ facts c.past = .committed m :: L)
      · apply (silently_ensureReportFor hmute).post
        · exact fun _ _ _ hc => hc
        · exact fun _ _ _ hc => .inr ⟨m, hc.2⟩
      · intro _
        apply Protocol.Triple.bind
          (B := fun _ _ c => RowOf doc warnings m ∧ facts c.past = .committed m :: L)
        · apply (silently_broadcastStatus hmute).post
          · exact fun _ _ _ hc => hc
          · exact fun _ _ _ hc => .inr ⟨m, hc.2⟩
        · intro _
          exact Protocol.Triple.ret fun _ _ hc => hc

/-! ### The chain -/

omit [Platform] in
/-- The start of the detection leaves the orchestrator where it is. -/
theorem triple_start_at (hL : ∀ m, .committed m ∉ L) :
  (Protocol.supposing R).Triple () (At L ws) (onVlm VlmRunner.start) (fun _ => At L ws)
    (fun _ _ => Uncommitted)
  := by
  apply Protocol.Triple.within
  intro o
  apply Protocol.Triple.bind (B := fun _ vlm c => facts c.past = L ∧ vlm.warnings = ws)
  · apply Protocol.triple_perform
    · exact fun _ => Protocol.stable_of_subsingleton _
    · rintro _ c χ _ ⟨hc, rfl⟩
      use trivial
      have hafter := mute_facts L .startVlm χ c rfl hc.1
      cases χ with
      | none => exact ⟨hafter, hc.2⟩
      | some className => exact At.uncommitted ⟨hafter, hc.2⟩ hL
  · intro _
    exact Protocol.Triple.modifying fun _ _ hc => hc

omit [Platform] in
/-- What the detection comes to is a fact. -/
theorem triple_join_at :
  (Protocol.supposing R).Triple () (At L ws) (onVlm VlmRunner.join)
    (fun features o c => ∃ result, features = vlmFeatures result ∧
      At (.joined result :: L) (ws ++ vlmNotes result) o c)
    (fun _ _ => Uncommitted)
  := by
  apply Protocol.Triple.within
  intro o
  apply Protocol.Triple.bind (B := fun _ vlm c => facts c.past = L ∧ vlm.warnings = ws)
  · apply Protocol.Triple.modifying
    rintro _ c ⟨hc, rfl⟩
    exact hc
  · intro _
    apply Protocol.Triple.bind
      (B := fun result vlm c => facts c.past = .joined result :: L ∧ vlm.warnings = ws)
    · apply Protocol.triple_perform
      · exact fun _ => Protocol.stable_of_subsingleton _
      · rintro vlm c result _ ⟨hc, hws⟩
        use trivial
        refine ⟨?_, hws⟩
        rw [← hc]
        rfl
    · intro result
      cases result with
      | timedOut =>
          rintro vlm c ⟨hc, hws⟩
          exact ⟨.timedOut, rfl, hc, by simp [vlmNotes, hws]⟩
      | error message =>
          rintro vlm c ⟨hc, hws⟩
          exact ⟨.error message, rfl, hc, by simp [vlmNotes, hws]⟩
      | features features =>
          rintro vlm c ⟨hc, hws⟩
          exact ⟨.features features, rfl, hc, by simp [vlmNotes, hws]⟩

/-- The note on missing LiDAR is added to the warnings. -/
theorem triple_noteLidarMissing_at (lidarResponse : Json ℚ) :
  (Protocol.supposing R).Triple () (At L ws) (onVlm (noteLidarMissing lidarResponse))
    (fun _ => At L (ws ++ [lidarNote lidarResponse])) (fun _ _ => Uncommitted)
  := by
  apply Protocol.Triple.within
  intro o
  rintro _ c ⟨hc, rfl⟩
  unfold noteLidarMissing lidarNote
  split
  · exact ⟨hc.1, congrArg (· ++ _) hc.2⟩
  · exact ⟨hc.1, congrArg (· ++ _) hc.2⟩

omit [Platform] in
/-- Reopening the job leaves the orchestrator where it is. -/
theorem triple_reopen_at (hL : ∀ m, .committed m ∉ L) :
  (Protocol.supposing R).Triple () (At L ws) reopen (fun _ => At L ws) (fun _ _ => Uncommitted)
  := by
  apply Protocol.Triple.getting
  intro o
  apply Protocol.Triple.pre (A := At L ws) _ (fun _ _ hc => hc.2)
  split
  · apply (triple_onJob_at fun B hB => ?_).post
    · exact fun _ _ _ hc => hc
    · exact fun _ _ _ hc => hc.2.uncommitted hL
    · apply silently_bind (silently_modify _)
      intro _
      apply silently_save hB
  · exact Protocol.Triple.ret fun _ _ hc => hc

omit [Platform] in
/-- An advance leaves the orchestrator where it is. -/
theorem triple_advanceTo_at (hL : ∀ m, .committed m ∉ L) (status : Status) :
  (Protocol.supposing R).Triple () (At L ws) (onJob (Job.advanceTo status)) (fun _ => At L ws)
    (fun _ _ => Uncommitted)
  := by
  apply (triple_onJob_at fun _ hB => silently_advanceTo hB status).post
  · exact fun _ _ _ hc => hc
  · exact fun _ _ _ hc => hc.2.uncommitted hL

omit [Platform] in
/-- A request whose failure fails the run. -/
theorem triple_required_at (hL : ∀ m, .committed m ∉ L) (stage : SidecarClient.Stage)
    (payload : Json ℚ) (timeout : ℕ) :
  (Protocol.supposing R).Triple () (At L ws) (request stage payload timeout)
    (fun response => At (.posted stage (.ok response) :: L) ws) (fun _ _ => Uncommitted)
  := by
  apply (triple_request_at stage payload timeout).post
  · exact fun _ _ _ hc => hc
  · exact fun _ _ _ hc => hc.uncommitted hL

omit [Platform] in
/-- What depends on a value that may not be there. -/
theorem triple_ofExcept_bind_at {β : Type} (hL : ∀ m, .committed m ∉ L) {r : Except Exn α}
    {f : α → Method MeasurementOrchestrator β}
    {B : β → MeasurementOrchestrator → Config rails Unit → Prop}
    {E : Exn → MeasurementOrchestrator → Config rails Unit → Prop}
    (hE : ∀ e o c, Uncommitted c → E e o c)
    (hf : ∀ a, r = .ok a → (Protocol.supposing R).Triple () (At L ws) (f a) B E) :
  (Protocol.supposing R).Triple () (At L ws) (Action.ofExcept r >>= f) B E
  := by
  apply Protocol.Triple.bind (B := fun a o c => r = .ok a ∧ At L ws o c)
  · apply Protocol.Triple.ofExcept
    · exact fun _ ha _ _ hc => ⟨ha, hc⟩
    · exact fun e _ o c hc => hE e o c (hc.uncommitted hL)
  · intro a
    apply Protocol.Triple.assuming
    exact hf a

/-- The geometry is measured with LiDAR or without it. -/
theorem triple_geometryStage_at (hL : ∀ m, .committed m ∉ L)
    (resolve lidarResponse refinedPolygon : Json ℚ) :
  (Protocol.supposing R).Triple () (At L ws)
    (geometryStage resolve lidarResponse refinedPolygon)
    (fun measured o c =>
      measured.2 = (if lidarIsAvailable lidarResponse then "fusion" else "imagery") ∧
        At (.posted (if lidarIsAvailable lidarResponse then fitPlanes else fallbackMeasurement)
            (.ok measured.1) :: L)
          (ws ++ if lidarIsAvailable lidarResponse then [] else [lidarNote lidarResponse]) o c)
    (fun _ _ => Uncommitted)
  := by
  unfold geometryStage
  split
  · apply Protocol.Triple.bind (B := fun geometry => At (.posted fitPlanes (.ok geometry) :: L) ws)
    · apply Protocol.Triple.bind (triple_advanceTo_at hL _)
      intro _
      apply triple_ofExcept_bind_at hL fun _ _ _ hc => hc
      intro lidar _
      apply triple_ofExcept_bind_at hL fun _ _ _ hc => hc
      intro pointArrayRef _
      apply triple_ofExcept_bind_at hL fun _ _ _ hc => hc
      intro utmZone _
      apply triple_required_at hL
    · intro geometry
      apply Protocol.Triple.ret
      intro o c hc
      rw [List.append_nil]
      exact ⟨rfl, hc⟩
  · apply Protocol.Triple.bind (triple_noteLidarMissing_at lidarResponse)
    intro _
    apply Protocol.Triple.bind (B := fun geometry =>
      At (.posted fallbackMeasurement (.ok geometry) :: L) (ws ++ [lidarNote lidarResponse]))
    · apply Protocol.Triple.bind (triple_advanceTo_at hL _)
      intro _
      apply triple_ofExcept_bind_at hL fun _ _ _ hc => hc
      intro utmZone _
      apply triple_required_at hL
    · intro geometry
      apply Protocol.Triple.ret
      exact fun o c hc => ⟨rfl, hc⟩

/-- What holds at the end of a run: what it has committed is the measurement of its stages, and
its warnings are those that the stages have accumulated. -/
def Ended (o : MeasurementOrchestrator) (c : Config rails Unit) : Prop :=
  ∀ m, .committed m ∈ facts c.past →
    ∃ r, Commits r m (facts c.past) ∧ o.vlm.warnings = r.accumulated

/-- A run without a commit has ended well. -/
theorem Uncommitted.ended {o : MeasurementOrchestrator} {c : Config rails Unit}
    (h : Uncommitted c) :
  Ended o c
  := fun m hm => absurd hm (h m)

/-- Silent operations leave a run ended. -/
theorem mute_ended (o : MeasurementOrchestrator) :
  Mute (Ended o)
  := by
  intro op χ c hop hc
  have hfacts := mute_facts (facts c.past) op χ c hop rfl
  unfold Ended
  rw [hfacts]
  exact hc

/-- The measurement of the stages is committed, or nothing. -/
theorem triple_assembleAndPersist_at (r : StageRun) (hlidar : ∀ e, r.lidar = .error e → Degrading e)
    (hrefine : ∀ e, r.refine = .error e → Degrading e)
    (hpicked : ∃ selection, pickBuildingPolygon selection r.resolve = .ok r.buildingPolygon)
    (hrefined : Ruby.fetch r.refined "refined_polygon" = .ok r.refinedPolygon) :
  (Protocol.supposing R).Triple () (At r.facts r.accumulated) (assembleAndPersist r.outputs)
    (fun _ => Ended) (fun _ => Ended)
  := by
  have huncommitted : ∀ m, .committed m ∉ r.facts := by
    intro m hm
    simp [StageRun.facts] at hm
  intro o c hc
  have hended (m : Measurement) (hvalid : validateMeasurement (r.document o.job.row.id) = .ok ())
      (hrow : RowOf (r.document o.job.row.id) r.warnings m) (o' : MeasurementOrchestrator)
      (c' : Config rails Unit) (hfacts : facts c'.past = .committed m :: r.facts)
      (hwarnings : o'.vlm.warnings = r.accumulated) : Ended o' c' := by
    intro m' hm'
    rw [hfacts] at hm' ⊢
    rcases List.mem_cons.mp hm' with heq | hbefore
    · cases heq
      exact ⟨r, ⟨rfl, hlidar, hrefine, hpicked, hrefined, _, hvalid, hrow⟩, hwarnings⟩
    · exact absurd hbefore (huncommitted m')
  have hrest : (Protocol.supposing R).Triple () (At r.facts r.accumulated)
      (do
        Action.ofExcept (validateMeasurement (r.document o.job.row.id))
        let now ← perform .now
        onJob (persist (r.document o.job.row.id) (buildProvenance r.outputs now) r.warnings
          (r.geometry.get "total_perimeter_ft") (r.resolve.get "geocode")
          (resolveParcel r.resolve))) (fun _ => Ended) (fun _ => Ended) := by
    apply triple_ofExcept_bind_at huncommitted fun _ _ _ hc => hc.ended
    intro _ hvalid
    apply Protocol.Triple.bind (B := fun _ => At r.facts r.accumulated)
    · apply Protocol.triple_perform
      · exact fun _ => Protocol.stable_of_subsingleton _
      · exact fun o c χ _ hc => ⟨trivial, mute_at o .now χ c rfl hc⟩
    · intro now
      apply Protocol.Triple.within
      intro o'
      rintro job c' ⟨hc', rfl⟩
      apply Protocol.wp_mono _ (triple_persist_at (L := r.facts) _ _ _ _ _ _ o'.job c' hc'.1)
      rintro ⟨e | m, job'⟩ c''
      · rintro (hnone | ⟨m, hrow, hfacts⟩)
        · exact (At.uncommitted (o := o') ⟨hnone, hc'.2⟩ huncommitted).ended
        · exact hended m hvalid hrow _ c'' hfacts hc'.2
      · rintro ⟨hrow, hfacts⟩
        exact hended m hvalid hrow _ c'' hfacts hc'.2
  have hcollected : collectWarnings o.vlm.warnings r.imagery r.refined r.geometry = r.warnings := by
    rw [hc.2]
    rfl
  rw [← hcollected] at hrest
  exact hrest o c hc

/-- A step that commits nothing when it raises. -/
theorem triple_bind_at {β : Type} {x : Method MeasurementOrchestrator α}
    {f : α → Method MeasurementOrchestrator β}
    {A : MeasurementOrchestrator → Config rails Unit → Prop}
    {B : α → MeasurementOrchestrator → Config rails Unit → Prop}
    {C : β → MeasurementOrchestrator → Config rails Unit → Prop}
    (hx : (Protocol.supposing R).Triple () A x B (fun _ _ => Uncommitted))
    (hf : ∀ a, (Protocol.supposing R).Triple () (B a) (f a) C (fun _ => Ended)) :
  (Protocol.supposing R).Triple () A (x >>= f) C (fun _ => Ended)
  := by
  apply Protocol.Triple.bind _ hf
  apply hx.post
  · exact fun _ _ _ hc => hc
  · exact fun _ _ _ hc => hc.ended

/-- The stages of a run end well. -/
theorem triple_runPipelineStages_at :
  (Protocol.supposing R).Triple () (At [] []) runPipelineStages (fun _ => Ended) (fun _ => Ended)
  := by
  apply triple_bind_at (triple_reopen_at (by simp))
  intro _
  apply triple_bind_at
  · apply Protocol.Triple.bind (triple_advanceTo_at (L := []) (by simp) _)
    intro _
    apply Protocol.Triple.getting
    intro o
    apply Protocol.Triple.pre (triple_required_at (L := []) (by simp) _ _ _)
    exact fun _ _ hc => hc.2
  intro resolve
  apply Protocol.Triple.getting
  intro o
  apply Protocol.Triple.pre (A := At [.posted resolveAddress (.ok resolve)] [])
    _ (fun _ _ hc => hc.2)
  apply triple_ofExcept_bind_at (by simp) fun _ _ _ hc => hc.ended
  intro buildingPolygon hpicked
  apply triple_bind_at
  · apply Protocol.Triple.bind (triple_advanceTo_at (by simp) _)
    intro _
    apply triple_required_at (by simp)
  intro imagery
  apply triple_ofExcept_bind_at (by simp) fun _ _ _ hc => hc.ended
  intro imageTileRef _
  apply triple_ofExcept_bind_at (by simp) fun _ _ _ hc => hc.ended
  intro imageGeoBounds _
  apply triple_bind_at (triple_advanceTo_at (by simp) _)
  intro _
  apply triple_bind_at (triple_start_at (by simp))
  intro _
  apply triple_bind_at
    (triple_degrading_at (by simp) (triple_stage_at _ (triple_request_at _ _ _)))
  intro lidarResponse
  apply Protocol.Triple.exists_pre
  intro lidar
  apply Protocol.Triple.assuming
  rintro rfl
  apply Protocol.Triple.assuming
  intro hlidar
  apply triple_bind_at
    (triple_degrading_at (by simp) (triple_stage_at _ (triple_request_at _ _ _)))
  intro refined
  apply Protocol.Triple.exists_pre
  intro refine'
  apply Protocol.Triple.assuming
  rintro rfl
  apply Protocol.Triple.assuming
  intro hrefine
  apply triple_ofExcept_bind_at (by simp) fun _ _ _ hc => hc.ended
  intro refinedPolygon hrefined
  apply triple_bind_at (triple_geometryStage_at (by simp) _ _ _)
  rintro ⟨geometry, source⟩
  apply Protocol.Triple.assuming
  rintro rfl
  apply triple_ofExcept_bind_at (by simp) fun _ _ _ hc => hc.ended
  intro _ _
  apply triple_bind_at triple_join_at
  intro features
  apply Protocol.Triple.exists_pre
  intro detection
  apply Protocol.Triple.assuming
  rintro rfl
  apply triple_assembleAndPersist_at
    ⟨resolve, buildingPolygon, imagery, lidar, refine', refinedPolygon, geometry, detection⟩
    hlidar hrefine ⟨_, hpicked⟩ hrefined

/-- Nothing that comes after the stages is a fact. -/
theorem triple_runPipeline_at :
  (Protocol.supposing R).Triple () (At [] []) runPipeline (fun _ => Ended) (fun _ => Ended)
  := by
  have hcleanup : (Protocol.supposing R).Triple () Ended (onVlm VlmRunner.cleanup)
      (fun _ => Ended) (fun _ => Ended) := by
    apply Protocol.Triple.within
    intro o
    apply Protocol.Triple.getting
    intro vlm
    apply Protocol.Triple.bind (B := fun _ vlm' c => Ended { o with vlm := vlm' } c)
    · apply Protocol.Triple.modifying
      rintro _ c ⟨rfl, hc, rfl⟩
      exact hc
    · intro _
      split
      · apply Protocol.triple_perform
        · exact fun _ => Protocol.stable_of_subsingleton _
        · intro vlm' c χ _ hc
          use trivial
          have hafter := mute_ended { o with vlm := vlm' } .cleanupVlm χ c rfl hc
          cases c.answer .cleanupVlm χ <;> exact hafter
      · exact Protocol.Triple.ret fun _ _ hc => hc
  exact Protocol.Triple.ensuring triple_runPipelineStages_at (fun _ => hcleanup)
    (fun _ => hcleanup)

/-- What `call` does before it handles the exceptions. -/
def attempted : Method MeasurementOrchestrator (Option Measurement) := do
  match ← onJob Job.cachedMeasurement with
  | some cached => return some cached
  | none =>
      let measurement ← runPipeline
      return some measurement

/-- A run of the orchestrator commits the measurement of its stages, or nothing. -/
theorem triple_attempted_at :
  (Protocol.supposing R).Triple () (At [] []) attempted (fun _ => Ended) (fun _ => Ended)
  := by
  apply triple_bind_at (B := fun _ => At [] [])
  · apply (triple_onJob_at fun _ hB => silently_cachedMeasurement hB).post
    · exact fun _ _ _ hc => hc
    · exact fun _ _ _ hc => hc.2.uncommitted (by simp)
  · intro cached
    cases cached with
    | some recent =>
        exact Protocol.Triple.ret fun _ _ hc => (hc.uncommitted (by simp)).ended
    | none =>
        apply Protocol.Triple.bind triple_runPipeline_at
        intro measurement
        exact Protocol.Triple.ret fun _ _ hc => hc

/-- Nothing that is done about an exception is a fact. -/
theorem triple_call_at :
  (Protocol.supposing R).Triple () (At [] []) call (fun _ => Ended) (fun _ => Ended)
  := by
  have hfail (message : String) : (Protocol.supposing R).Triple () Ended
      (do onJob (Job.failWith message); return (none : Option Measurement))
      (fun _ => Ended) (fun _ => Ended) := by
    apply Protocol.Triple.bind (B := fun _ => Ended)
    · apply Protocol.Triple.within
      intro o
      have hmute : Mute fun c => Ended o c := mute_ended o
      apply (silently_failWith hmute message).conseq
      · exact fun _ _ hc => hc.1
      · exact fun _ _ _ hc => hc
      · exact fun _ _ _ hc => hc.2
    · intro _
      exact Protocol.Triple.ret fun _ _ hc => hc
  apply Protocol.Triple.rescue triple_attempted_at
  intro e
  split
  · apply hfail
  · apply hfail
  · apply hfail
  · apply hfail
  · exact Protocol.Triple.raise fun _ _ hc => hc

/-- A method whose triple says that it ends well does so in every run. -/
theorem ended_of_run {x : Method MeasurementOrchestrator α} {w : World} {job : Job}
    {χ : ℕ → rails.Choices}
    (hx : Protocol.free.Triple () (At [] []) x (fun _ => Ended) (fun _ => Ended)) :
  Ended ((x (new job)).run () χ ⟨w, []⟩).1.2 ((x (new job)).run () χ ⟨w, []⟩).2
  := by
  have hended := Protocol.run_of_wp_free (hx (new job) ⟨w, []⟩ ⟨rfl, rfl⟩) χ
  revert hended
  generalize (x (new job)).run () χ ⟨w, []⟩ = result
  obtain ⟨⟨e | a, o⟩, c⟩ := result
  · exact fun hended => hended
  · exact fun hended => hended

/-- The run of an orchestrator on a job in a world, and what it leaves. -/
def orchestrate (w : World) (job : Job) (χ : ℕ → rails.Choices) :
    (Except Exn (Option Measurement) × MeasurementOrchestrator) × Config rails Unit :=
  (call (new job)).run () χ ⟨w, []⟩

/-- What the orchestrator has committed at the end of a run is the measurement of the stages
of the run. -/
theorem commits_of_run {w : World} {job : Job} {χ : ℕ → rails.Choices} {m : Measurement}
    (hm : .committed m ∈ facts (orchestrate w job χ).2.past) :
  ∃ r, Commits r m (facts (orchestrate w job χ).2.past) ∧
    (orchestrate w job χ).1.2.vlm.warnings = r.accumulated
  := ended_of_run (triple_call_at (R := fun _ _ _ _ => True)) m hm

end Stages

end MeasurementOrchestrator

end Rails
