import Mathlib.Data.List.Infix
import RoofTrace.Rails.PipelineRun

/-!
# The warnings of the stages

Every warning that a run of the pipeline receives or accumulates should occur in the
measurement that the run commits. The warnings of the resolve-address response are merged
into nothing, and of those of the ingest-lidar response only the first one is looked at, when
there is no LiDAR. The others are lost, unless another warning happens to contain them.
-/

namespace Rails

open Effects SidecarClient

namespace StageWarnings

open MeasurementOrchestrator

/-- The warnings of a response. -/
def warningsOf (response : Json ℚ) : List (Json ℚ) := Ruby.array (response.get "warnings")

/-- A warning occurs in a list of warnings, possibly inside a longer one. -/
def OccursIn (warning : Json ℚ) (warnings : List (Json ℚ)) : Prop :=
  ∃ longer ∈ warnings, longer = warning ∨
    ∃ s t, warning = .str s ∧ longer = .str t ∧ s.toList <:+: t.toList

theorem occursIn_of_mem {warning : Json ℚ} {warnings : List (Json ℚ)} (h : warning ∈ warnings) :
  OccursIn warning warnings
  := ⟨warning, h, .inl rfl⟩

/-! ### Received, carried over and dropped -/

/-- The warnings that a stage response carries. -/
def received : Fact → List (Json ℚ)
  | .posted _ (.ok response) => warningsOf response
  | _ => []

/-- The warning of a stage that has degraded. -/
def degraded : Fact → List (Json ℚ)
  | .posted stage (.error e) =>
      if stage = ingestLidar then [.str s!"lidar_unavailable: {e.className}"]
      else if stage = refineOutline then [.str s!"outline_unrefined: {e.className}"]
      else []
  | _ => []

section Platforms

variable [Platform]

/-- The warnings that a fact contributes to the measurement. -/
def carried : Fact → List (Json ℚ)
  | .posted stage (.ok response) =>
      if stage = resolveAddress then []
      else if stage = ingestLidar then
        if lidarIsAvailable response then [] else [lidarNote response]
      else warningsOf response
  | .joined result => vlmNotes result
  | fact => degraded fact

/-- The warnings of a response that no warning of the measurement is made of. -/
def dropped : Fact → List (Json ℚ)
  | .posted stage (.ok response) =>
      if stage = resolveAddress then warningsOf response
      else if stage = ingestLidar then
        if lidarIsAvailable response then warningsOf response else (warningsOf response).tail
      else []
  | _ => []

/-- The warnings of a run, of the stages and of the runner, all occur in a measurement. -/
structure NoneLost (facts : List Fact) (accumulated : List (Json ℚ)) (m : Measurement) :
    Prop where
  received : ∀ w ∈ facts.flatMap received, OccursIn w m.warnings
  degraded : ∀ w ∈ facts.flatMap degraded, OccursIn w m.warnings
  accumulated : ∀ w ∈ accumulated, OccursIn w m.warnings

/-- What is dropped occurs in a warning that is carried over. -/
def Covered (facts : List Fact) : Prop :=
  ∀ w ∈ facts.flatMap dropped, OccursIn w (facts.flatMap carried)

/-! ### What is carried over is what the measurement has -/

theorem lidarNote_syntheticLidarMissing (e : Exn) :
  lidarNote (syntheticLidarMissing e) = .str s!"lidar_unavailable: {e.className}"
  := rfl

omit [Platform] in
theorem lidarIsAvailable_syntheticLidarMissing (e : Exn) :
  lidarIsAvailable (syntheticLidarMissing e) = false
  := by
  apply Bool.eq_false_iff.mpr
  intro h
  have hstatus : lidarMissing = lidarAvailable := Json.str.inj (eq_of_beq h)
  exact absurd hstatus (by decide)

theorem carried_lidar (outcome : Except Exn (Json ℚ)) :
  carried (.posted ingestLidar outcome) =
    if lidarIsAvailable (orElse syntheticLidarMissing outcome) then []
    else [lidarNote (orElse syntheticLidarMissing outcome)]
  := by
  cases outcome with
  | ok response => rfl
  | error e =>
      rw [orElse, lidarIsAvailable_syntheticLidarMissing, lidarNote_syntheticLidarMissing]
      rfl

theorem carried_refine (priorPolygon : Json ℚ) (outcome : Except Exn (Json ℚ)) :
  carried (.posted refineOutline outcome) =
    warningsOf (orElse (syntheticUnrefinedOutline priorPolygon) outcome)
  := by
  cases outcome with
  | ok response => rfl
  | error e => rfl

theorem carried_geometry (r : StageRun) :
  carried (.posted r.geometryStage (.ok r.geometry)) = warningsOf r.geometry
  := by
  unfold StageRun.geometryStage
  split
  · rfl
  · rfl

/-- The warnings of a measurement are those that the facts of its run carry over. -/
theorem mem_warnings_iff [FormatAssertion] {r : StageRun} {m : Measurement} {facts : List Fact}
    (h : Commits r m facts) (w : Json ℚ) :
  w ∈ m.warnings ↔ w ∈ facts.flatMap carried
  := by
  obtain ⟨jobId, -, hrow⟩ := h.row
  have hcommitted : carried (.committed m) = [] := rfl
  have hjoined : carried (.joined r.detection) = vlmNotes r.detection := rfl
  have himagery : carried (.posted renderImagery (.ok r.imagery)) = warningsOf r.imagery := rfl
  have hresolve : carried (.posted resolveAddress (.ok r.resolve)) = [] := rfl
  rw [hrow.warnings, StageRun.warnings, MeasurementAssembler.collectWarnings, List.mem_eraseDups,
    h.facts, StageRun.facts]
  simp only [List.flatMap_cons, List.flatMap_nil, hcommitted, hjoined, himagery, hresolve,
    carried_geometry, carried_lidar, carried_refine r.buildingPolygon, StageRun.accumulated,
    List.mem_append, List.not_mem_nil, or_false, false_or]
  change (((_ ∨ _) ∨ w ∈ warningsOf r.imagery) ∨ w ∈ warningsOf r.refined) ∨
    w ∈ warningsOf r.geometry ↔ _
  unfold StageRun.refined StageRun.lidarResponse
  tauto

/-! ### The note on missing LiDAR -/

omit [Platform] in
/-- A response of the LiDAR stage has no member that marks it as degraded, and its warnings are
texts. -/
theorem accepted_lidar [FormatAssertion] {response : Json ℚ}
    (h : validateResponse ingestLidar.response response = .ok ()) :
  response.get "degraded" = .null ∧ ∀ w ∈ warningsOf response, ∃ s, w = .str s
  := by
  obtain ⟨schema, hschema, haccepts⟩ := validate_eq_ok_iff.mp h
  cases hschema
  obtain ⟨members, rfl⟩ := Schema.eq_obj_of_closedObject haccepts
  obtain ⟨hproperties, -, hclosed⟩ := (Schema.closedObject_obj_iff _ _ _).mp haccepts
  constructor
  · cases hlookup : members.lookup "degraded" with
    | none => rw [Json.get_obj, hlookup]; rfl
    | some v =>
        have hname := hclosed _ (Json.mem_of_lookup hlookup)
        simp at hname
  · intro w hw
    cases hlookup : members.lookup "warnings" with
    | none =>
        rw [warningsOf, Json.get_obj, hlookup] at hw
        cases hw
    | some v =>
        have hstrings : PipelineSchema.strings v = true :=
          hproperties ("warnings", PipelineSchema.strings) (by simp) v hlookup
        rw [warningsOf, Json.get_obj, hlookup] at hw
        cases v with
        | arr xs =>
            simp only [PipelineSchema.strings, Schema.allOf, Schema.items,
              List.all_cons, List.all_nil, Bool.and_true, Bool.and_eq_true, List.all_eq_true]
              at hstrings
            have hstring := hstrings.2 w hw
            cases w with
            | str s => use s
            | _ => cases hstring
        | _ => cases hstrings

/-- The first warning of a response without LiDAR is part of the note on it. -/
theorem first_occursIn_lidarNote [FormatAssertion] {response first : Json ℚ}
    {rest : List (Json ℚ)} (h : validateResponse ingestLidar.response response = .ok ())
    (hwarnings : warningsOf response = first :: rest) :
  OccursIn first [lidarNote response]
  := by
  obtain ⟨hdegraded, hstrings⟩ := accepted_lidar h
  obtain ⟨s, rfl⟩ := hstrings first (by rw [hwarnings]; exact List.mem_cons_self)
  use lidarNote response, List.mem_singleton_self _
  right
  have hnote : lidarNote response = .str s!"lidar_missing: {s}" := by
    rw [warningsOf] at hwarnings
    rw [lidarNote, hdegraded, hwarnings]
    change Json.str s!"lidar_missing: {Platform.toS (.str s)}" = _
    rw [Platform.toS_str]
  refine ⟨s, s!"lidar_missing: {s}", rfl, hnote, ?_⟩
  use "lidar_missing: ".toList, []
  rw [List.append_nil]
  exact (String.toList_append ..).symm

/-! ### No warning is lost -/

section Runs

variable [FormatAssertion]

/-- The warnings that the runner has accumulated are carried over. -/
theorem mem_carried_of_mem_accumulated {r : StageRun} {m : Measurement} {facts : List Fact}
    (h : Commits r m facts) {w : Json ℚ} (hw : w ∈ r.accumulated) :
  w ∈ facts.flatMap carried
  := by
  apply (mem_warnings_iff h w).mp
  obtain ⟨jobId, -, hrow⟩ := h.row
  rw [hrow.warnings, StageRun.warnings, MeasurementAssembler.collectWarnings, List.mem_eraseDups]
  simp only [List.mem_append]
  exact .inl (.inl (.inl hw))

omit [FormatAssertion] in
theorem mem_carried_of_mem_degraded {fact : Fact} {w : Json ℚ} (hw : w ∈ degraded fact) :
  w ∈ carried fact
  := by
  cases fact with
  | posted stage outcome =>
      cases outcome with
      | ok response => cases hw
      | error e => exact hw
  | joined result => cases hw
  | committed m => exact hw

/-- What is received is carried over, dropped, or part of the note on missing LiDAR. -/
theorem received_cases {past : List (Unit × Event application)} {fact : Fact}
    (hfact : fact ∈ facts past) {w : Json ℚ} (hw : w ∈ received fact) :
  w ∈ dropped fact ∨ OccursIn w (carried fact)
  := by
  cases fact with
  | posted stage outcome =>
      cases outcome with
      | error e => cases hw
      | ok response =>
          simp only [dropped, carried]
          by_cases hresolve : stage = resolveAddress
          · rw [if_pos hresolve]
            exact .inl hw
          · rw [if_neg hresolve, if_neg hresolve]
            by_cases hlidar : stage = ingestLidar
            · rw [if_pos hlidar, if_pos hlidar]
              by_cases havailable : lidarIsAvailable response = true
              · rw [if_pos havailable]
                exact .inl hw
              · rw [if_neg havailable, if_neg havailable]
                subst hlidar
                cases hwarnings : warningsOf response with
                | nil =>
                    rw [received, hwarnings] at hw
                    cases hw
                | cons first rest =>
                    rw [received, hwarnings] at hw
                    rcases List.mem_cons.mp hw with rfl | hrest
                    · exact .inr (first_occursIn_lidarNote (accepted_of_mem_facts hfact) hwarnings)
                    · exact .inl hrest
            · rw [if_neg hlidar, if_neg hlidar]
              exact .inr (occursIn_of_mem hw)
  | joined result => cases hw
  | committed m => cases hw

omit [FormatAssertion] [Platform] in
theorem OccursIn.mono {w : Json ℚ} {warnings others : List (Json ℚ)} (h : OccursIn w warnings)
    (hsub : ∀ w ∈ warnings, w ∈ others) :
  OccursIn w others
  := by
  obtain ⟨longer, hlonger, hcase⟩ := h
  exact ⟨longer, hsub longer hlonger, hcase⟩

omit [FormatAssertion] [Platform] in
theorem mem_received_of_mem_dropped {fact : Fact} {w : Json ℚ} (hw : w ∈ dropped fact) :
  w ∈ received fact
  := by
  cases fact with
  | posted stage outcome =>
      cases outcome with
      | error e => cases hw
      | ok response =>
          simp only [dropped] at hw
          split_ifs at hw
          · exact hw
          · exact hw
          · exact List.mem_of_mem_tail hw
          · cases hw
  | joined result => cases hw
  | committed m => cases hw

/-- A run that commits a measurement loses no warning, of a response, of a stage that was degraded
or of the detection, just when what it drops is covered: what the address and the LiDAR warn of is
also said by a warning that it carries. -/
theorem no_warning_lost_iff (w : World) (job : Job) (χ : ℕ → rails.Choices) {m : Measurement}
    (hm : .committed m ∈ facts (orchestrate w job χ).2.past) :
  NoneLost (facts (orchestrate w job χ).2.past)
      (orchestrate w job χ).1.2.vlm.warnings m ↔
    Covered (facts (orchestrate w job χ).2.past)
  := by
  obtain ⟨r, hcommits, haccumulated⟩ := commits_of_run hm
  have hcarried := mem_warnings_iff hcommits
  constructor
  · intro hnone w hw
    obtain ⟨fact, hfact, hdropped⟩ := List.mem_flatMap.mp hw
    have hreceived :=
      hnone.received w (List.mem_flatMap.mpr ⟨fact, hfact, mem_received_of_mem_dropped hdropped⟩)
    apply hreceived.mono
    exact fun w' hw' => (hcarried w').mp hw'
  · intro hcovered
    constructor
    · intro w hw
      obtain ⟨fact, hfact, hreceived⟩ := List.mem_flatMap.mp hw
      rcases received_cases hfact hreceived with hdropped | hoccurs
      · apply (hcovered w (List.mem_flatMap.mpr ⟨fact, hfact, hdropped⟩)).mono
        exact fun w' hw' => (hcarried w').mpr hw'
      · apply hoccurs.mono
        exact fun w' hw' => (hcarried w').mpr (List.mem_flatMap.mpr ⟨fact, hfact, hw'⟩)
    · intro w hw
      obtain ⟨fact, hfact, hdegraded⟩ := List.mem_flatMap.mp hw
      apply occursIn_of_mem
      apply (hcarried w).mpr
      exact List.mem_flatMap.mpr ⟨fact, hfact, mem_carried_of_mem_degraded hdegraded⟩
    · intro w hw
      rw [haccumulated] at hw
      apply occursIn_of_mem
      exact (hcarried w).mpr (mem_carried_of_mem_accumulated hcommits hw)

end Runs

end Platforms

/-- The exchanges of a run on imagery, whose address has no parcel. -/
def parcelless (stage : Stage) : Exchange :=
  if stage = resolveAddress then
    .response 200 (some (.obj
      [("pipelineSchemaVersion", .str "0.6.0"),
       ("geocode", .obj [("raw", .str "2400 Trinity St"), ("lon", .num (-97)), ("lat", .num 30)]),
       ("building_polygons", .arr [unitSquare]),
       ("attribution", .arr []),
       ("warnings", .arr [.str "parcel_unavailable: REGRID_API_KEY not set"])]))
  else imageryExchange [flatFacet] stage

/-- The run on a job that has been submitted, when no feature is detected. -/
def submittedRun (exchange : Stage → Exchange) :
    (Except Exn (Option Measurement) × MeasurementOrchestrator) × Config rails Unit :=
  @orchestrate anyFormat plainPlatform submittedJob (Job.ofRow submittedJob.job)
    fun _ => choosing (fun _ => none) exchange (.features (.arr []))

/-- The run on imagery loses no warning exactly when those that it drops are covered. -/
theorem no_warning_lost_iff_imagery :
  ∃ m, .committed m ∈ @facts anyFormat (submittedRun (imageryExchange [flatFacet])).2.past ∧
    (NoneLost (@facts anyFormat (submittedRun (imageryExchange [flatFacet])).2.past)
        (submittedRun (imageryExchange [flatFacet])).1.2.vlm.warnings m ↔
      @Covered plainPlatform
        (@facts anyFormat (submittedRun (imageryExchange [flatFacet])).2.past))
  := by
  have hcommitted : (@facts anyFormat (submittedRun (imageryExchange [flatFacet])).2.past).any
      (fun fact => match fact with
        | .committed _ => true
        | _ => false) = true := by
    decide +kernel
  obtain ⟨fact, hfact, hm⟩ := List.any_eq_true.mp hcommitted
  cases fact with
  | committed m => exact ⟨m, hfact, @no_warning_lost_iff plainPlatform anyFormat _ _ _ m hfact⟩
  | _ => cases hm

/-- The warning that an address has no parcel is lost. -/
theorem parcel_warning_lost :
  ∃ m, .committed m ∈ @facts anyFormat (submittedRun parcelless).2.past ∧
    ¬ NoneLost (@facts anyFormat (submittedRun parcelless).2.past)
        (submittedRun parcelless).1.2.vlm.warnings m
  := by
  have hcommitted : (@facts anyFormat (submittedRun parcelless).2.past).any
      (fun fact => match fact with
        | .committed m => m.warnings =
            [.str "lidar_unavailable: SidecarClient::TimeoutError",
             .str "outline_unrefined: SidecarClient::TimeoutError"]
        | _ => false) = true := by
    decide +kernel
  have hreceived : ((@facts anyFormat (submittedRun parcelless).2.past).flatMap received).contains
      (.str "parcel_unavailable: REGRID_API_KEY not set") = true := by
    decide +kernel
  obtain ⟨fact, hfact, hm⟩ := List.any_eq_true.mp hcommitted
  cases fact with
  | committed m =>
      use m, hfact
      intro hnone
      obtain ⟨longer, hlonger, hcase⟩ := hnone.received _ (List.contains_iff_mem.mp hreceived)
      simp only [decide_eq_true_eq] at hm
      rw [hm] at hlonger
      rcases hcase with rfl | ⟨s, t, hs, ht, hinfix⟩
      · revert hlonger
        decide +kernel
      · cases hs
        subst ht
        simp only [List.mem_cons, Json.str.injEq, List.not_mem_nil, or_false] at hlonger
        rcases hlonger with rfl | rfl
        · revert hinfix
          decide +kernel
        · revert hinfix
          decide +kernel
  | _ => cases hm

end StageWarnings

end Rails
