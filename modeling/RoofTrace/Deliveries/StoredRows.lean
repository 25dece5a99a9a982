import RoofTrace.Deliveries.FusedRows
import RoofTrace.Deliveries.StageWarnings
import RoofTrace.Export.RoundTrip

/-!
# The documents of rows

Geometry jobs commit what they have validated, and fusions insert documents of responses that
have been validated, next to documents of the row that they refine. In every interleaving of
deliveries the documents of all rows are as the pipeline contract has them, and so the export of
the job is accepted at every moment, and the phone reads what is stored.
-/

namespace Rails

open Effects SidecarClient MeasurementAssembler MeasurementOrchestrator ExportRoundTrip

namespace StoredRows

variable {ι : Type} {i : ι}

/-! ### Documents of responses -/

/-- Warnings that are all texts. -/
def Texts (warnings : List (Json ℚ)) : Prop := ∀ warning ∈ warnings, ∃ t, warning = .str t

/-- Texts after texts are texts. -/
theorem texts_append {warnings others : List (Json ℚ)} (h : Texts warnings) (h' : Texts others) :
  Texts (warnings ++ others)
  := by
  intro warning hwarning
  rcases List.mem_append.mp hwarning with hmem | hmem
  · exact h warning hmem
  · exact h' warning hmem

/-- A text is a list of texts. -/
theorem texts_singleton (t : String) :
  Texts [.str t]
  := by
  intro warning hwarning
  exact ⟨t, List.mem_singleton.mp hwarning⟩

/-- The elements of an array are accepted. -/
theorem forall_of_accepts {s : Schema} {j : Json ℚ}
    (h : Schema.allOf [Schema.types [.array], Schema.items s] j = true ∨ j = .null) :
  ∀ x ∈ Ruby.array j, s x = true
  := by
  rcases h with h | rfl
  · cases j with
    | arr elements =>
        have hitems := accepts_of_allOf h (s := Schema.items s) (by simp)
        exact List.all_eq_true.mp hitems
    | _ => cases h
  · intro x hx
    cases hx

/-- The warnings of a response are texts. -/
theorem texts_of_accepts {j : Json ℚ} (h : PipelineSchema.strings j = true ∨ j = .null) :
  Texts (Ruby.array j)
  := fun warning hwarning => exists_str (forall_of_accepts h warning hwarning)

/-- What is not null is found in a Hash that has been compacted. -/
theorem get_compact {members : List (String × Json ℚ)} (hnodup : (members.map Prod.fst).Nodup)
    (key : String) :
  (Json.obj (Ruby.compact members)).get key = (Json.obj members).get key
  := by
  have hcompact : ((Ruby.compact members).map Prod.fst).Nodup :=
    List.Sublist.nodup (List.Sublist.map _ List.filter_sublist) hnodup
  have hsub {v : Json ℚ} (hfound : (Ruby.compact members).lookup key = some v) :
      members.lookup key = some v := by
    apply Json.lookup_of_mem hnodup
    exact List.mem_of_mem_filter (Json.mem_of_lookup hfound)
  simp only [Json.get_obj]
  cases hlookup : members.lookup key with
  | none =>
      cases hfound : (Ruby.compact members).lookup key with
      | none => rfl
      | some v => nomatch hlookup.symm.trans (hsub hfound)
  | some v =>
      by_cases hv : v = .null
      · subst hv
        cases hfound : (Ruby.compact members).lookup key with
        | none => rfl
        | some v =>
            cases hlookup.symm.trans (hsub hfound)
            rfl
      · have hmem : (key, v) ∈ Ruby.compact members := by
          apply List.mem_filter.mpr
          refine ⟨Json.mem_of_lookup hlookup, ?_⟩
          rw [Bool.not_eq_true', ← Bool.not_eq_true, Json.isNull_iff]
          exact hv
        rw [Json.lookup_of_mem hcompact hmem]

section Documents

variable [FormatAssertion]

/-- A measurement of the pipeline contract has facets and features of the contract. -/
theorem facets_features_of_measurement {document : Json ℚ}
    (h : PipelineSchema.measurement document = true) :
  (∀ facet ∈ Ruby.array (document.get "facets"), PipelineSchema.facet facet = true) ∧
    ∀ feature ∈ Ruby.array (document.get "features"), PipelineSchema.feature feature = true
  := by
  constructor
  · apply forall_of_accepts
    left
    exact Schema.accepts_get_of_required h (s := PipelineSchema.facets) (by simp) (by simp)
  · apply forall_of_accepts
    left
    exact Schema.accepts_get_of_required h (s := PipelineSchema.features) (by simp) (by simp)

/-- A response that is accepted is accepted by the definition of its entity. -/
theorem accepts_of_validate {failure entity : String} {s : Schema} {document : Json ℚ}
    (hschema : PipelineSchema.def? entity = some s)
    (h : validate failure entity document = .ok ()) :
  s document = true
  := by
  obtain ⟨schema', hschema', haccepts⟩ := validate_eq_ok_iff.mp h
  rw [hschema] at hschema'
  cases hschema'
  exact haccepts

/-- What a fusion makes of a stored row and of a response is stored as well. -/
theorem stored_fusedMeasurement {captureSession : CaptureSession} {prior : Measurement}
    {response : Json ℚ} (now : ℕ) (hprior : Stored prior.toMeasurementAttributes)
    (haccepted : FusedRows.Accepted response)
    (haligned : FusionOrchestrator.aligned response = true) :
  Stored (FusionOrchestrator.fusedMeasurement captureSession prior response now)
  := by
  have hresponse := accepts_of_validate (s := PipelineSchema.fuseCaptureResponse) rfl haccepted
  have hmeasurement : PipelineSchema.measurement (response.get "measurement") = true := by
    have hdeclared : PipelineSchema.measurement (response.get "measurement") = true ∨
        response.get "measurement" = .null := Schema.accepts_get hresponse (by simp)
    rcases hdeclared with h | hnull
    · exact h
    · rw [FusionOrchestrator.aligned, hnull] at haligned
      cases haligned
  obtain ⟨hfacets, hfeatures⟩ := facets_features_of_measurement hmeasurement
  obtain ⟨hhash, hkept⟩ := FusedRows.get_fusedProvenance captureSession prior response
  constructor
  · exact hfacets
  · exact hfeatures
  · intro warning hwarning
    cases hwarning
  · exact hprior.geocode
  · constructor
    · exact .inr hhash
    · change JsonExportSchema.stringOrNull ((FusionOrchestrator.fusedProvenance ..).get _) = true
      rw [hkept _ (by decide)]
      exact hprior.provenance.detector
    · change JsonExportSchema.stringOrNull ((FusionOrchestrator.fusedProvenance ..).get _) = true
      rw [hkept _ (by decide)]
      exact hprior.provenance.sam2Backend
    · change JsonExportSchema.stringOrNull ((FusionOrchestrator.fusedProvenance ..).get _) = true
      rw [hkept _ (by decide)]
      exact hprior.provenance.pipelineSchemaVersion
    · change JsonExportSchema.stringOrNull ((FusionOrchestrator.fusedProvenance ..).get _) = true
      rw [hkept _ (by decide)]
      exact hprior.provenance.generatedAt

/-! ### Documents of runs -/

omit [FormatAssertion] in
/-- The provenance that a run builds. -/
theorem documented_buildProvenance [Platform] {outputs : StageOutputs} (now : ℕ)
    (hbackend : JsonExportSchema.stringOrNull (outputs.refined.get "sam2_backend") = true) :
  Documented (buildProvenance outputs now)
  := by
  constructor
  · exact .inr rfl
  · rw [buildProvenance, get_compact (by simp)]
    rfl
  · rw [buildProvenance, get_compact (by simp)]
    exact hbackend
  · rw [buildProvenance, get_compact (by simp)]
    rfl
  · rw [buildProvenance, get_compact (by simp)]
    rfl

end Documents

/-! ### Rows that are written -/

section Rows

variable [FormatAssertion]

/-- A row that has been read. -/
def WasRead (m : Measurement) (past : List (ι × Event application)) : Prop :=
  ∃ j reader, (j, ⟨.latestMeasurement reader, .ok (some m)⟩) ∈ past

/-- The rows that are written: what is committed is stored as the contract has it, a fusion
refines a row that has been read, and a warning is added to those of a row that has been read. -/
structure WritesStored (o : Op) (c : Config rails ι) : Prop where
  committed : ∀ m changes, o = .commit m changes → Stored m
  fused : ∀ m, o = .insertMeasurement m → ∃ prior captureSession response now,
    WasRead prior c.past ∧ FusedRows.Accepted response ∧
      FusionOrchestrator.aligned response = true ∧
      m = FusionOrchestrator.fusedMeasurement captureSession prior response now
  warned : ∀ id warnings, o = .updateWarnings id warnings →
    ∃ m t, WasRead m c.past ∧ warnings = m.warnings ++ [.str t]

def storedProtocol (ι : Type) : Protocol rails ι where
  ok _ _ _ _ := True
  guar _ o _ c := WritesStored o c

/-- The rows that are there and those that have been read are stored as the contract has them. -/
structure AllStored (c : Config rails ι) : Prop where
  rows : ∀ m ∈ c.world.measurements, Stored m.toMeasurementAttributes
  copies : ∀ m, WasRead m c.past → Stored m.toMeasurementAttributes

/-- A stored row may have any texts for its warnings. -/
theorem stored_of_warnings {m : MeasurementAttributes} (h : Stored m) {warnings : List (Json ℚ)}
    (hwarnings : Texts warnings) :
  Stored { m with warnings := warnings }
  := ⟨h.facets, h.features, hwarnings, h.geocode, h.provenance⟩

/-- What is written as stored leaves the rows stored. -/
theorem allStored_after {o : Op} {χ : rails.Choice o} {c : Config rails ι}
    (hwrites : WritesStored o c) (h : AllStored c) :
  AllStored (c.after i o χ)
  := by
  constructor
  · change ∀ m ∈ (exec o χ c.world).2.measurements, Stored m.toMeasurementAttributes
    rcases exec_measurements o χ c.world with hsame | ⟨id, warnings, rfl, hupdated⟩ |
      ⟨inserted, hinserted, happended⟩
    · rw [hsame]
      exact h.rows
    · rw [hupdated]
      intro m' hm'
      obtain ⟨m, hm, rfl⟩ := List.mem_map.mp hm'
      split
      · obtain ⟨row, t, hread, rfl⟩ := hwrites.warned _ _ rfl
        exact stored_of_warnings (h.rows m hm)
          (texts_append (h.copies row hread).warnings (texts_singleton t))
      · exact h.rows m hm
    · rw [happended]
      intro m hm
      rcases List.mem_append.mp hm with hbefore | hnew
      · exact h.rows m hbefore
      · rw [List.mem_singleton.mp hnew]
        cases o with
        | commit committed changes =>
            cases hinserted
            exact hwrites.committed _ _ rfl
        | insertMeasurement fused =>
            cases hinserted
            obtain ⟨prior, captureSession, response, now, hread, haccepted, haligned, rfl⟩ :=
              hwrites.fused _ rfl
            exact stored_fusedMeasurement now (h.copies prior hread) haccepted haligned
        | _ => cases hinserted
  · rintro m ⟨j, reader, hmem⟩
    rcases List.mem_cons.mp hmem with heq | hbefore
    · simp only [Prod.mk.injEq, Sigma.mk.injEq] at heq
      obtain ⟨-, rfl, hanswer⟩ := heq
      have hread := eq_of_heq hanswer
      cases χ with
      | none => exact h.rows m (List.argmax_mem (Except.ok.inj hread).symm)
      | some className => cases hread
    · exact h.copies m ⟨j, reader, hbefore⟩

/-! ### Geometry jobs -/

/-- What writes no row. -/
def LeavesRows : Op → Prop
  | .commit _ _ => False
  | .insertMeasurement _ => False
  | .updateWarnings _ _ => False
  | _ => True

/-- An operation that leaves the rows alone writes nothing else. -/
theorem writesStored_of_leavesRows {o : Op} (ho : LeavesRows o) (c : Config rails ι) :
  WritesStored o c
  := by
  constructor
  · rintro m changes rfl
    exact ho.elim
  · rintro m rfl
    exact ho.elim
  · rintro id warnings rfl
    exact ho.elim

omit [FormatAssertion] in
/-- A quiet operation leaves the rows alone. -/
theorem leavesRows_of_quiet {o : Op} (ho : o.quiet = true) :
  LeavesRows o
  := by
  cases o <;> trivial

/-- What leaves the rows alone is permitted. -/
theorem permits :
  Permits (storedProtocol ι) i LeavesRows
  where
  quiet _ ho := leavesRows_of_quiet ho
  update _ := trivial
  guar ho := writesStored_of_leavesRows ho _

/-- An operation that leaves the rows alone needs no assertion. -/
theorem takes_freely {o : Op} (ho : LeavesRows o) {B : o.Res → Config rails ι → Prop}
    (hB : ∀ a c, B a c) :
  Takes (storedProtocol ι) i o (fun _ => True) B (fun _ => True)
  := Takes.of_guar (fun _ c => writesStored_of_leavesRows ho c) hB

/-- The warnings of the run so far are texts. -/
def Told (o : MeasurementOrchestrator) (_ : Config rails ι) : Prop := Texts o.vlm.warnings

/-- A method that yields what has a property. -/
abbrev Yields {α : Type} (i : ι) (x : Method MeasurementOrchestrator α) (Q : α → Prop) : Prop :=
  (storedProtocol ι).Triple i Told x (fun a o c => Q a ∧ Told o c) (fun _ => Told)

/-- What is yielded is known in what follows. -/
theorem yields_bind {α β : Type} {x : Method MeasurementOrchestrator α}
    {f : α → Method MeasurementOrchestrator β} {Q : α → Prop} {R : β → Prop} (hx : Yields i x Q)
    (hf : ∀ a, Q a → Yields i (f a) R) :
  Yields i (x >>= f) R
  := Protocol.Triple.bind hx fun a => Protocol.Triple.assuming (hf a)

/-- A method that keeps the warnings texts yields anything. -/
theorem yields_of_keeps {α : Type} {x : Method MeasurementOrchestrator α}
    (hx : (storedProtocol ι).Keeps i Told x) :
  Yields i x fun _ => True
  := hx.post (fun _ _ _ h => ⟨trivial, h⟩) (fun _ _ _ h => h)

/-- A result is what is yielded. -/
theorem yields_ofExcept {α : Type} (r : Except Exn α) :
  Yields i (Action.ofExcept r) fun a => r = .ok a
  := Protocol.Triple.ofExcept (fun _ hr _ _ h => ⟨hr, h⟩) (fun _ _ _ _ h => h)

/-- The warnings that have been told so far are texts. -/
theorem yields_getting {α : Type} {f : MeasurementOrchestrator → Method MeasurementOrchestrator α}
    {Q : α → Prop} (hf : ∀ o, Texts o.vlm.warnings → Yields i (f o) Q) :
  Yields i (get >>= f) Q
  := by
  apply Protocol.Triple.getting
  rintro o _ c ⟨rfl, ho⟩
  exact hf _ ho _ c ho

/-- A method of the job keeps what the orchestrator has been told. -/
theorem keeps_onJob {α : Type} {x : Method Job α}
    (hx : (storedProtocol ι).Keeps i (fun _ _ => True) x) :
  (storedProtocol ι).Keeps i Told (onJob x)
  := by
  apply Protocol.Triple.within
  rintro o _ c ⟨ho, rfl⟩
  exact hx.post (C := fun _ _ _ => Texts o.vlm.warnings) (fun _ _ _ _ => ho) (fun _ _ _ _ => ho)
    _ c trivial

/-- A quiet operation keeps what has been told. -/
theorem keeps_quiet_told {o : Op} (ho : o.quiet = true) :
  (storedProtocol ι).Keeps i Told (perform o)
  := by
  apply (permits.keeps_quiet ho fun o : MeasurementOrchestrator => Texts o.vlm.warnings).post
  · exact fun _ _ _ h => h
  · exact fun _ _ _ h => h.2

/-- A request yields what the definition of its response accepts. -/
theorem yields_request (stage : SidecarClient.Stage) (payload : Json ℚ) (timeout : ℕ) :
  Yields i (request stage payload timeout)
    fun response => validateResponse stage.response response = .ok ()
  := by
  apply yields_bind (yields_ofExcept _)
  intro _ _
  apply yields_bind (yields_of_keeps (keeps_quiet_told rfl))
  intro exchange _
  apply (yields_ofExcept _).post
  · exact fun _ _ _ h => ⟨accepted_of_receive_eq_ok h.1, h.2⟩
  · exact fun _ _ _ h => h

/-! #### The job -/

/-- An advance needs no more than its UPDATE. -/
theorem keeps_advanceBy {status : Status} {α : Type} {x : Method Job α}
    (hx : (storedProtocol ι).Keeps i (fun _ _ => True) x) :
  (storedProtocol ι).Keeps i (fun _ _ => True) (Job.advanceBy status x)
  := by
  apply Protocol.Triple.getting
  intro job
  apply Protocol.Triple.pre (A := fun _ _ => True) _ (fun _ _ _ => trivial)
  split
  · exact Protocol.Keeps.raise _
  · apply Protocol.Keeps.bind (Protocol.Triple.modifying fun _ _ _ => trivial)
    exact fun _ => hx

/-- An UPDATE of the job leaves the measurements alone. -/
theorem keeps_save :
  (storedProtocol ι).Keeps i (fun _ _ => True) Job.save
  := by
  apply (permits.triple_save (B := fun _ => True) fun _ _ => trivial).post
  · exact fun _ _ _ h => h
  · exact fun _ _ _ h => h.2

/-- A broadcast leaves the measurements alone. -/
theorem keeps_broadcastStatus :
  (storedProtocol ι).Keeps i (fun _ _ => True) Job.broadcastStatus
  := (GeometryJob.keeps_broadcastStatus permits).post (fun _ _ _ h => h) (fun _ _ _ h => h.2)

/-- An advance leaves the measurements alone. -/
theorem keeps_advanceTo (status : Status) :
  (storedProtocol ι).Keeps i (fun _ _ => True) (Job.advanceTo status)
  := Protocol.Keeps.bind (keeps_advanceBy keeps_save) fun _ => keeps_broadcastStatus

/-! #### The measurement -/

variable [Platform]

/-- A search of the cache leaves the measurements alone. -/
theorem keeps_cachedMeasurement :
  (storedProtocol ι).Keeps i (fun _ _ => True) Job.cachedMeasurement
  := by
  have hquiet : ∀ {o : Op}, o.quiet = true →
      (storedProtocol ι).Keeps i (fun _ _ => True) (perform o : Method Job _) :=
    fun ho => keeps_quiet (fun _ => permits.undisturbed True) ho
  apply Protocol.Keeps.bind (hquiet rfl)
  intro latest
  cases latest with
  | none => exact Protocol.Keeps.ret _
  | some recent =>
      apply Protocol.Keeps.bind (hquiet rfl)
      intro now
      split
      · exact Protocol.Keeps.ret _
      · apply Protocol.Triple.getting
        intro job
        apply Protocol.Triple.pre (A := fun _ _ => True) _ (fun _ _ _ => trivial)
        split
        · split
          · apply Protocol.Keeps.bind (keeps_advanceTo .ready)
            exact fun _ => Protocol.Keeps.ret _
          · exact Protocol.Keeps.ret _
        · exact Protocol.Keeps.ret _

omit [Platform] in
/-- The measurement that is committed is stored as the contract has it. -/
theorem keeps_createAndAdvance {m : MeasurementAttributes} (hm : Stored m) :
  (storedProtocol ι).Keeps i (fun _ _ => True) (createAndAdvance m)
  := by
  apply Protocol.Keeps.bind (keeps_quiet (fun _ => permits.undisturbed True) rfl)
  intro _
  apply keeps_advanceBy
  apply Protocol.Triple.getting
  intro job
  apply Protocol.Triple.pre (A := fun _ _ => True) _ (fun _ _ _ => trivial)
  apply Protocol.Keeps.bind
  · apply Protocol.triple_perform
    · exact fun _ => Protocol.stable_const _
    · intro s c χ _ _
      constructor
      · constructor
        · rintro _ _ ⟨⟩
          exact hm
        · rintro _ ⟨⟩
        · rintro _ _ ⟨⟩
      · cases c.answer (.commit m job.changes) χ <;> trivial
  · intro measurement
    exact fun _ _ _ => trivial

/-- A document of the contract is persisted as a stored row. -/
theorem keeps_persist {doc provenance : Json ℚ} {warnings : List (Json ℚ)}
    {totalPerimeterFt geocode parcelPolygon : Json ℚ}
    (hdoc : PipelineSchema.measurement doc = true) (hwarnings : Texts warnings)
    (hgeocode : PipelineSchema.address geocode = true) (hprovenance : Documented provenance) :
  (storedProtocol ι).Keeps i (fun _ _ => True)
    (persist doc provenance warnings totalPerimeterFt geocode parcelPolygon)
  := by
  obtain ⟨hfacets, hfeatures⟩ := facets_features_of_measurement hdoc
  apply Protocol.Triple.getting
  intro job
  apply Protocol.Triple.pre (A := fun _ _ => True) _ (fun _ _ _ => trivial)
  apply Protocol.Keeps.bind (keeps_quiet (fun _ => permits.undisturbed True) rfl)
  intro generatedAt
  apply Protocol.Keeps.bind
  · apply keeps_createAndAdvance
    exact ⟨hfacets, hfeatures, hwarnings, .inr hgeocode, hprovenance⟩
  · intro measurement
    apply Protocol.Keeps.bind
    · apply (triple_ensureReportFor fun _ => permits.undisturbed True).post
      · exact fun _ _ _ h => h
      · exact fun _ _ _ h => h.2
    · intro _
      apply Protocol.Keeps.bind keeps_broadcastStatus
      exact fun _ => Protocol.Keeps.ret _

/-- Outputs that the contract accepts are persisted as a stored row. -/
theorem keeps_assembleAndPersist {outputs : StageOutputs}
    (hgeocode : PipelineSchema.address (outputs.resolve.get "geocode") = true)
    (himagery : Texts (Ruby.array (outputs.imagery.get "warnings")))
    (hrefined : Texts (Ruby.array (outputs.refined.get "warnings")))
    (hbackend : JsonExportSchema.stringOrNull (outputs.refined.get "sam2_backend") = true)
    (hgeometry : Texts (Ruby.array (outputs.geometry.get "warnings"))) :
  Yields i (assembleAndPersist outputs) fun _ => True
  := by
  apply yields_getting
  intro o ho
  apply yields_bind (yields_ofExcept _)
  intro _ hvalid
  apply yields_bind (yields_of_keeps (keeps_quiet_told rfl))
  intro now _
  apply yields_of_keeps
  apply keeps_onJob
  apply keeps_persist
  · exact accepts_of_validate rfl hvalid
  · intro warning hwarning
    rw [collectWarnings, List.mem_eraseDups] at hwarning
    exact texts_append (texts_append (texts_append ho himagery) hrefined) hgeometry warning hwarning
  · exact hgeocode
  · exact documented_buildProvenance now hbackend

/-! #### The stages -/

omit [Platform] in
/-- A stage: the job is advanced before the request. -/
theorem yields_stage (status : Status) (stage : SidecarClient.Stage) (payload : Json ℚ) :
  Yields i (do onJob (Job.advanceTo status); request stage payload stageTimeoutSeconds)
    fun response => validateResponse stage.response response = .ok ()
  := by
  apply yields_bind (yields_of_keeps (keeps_onJob (keeps_advanceTo status)))
  exact fun _ _ => yields_request stage payload stageTimeoutSeconds

omit [Platform] in
/-- The address stage yields a geocode of the contract. -/
theorem yields_resolveAddressStage :
  Yields i resolveAddressStage
    fun resolve => PipelineSchema.address (resolve.get "geocode") = true
  := by
  apply yields_bind (yields_of_keeps (keeps_onJob (keeps_advanceTo _)))
  intro _ _
  apply yields_getting
  intro o _
  apply (yields_request _ _ _).post
  · intro resolve _ _ h
    have haccepts := accepts_of_validate (s := PipelineSchema.resolveAddressResponse) rfl h.1
    exact ⟨Schema.accepts_get_of_required haccepts (by simp) (by simp), h.2⟩
  · exact fun _ _ _ h => h

omit [Platform] in
/-- A stage whose failure degrades the run yields a response, or what stands in for it. -/
theorem yields_degrading {stage : Method MeasurementOrchestrator (Json ℚ)}
    {degraded : Exn → Json ℚ} {Q : Json ℚ → Prop} (hstage : Yields i stage Q)
    (hdegraded : ∀ e, Q (degraded e)) :
  Yields i (degrading stage degraded) Q
  := by
  apply Protocol.Triple.rescue hstage
  intro e
  split
  · exact Protocol.Triple.raise fun _ _ h => h
  · exact Protocol.Triple.ret fun _ _ h => ⟨hdegraded _, h⟩
  · exact Protocol.Triple.raise fun _ _ h => h

omit [Platform] in
/-- A degraded response begins with a text, if any marks itself as degraded. -/
theorem yields_lidarStage (buildingPolygon parcelPolygon : Json ℚ) :
  Yields i (lidarStage buildingPolygon parcelPolygon) fun response =>
    Ruby.truthy (response.get "degraded") = true →
      ∃ t, Ruby.first (Ruby.array (response.get "warnings")) = .str t
  := by
  apply yields_degrading
  · apply (yields_stage _ _ _).post
    · intro response _ _ h
      refine ⟨fun htruthy => ?_, h.2⟩
      rw [(StageWarnings.accepted_lidar h.1).1] at htruthy
      cases htruthy
    · exact fun _ _ _ h => h
  · exact fun e _ => ⟨_, rfl⟩

omit [Platform] in
/-- The outline stage yields texts for warnings and the name of a backend. -/
theorem yields_refineStage (imageTileRef priorPolygon imageGeoBounds : Json ℚ) :
  Yields i (refineStage imageTileRef priorPolygon imageGeoBounds) fun refined =>
    Texts (Ruby.array (refined.get "warnings")) ∧
      JsonExportSchema.stringOrNull (refined.get "sam2_backend") = true
  := by
  apply yields_degrading
  · apply (yields_stage _ _ _).post
    · intro refined _ _ h
      have haccepts := accepts_of_validate (s := PipelineSchema.refineOutlineResponse) rfl h.1
      have hbackend : Schema.allOf [Schema.types [.string], Schema.enum ["modal", "local"]]
          (refined.get "sam2_backend") = true :=
        Schema.accepts_get_of_required haccepts (by simp) (by simp)
      refine ⟨⟨texts_of_accepts (Schema.accepts_get haccepts (by simp)), ?_⟩, h.2⟩
      exact stringOrNull_of_string (accepts_of_allOf hbackend List.mem_cons_self)
    · exact fun _ _ _ h => h
  · exact fun e => ⟨texts_singleton _, rfl⟩

omit [Platform] in
/-- A stage that yields a geometry of the contract yields texts for warnings. -/
theorem yields_measurementGeometry {x : Method MeasurementOrchestrator (Json ℚ)}
    (hx : Yields i x fun geometry => validateResponse "MeasurementGeometry" geometry = .ok ()) :
  Yields i x fun geometry => Texts (Ruby.array (geometry.get "warnings"))
  := by
  apply hx.post
  · intro geometry _ _ h
    have haccepts := accepts_of_validate (s := PipelineSchema.measurementGeometry) rfl h.1
    exact ⟨texts_of_accepts (Schema.accepts_get haccepts (by simp)), h.2⟩
  · exact fun _ _ _ h => h

omit [Platform] in
/-- The plane stage yields texts for warnings. -/
theorem yields_fitPlanesStage (lidarResponse refinedPolygon : Json ℚ) :
  Yields i (fitPlanesStage lidarResponse refinedPolygon)
    fun geometry => Texts (Ruby.array (geometry.get "warnings"))
  := by
  apply yields_measurementGeometry
  apply yields_bind (yields_of_keeps (keeps_onJob (keeps_advanceTo _)))
  intro _ _
  apply yields_bind (yields_ofExcept _)
  intro lidar _
  apply yields_bind (yields_ofExcept _)
  intro pointArrayRef _
  apply yields_bind (yields_ofExcept _)
  intro utmZone _
  apply yields_request

omit [Platform] in
/-- The fallback stage yields texts for warnings. -/
theorem yields_fallbackStage (refinedPolygon resolve : Json ℚ) :
  Yields i (fallbackStage refinedPolygon resolve)
    fun geometry => Texts (Ruby.array (geometry.get "warnings"))
  := by
  apply yields_measurementGeometry
  apply yields_bind (yields_of_keeps (keeps_onJob (keeps_advanceTo _)))
  intro _ _
  apply yields_bind (yields_ofExcept _)
  intro utmZone _
  apply yields_request

/-- A note on missing LiDAR is a text. -/
theorem keeps_noteLidarMissing {response : Json ℚ}
    (h : Ruby.truthy (response.get "degraded") = true →
      ∃ t, Ruby.first (Ruby.array (response.get "warnings")) = .str t) :
  (storedProtocol ι).Keeps i Told (onVlm (noteLidarMissing response))
  := by
  apply Protocol.Triple.within
  rintro o _ c ⟨ho, rfl⟩
  unfold noteLidarMissing
  split
  · next hdegraded =>
    obtain ⟨t, ht⟩ := h hdegraded
    rw [ht]
    exact texts_append ho (texts_singleton t)
  · exact texts_append ho (texts_singleton _)

/-- Either way to a geometry yields texts for warnings. -/
theorem yields_geometryStage {resolve lidarResponse : Json ℚ} (refinedPolygon : Json ℚ)
    (h : Ruby.truthy (lidarResponse.get "degraded") = true →
      ∃ t, Ruby.first (Ruby.array (lidarResponse.get "warnings")) = .str t) :
  Yields i (geometryStage resolve lidarResponse refinedPolygon)
    fun geometry => Texts (Ruby.array (geometry.1.get "warnings"))
  := by
  rw [geometryStage]
  split
  · apply yields_bind (yields_fitPlanesStage _ _)
    exact fun geometry hgeometry => Protocol.Triple.ret fun _ _ ho => ⟨hgeometry, ho⟩
  · apply yields_bind (yields_of_keeps (keeps_noteLidarMissing h))
    intro _ _
    apply yields_bind (yields_fallbackStage _ _)
    exact fun geometry hgeometry => Protocol.Triple.ret fun _ _ ho => ⟨hgeometry, ho⟩

omit [Platform] in
/-- The start of the detection keeps what has been told. -/
theorem keeps_start :
  (storedProtocol ι).Keeps i Told (onVlm VlmRunner.start)
  := by
  apply Protocol.Triple.within
  intro o
  apply Protocol.Triple.bind (B := fun _ vlm _ => Texts vlm.warnings)
  · apply (permits.keeps_quiet rfl fun vlm : VlmRunner => Texts vlm.warnings).conseq
    · rintro _ _ ⟨ho, rfl⟩
      exact ho
    · exact fun _ _ _ h => h
    · exact fun _ _ _ h => h.2
  · exact fun _ => Protocol.Triple.modifying fun _ _ h => h

omit [Platform] in
/-- What a detection adds to the warnings is a text. -/
theorem keeps_join :
  (storedProtocol ι).Keeps i Told (onVlm VlmRunner.join)
  := by
  apply Protocol.Triple.within
  intro o
  apply Protocol.Triple.bind (B := fun _ vlm _ => Texts vlm.warnings)
  · apply Protocol.Triple.modifying
    rintro _ _ ⟨ho, rfl⟩
    exact ho
  · intro _
    apply Protocol.Triple.bind (B := fun _ vlm _ => Texts vlm.warnings)
    · apply (permits.keeps_quiet rfl fun vlm : VlmRunner => Texts vlm.warnings).post
      · exact fun _ _ _ h => h
      · exact fun _ _ _ h => h.2
    · intro result
      cases result with
      | timedOut => exact fun vlm _ h => texts_append h (texts_singleton _)
      | error message => exact fun vlm _ h => texts_append h (texts_singleton _)
      | features features => exact fun vlm _ h => h

omit [Platform] in
/-- The cleanup of the detection keeps what has been told. -/
theorem keeps_cleanup :
  (storedProtocol ι).Keeps i Told (onVlm VlmRunner.cleanup)
  := by
  apply Protocol.Triple.within
  intro o
  apply Protocol.Triple.getting
  intro vlm
  apply Protocol.Triple.bind (B := fun _ vlm _ => Texts vlm.warnings)
  · apply Protocol.Triple.modifying
    rintro _ _ ⟨rfl, ho, rfl⟩
    exact ho
  · intro _
    split
    · apply (permits.keeps_quiet rfl fun vlm : VlmRunner => Texts vlm.warnings).post
      · exact fun _ _ _ h => h
      · exact fun _ _ _ h => h.2
    · exact Protocol.Triple.ret fun _ _ h => h

omit [Platform] in
/-- Reopening the job keeps what has been told. -/
theorem keeps_reopen :
  (storedProtocol ι).Keeps i Told reopen
  := by
  apply Protocol.Triple.getting
  intro o
  apply Protocol.Triple.pre (A := Told) _ (fun _ _ h => h.2)
  split
  · apply keeps_onJob
    apply Protocol.Keeps.bind (Protocol.Triple.modifying fun _ _ _ => trivial)
    exact fun _ => keeps_save
  · exact Protocol.Keeps.ret _

/-- The stages of a run write no row but the one that they commit, whose values are those that the
contract promises. -/
theorem yields_runPipelineStages :
  Yields i runPipelineStages fun _ => True
  := by
  apply yields_bind (yields_of_keeps keeps_reopen)
  intro _ _
  apply yields_bind yields_resolveAddressStage
  intro resolve hgeocode
  apply yields_getting
  intro o _
  apply yields_bind (yields_ofExcept _)
  intro buildingPolygon _
  apply yields_bind (yields_stage _ _ _)
  intro imagery himagery
  apply yields_bind (yields_ofExcept _)
  intro imageTileRef _
  apply yields_bind (yields_ofExcept _)
  intro imageGeoBounds _
  apply yields_bind (yields_of_keeps (keeps_onJob (keeps_advanceTo _)))
  intro _ _
  apply yields_bind (yields_of_keeps keeps_start)
  intro _ _
  apply yields_bind (yields_lidarStage _ _)
  intro lidarResponse hlidar
  apply yields_bind (yields_refineStage _ _ _)
  rintro refined ⟨hrefined, hbackend⟩
  apply yields_bind (yields_ofExcept _)
  intro refinedPolygon _
  apply yields_bind (yields_geometryStage _ hlidar)
  rintro ⟨geometry, source⟩ hgeometry
  apply yields_bind (yields_ofExcept _)
  intro _ _
  apply yields_bind (yields_of_keeps keeps_join)
  intro features _
  apply keeps_assembleAndPersist
  · exact hgeocode
  · have haccepts := accepts_of_validate (s := PipelineSchema.renderImageryResponse) rfl himagery
    exact texts_of_accepts (Schema.accepts_get haccepts (by simp))
  · exact hrefined
  · exact hbackend
  · exact hgeometry

/-- A run of the pipeline writes stored rows only. -/
theorem keeps_call :
  (storedProtocol ι).Keeps i Told call
  := by
  apply Protocol.Keeps.rescue
  · apply Protocol.Keeps.bind (keeps_onJob keeps_cachedMeasurement)
    intro m
    cases m with
    | some cached => exact Protocol.Keeps.ret _
    | none =>
        apply Protocol.Keeps.bind
        · apply Protocol.Triple.ensuring
          · apply yields_runPipelineStages.post
            · exact fun _ _ _ h => h.2
            · exact fun _ _ _ h => h
          · exact fun _ => keeps_cleanup
          · exact fun _ => keeps_cleanup
        · exact fun _ => Protocol.Keeps.ret _
  · have hfail : ∀ message : String, (storedProtocol ι).Keeps i Told
        (do onJob (Job.failWith message); return (none : Option Measurement)) := by
      intro message
      apply Protocol.Keeps.bind (keeps_onJob (GeometryJob.keeps_failWith permits message))
      exact fun _ => Protocol.Keeps.ret _
    intro e
    split
    · exact hfail _
    · exact hfail _
    · exact hfail _
    · exact hfail _
    · exact Protocol.Keeps.raise _

/-- A geometry job writes stored rows only. -/
theorem wp_geometry (c : Config rails ι) :
  (storedProtocol ι).wp i GeometryJob.delivery (fun _ _ => True) c
  := by
  apply Permits.wp_retrying
  intro n c
  apply permits.wp_perform (fun _ => trivial)
  apply Protocol.Keeps.rescue
  · apply Protocol.Triple.getting
    intro job
    apply Protocol.Triple.pre (A := fun _ _ => True) _ (fun _ _ _ => trivial)
    split
    · exact Protocol.Keeps.ret _
    · apply Protocol.Keeps.bind
      · apply Protocol.Triple.within
        rintro job o c ⟨-, rfl⟩
        apply (keeps_call.post (C := fun _ _ _ => True) (fun _ _ _ _ => trivial)
          (fun _ _ _ _ => trivial)) _ c
        intro warning hwarning
        cases hwarning
      · intro m
        cases m <;> exact Protocol.Keeps.ret _
  · intro e
    apply Protocol.Keeps.bind (GeometryJob.keeps_recordCrash permits n e)
    exact fun _ => Protocol.Keeps.raise _

/-! ### Fusions -/

/-- A measurement that a fusion knows of has been read. -/
def Known (latest : Option Measurement) (c : Config rails ι) : Prop :=
  ∀ m ∈ latest, WasRead m c.past

omit [FormatAssertion] [Platform] in
/-- A row that has been read stays known. -/
theorem known_after {latest : Option Measurement} {c : Config rails ι} (h : Known latest c) (j : ι)
    (o : Op) (χ : rails.Choice o) :
  Known latest (c.after j o χ)
  := by
  intro m hm
  obtain ⟨k, reader, hread⟩ := h m hm
  exact ⟨k, reader, List.mem_cons_of_mem _ hread⟩

omit [Platform] in
/-- The others leave known what has been read. -/
theorem stable_known (latest : Option Measurement) :
  (storedProtocol ι).Stable i (Known latest)
  := by
  rintro c _ ⟨j, -, o, χ, -, -, rfl⟩ h
  exact known_after h j o χ

omit [Platform] in
/-- What is read is known. -/
theorem takes_latestMeasurement (reader : Reader) :
  Takes (storedProtocol ι) i (.latestMeasurement reader) (fun _ => True) Known (fun _ => True)
  := by
  constructor
  · exact Protocol.stable_const _
  · intro χ c _ _
    use writesStored_of_leavesRows (by trivial) c
    cases χ with
    | some className => trivial
    | none =>
        intro m hm
        refine ⟨i, reader, ?_⟩
        have hlatest : c.world.latestMeasurement = some m := hm
        simp only [Config.after, Config.answer, exec, unlessRaised, hlatest]
        exact List.mem_cons_self

omit [Platform] in
/-- A warning is added to those of a row that has been read. -/
theorem triple_appendFailureWarning {σ : Type} (message : String) (latest : Option Measurement) :
  (storedProtocol ι).Triple i (fun _ : σ => Known latest)
    (FusionOrchestrator.appendFailureWarning message latest) (fun _ _ _ => True)
    (fun e _ _ => e.expected = false ∧ True)
  := by
  have hwarn (m : Measurement) : (storedProtocol ι).Triple i (fun _ : σ => Known (some m))
      (FusionOrchestrator.warn message m) (fun _ _ _ => True)
      (fun e _ _ => e.expected = false ∧ True) := by
    unfold FusionOrchestrator.warn
    split
    · exact Protocol.Triple.ret fun _ _ _ => trivial
    · apply Takes.triple
      constructor
      · exact stable_known _
      · intro χ c _ h
        constructor
        · constructor
          · rintro _ _ ⟨⟩
          · rintro _ ⟨⟩
          · rintro _ _ ⟨⟩
            exact ⟨m, message, h m rfl, rfl⟩
        · split <;> trivial
  cases latest with
  | some m => exact hwarn m
  | none =>
      apply Protocol.Triple.bind (B := fun latest _ => Known latest)
      · exact (takes_latestMeasurement .failureWarning).triple.pre fun _ _ _ => trivial
      · intro found
        cases found with
        | none => exact Protocol.Triple.ret fun _ _ _ => trivial
        | some m => exact hwarn m

/-- What a fusion writes, as the rule of the fusions asks for it: rows that were stored and rows
that refine them. -/
theorem fusionSpec {captureSession : CaptureSession} :
  FusionSpec (storedProtocol ι) i captureSession FusedRows.Accepted (fun _ => True) (fun _ => True)
    Known (fun _ => True) (fun _ => True) (fun _ _ => True) (fun _ _ => True)
  where
  read := takes_latestMeasurement .prior
  undisturbed latest := by
    constructor
    · exact stable_known latest
    · intro o χ c ho _ h
      exact ⟨writesStored_of_leavesRows (leavesRows_of_quiet ho) c, known_after h i o χ⟩
  undisturbedWarned := permits.undisturbed _
  undisturbedError := permits.undisturbed _
  goodResponse _ _ hresponse := accepted_of_receive_eq_ok hresponse
  lateTime _ := trivial
  skip latest _ := triple_appendFailureWarning _ latest
  unaligned m _ _ _ _ := triple_appendFailureWarning _ (some m)
  failed latest := (triple_appendFailureWarning _ latest).post (fun _ _ _ _ => trivial)
    (fun _ _ _ _ => trivial)
  insert prior response now _ haccepted haligned _ := by
    constructor
    · exact stable_known _
    · intro χ c _ h
      constructor
      · constructor
        · rintro _ _ ⟨⟩
        · rintro _ ⟨⟩
          exact ⟨prior, captureSession, response, now, h prior rfl, haccepted, haligned, rfl⟩
        · rintro _ _ ⟨⟩
      · split <;> trivial
  complete _ _ := takes_freely (by trivial) fun _ _ => trivial
  enqueue _ := takes_freely (by trivial) fun _ _ => trivial
  error _ := trivial
  warned _ := trivial

/-- A fusion job writes stored rows only. -/
theorem wp_fusion (captureSessionId : String) (c : Config rails ι) :
  (storedProtocol ι).wp i (FusionJob.delivery captureSessionId) (fun _ _ => True) c
  := by
  have hspec : FusionAttemptSpec (storedProtocol ι) i captureSessionId (fun _ => True)
      (fun _ => True) (fun _ => True) (fun _ => True) (fun _ => True) (fun _ _ => True) := by
    constructor
    · exact permits.undisturbed _
    · apply takes_freely (by trivial)
      intro latest c
      split <;> trivial
    · exact fun _ _ => fusionSpec.triple_call
    · exact fun _ => trivial
  apply Permits.wp_retrying
  intro n c
  apply permits.wp_perform (fun _ => trivial)
  apply (hspec.triple_attempt _).post
  · exact fun _ _ _ _ => trivial
  · exact fun _ _ _ hc => hc
  · intro e
    unfold FusionJob.recordFailure
    split
    · apply (triple_appendFailureWarning _ none).conseq
      · rintro _ _ _ _ ⟨⟩
      · exact fun _ _ _ _ => trivial
      · exact fun _ _ _ _ => trivial
    · exact permits.keeps_updateLastError _

/-! ### Exports -/

/-- A projection writes no row. -/
theorem projectionSpec :
  ProjectionSpec (storedProtocol ι) i (fun _ _ => True) (fun _ _ _ => True) (fun _ _ _ _ => True)
  where
  read := takes_freely (by trivial) fun _ _ _ _ => trivial
  photos _ _ _ := takes_freely (by trivial) fun _ _ => trivial
  status _ _ := takes_freely (by trivial) fun _ _ => trivial
  post _ _ _ _ _ _ _ _ := takes_freely (by trivial) fun _ _ => trivial
  weaken _ _ _ _ _ := trivial
  save _ _ _ _ _ _ _ := takes_freely (by trivial) fun _ _ => trivial
  saveUndrawn _ _ _ _ _ _ _ := takes_freely (by trivial) fun _ _ => trivial

/-- Every delivery writes rows with the values that the contract promises, and keeps those that are
there. By cases on its kind. -/
theorem wp_program (work : Delivery) (c : Config rails ι) :
  (storedProtocol ι).wp i work.program (fun _ _ => True) c
  := by
  cases work with
  | geometry => exact wp_discarding (wp_geometry c)
  | fusion captureSessionId => exact wp_discarding (wp_fusion captureSessionId c)
  | projection =>
      apply wp_discarding
      exact ProjectionJob.wp_delivery permits.toUpdates (fun _ => trivial) projectionSpec c
  | ingest captureSession captures =>
      intro c' _ χ _
      exact ⟨writesStored_of_leavesRows (by trivial) c', trivial⟩

/-- The rows of every interleaving of deliveries are stored as the pipeline contract has them. -/
theorem allStored_run [DecidableEq ι] (work : ι → Delivery) {w : World}
    (hw : ∀ m ∈ w.measurements, Stored m.toMeasurementAttributes)
    (schedule : List (ι × rails.Choices)) :
  AllStored ((deliveries work w).run schedule).config
  := by
  have hstart : (deliveries work w).Keeps (storedProtocol ι) fun _ _ _ => True :=
    fun i => wp_program (work i) _
  have hmeets : (deliveries work w).Meets (storedProtocol ι).ok schedule :=
    Pool.meets_of_forall _ fun _ _ _ _ _ => trivial
  obtain ⟨hguar, -⟩ := Pool.run_of_keeps (fun _ _ => Protocol.stable_const True) hstart hmeets
  apply Pool.invariant_run (P := storedProtocol ι) (A := AllStored)
    (fun i o χ c _ hwrites hc => allStored_after hwrites hc) hmeets hguar
  refine ⟨hw, ?_⟩
  rintro m ⟨j, reader, hmem⟩
  cases hmem

/-- At every moment of every interleaving of deliveries, the export of the job is accepted by the
export contract, and the phone decodes it to what is stored: the latest measurement with its
facets in their order and the vertices that were stored. -/
theorem exports_round_trip [DecidableEq ι] [Phone.Foundation] (work : ι → Delivery) (w : World)
    (hw : ∀ m ∈ w.measurements, Stored m.toMeasurementAttributes)
    (schedule : List (ι × rails.Choices)) (angle : ℚ → ℚ) (s : JobExportSerializer)
    (hjob : s.job = some ((deliveries work w).run schedule).config.world.job)
    (hmeasurement :
      s.measurement = ((deliveries work w).run schedule).config.world.latestMeasurement)
    (hdate : ∀ m ∈ s.measurement,
      (Phone.Foundation.wholeSecondsDate (Platform.iso8601 m.generatedAt)).isSome = true)
    (hlinks : LinksOf s) :
  JsonExportSchema.document (s.toH angle) = true ∧
    ∃ read, Phone.RoofExport.decode (s.toH angle) = .ok read ∧
      Reads s ((deliveries work w).run schedule).config.world.job read
  := by
  have hstored := (allStored_run work hw schedule).rows
  apply decode_toH angle hjob
  · intro m hm
    rw [hmeasurement] at hm
    exact hstored m (List.argmax_mem hm)
  · exact hdate
  · exact hlinks

end Rows

/-! ### The export of a submitted job -/

/-- A phone that takes every text for a link, and reads the dates of the plain platform. -/
abbrev plainPhone : Phone.Foundation where
  isURL := fun _ => true
  fractionalDate := fun _ => none
  wholeSecondsDate := fun s => if s = "2026-01-01T00:00:00Z" then some 1767225600 else none

/-- The geometry job of a submitted job, when the roof is measured on imagery. -/
def measuredWorld : World :=
  ((@deliveries Unit anyFormat plainPlatform (fun _ => .geometry) submittedJob).run
    (List.replicate 40 ((), choosing (fun _ => none) (imageryExchange [flatFacet])
      (.features (.arr []))))).config.world

/-- The export of the job after its geometry job. -/
def measuredExport : JobExportSerializer where
  job := some measuredWorld.job
  measurement := measuredWorld.latestMeasurement
  shareUrl := .str "https://rooftrace.biograph.dev/r/9f8e7d6c5b4a39281706f5e4d3c2b1a0"
  pdfUrl := .null
  lidarPointsUrl := .null
  visualizations := []

/-- The export of a job that was measured on imagery is decoded. -/
theorem exports_round_trip_measured :
  measuredWorld.latestMeasurement.isSome = true ∧
    JsonExportSchema.document (@JobExportSerializer.toH measuredExport plainPlatform id) = true ∧
    ∃ read, @Phone.RoofExport.decode plainPhone
        (@JobExportSerializer.toH measuredExport plainPlatform id) = .ok read ∧
      @Reads plainPlatform plainPhone measuredExport measuredWorld.job read
  := by
  constructor
  · decide +kernel
  · apply @exports_round_trip Unit anyFormat plainPlatform _ plainPhone (fun _ => .geometry)
      submittedJob
    · intro m hm
      cases hm
    · rfl
    · rfl
    · exact fun _ _ => rfl
    · apply @LinksOf.mk plainPhone
      · exact ⟨rfl, fun _ _ => rfl⟩
      · exact ⟨rfl, fun _ _ => rfl⟩
      · exact ⟨rfl, fun _ _ => rfl⟩
      · intro viz hviz
        cases hviz

end StoredRows

end Rails
