import RoofTrace.Rails.Deliveries
import RoofTrace.Rails.Rows

/-!
# The rows of fusions

A fusion refines the latest measurement and never replaces it: it inserts a row of its own.
In every interleaving of deliveries, each row that was there is kept but for its warnings, and
each row that a fusion has inserted goes back, from one refined row to the next, to a row that
was there or that a geometry job has committed. What a fusion does not measure (the LiDAR
record, the geocode, the parcel, the perimeter and the rest of the provenance) is what it is in
that row, and the confidence is not less, and at most 1.
-/

namespace Rails

open Effects FusionOrchestrator

namespace FusedRows

variable {ι : Type} {i : ι}

/-! ### What a fused row carries -/

/-- The members of the provenance that a fusion writes. -/
def fusionKeys : List String :=
  ["fusion_icp_rmse_m", Measurement.fusionSessionIdKey, "fusion_capture_mesh_ref",
    Measurement.fusionArkitToUtmKey, Measurement.fusionUtmEpsgKey]

/-- A row has of another one what fusions do not measure. -/
structure Carries (root m : Measurement) : Prop where
  lidar : m.lidar = root.lidar
  geocode : m.geocode = root.geocode
  parcelPolygon : m.parcelPolygon = root.parcelPolygon
  totalPerimeterFt : m.totalPerimeterFt = root.totalPerimeterFt
  provenance : ∀ key ∉ fusionKeys, m.provenance.get key = root.provenance.get key
  confidence : root.confidence ≤ m.confidence
  confidence_le_one : m.confidence ≤ 1

/-- A row whose confidence is at most 1 carries itself. -/
theorem Carries.refl {m : Measurement} (h : m.confidence ≤ 1) :
  Carries m m
  := by
  constructor
  · rfl
  · rfl
  · rfl
  · rfl
  · exact fun _ _ => rfl
  · exact le_refl _
  · exact h

/-- What is carried is carried on. -/
theorem Carries.trans {root prior m : Measurement} (h : Carries root prior)
    (h' : Carries prior m) :
  Carries root m
  := by
  constructor
  · exact h'.lidar.trans h.lidar
  · exact h'.geocode.trans h.geocode
  · exact h'.parcelPolygon.trans h.parcelPolygon
  · exact h'.totalPerimeterFt.trans h.totalPerimeterFt
  · exact fun key hkey => (h'.provenance key hkey).trans (h.provenance key hkey)
  · exact h.confidence.trans h'.confidence
  · exact h'.confidence_le_one

/-- The warnings of rows do not matter to what is carried. -/
theorem Carries.of_sameButWarnings {root root' m m' : Measurement}
    (hroot : root.SameButWarnings root') (hm : m.SameButWarnings m') (h : Carries root m) :
  Carries root' m'
  := by
  rw [hroot, hm]
  exact ⟨h.lidar, h.geocode, h.parcelPolygon, h.totalPerimeterFt, h.provenance, h.confidence,
    h.confidence_le_one⟩

/-- The confidence of a fused row is not less than that of the row it refines. -/
theorem fusedConfidence_bounds {priorConfidence : ℚ} (h : priorConfidence ≤ 1) (icpRmseM : ℚ) :
  priorConfidence ≤ fusedConfidence priorConfidence icpRmseM ∧
    fusedConfidence priorConfidence icpRmseM ≤ 1
  := by
  unfold fusedConfidence
  set bonus := max (min ((1 / 2 - icpRmseM) * (1 / 10)) (15 / 100)) 0 with hbonus
  have hnonneg : 0 ≤ bonus := le_max_right _ _
  have hone : Ruby.clamp (priorConfidence + 5 / 100 + bonus) priorConfidence 1 ≤ (1 : ℤ) := by
    rw [Int.cast_one]
    exact Ruby.clamp_le h
  constructor
  · have hlow : ¬ priorConfidence + 5 / 100 + bonus < priorConfidence := by linarith
    simp only [Ruby.clamp, hlow, if_false, Ruby.round4]
    split_ifs with hhigh
    · have hrounded := Rounding.halfAway.le_digits 4 (a := 10000) (x := 1) (by norm_num)
      norm_num at hrounded
      linarith
    · have hrounded := Rounding.halfAway.sub_lt_digits 4 (priorConfidence + 5 / 100 + bonus)
      norm_num at hrounded
      linarith
  · rw [Ruby.round4]
    exact_mod_cast Rounding.halfAway.digits_le_int 4 hone

/-- The members of a fused provenance that no fusion writes. -/
theorem get_fusedProvenance (captureSession : CaptureSession) (prior : Measurement)
    (response : Json ℚ) :
  Ruby.isHash (fusedProvenance captureSession prior response) = true ∧
    ∀ key ∉ fusionKeys,
      (fusedProvenance captureSession prior response).get key = prior.provenance.get key
  := by
  obtain ⟨members, hmembers, hprior⟩ : ∃ members,
      (if Ruby.isHash prior.provenance then prior.provenance else .obj []) = .obj members ∧
        ∀ key, (Json.obj members).get key = prior.provenance.get key := by
    cases prior.provenance with
    | obj members => exact ⟨members, rfl, fun _ => rfl⟩
    | _ => exact ⟨[], rfl, fun _ => rfl⟩
  simp only [fusedProvenance, hmembers]
  constructor
  · obtain ⟨merged, hmerged⟩ := Ruby.merge_eq_obj members
      ([("fusion_icp_rmse_m", response.get "icp_rmse_m"),
        (Measurement.fusionSessionIdKey, .str captureSession.id),
        ("fusion_capture_mesh_ref", captureSession.worldMeshRef)] ++
      Ruby.compact
        [(Measurement.fusionArkitToUtmKey, response.get "arkit_to_utm"),
         (Measurement.fusionUtmEpsgKey, response.get "utm_epsg")])
    rw [hmerged]
    rfl
  · intro key hkey
    rw [← hprior key]
    apply Ruby.get_merge_of_not_mem
    rintro member hmember rfl
    apply hkey
    rcases List.mem_append.mp hmember with hfirst | hlast
    · simp only [List.mem_cons, List.not_mem_nil, or_false] at hfirst
      rcases hfirst with rfl | rfl | rfl <;> simp [fusionKeys]
    · have hlisted := List.mem_of_mem_filter hlast
      simp only [List.mem_cons, List.not_mem_nil, or_false] at hlisted
      rcases hlisted with rfl | rfl <;> simp [fusionKeys]

section Rows

variable [FormatAssertion]

/-- A response that the definition of the responses to fusions accepts. -/
def Accepted (response : Json ℚ) : Prop :=
  SidecarClient.validateResponse SidecarClient.fuseCapture.response response = .ok ()

/-- A row is what a fusion makes of a row with LiDAR and of a response that is accepted and has a
good alignment. -/
def FusedFrom (work : ι → Delivery) (prior m : Measurement) : Prop :=
  ∃ i captureSession response now warnings, work i = .fusion captureSession.id ∧
    prior.lidarAvailable = true ∧ Accepted response ∧ aligned response = true ∧
    m = ⟨{ fusedMeasurement captureSession prior response now with warnings }, m.id⟩

/-- A fused row carries the row that it refines. -/
theorem FusedFrom.carries {work : ι → Delivery} {prior m : Measurement}
    (h : FusedFrom work prior m) (hprior : prior.confidence ≤ 1) :
  Carries prior m
  := by
  obtain ⟨i, captureSession, response, now, warnings, -, -, -, -, hm⟩ := h
  rw [hm]
  constructor
  · rfl
  · rfl
  · rfl
  · rfl
  · exact (get_fusedProvenance captureSession prior response).2
  · exact (fusedConfidence_bounds hprior _).1
  · exact (fusedConfidence_bounds hprior _).2

/-- What a row was fused from does not depend on the warnings. -/
theorem FusedFrom.of_sameButWarnings {work : ι → Delivery} {prior prior' m m' : Measurement}
    (hprior : prior.SameButWarnings prior') (hm : m.SameButWarnings m')
    (h : FusedFrom work prior m) :
  FusedFrom work prior' m'
  := by
  obtain ⟨i, captureSession, response, now, warnings, hwork, hlidar, haccepted, haligned, heq⟩ := h
  refine ⟨i, captureSession, response, now, m'.warnings, hwork, ?_, haccepted, haligned, ?_⟩
  · rw [hprior]
    exact hlidar
  · rw [hm, heq, hprior]
    rfl

/-! ### Rows and their origins -/

/-- A row that was there, or that a geometry job has committed. -/
def Original (work : ι → Delivery) (w : World) (c : Config rails ι) (m : Measurement) : Prop :=
  (∃ m₀ ∈ w.measurements, m₀.SameButWarnings m) ∨
    ∃ i committed changes answer warnings, work i = .geometry ∧
      (i, ⟨.commit committed changes, answer⟩) ∈ c.past ∧
      m = ⟨{ committed with warnings }, m.id⟩

omit [FormatAssertion] in
/-- The origin of a row does not depend on its warnings, and it stays the same after an operation.
-/
theorem original_after {work : ι → Delivery} {w : World} {c : Config rails ι}
    {m m' : Measurement} (hm : m.SameButWarnings m') (h : Original work w c m) (o : Op)
    (χ : rails.Choice o) :
  Original work w (c.after i o χ) m'
  := by
  rcases h with ⟨m₀, hm₀, hsame⟩ | ⟨j, committed, changes, answer, warnings, hwork, hpast, heq⟩
  · exact .inl ⟨m₀, hm₀, hsame.trans hm⟩
  · right
    refine ⟨j, committed, changes, answer, m'.warnings, hwork, List.mem_cons_of_mem _ hpast, ?_⟩
    rw [hm, heq]

/-- The rows that are inserted: a fusion refines a row that is there, and only geometry jobs
commit rows, which are valid. -/
structure InsertsRows (work : ι → Delivery) (i : ι) (o : Op) (χ : rails.Choice o)
    (c : Config rails ι) : Prop where
  fused : ∀ m, o = .insertMeasurement m → ∃ prior ∈ c.world.measurements,
    ∃ captureSession response now, work i = .fusion captureSession.id ∧
      prior.lidarAvailable = true ∧ Accepted response ∧ aligned response = true ∧
      m = fusedMeasurement captureSession prior response now
  committed : ∀ m changes, o = .commit m changes → work i = .geometry ∧ m.valid = true

def rowsProtocol (work : ι → Delivery) : Protocol rails ι where
  ok _ _ _ _ := True
  guar := InsertsRows work

/-- What is kept of the rows of `w`, and where the other rows come from. -/
structure Additive (work : ι → Delivery) (w : World) (c : Config rails ι) : Prop where
  kept : ∀ m ∈ w.measurements, ∃ m' ∈ c.world.measurements, m.SameButWarnings m'
  rows : ∀ m ∈ c.world.measurements, Original work w c m ∨
    ∃ prior ∈ c.world.measurements, FusedFrom work prior m
  roots : ∀ m ∈ c.world.measurements,
    ∃ root ∈ c.world.measurements, Original work w c root ∧ Carries root m
  confident : ∀ m ∈ c.world.measurements, m.confidence ≤ 1

omit [FormatAssertion] in
/-- A valid measurement has a confidence of at most 1. -/
theorem confidence_le_one {m : MeasurementAttributes} (h : m.valid = true) :
  m.confidence ≤ 1
  := by
  simp only [MeasurementAttributes.valid, Bool.and_eq_true, decide_eq_true_eq] at h
  exact h.2

/-- Valid rows are their own origins. -/
theorem additive_start (work : ι → Delivery) {w : World}
    (hvalid : ∀ m ∈ w.measurements, m.valid = true) :
  Additive work w ⟨w, []⟩
  := by
  have horiginal : ∀ m ∈ w.measurements, Original work w ⟨w, []⟩ m :=
    fun m hm => .inl ⟨m, hm, .refl m⟩
  constructor
  · exact fun m hm => ⟨m, hm, .refl m⟩
  · exact fun m hm => .inl (horiginal m hm)
  · exact fun m hm => ⟨m, hm, horiginal m hm, .refl (confidence_le_one (hvalid m hm))⟩
  · exact fun m hm => confidence_le_one (hvalid m hm)

section

variable {work : ι → Delivery} {w : World} {c : Config rails ι} {o : Op} {χ : rails.Choice o}

/-- A row that has just been inserted is committed by a geometry job, or refines another one. -/
theorem inserted_cases (hinserts : InsertsRows work i o χ c) {m : MeasurementAttributes}
    (hm : o.inserted = some m) (id : ℕ) :
  Original work w (c.after i o χ) ⟨m, id⟩ ∨
    ∃ prior ∈ c.world.measurements, FusedFrom work prior ⟨m, id⟩
  := by
  cases o with
  | commit committed changes =>
      cases hm
      left; right
      have hwork := (hinserts.committed _ _ rfl).1
      exact ⟨i, m, changes, _, m.warnings, hwork, List.mem_cons_self, rfl⟩
  | insertMeasurement inserted =>
      cases hm
      right
      obtain ⟨prior, hprior, captureSession, response, now, hwork, hlidar, haccepted, haligned,
        heq⟩ := hinserts.fused _ rfl
      refine ⟨prior, hprior, i, captureSession, response, now, m.warnings, hwork, hlidar,
        haccepted, haligned, ?_⟩
      rw [heq]
  | _ => cases hm

/-- A row that has just been inserted has a confidence of at most 1. -/
theorem inserted_confidence (hinserts : InsertsRows work i o χ c)
    (hconfident : ∀ m ∈ c.world.measurements, m.confidence ≤ 1) {m : MeasurementAttributes}
    (hm : o.inserted = some m) :
  m.confidence ≤ 1
  := by
  cases o with
  | commit committed changes =>
      cases hm
      exact confidence_le_one (hinserts.committed _ _ rfl).2
  | insertMeasurement inserted =>
      cases hm
      obtain ⟨prior, hprior, captureSession, response, now, -, -, -, -, heq⟩ :=
        hinserts.fused _ rfl
      rw [heq]
      exact (fusedConfidence_bounds (hconfident prior hprior) _).2
  | _ => cases hm

/-- A step keeps the rows, and adds none without an origin. -/
theorem additive_after (hinserts : InsertsRows work i o χ c) (h : Additive work w c) :
  Additive work w (c.after i o χ)
  := by
  have hafter : ∀ m ∈ c.world.measurements,
      ∃ m' ∈ (c.after i o χ).world.measurements, m.SameButWarnings m' :=
    fun m hm => kept_of_mem hm
  constructor
  · intro m hm
    obtain ⟨m', hm', hsame⟩ := h.kept m hm
    obtain ⟨m'', hm'', hsame'⟩ := hafter m' hm'
    exact ⟨m'', hm'', hsame.trans hsame'⟩
  · intro m' hm'
    rcases kept_or_inserted hm' with ⟨m, hm, hsame⟩ | ⟨m, hinserted, rfl⟩
    · rcases h.rows m hm with horiginal | ⟨prior, hprior, hfused⟩
      · exact .inl (original_after hsame horiginal o χ)
      · obtain ⟨prior', hprior', hsame'⟩ := hafter prior hprior
        exact .inr ⟨prior', hprior', hfused.of_sameButWarnings hsame' hsame⟩
    · rcases inserted_cases hinserts hinserted c.world.measurements.length with
        horiginal | ⟨prior, hprior, hfused⟩
      · exact .inl horiginal
      · obtain ⟨prior', hprior', hsame'⟩ := hafter prior hprior
        exact .inr ⟨prior', hprior', hfused.of_sameButWarnings hsame' (.refl _)⟩
  · intro m' hm'
    have hroot : ∀ {m : Measurement}, m ∈ c.world.measurements → Carries m m' →
        ∃ root ∈ (c.after i o χ).world.measurements,
          Original work w (c.after i o χ) root ∧ Carries root m' := by
      intro m hm hcarries
      obtain ⟨root, hroot, horiginal, hcarried⟩ := h.roots m hm
      obtain ⟨root', hroot', hsame⟩ := hafter root hroot
      refine ⟨root', hroot', original_after hsame horiginal o χ, ?_⟩
      exact (hcarried.trans hcarries).of_sameButWarnings hsame (.refl _)
    rcases kept_or_inserted hm' with ⟨m, hm, hsame⟩ | ⟨m, hinserted, rfl⟩
    · exact hroot hm ((Carries.refl (h.confident m hm)).of_sameButWarnings (.refl m) hsame)
    · rcases inserted_cases hinserts hinserted c.world.measurements.length with
        horiginal | ⟨prior, hprior, hfused⟩
      · exact ⟨_, hm', horiginal, .refl (inserted_confidence hinserts h.confident hinserted)⟩
      · exact hroot hprior (hfused.carries (h.confident prior hprior))
  · intro m' hm'
    rcases kept_or_inserted hm' with ⟨m, hm, hsame⟩ | ⟨m, hinserted, rfl⟩
    · rw [hsame]
      exact h.confident m hm
    · exact inserted_confidence hinserts h.confident hinserted

end

/-! ### Deliveries -/

section Deliveries

variable {work : ι → Delivery}

/-- An operation that inserts no row inserts no wrong row. -/
theorem guar_of_not_inserted {o : Op} (ho : o.inserted = none) (χ : o.Choice)
    (c : Config rails ι) :
  InsertsRows work i o χ c
  := by
  constructor
  · rintro m rfl
    cases ho
  · rintro m changes rfl
    cases ho

/-- A delivery of the geometry may insert what it measures. -/
theorem geometry_permits (hwork : work i = .geometry) :
  Permits (rowsProtocol work) i GeometryJob.Performs
  where
  quiet o ho := by cases o <;> trivial
  update _ := trivial
  guar {o _ _} ho := by
    constructor
    · rintro m rfl
      exact ho.elim
    · rintro m changes rfl
      exact ⟨hwork, ho.2⟩

/-- What a delivery performs that inserts no row. -/
def InsertsNothing (o : Op) : Prop := o.inserted = none

omit [FormatAssertion] in
/-- A quiet operation inserts nothing. -/
theorem inserted_of_quiet {o : Op} (ho : o.quiet = true) :
  o.inserted = none
  := by
  cases o <;> first | rfl | cases ho

/-- An operation that inserts nothing is permitted to all. -/
theorem permits :
  Permits (rowsProtocol work) i InsertsNothing
  where
  quiet _ ho := inserted_of_quiet ho
  update _ := rfl
  guar ho := guar_of_not_inserted ho _ _

/-- An operation that inserts nothing takes anything to whatever holds after it. -/
theorem takes_freely {o : Op} {B : o.Res → Config rails ι → Prop} (ho : o.inserted = none)
    (hB : ∀ a c, B a c) :
  Takes (rowsProtocol work) i o (fun _ => True) B (fun _ => True)
  := Takes.of_guar (fun _ _ => guar_of_not_inserted ho _ _) hB

/-- A measurement that has been read is a row. -/
def Reading (latest : Option Measurement) (c : Config rails ι) : Prop :=
  ∀ m ∈ latest, ∃ m' ∈ c.world.measurements, m.SameButWarnings m'

omit [FormatAssertion] in
/-- What has been read has been read after an operation as well. -/
theorem reading_after {latest : Option Measurement} {c : Config rails ι} (h : Reading latest c)
    (j : ι) (o : Op) (χ : rails.Choice o) :
  Reading latest (c.after j o χ)
  := by
  intro m hm
  obtain ⟨m', hm', hsame⟩ := h m hm
  obtain ⟨m'', hm'', hsame'⟩ := kept_of_mem (o := o) (χ := χ) hm'
  exact ⟨m'', hm'', hsame.trans hsame'⟩

/-- What has been read is stable. -/
theorem stable_reading (latest : Option Measurement) :
  (rowsProtocol work).Stable i (Reading latest)
  := by
  rintro c _ ⟨j, -, o, χ, -, -, rfl⟩ h
  exact reading_after h j o χ

/-- A warning inserts no row. -/
theorem triple_appendFailureWarning {σ : Type} (message : String) (latest : Option Measurement)
    (A : σ → Config rails ι → Prop) :
  (rowsProtocol work).Triple i A (appendFailureWarning message latest) (fun _ _ _ => True)
    (fun e _ _ => e.expected = false ∧ True)
  := by
  have hwarn (m : Measurement) : (rowsProtocol work).Triple i (fun (_ : σ) _ => True)
      (warn message m) (fun _ _ _ => True) (fun e _ _ => e.expected = false ∧ True) := by
    unfold warn
    split
    · exact Protocol.Triple.ret fun _ _ _ => trivial
    · exact (takes_freely rfl fun _ _ => trivial).triple
  cases latest with
  | some m => exact (hwarn m).pre fun _ _ _ => trivial
  | none =>
      apply Protocol.Triple.bind (B := fun _ _ _ => True)
      · apply Protocol.Triple.pre _ fun _ _ _ => trivial
        exact (takes_freely (o := .latestMeasurement .failureWarning) rfl fun _ _ => trivial).triple
      · intro found
        cases found with
        | none => exact Protocol.Triple.ret fun _ _ _ => trivial
        | some m => exact hwarn m

variable [Platform]

/-- What a fusion inserts, as the rule of the fusions asks for it. -/
theorem fusionSpec {captureSession : CaptureSession}
    (hwork : work i = .fusion captureSession.id) :
  FusionSpec (rowsProtocol work) i captureSession Accepted (fun _ => True) (fun _ => True)
    Reading (fun _ => True) (fun _ => True) (fun _ _ => True) (fun _ _ => True)
  where
  read := by
    constructor
    · exact Protocol.stable_const _
    · intro χ c _ _
      use guar_of_not_inserted rfl χ c
      cases χ with
      | some className => trivial
      | none => exact fun m hm => ⟨m, List.argmax_mem hm, .refl m⟩
  undisturbed latest := by
    constructor
    · exact stable_reading latest
    · intro o χ c ho _ h
      exact ⟨guar_of_not_inserted (inserted_of_quiet ho) χ c, reading_after h i o χ⟩
  undisturbedWarned := permits.undisturbed _
  undisturbedError := permits.undisturbed _
  goodResponse _ _ hresponse := SidecarClient.accepted_of_receive_eq_ok hresponse
  lateTime _ := trivial
  skip latest _ := triple_appendFailureWarning _ latest _
  unaligned m _ _ _ _ := triple_appendFailureWarning _ (some m) _
  failed latest := (triple_appendFailureWarning _ latest _).post (fun _ _ _ _ => trivial)
    (fun _ _ _ _ => trivial)
  insert prior response now hlidar haccepted haligned _ := by
    constructor
    · exact stable_reading _
    · intro χ c _ h
      constructor
      · constructor
        · rintro _ ⟨⟩
          obtain ⟨prior', hprior', hsame⟩ := h prior rfl
          refine ⟨prior', hprior', captureSession, response, now, hwork, ?_, haccepted,
            haligned, ?_⟩
          · rw [hsame]
            exact hlidar
          · rw [hsame]
            rfl
        · rintro _ _ ⟨⟩
      · split <;> trivial
  complete _ _ := takes_freely rfl fun _ _ => trivial
  enqueue _ := takes_freely rfl fun _ _ => trivial
  error _ := trivial
  warned _ := trivial

/-- A delivery of a fusion inserts rows that are fused from those before it. -/
theorem wp_fusion {captureSessionId : String} (hwork : work i = .fusion captureSessionId)
    (c : Config rails ι) :
  (rowsProtocol work).wp i (FusionJob.delivery captureSessionId) (fun _ _ => True) c
  := by
  have hspec : FusionAttemptSpec (rowsProtocol work) i captureSessionId (fun _ => True)
      (fun _ => True) (fun _ => True) (fun _ => True) (fun _ => True) (fun _ _ => True) := by
    constructor
    · exact permits.undisturbed _
    · apply takes_freely rfl
      intro latest c
      split <;> trivial
    · rintro captureSession rfl
      exact (fusionSpec hwork).triple_call
    · exact fun _ => trivial
  apply Permits.wp_retrying
  intro n c
  apply permits.wp_perform (fun _ => rfl)
  apply (hspec.triple_attempt _).post
  · exact fun _ _ _ _ => trivial
  · exact fun _ _ _ hc => hc
  · intro e
    unfold FusionJob.recordFailure
    split
    · apply (triple_appendFailureWarning _ none _).post
      · exact fun _ _ _ _ => trivial
      · exact fun _ _ _ _ => trivial
    · exact permits.keeps_updateLastError _

/-- What a projection does to the rows, as the rule of the projections asks for it: it inserts none.
-/
theorem projectionSpec :
  ProjectionSpec (rowsProtocol work) i (fun _ _ => True) (fun _ _ _ => True) (fun _ _ _ _ => True)
  where
  read := takes_freely rfl fun _ _ _ _ => trivial
  photos _ _ _ := takes_freely rfl fun _ _ => trivial
  status _ _ := takes_freely rfl fun _ _ => trivial
  post _ _ _ _ _ _ _ _ := takes_freely rfl fun _ _ => trivial
  weaken _ _ _ _ _ := trivial
  save _ _ _ _ _ _ _ := takes_freely rfl fun _ _ => trivial
  saveUndrawn _ _ _ _ _ _ _ := takes_freely rfl fun _ _ => trivial

/-- Every delivery inserts rows of the kinds that the protocol allows. -/
theorem wp_program (c : Config rails ι) :
  (rowsProtocol work).wp i (work i).program (fun _ _ => True) c
  := by
  cases hwork : work i with
  | geometry => exact wp_discarding (GeometryJob.wp_delivery (geometry_permits hwork) c)
  | fusion captureSessionId => exact wp_discarding (wp_fusion hwork c)
  | projection =>
      apply wp_discarding
      exact ProjectionJob.wp_delivery permits.toUpdates (fun _ => rfl) projectionSpec c
  | ingest captureSession captures =>
      intro c' _ χ _
      exact ⟨guar_of_not_inserted (o := .ingestCaptureSession captureSession captures) rfl χ c',
        trivial⟩

/-- In every interleaving of deliveries over valid rows, the rows that were there are kept but
for their warnings, every other row is committed by a geometry job or refines a row with LiDAR,
and what fusions do not measure is carried from a row that no fusion has made. -/
theorem fusions_additive [DecidableEq ι] (work : ι → Delivery) {w : World}
    (hvalid : ∀ m ∈ w.measurements, m.valid = true) (schedule : List (ι × rails.Choices)) :
  let c := ((deliveries work w).run schedule).config
  (∀ m ∈ w.measurements, ∃ m' ∈ c.world.measurements, m.SameButWarnings m') ∧
  (∀ m ∈ c.world.measurements, Original work w c m ∨
    ∃ prior ∈ c.world.measurements, FusedFrom work prior m) ∧
  ∀ m ∈ c.world.measurements,
    ∃ root ∈ c.world.measurements, Original work w c root ∧ Carries root m
  := by
  intro c
  have hstart : (deliveries work w).Keeps (rowsProtocol work) fun _ _ _ => True :=
    fun i => wp_program _
  have hmeets : (deliveries work w).Meets (rowsProtocol work).ok schedule :=
    Pool.meets_of_forall _ fun _ _ _ _ _ => trivial
  obtain ⟨hguar, -⟩ := Pool.run_of_keeps (fun _ _ => Protocol.stable_const True) hstart hmeets
  have hinv := Pool.invariant_run (P := rowsProtocol work) (A := Additive work w)
    (fun i o χ c _ hinserts hc => additive_after hinserts hc) hmeets hguar
    (additive_start work hvalid)
  exact ⟨hinv.kept, hinv.rows, hinv.roots⟩

end Deliveries

end Rows

/-! ### A fusion -/

/-- The rows after the fusion of the capture session `1` with a good alignment. -/
def fusedJob : Config rails Unit :=
  ((@deliveries Unit anyFormat plainPlatform (fun _ => .fusion "1") (measuredJob ["1"])).run
    (List.replicate 10 ((), answering (fusionResponse [flatFacet] (translation 0))))).config

/-- The second of two rows carries the first one. -/
theorem fusions_additive_fusion :
  fusedJob.world.measurements.length = 2 ∧
    ∀ m ∈ fusedJob.world.measurements, ∃ root ∈ fusedJob.world.measurements,
      Original (fun _ => .fusion "1") (measuredJob ["1"]) fusedJob root ∧ Carries root m
  := by
  constructor
  · decide +kernel
  · apply (@fusions_additive Unit anyFormat plainPlatform _ (fun _ => .fusion "1")
      (measuredJob ["1"]) _ _).2.2
    decide +kernel

end FusedRows

end Rails
