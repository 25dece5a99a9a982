import RoofTrace.Rails.Deliveries
import RoofTrace.Rails.Rows

/-!
# The facets of measurements

Every measurement that is persisted for a job has a facet, in every interleaving of its
deliveries whose fusions are answered with measurements that have one. The pipeline has a
guard of its own, the fusion has none.
-/

namespace Rails

open Effects FusionOrchestrator SidecarClient

namespace MeasurementFacets

variable {ι : Type} {i : ι}

/-- A response that is fused measures a facet. -/
def MeasuresFacet (response : Json ℚ) : Prop :=
  aligned response = true → Ruby.array ((response.get "measurement").get "facets") ≠ []

/-- The responses to fusions measure facets. -/
def FusionsMeasureFacets [FormatAssertion] : StepPred rails ι := fun _ o χ _ =>
  match o, χ with
  | .post stage _ timeout, exchange =>
      stage = fuseCapture → ∀ response, receive stage timeout exchange = .ok response →
        MeasuresFacet response
  | _, _ => True

/-- A measurement that is inserted has a facet. -/
def InsertsFacets : StepPred rails ι := fun _ o _ _ =>
  ∀ m, o.inserted = some m → m.facets ≠ []

def facetsProtocol [FormatAssertion] (ι : Type) : Protocol rails ι where
  ok := FusionsMeasureFacets
  guar := InsertsFacets

section Runs

variable [FormatAssertion]

theorem guar_of_not_inserted {o : Op} (ho : o.inserted = none) (χ : o.Choice)
    (c : Config rails ι) :
  (facetsProtocol ι).guar i o χ c
  := by
  intro m hm
  rw [ho] at hm
  cases hm

theorem geometry_permits :
  Permits (facetsProtocol ι) i GeometryJob.Performs
  where
  quiet o ho := by cases o <;> trivial
  update _ := trivial
  guar {o _ _} ho := by
    intro m hm
    cases o with
    | commit m' changes =>
        cases hm
        exact ho.1
    | insertMeasurement m' => exact ho.elim
    | _ => cases hm

theorem fusion_permits (captureSessionId : String) :
  Permits (facetsProtocol ι) i (FusionJob.Performs captureSessionId MeasuresFacet)
  where
  quiet o ho := by cases o <;> trivial
  update _ := trivial
  guar {o _ _} ho := by
    intro m hm
    cases o with
    | commit m' changes => exact ho.elim
    | insertMeasurement m' =>
        cases hm
        obtain ⟨captureSession, prior, response, now, -, hfacet, haligned, rfl⟩ := ho
        exact hfacet haligned
    | _ => cases hm

theorem projection_permits :
  Permits (facetsProtocol ι) i ProjectionJob.Performs
  where
  quiet o ho := by cases o <;> trivial
  update _ := trivial
  guar {o _ _} ho := by
    intro m hm
    cases o with
    | commit m' changes => exact ho.elim
    | insertMeasurement m' => exact ho.elim
    | _ => cases hm

theorem takes_of_not_inserted {o : Op} {B : o.Res → Config rails ι → Prop}
    (ho : o.inserted = none) (hB : ∀ a c, B a c) :
  Takes (facetsProtocol ι) i o (fun _ => True) B (fun _ => True)
  := Takes.of_guar (guar_of_not_inserted ho) hB

variable [Platform]

theorem projectionSpec :
  ProjectionSpec (facetsProtocol ι) i (fun _ _ => True) (fun _ _ _ => True) (fun _ _ _ _ => True)
  where
  read := takes_of_not_inserted rfl fun _ _ _ _ => trivial
  photos _ _ _ := takes_of_not_inserted rfl fun _ _ => trivial
  status _ _ := takes_of_not_inserted rfl fun _ _ => trivial
  post _ _ _ _ _ _ _ _ := takes_of_not_inserted rfl fun _ _ => trivial
  weaken _ _ _ _ _ := trivial
  save _ _ _ _ _ _ _ := takes_of_not_inserted rfl fun _ _ => trivial
  saveUndrawn _ _ _ _ _ _ _ := takes_of_not_inserted rfl fun _ _ => trivial

theorem program_insertsFacets (work : Delivery) (c : Config rails ι) :
  (facetsProtocol ι).wp i work.program (fun _ _ => True) c
  := by
  cases work with
  | geometry => exact wp_discarding (GeometryJob.wp_delivery geometry_permits c)
  | fusion captureSessionId =>
      apply wp_discarding
      apply FusionJob.wp_delivery (fusion_permits captureSessionId)
      intro payload timeout exchange c response hok hresponse
      exact hok rfl response hresponse
  | projection =>
      apply wp_discarding
      exact ProjectionJob.wp_delivery projection_permits.toUpdates (fun _ => trivial)
        projectionSpec c
  | ingest captureSession captures =>
      intro _ _ _ _
      exact ⟨guar_of_not_inserted rfl _ _, trivial⟩

/-- Every measurement has a facet, in every interleaving of deliveries whose fusions are
answered with measurements that have one. -/
theorem measurements_have_facets [DecidableEq ι] (work : ι → Delivery) (w : World)
    (hw : ∀ m ∈ w.measurements, m.facets ≠ []) (schedule : List (ι × rails.Choices))
    (hmeets : (deliveries work w).Meets FusionsMeasureFacets schedule) :
  (∀ m ∈ ((deliveries work w).run schedule).config.world.measurements, m.facets ≠ []) ∧
    ∀ m, ((deliveries work w).run schedule).config.world.latestMeasurement = some m →
      m.facets ≠ []
  := by
  have hstart : (deliveries work w).Keeps (facetsProtocol ι) fun _ _ _ => True :=
    fun i => program_insertsFacets (work i) _
  obtain ⟨hguar, -⟩ := Pool.run_of_keeps (fun _ _ => Protocol.stable_const True) hstart hmeets
  have hall : ∀ m ∈ ((deliveries work w).run schedule).config.world.measurements,
      m.facets ≠ [] := by
    apply Pool.invariant_run (P := facetsProtocol ι)
      (A := fun c => ∀ m ∈ c.world.measurements, m.facets ≠ []) _ hmeets hguar hw
    intro i o χ c _ hinserts hc m' hm'
    rcases kept_or_inserted hm' with ⟨m, hm, hsame⟩ | ⟨m, hm, rfl⟩
    · rw [hsame]
      exact hc m hm
    · exact hinserts m hm
  exact ⟨hall, fun m hm => hall m (List.argmax_mem hm)⟩

end Runs

/-- A fusion of one capture session, whose steps are all answered by `response`. -/
def fusionRun (response : Json ℚ) : List (Unit × rails.Choices) :=
  List.replicate 10 ((), answering response)

/-- A fusion whose responses have a facet leaves measurements with facets, the latest one among
them. -/
theorem measurements_have_facets_fusion :
  (∀ m ∈ ((@deliveries Unit anyFormat plainPlatform (fun _ => .fusion "1") (measuredJob ["1"])).run
      (fusionRun (fusionResponse [flatFacet] (translation 0)))).config.world.measurements,
    m.facets ≠ []) ∧
  ∀ m, ((@deliveries Unit anyFormat plainPlatform (fun _ => .fusion "1") (measuredJob ["1"])).run
      (fusionRun (fusionResponse [flatFacet] (translation 0)))).config.world.latestMeasurement
        = some m →
    m.facets ≠ []
  := by
  apply @measurements_have_facets Unit anyFormat plainPlatform
  · intro m hm
    rw [List.mem_singleton.mp hm]
    exact nofun
  · apply Pool.meets_of_forall
    intro i χ hχ o c
    obtain ⟨-, hχ⟩ := List.mem_replicate.mp hχ
    cases hχ
    cases o with
    | post stage payload timeout =>
        rintro - response hresponse
        rw [@eq_of_receive_eq_ok anyFormat _ _ _ _ _ hresponse]
        intro _
        exact nofun
    | _ => trivial

/-- A fusion that measures nothing replaces a measurement. -/
theorem empty_measurement_persisted :
  (∀ m ∈ (measuredJob ["1"]).measurements, m.facets.length = 1) ∧
    ((@deliveries Unit anyFormat plainPlatform (fun _ => .fusion "1") (measuredJob ["1"])).run
      (fusionRun (fusionResponse [] (translation 0)))).config.world.latestMeasurement.map
        (·.facets.length) = some 0
  := by
  decide +kernel

end MeasurementFacets

end Rails
