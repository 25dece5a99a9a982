import RoofTrace.Deliveries.StageWarnings
import RoofTrace.Rails.CalmRun
import RoofTrace.Rails.OpenRouter

/-!
# Degradation is reported

A measurement should say what it is made of: LiDAR or imagery, a refined outline or the
footprint, features or none because the detection has failed. It does, but for one way in
which a detection fails: when the retries of the detector are exhausted, the detection comes
to an empty list of features, which nobody can tell from a roof that has none.
-/

namespace Rails

open Effects SidecarClient

namespace DegradationHonesty

open MeasurementOrchestrator StageWarnings

/-! ### Runs with a detection -/

section Runs

variable [FormatAssertion] [Platform]

end Runs

/-! ### What an honest measurement says -/

/-- A text begins with the kind of a warning. -/
def OfKind (kind : String) (warning : Json ℚ) : Prop :=
  ∃ s, warning = .str s ∧ kind.toList <+: s.toList

/-- A measurement has a warning of a kind. -/
def Warns (kind : String) (m : Measurement) : Prop := ∃ w ∈ m.warnings, OfKind kind w

section Honesty

variable [FormatAssertion] [Platform] [Texts]

end Honesty

/-! ### The warnings of a measurement -/

section Warnings

variable [FormatAssertion] [Platform] {r : StageRun} {m : Measurement}

omit [FormatAssertion] [Platform] in
theorem ofKind_append (kind head rest : String) (h : kind.toList <+: head.toList) :
  OfKind kind (.str (head ++ rest))
  := by
  use head ++ rest, rfl
  rw [String.toList_append]
  exact h.trans (List.prefix_append _ _)

omit [FormatAssertion] [Platform] in
theorem posted_lidar_iff {facts : List Fact} (hfacts : facts = .committed m :: r.facts)
    (outcome : Except Exn (Json ℚ)) :
  .posted ingestLidar outcome ∈ facts ↔ outcome = r.lidar
  := by
  have hgeometry : r.geometryStage ≠ ingestLidar := by
    unfold StageRun.geometryStage
    split <;> decide
  have hrefine : refineOutline ≠ ingestLidar := by decide
  have himagery : renderImagery ≠ ingestLidar := by decide
  have hresolve : resolveAddress ≠ ingestLidar := by decide
  rw [hfacts, StageRun.facts]
  simp [hgeometry.symm, hrefine.symm, himagery.symm, hresolve.symm]

omit [FormatAssertion] [Platform] in
theorem posted_refine_iff {facts : List Fact} (hfacts : facts = .committed m :: r.facts)
    (outcome : Except Exn (Json ℚ)) :
  .posted refineOutline outcome ∈ facts ↔ outcome = r.refine
  := by
  have hgeometry : r.geometryStage ≠ refineOutline := by
    unfold StageRun.geometryStage
    split <;> decide
  have hlidar : ingestLidar ≠ refineOutline := by decide
  have himagery : renderImagery ≠ refineOutline := by decide
  have hresolve : resolveAddress ≠ refineOutline := by decide
  rw [hfacts, StageRun.facts]
  simp [hgeometry.symm, hlidar.symm, himagery.symm, hresolve.symm]

end Warnings

/-! ### What a measurement says -/

section Parts

variable [FormatAssertion] [Platform] {r : StageRun} {m : Measurement}
  {past : List (Unit × Event application)} (h : Commits r m (facts past))

include h

/-- A measurement with an outline that was not refined has the footprint, and says so. -/
theorem outline_reported {e : Exn} (he : .posted refineOutline (.error e) ∈ facts past) :
  m.roofOutline = m.footprint ∧ Warns "outline_unrefined" m
  := by
  obtain ⟨jobId, -, hrow⟩ := h.row
  have hrefine : Except.error e = r.refine := (posted_refine_iff h.facts _).mp he
  constructor
  · apply hrow.roofOutline_eq_footprint
    have hpolygon := h.refinedPolygon
    rw [StageRun.refined, ← hrefine] at hpolygon
    exact (Except.ok.inj hpolygon).symm
  · use .str s!"outline_unrefined: {e.className}"
    refine ⟨?_, ofKind_append "outline_unrefined" "outline_unrefined: " _ (by decide)⟩
    apply (mem_warnings_iff h _).mpr
    apply List.mem_flatMap.mpr
    use .posted refineOutline (.error e), he
    rw [carried_refine r.buildingPolygon]
    exact List.mem_singleton_self _

end Parts

/-! ### Degradation is reported -/

/-- The exceptions of a contract that is violated and of a geometry that fails. -/
def Fatal (e : Exn) : Prop :=
  (∃ message, e = .sidecar .schemaError message) ∨ ∃ message, e = .geometricFailure message

theorem Fatal.expected {e : Exn} (h : Fatal e) :
  e.expected = true
  := by
  rcases h with ⟨message, rfl⟩ | ⟨message, rfl⟩
  · rfl
  · rfl

section Runs

variable [FormatAssertion] [Platform] [Texts]

end Runs

/-! ### A detection that times out twice -/

/-- The exception that a run ends with. -/
def raised {α : Type} : Except Exn α → Option Exn
  | .error e => some e
  | .ok _ => none

end DegradationHonesty

end Rails
