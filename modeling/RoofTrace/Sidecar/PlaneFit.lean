import RoofTrace.Numbers.Rounding
import RoofTrace.Rigid.Transform
import RoofTrace.Sidecar.Utm

/-!
# Facets and their measurement

The part of the plane fit that decides what becomes of fitted planes: which of them are
dropped, in which CRS the others are read, how their numbers are rounded, and how facets
are assembled into a measurement (`planefit/geometry.py`). The fitting itself and the plane
geometry are a `PlaneFit`; every result holds for any.
-/

namespace Sidecar

open Contract

/-- The numbers of a facet before they are rounded and validated. -/
structure RawFacet where
  facetId : String
  vertices : List (List ℚ)
  pitchRatio : ℚ
  pitchDegrees : ℚ
  areaSqFt : ℚ
  confidence : ℚ

/-- The fitting of planes to a cloud and the geometry of the planes. A plane or a model
facet is turned into numbers in the CRS of an EPSG code. -/
structure PlaneFit where
  Plane : Type
  ModelFacet : Type
  fitPlanes : List (Vec3 ℚ) → List Plane
  mergeCoplanarFacets : List Plane → List Plane
  /-- The number of points of a plane. -/
  inliers : Plane → ℕ
  planeFacet : ℤ → List (Vec3 ℚ) → Plane → RawFacet
  /-- The facets, warnings and diagnostics of `build_roof_model`, once the CRS of the
  outline is known. -/
  partition : ℤ → List Plane → List (Vec3 ℚ) → Polygon →
    Except Exception (List ModelFacet × List String × RoofModelDiagnostics)
  modelFacet : ℤ → ModelFacet → RawFacet
  planViewUnionAreaSqFt : List Facet → Option ℚ
  totalPerimeterFt : List Facet → Option NonNeg

/-- Python's `round(x, n)`. -/
def pyRound (x : ℚ) (n : ℕ) : ℚ := Rounding.halfEven.digits n x

def minFacetConfidence : ℚ := 4 / 10

/-- A contract facet from its numbers. -/
def facetOf (source : GeometrySource) (raw : RawFacet) : Except Exception Facet := do
  let vertices ← raw.vertices.mapM (validated fun xs => 2 ≤ xs.length ∧ xs.length ≤ 3)
  let vertices ← validated (3 ≤ ·.length) vertices
  let pitchRatio ← validated (0 ≤ ·) raw.pitchRatio
  let pitchDegrees ← validated (fun x => 0 ≤ x ∧ x ≤ 90) (pyRound raw.pitchDegrees 2)
  let areaSqFt ← validated (0 ≤ ·) (pyRound raw.areaSqFt 2)
  let confidence ← validated (fun x => 0 ≤ x ∧ x ≤ 1) (pyRound raw.confidence 4)
  return {
    facetId := raw.facetId
    vertices
    pitchRatio := some pitchRatio
    pitchDegrees := some pitchDegrees
    areaSqFt
    source
    confidence }

/-- `build_facets_from_planes` -/
def buildFacetsFromPlanes (pf : PlaneFit) (planes : List pf.Plane) (points : List (Vec3 ℚ))
    (utmZone : ℤ) (source : GeometrySource) : Except Exception (List Facet) := do
  let epsg ← utmEpsg utmZone
  let raws := planes.filterMap fun plane =>
    let raw := pf.planeFacet epsg points plane
    if pf.inliers plane < 3 then none
    else if raw.confidence < minFacetConfidence then none
    else some raw
  raws.mapM (facetOf source)

/-- `build_roof_model` -/
def buildRoofModel (pf : PlaneFit) (planes : List pf.Plane) (points : List (Vec3 ℚ))
    (refinedPolygon : Polygon) (utmZone : ℤ) :
    Except Exception (List pf.ModelFacet × List String × RoofModelDiagnostics) := do
  let epsg ← utmEpsg utmZone
  pf.partition epsg planes points refinedPolygon

/-- `build_facets_from_roof_model` -/
def buildFacetsFromRoofModel (pf : PlaneFit) (facets : List pf.ModelFacet) (utmZone : ℤ)
    (source : GeometrySource) : Except Exception (List Facet) :=
  facets.mapM fun facet => do
    let epsg ← utmEpsg utmZone
    facetOf source (pf.modelFacet epsg facet)

/-- `np.clip` -/
def clip (x lo hi : ℚ) : ℚ := min (max x lo) hi

def maxSurfaceToPlanRatio : ℚ := 3

/-- The first of the facets with the largest area. -/
def largestFacet (first : Facet) (rest : List Facet) : Facet :=
  rest.foldl (fun best f => if f.areaSqFt.val > best.areaSqFt.val then f else best) first

/-- The confidence of a measurement: the mean of the facets' confidences, weighted by
their areas when these are not all zero. -/
def overallConfidence (facets : List Facet) : ℚ :=
  let totalArea := (facets.map (·.areaSqFt.val)).sum
  if totalArea > 0 then
    (facets.map fun f => f.confidence.val * f.areaSqFt.val).sum / totalArea
  else
    (facets.map (·.confidence.val)).sum / facets.length

theorem pyRound_nonneg {x : ℚ} (n : ℕ) (h : 0 ≤ x) :
  0 ≤ pyRound x n
  := Rounding.digits_nonneg _ n h

theorem pyRound_clip (x : ℚ) (n : ℕ) :
  0 ≤ pyRound (clip x 0 1) n ∧ pyRound (clip x 0 1) n ≤ 1
  := by
  constructor
  · apply pyRound_nonneg
    simp [clip]
  · have hle := Rounding.digits_le_int .halfEven n (k := 1) (x := clip x 0 1) (by simp [clip])
    exact_mod_cast hle

theorem pyRound_between {x : ℚ} {k : ℕ} (n : ℕ) (h : 0 ≤ x ∧ x ≤ k) :
  0 ≤ pyRound x n ∧ pyRound x n ≤ k
  := by
  constructor
  · apply pyRound_nonneg n h.1
  · have hle := Rounding.digits_le_int .halfEven n (k := k) (x := x) (by exact_mod_cast h.2)
    exact_mod_cast hle

theorem sum_areaSqFt_nonneg (facets : List Facet) :
  0 ≤ (facets.map (·.areaSqFt.val)).sum
  := by
  apply List.sum_nonneg
  intro a ha
  obtain ⟨f, -, rfl⟩ := List.mem_map.mp ha
  apply f.areaSqFt.property

/-- `assemble_measurement` -/
def assembleMeasurement (pf : PlaneFit) (facets : List Facet) (source : GeometrySource)
    (warnings : List String) (roofModel : Option RoofModelDiagnostics) :
    Except Exception MeasurementGeometry :=
  match facets with
  | [] =>
      return {
        pipelineSchemaVersion
        facets := []
        totalAreaSqFt := ⟨0, le_rfl⟩
        totalPerimeterFt := none
        primaryPitchRatio := some ⟨0, le_rfl⟩
        primaryPitchDegrees := some ⟨0, by norm_num⟩
        source
        confidence := ⟨0, confidence_zero⟩
        warnings
        roofModel }
  | first :: rest => do
      let totalArea := ((first :: rest).map (·.areaSqFt.val)).sum
      let planView := pf.planViewUnionAreaSqFt (first :: rest)
      let bloated := planView.any fun area =>
        decide (area > 0 ∧ totalArea > maxSurfaceToPlanRatio * area)
      let warnings := if bloated then warnings ++ ["area_over_plan_view"] else warnings
      let primary := largestFacet first rest
      let some degrees := primary.pitchDegrees | throw (.other "TypeError")
      return {
        pipelineSchemaVersion
        facets := first :: rest
        totalAreaSqFt := ⟨pyRound totalArea 2, pyRound_nonneg 2 (sum_areaSqFt_nonneg _)⟩
        totalPerimeterFt := pf.totalPerimeterFt (first :: rest)
        primaryPitchRatio := primary.pitchRatio
        primaryPitchDegrees := some ⟨pyRound degrees.val 2, pyRound_between 2 degrees.property⟩
        source
        confidence :=
          ⟨pyRound (clip (overallConfidence (first :: rest)) 0 1) 4, pyRound_clip _ 4⟩
        warnings
        roofModel }

/-- A measurement is assembled with the very facets it is given, also when there are
none. -/
theorem assembleMeasurement_facets {pf : PlaneFit} {facets : List Facet}
    {source : GeometrySource} {warnings : List String}
    {roofModel : Option RoofModelDiagnostics} {geometry : MeasurementGeometry}
    (h : assembleMeasurement pf facets source warnings roofModel = .ok geometry) :
  geometry.facets = facets
  := by
  unfold assembleMeasurement at h
  split at h
  · cases h
    rfl
  · next first rest =>
    cases hdegrees : (largestFacet first rest).pitchDegrees with
    | none =>
        simp only [hdegrees] at h
        cases h
    | some degrees =>
        simp only [hdegrees] at h
        cases h
        rfl

end Sidecar
