import Mathlib.MeasureTheory.Measure.Lebesgue.Basic
import RoofTrace.Sidecar.FacetAreas
import RoofTrace.Sidecar.PartitionSymmetry

/-!
# Facets that do not overlap

The facets of a roof model lie inside the outline. Two of them do not overlap when they are cut
along the seam of their planes, with their points on opposite sides of it, or when what they are cut
from does not overlap; when this is so of any two, their plan areas add to no more than the
outline's. Roof levels that are not partitioned against each other do overlap.
-/

namespace Sidecar

namespace RoofModel

open Cone Planar Sidecar.Topology Outcome MeasureTheory

/-! ### Parts of a whole -/

/-- Parts of a whole with disjoint interiors have no more than the measure of the whole. -/
theorem sum_measure_interior_le {X : Type} [TopologicalSpace X] [MeasurableSpace X]
    [OpensMeasurableSpace X] (μ : Measure X) (whole : Set X) {parts : List (Set X)}
    (hparts : parts.Pairwise fun s t => Disjoint (interior s) (interior t))
    (hwhole : ∀ s ∈ parts, s ⊆ whole) :
  (parts.map fun s => μ (interior s)).sum ≤ μ (interior whole)
  := by
  have hsum : (parts.map fun s => μ (interior s)).sum = μ (⋃ s ∈ parts, interior s) := by
    clear hwhole
    induction parts with
    | nil => simp
    | cons s parts ih =>
        obtain ⟨hs, hparts⟩ := List.pairwise_cons.mp hparts
        have hunion : ⋃ t ∈ s :: parts, interior t = interior s ∪ ⋃ t ∈ parts, interior t := by
          ext x
          simp
        have hopen : IsOpen (⋃ t ∈ parts, interior t) :=
          isOpen_biUnion fun t _ => isOpen_interior
        have hdisjoint : Disjoint (interior s) (⋃ t ∈ parts, interior t) := by
          rw [Set.disjoint_iUnion₂_right]
          exact hs
        rw [List.map_cons, List.sum_cons, ih hparts, hunion,
          measure_union hdisjoint hopen.measurableSet]
  rw [hsum]
  apply measure_mono
  apply Set.iUnion₂_subset
  exact fun s hs => interior_mono (hwhole s hs)

/-! ### Exact operations -/

/-- Operations that are exact: besides adding no area, an intersection is part of its second
geometry, what has been mended is valid, as are the polygons of what is valid, and the area of a
valid polygon is that of its interior. -/
structure Exact (shapely : Shapely ℝ) : Prop extends Cutting realNumpy shapely where
  within : ∀ g h, areal shapely (shapely.intersection g h) ⊆ areal shapely h
  mend_valid : ∀ g, shapely.isValid (shapely.buffer g 0) = true
  part_valid : ∀ g, shapely.isValid g = true →
    ∀ p ∈ g.polygons, shapely.isValid (.polygon p) = true
  area : ∀ p, shapely.isValid (.polygon p) = true →
    volume (interior (areal shapely (.polygon p))) = ENNReal.ofReal p.area

/-- The largest polygon of a geometry that is not empty is one of its polygons, and none of them is
larger. -/
theorem largestPolygon_spec {g : Geometry ℝ} (h : g.isEmpty = false) :
  largestPolygon g ∈ g.polygons ∧ ∀ p ∈ g.polygons, p.area ≤ (largestPolygon g).area
  := by
  have hmax : ∀ (ps : List (PlanPolygon ℝ)) (best : PlanPolygon ℝ), ∀ p ∈ best :: ps,
      p.area ≤
        (ps.foldl (fun best q => if best.area < q.area then q else best) best).area := by
    intro ps
    induction ps with
    | nil =>
        intro best p hp
        rw [List.mem_singleton.mp hp]
        exact le_refl _
    | cons q ps ih =>
        intro best p hp
        rw [List.foldl_cons]
        have hstep := ih (if best.area < q.area then q else best)
        have hbest := hstep _ List.mem_cons_self
        rcases List.mem_cons.mp hp with rfl | hp
        · apply le_trans _ hbest
          split_ifs with hlt
          · exact hlt.le
          · exact le_refl _
        · rcases List.mem_cons.mp hp with rfl | hp
          · apply le_trans _ hbest
            split_ifs with hlt
            · exact le_refl _
            · exact not_lt.mp hlt
          · exact hstep p (List.mem_cons_of_mem _ hp)
  rw [largestPolygon, if_neg (h ▸ Bool.false_ne_true)]
  cases hpolygons : g.polygons with
  | nil =>
      rw [Geometry.isEmpty, hpolygons] at h
      cases h
  | cons p ps => exact ⟨maxByArea_mem p ps, hmax ps p⟩

section Parts

variable {shapely : Shapely ℝ} (hexact : Exact shapely)

include hexact

/-- What has been mended is valid. -/
theorem isValid_mended (g : Geometry ℝ) :
  shapely.isValid (mended shapely g) = true
  := by
  rw [mended]
  split_ifs with hvalid
  · exact hvalid
  · exact hexact.mend_valid g

/-- The largest polygon of what has been mended is valid, unless there is none. -/
theorem isValid_largestPolygon_mended {g : Geometry ℝ}
    (h : (largestPolygon (mended shapely g)).isEmpty = false) :
  shapely.isValid (.polygon (largestPolygon (mended shapely g))) = true
  := by
  cases hempty : (mended shapely g).isEmpty with
  | true =>
      rw [largestPolygon, if_pos hempty] at h
      cases h
  | false => exact hexact.part_valid _ (isValid_mended hexact g) _ (largestPolygon_spec hempty).1

/-- The outline is valid and not without area. -/
theorem refinedOutlineToUtm_spec {refinedPolygon : List (Ring ℝ)} {utmZone : ℤ}
    {outline : PlanPolygon ℝ}
    (h : refinedOutlineToUtm shapely refinedPolygon utmZone = .ok outline) :
  shapely.isValid (.polygon outline) = true ∧ 0 ≤ outline.area
  := by
  obtain ⟨epsg, -, h⟩ := bind_eq_ok.mp h
  split at h
  · cases h
  · next exterior holes _ =>
    dsimp only at h
    split_ifs at h with hdegenerate
    · cases h
    · cases h
      obtain ⟨hempty, hlarge⟩ := not_or.mp hdegenerate
      rw [Bool.not_eq_true] at hempty
      obtain ⟨hmem, hmax⟩ := largestPolygon_spec hempty
      refine ⟨hexact.part_valid _ (isValid_mended hexact _) _ hmem, ?_⟩
      -- were the largest polygon's area negative, so would be the sum
      by_contra hneg
      apply hlarge
      have hnonpos : ∀ area ∈ (mended shapely (.polygon ⟨exterior, holes⟩)).polygons.map (·.area),
          area ≤ 0 := by
        intro area harea
        obtain ⟨p, hp, rfl⟩ := List.mem_map.mp harea
        exact (hmax p hp).trans (not_le.mp hneg).le
      exact (List.sum_le_card_nsmul _ 0 hnonpos).trans_eq (smul_zero _)

end Parts

/-! ### Emission -/

/-- A facet is emitted of the cell of the candidate at a position. -/
structure EmittedOf (cell : ℕ → CandidateFacet ℝ → PlanPolygon ℝ)
    (candidates : List (CandidateFacet ℝ)) (i : ℕ) (f : RoofModelFacet ℝ) : Prop where
  polygon : ∃ candidate, candidates[i]? = some candidate ∧ f.polygonUtm = cell i candidate
  nonempty : f.polygonUtm.isEmpty = false
  large : minModelFacetAreaM2 ≤ f.polygonUtm.area
  area : f.planAreaM2 = f.polygonUtm.area

/-- A facet that is made of a cell is the emission of its candidate. -/
theorem facetOfCell_emittedOf {shapely : Shapely ℝ} {number i : ℕ} {candidate : CandidateFacet ℝ}
    {cell : ℕ → CandidateFacet ℝ → PlanPolygon ℝ} {candidates : List (CandidateFacet ℝ)}
    {f : RoofModelFacet ℝ} (hcandidate : candidates[i]? = some candidate)
    (h : facetOfCell realNumpy shapely number candidate (cell i candidate) = .inl f) :
  EmittedOf cell candidates i f
  := by
  rw [facetOfCell] at h
  split_ifs at h with hsmall hoff
  cases h
  obtain ⟨hempty, hlarge⟩ := not_or.mp hsmall
  exact ⟨⟨candidate, hcandidate, rfl⟩, Bool.not_eq_true _ ▸ hempty, not_lt.mp hlarge, rfl⟩

/-- The facets are emitted of candidates at increasing positions. -/
theorem emitFacets_emittedOf (shapely : Shapely ℝ) (cell : ℕ → CandidateFacet ℝ → PlanPolygon ℝ)
    {candidates : List (CandidateFacet ℝ)} (rest : List (CandidateFacet ℝ)) {i : ℕ}
    (hrest : candidates.drop i = rest) (facets : List (RoofModelFacet ℝ)) :
  ∃ made : List (ℕ × RoofModelFacet ℝ),
    (emitFacets realNumpy shapely cell i facets rest).1 = facets ++ made.map (·.2) ∧
      (made.map (·.1)).Pairwise (· < ·) ∧
      ∀ m ∈ made, i ≤ m.1 ∧ EmittedOf cell candidates m.1 m.2
  := by
  induction rest generalizing i facets with
  | nil => exact ⟨[], (List.append_nil _).symm, List.Pairwise.nil, nofun⟩
  | cons candidate rest ih =>
      have hcandidate : candidates[i]? = some candidate := by
        rw [← List.head?_drop, hrest]
        rfl
      have hnext : candidates.drop (i + 1) = rest := by
        rw [← List.tail_drop, hrest]
        rfl
      rw [emitFacets]
      split
      · next f hf =>
        obtain ⟨made, hfacets, hincreasing, hmade⟩ := ih hnext (facets ++ [f])
        refine ⟨(i, f) :: made, ?_, ?_, ?_⟩
        · rw [hfacets, List.append_assoc]
          rfl
        · rw [List.map_cons, List.pairwise_cons]
          refine ⟨?_, hincreasing⟩
          intro j hj
          obtain ⟨m, hm, rfl⟩ := List.mem_map.mp hj
          exact (hmade m hm).1
        · intro m hm
          rcases List.mem_cons.mp hm with rfl | hm
          · exact ⟨le_refl _, facetOfCell_emittedOf hcandidate hf⟩
          · exact ⟨(Nat.le_succ i).trans (hmade m hm).1, (hmade m hm).2⟩
      · obtain ⟨made, hfacets, hincreasing, hmade⟩ := ih hnext facets
        refine ⟨made, hfacets, hincreasing, ?_⟩
        intro m hm
        exact ⟨(Nat.le_succ i).trans (hmade m hm).1, (hmade m hm).2⟩

/-- The facets of a model are emitted of its candidates. -/
theorem buildRoofModel_emittedOf {shapely : Shapely ℝ} {planes : List (MergedPlane ℝ)}
    {points : List (Vec3 ℝ)} {refinedPolygon : List (Ring ℝ)} {utmZone : ℤ} {model : RoofModel ℝ}
    (h : buildRoofModel realNumpy shapely planes points refinedPolygon utmZone = .ok model) :
  ∃ outline candidates, refinedOutlineToUtm shapely refinedPolygon utmZone = .ok outline ∧
    candidatesOf shapely outline points planes = .ok candidates ∧
    ∃ made : List (ℕ × RoofModelFacet ℝ), model.facets = made.map (·.2) ∧
      (made.map (·.1)).Pairwise (· < ·) ∧
      ∀ m ∈ made,
        EmittedOf (cellFor realNumpy shapely candidates points outline) candidates m.1 m.2
  := by
  obtain ⟨outline, houtline, h⟩ := bind_eq_ok.mp h
  obtain ⟨parts, hparts, h⟩ := bind_eq_ok.mp h
  cases h
  obtain ⟨made, hfacets, hincreasing, hmade⟩ := emitFacets_emittedOf shapely
    (cellFor realNumpy shapely (parts.flatMap (·.1)) points outline) (parts.flatMap (·.1))
    List.drop_zero []
  refine ⟨outline, parts.flatMap (·.1), houtline, ?_, made, hfacets, hincreasing, ?_⟩
  · rw [candidatesOf, hparts]
    rfl
  · exact fun m hm => (hmade m hm).2

/-- The candidates of a model are of its planes. -/
theorem plane_mem_of_candidatesOf {shapely : Shapely ℝ} {outline : PlanPolygon ℝ}
    {points : List (Vec3 ℝ)} {planes : List (MergedPlane ℝ)} {candidates : List (CandidateFacet ℝ)}
    (h : candidatesOf shapely outline points planes = .ok candidates) :
  ∀ candidate ∈ candidates, candidate.plane ∈ planes
  := by
  obtain ⟨parts, hparts, h⟩ := bind_eq_ok.mp h
  cases h
  intro candidate hcandidate
  obtain ⟨part, hpart, hcandidate⟩ := List.mem_flatMap.mp hcandidate
  obtain ⟨⟨plane, i⟩, hi, hmade⟩ := (mapM_eq_ok hparts).2 part hpart
  rw [planeCandidates_plane hmade candidate hcandidate]
  exact List.fst_mem_of_mem_zipIdx hi

/-! ### Facets that are apart -/

/-- The points of a polygon. -/
def pointsOf (shapely : Shapely ℝ) (p : PlanPolygon ℝ) : Set (ℝ × ℝ) :=
  areal shapely (.polygon p)

/-- Two candidates are partitioned against each other with their points on opposite sides of the
seam, or what their cells are cut from does not overlap. -/
def Separated (shapely : Shapely ℝ) (candidates : List (CandidateFacet ℝ)) (points : List (Vec3 ℝ))
    (outline : PlanPolygon ℝ) (i j : ℕ) : Prop :=
  ∃ a b, candidates[i]? = some a ∧ candidates[j]? = some b ∧
    (b ∈ neighborsOf realNumpy shapely candidates i a ∧
        a ∈ neighborsOf realNumpy shapely candidates j b ∧ OppositeAnchors a b ∨
      Disjoint (interior (areal shapely (coverageOf realNumpy shapely candidates points outline i a)))
        (interior (areal shapely (coverageOf realNumpy shapely candidates points outline j b))))

section Apart

variable {shapely : Shapely ℝ} (hexact : Exact shapely)

include hexact

/-- A cell is part of the outline, and of what it was before it was clipped. -/
theorem areal_cellFor (candidates : List (CandidateFacet ℝ)) (points : List (Vec3 ℝ))
    (outline : PlanPolygon ℝ) (i : ℕ) (a : CandidateFacet ℝ) :
  pointsOf shapely (cellFor realNumpy shapely candidates points outline i a) ⊆
      pointsOf shapely outline ∧
    pointsOf shapely (cellFor realNumpy shapely candidates points outline i a) ⊆
      pointsOf shapely (partitionCell realNumpy shapely a.plane
        ((neighborsOf realNumpy shapely candidates i a).map (·.plane))
        (coverageOf realNumpy shapely candidates points outline i a)
        (boundsOf realNumpy shapely candidates points outline i a) a.anchorXy)
  := by
  have hclipped := (areal_largestPolygon hexact.toCutting _).trans
    (areal_mended hexact.toCutting (shapely.intersection
      (.polygon (partitionCell realNumpy shapely a.plane
        ((neighborsOf realNumpy shapely candidates i a).map (·.plane))
        (coverageOf realNumpy shapely candidates points outline i a)
        (boundsOf realNumpy shapely candidates points outline i a) a.anchorXy))
      (.polygon outline)))
  constructor
  · exact hclipped.trans (hexact.within _ _)
  · exact hclipped.trans (hexact.intersection _ _)

/-- The cell of a candidate lies in the coverage that is cut. -/
theorem areal_partitionCell (plane : MergedPlane ℝ) (others : List (MergedPlane ℝ))
    (coverage : Geometry ℝ) (bbox : ℝ × ℝ × ℝ × ℝ) (anchorXy : ℝ × ℝ) :
  pointsOf shapely (partitionCell realNumpy shapely plane others coverage bbox anchorXy) ⊆
    areal shapely coverage
  := by
  apply (areal_largestPolygon hexact.toCutting _).trans
  apply (areal_mended hexact.toCutting _).trans
  exact areal_cutCell hexact.toCutting others coverage

/-- The cells of separated candidates have disjoint interiors. -/
theorem disjoint_cellFor {candidates : List (CandidateFacet ℝ)}
    (hunit : ∀ c ∈ candidates, dot c.plane.normal c.plane.normal = 1) {points : List (Vec3 ℝ)}
    {outline : PlanPolygon ℝ} {i j : ℕ} {a b : CandidateFacet ℝ} (ha : candidates[i]? = some a)
    (hb : candidates[j]? = some b) (h : Separated shapely candidates points outline i j) :
  Disjoint
    (interior (pointsOf shapely (cellFor realNumpy shapely candidates points outline i a)))
    (interior (pointsOf shapely (cellFor realNumpy shapely candidates points outline j b)))
  := by
  obtain ⟨a', b', ha', hb', h⟩ := h
  obtain rfl := Option.some.inj (ha'.symm.trans ha)
  obtain rfl := Option.some.inj (hb'.symm.trans hb)
  have hcellA := (areal_cellFor hexact candidates points outline i a').2
  have hcellB := (areal_cellFor hexact candidates points outline j b').2
  rcases h with ⟨hneighbor, hneighbor', hopposite⟩ | hcoverage
  · have hangle := (spec_of_shouldPartitionAgainst (shouldPartitionAgainst_of_mem hneighbor).2).1
    apply Disjoint.mono (interior_mono hcellA) (interior_mono hcellB)
    apply disjoint_partitionCell hexact.toCutting (hunit a' (List.mem_of_getElem? ha))
      (hunit b' (List.mem_of_getElem? hb)) hangle hopposite
    · exact List.mem_map_of_mem hneighbor
    · exact List.mem_map_of_mem hneighbor'
  · apply hcoverage.mono
    · exact interior_mono (hcellA.trans (areal_partitionCell hexact _ _ _ _ _))
    · exact interior_mono (hcellB.trans (areal_partitionCell hexact _ _ _ _ _))

/-- Facets whose interiors are disjoint have plan areas that add to no more than the outline's. -/
theorem sum_planAreaM2_le {outline : PlanPolygon ℝ}
    (houtline : shapely.isValid (.polygon outline) = true) (harea : 0 ≤ outline.area)
    {facets : List (RoofModelFacet ℝ)}
    (hvalid : ∀ f ∈ facets, shapely.isValid (.polygon f.polygonUtm) = true ∧
      0 ≤ f.planAreaM2 ∧ f.planAreaM2 = f.polygonUtm.area)
    (hinside : ∀ f ∈ facets, pointsOf shapely f.polygonUtm ⊆ pointsOf shapely outline)
    (hdisjoint : facets.Pairwise fun f g => Disjoint (interior (pointsOf shapely f.polygonUtm))
      (interior (pointsOf shapely g.polygonUtm))) :
  (facets.map (·.planAreaM2)).sum ≤ outline.area
  := by
  have hpacked := sum_measure_interior_le volume (pointsOf shapely outline)
    (List.pairwise_map.mpr hdisjoint) (by
      intro s hs
      obtain ⟨f, hf, rfl⟩ := List.mem_map.mp hs
      exact hinside f hf)
  have hsum : ENNReal.ofReal (facets.map (·.planAreaM2)).sum =
      ((facets.map fun f => pointsOf shapely f.polygonUtm).map fun s =>
        volume (interior s)).sum := by
    clear hinside hdisjoint hpacked
    induction facets with
    | nil => simp
    | cons f facets ih =>
        obtain ⟨hf, hnonneg, heq⟩ := hvalid f List.mem_cons_self
        have hrest := fun g hg => hvalid g (List.mem_cons_of_mem _ hg)
        have hsumNonneg : 0 ≤ (facets.map (·.planAreaM2)).sum := by
          apply List.sum_nonneg
          intro area hmem
          obtain ⟨g, hg, rfl⟩ := List.mem_map.mp hmem
          exact (hrest g hg).2.1
        rw [List.map_cons, List.sum_cons, ENNReal.ofReal_add hnonneg hsumNonneg, ih hrest,
          List.map_cons, List.map_cons, List.sum_cons, heq, ← hexact.area _ hf]
        rfl
  rw [← hsum, pointsOf, hexact.area _ houtline] at hpacked
  exact (ENNReal.ofReal_le_ofReal_iff harea).mp hpacked

end Apart

/-- The facets of a roof model lie inside the outline. They are emitted of candidates, and those of
separated candidates have disjoint interiors; when any two are separated, the plan areas add to no
more than the outline's. -/
theorem facets_apart {shapely : Shapely ℝ} (hexact : Exact shapely) (planes : List (MergedPlane ℝ))
    (hunit : ∀ plane ∈ planes, dot plane.normal plane.normal = 1) (points : List (Vec3 ℝ))
    (refinedPolygon : List (Ring ℝ)) (utmZone : ℤ) (model : RoofModel ℝ)
    (hmodel : buildRoofModel realNumpy shapely planes points refinedPolygon utmZone = .ok model) :
  ∃ outline candidates, refinedOutlineToUtm shapely refinedPolygon utmZone = .ok outline ∧
    candidatesOf shapely outline points planes = .ok candidates ∧
    (∀ f ∈ model.facets, pointsOf shapely f.polygonUtm ⊆ pointsOf shapely outline) ∧
    ∃ made : List (ℕ × RoofModelFacet ℝ), model.facets = made.map (·.2) ∧
      (made.map (·.1)).Pairwise (· < ·) ∧
      (∀ m ∈ made,
        EmittedOf (cellFor realNumpy shapely candidates points outline) candidates m.1 m.2) ∧
      (∀ m ∈ made, ∀ n ∈ made, Separated shapely candidates points outline m.1 n.1 →
        Disjoint (interior (pointsOf shapely m.2.polygonUtm))
          (interior (pointsOf shapely n.2.polygonUtm))) ∧
      (made.Pairwise (fun m n => Separated shapely candidates points outline m.1 n.1) →
        (model.facets.map (·.planAreaM2)).sum ≤ outline.area)
  := by
  obtain ⟨outline, candidates, houtline, hcandidates, made, hfacets, hincreasing, hmade⟩ :=
    buildRoofModel_emittedOf hmodel
  have hunit' : ∀ c ∈ candidates, dot c.plane.normal c.plane.normal = 1 :=
    fun c hc => hunit _ (plane_mem_of_candidatesOf hcandidates c hc)
  have hinside : ∀ m ∈ made, pointsOf shapely m.2.polygonUtm ⊆ pointsOf shapely outline := by
    intro m hm
    obtain ⟨a, -, ha⟩ := (hmade m hm).polygon
    rw [ha]
    exact (areal_cellFor hexact candidates points outline m.1 a).1
  have hapart : ∀ m ∈ made, ∀ n ∈ made, Separated shapely candidates points outline m.1 n.1 →
      Disjoint (interior (pointsOf shapely m.2.polygonUtm))
        (interior (pointsOf shapely n.2.polygonUtm)) := by
    intro m hm n hn hseparated
    obtain ⟨a, ha, hpolygon⟩ := (hmade m hm).polygon
    obtain ⟨b, hb, hpolygon'⟩ := (hmade n hn).polygon
    rw [hpolygon, hpolygon']
    exact disjoint_cellFor hexact hunit' ha hb hseparated
  have hfacetsInside : ∀ f ∈ model.facets,
      pointsOf shapely f.polygonUtm ⊆ pointsOf shapely outline := by
    rw [hfacets]
    intro f hf
    obtain ⟨m, hm, rfl⟩ := List.mem_map.mp hf
    exact hinside m hm
  refine ⟨outline, candidates, houtline, hcandidates, hfacetsInside, made, hfacets, hincreasing,
    hmade, hapart, ?_⟩
  intro hseparated
  obtain ⟨hvalid, harea⟩ := refinedOutlineToUtm_spec hexact houtline
  apply sum_planAreaM2_le hexact hvalid harea _ hfacetsInside
  · rw [hfacets, List.pairwise_map]
    exact hseparated.imp_of_mem fun {m n} hm hn h => hapart m hm n hn h
  · rw [hfacets]
    intro f hf
    obtain ⟨m, hm, rfl⟩ := List.mem_map.mp hf
    obtain ⟨⟨a, -, hpolygon⟩, hnonempty, hlarge, hplan⟩ := hmade m hm
    refine ⟨?_, ?_, hplan⟩
    · rw [hpolygon] at hnonempty ⊢
      exact isValid_largestPolygon_mended hexact hnonempty
    · rw [hplan]
      exact le_trans (by norm_num [minModelFacetAreaM2]) hlarge

/-! ### A gable -/

/-- The region of a rectangle is the product of its sides. -/
theorem region_boxOf {x₀ y₀ x₁ y₁ : ℝ} (hx : x₀ ≤ x₁) (hy : y₀ ≤ y₁) :
  region (boxOf x₀ y₀ x₁ y₁) = Set.Icc x₀ x₁ ×ˢ Set.Icc y₀ y₁
  := by
  have hcorners : {q | q ∈ (boxOf x₀ y₀ x₁ y₁).exterior} =
      ({x₀, x₁} : Set ℝ) ×ˢ ({y₀, y₁} : Set ℝ) := by
    ext ⟨x, y⟩
    simp only [boxOf, Set.mem_ofPred_eq, List.mem_cons, Prod.mk.injEq, List.not_mem_nil, or_false,
      Set.mem_prod, Set.mem_insert_iff, Set.mem_singleton_iff]
    grind
  rw [region, hcorners, convexHull_prod, convexHull_pair, convexHull_pair, segment_eq_Icc hx,
    segment_eq_Icc hy]

/-- The area of a rectangle is the product of its lengths. -/
theorem area_boxOf {x₀ y₀ x₁ y₁ : ℝ} (hx : x₀ ≤ x₁) (hy : y₀ ≤ y₁) :
  (boxOf x₀ y₀ x₁ y₁).area = (x₁ - x₀) * (y₁ - y₀)
  := by
  have hdouble : Ring.doubleArea (boxOf x₀ y₀ x₁ y₁).exterior =
      2 * ((x₁ - x₀) * (y₁ - y₀)) := by
    simp only [boxOf, Ring.doubleArea]
    ring
  have hnonneg := mul_nonneg (sub_nonneg.mpr hx) (sub_nonneg.mpr hy)
  rw [PlanPolygon.area, Ring.area, hdouble, abs_of_nonneg (by linarith)]
  simp [PlanPolygon.holeArea, boxOf]

/-- A polygon is a rectangle with parallel sides. -/
def IsBox (p : PlanPolygon ℝ) : Prop :=
  ∃ x₀ y₀ x₁ y₁, x₀ ≤ x₁ ∧ y₀ ≤ y₁ ∧ p = boxOf x₀ y₀ x₁ y₁

open Classical in
/-- The operations on rectangles with parallel sides, of which each is in another or apart from
it. -/
noncomputable def rectangles : Shapely ℝ where
  isValid g := ∀ p ∈ g.polygons, IsBox p
  buffer g _ := .multiPolygon (g.polygons.filter fun p => IsBox p)
  pointBuffer q r := .polygon (boxOf (q.1 - r) (q.2 - r) (q.1 + r) (q.2 + r))
  unaryUnion
    | [g] => g
    | gs => .multiPolygon (gs.flatMap (·.polygons))
  intersection g h :=
    .multiPolygon (g.polygons.filter fun p => ∃ q ∈ h.polygons, region p ⊆ region q)
  intersects _ _ := true
  covers g xy := ∃ p ∈ g.polygons, xy ∈ region p
  distance _ _ := 0
  pointsHull ps := .polygon ⟨ps ++ ps.take 1, []⟩
  convexHull g := g
  minimumRotatedRectangle g := g
  centroid _ := (4, 3)
  nearestPoints _ _ := ((0, 3), (0, 3))
  bounds _ := (0, 0, 8, 6)
  sharedLength _ _ := 0
  toUtm _ p := p
  toWgs84 _ p := p

/-- A polygon covers the points of its region. -/
theorem rectangles_covers {p : PlanPolygon ℝ} {xy : ℝ × ℝ} :
  rectangles.covers (.polygon p) xy = true ↔ xy ∈ region p
  := by
  classical
  change decide (∃ q ∈ [p], xy ∈ region q) = true ↔ _
  rw [decide_eq_true_eq]
  simp only [List.mem_singleton, exists_eq_left]

/-- A geometry is valid when all of its polygons are rectangles. -/
theorem rectangles_isValid {g : Geometry ℝ} :
  rectangles.isValid g = true ↔ ∀ p ∈ g.polygons, IsBox p
  := by
  classical
  exact decide_eq_true_iff

/-- What has been buffered is valid. -/
theorem rectangles_isValid_buffer (g : Geometry ℝ) (d : ℝ) :
  rectangles.isValid (rectangles.buffer g d) = true
  := by
  classical
  rw [rectangles_isValid]
  intro p hp
  exact of_decide_eq_true (List.mem_filter.mp hp).2

/-- The operations on rectangles are exact, as the theorem on the facets asks for. -/
theorem rectangles_exact :
  Exact rectangles
  where
  intersection := by
    rintro g h xy ⟨p, hp, hxy⟩
    exact ⟨p, List.mem_of_mem_filter hp, hxy⟩
  cut := by
    classical
    rintro g form bbox hsteep xy ⟨p, hp, hxy⟩
    have hinside := (List.mem_filter.mp hp).2
    rw [decide_eq_true_eq] at hinside
    obtain ⟨q, hq, hsubset⟩ := hinside
    rw [List.mem_singleton.mp hq, region_halfplanePolygon hsteep] at hsubset
    have hlong : 0 ≤ diagonal realNumpy bbox := (exactHypot_real _ _).nonneg
    apply mem_halfPlane_of_mem_ahead (lt_of_lt_of_le (by positivity) hsteep) _
      (exactHypot_real _ _).mul_self (hsubset (rectangles_covers.mp hxy))
    rw [reach]
    linarith
  mend := by
    rintro g xy ⟨p, hp, hxy⟩
    exact ⟨p, List.mem_of_mem_filter hp, hxy⟩
  nonempty := by
    intro p xy hxy
    have hmem := rectangles_covers.mp hxy
    cases hexterior : p.exterior with
    | nil => simp [region, hexterior] at hmem
    | cons q qs => rw [PlanPolygon.isEmpty, hexterior]; rfl
  within := by
    classical
    rintro g h xy ⟨p, hp, hxy⟩
    have hinside := (List.mem_filter.mp hp).2
    rw [decide_eq_true_eq] at hinside
    obtain ⟨q, hq, hsubset⟩ := hinside
    exact ⟨q, hq, rectangles_covers.mpr (hsubset (rectangles_covers.mp hxy))⟩
  mend_valid g := rectangles_isValid_buffer g 0
  part_valid := by
    intro g hg p hp
    rw [rectangles_isValid] at hg ⊢
    intro q hq
    rw [List.mem_singleton.mp hq]
    exact hg p hp
  area := by
    intro p hp
    obtain ⟨x₀, y₀, x₁, y₁, hx, hy, rfl⟩ := rectangles_isValid.mp hp p (List.mem_singleton_self p)
    have hpoints : areal rectangles (.polygon (boxOf x₀ y₀ x₁ y₁)) =
        region (boxOf x₀ y₀ x₁ y₁) := by
      ext xy
      constructor
      · rintro ⟨q, hq, hxy⟩
        rw [List.mem_singleton.mp hq] at hxy
        exact rectangles_covers.mp hxy
      · exact fun hxy => ⟨_, List.mem_singleton_self _, rectangles_covers.mpr hxy⟩
    rw [hpoints, region_boxOf hx hy, interior_prod_eq, interior_Icc, interior_Icc,
      Measure.volume_eq_prod, Measure.prod_prod, Real.volume_Ioo, Real.volume_Ioo, area_boxOf hx hy,
      ENNReal.ofReal_mul (sub_nonneg.mpr hx)]

/-- A rectangle is not changed by mending. -/
theorem mended_of_isBox {p : PlanPolygon ℝ} (hp : IsBox p) :
  mended rectangles (.polygon p) = .polygon p
  := by
  rw [mended, if_pos]
  rw [rectangles_isValid]
  intro q hq
  rwa [List.mem_singleton.mp hq]

/-- A rectangle from its sides is one. -/
theorem isBox_boxOf {x₀ y₀ x₁ y₁ : ℝ} (hx : x₀ ≤ x₁) (hy : y₀ ≤ y₁) :
  IsBox (boxOf x₀ y₀ x₁ y₁)
  := ⟨x₀, y₀, x₁, y₁, hx, hy, rfl⟩

/-- The intersection with a polygon of those of two polygons that are in it, when the other is
not. -/
theorem intersection_of_subset {p q : PlanPolygon ℝ} (h : region p ⊆ region q) :
  rectangles.intersection (.polygon p) (.polygon q) = .multiPolygon [p]
  := by
  classical
  change Geometry.multiPolygon ([p].filter fun s => ∃ t ∈ [q], region s ⊆ region t) = _
  rw [List.filter_cons_of_pos]
  · rfl
  · exact decide_eq_true ⟨q, List.mem_singleton_self q, h⟩

/-- The outline of a gable. -/
def gableOutline : PlanPolygon ℝ := boxOf 0 0 8 6

/-- A side of it, between two lines to the east. -/
def side (y₀ y₁ : ℝ) : PlanPolygon ℝ := boxOf 0 y₀ 8 y₁

/-- Points on the corners of a side. -/
def sidePoints (y₀ y₁ : ℝ) (z : ℝ → ℝ) : List (Vec3 ℝ) :=
  [![8, y₀, z y₀], ![8, y₁, z y₁], ![0, y₁, z y₁], ![0, y₀, z y₀]]

noncomputable def northPlane : MergedPlane ℝ := { risingPlane with inlierIndices := [0, 1, 2, 3] }

noncomputable def southPlane : MergedPlane ℝ := { levelPlane with inlierIndices := [4, 5, 6, 7] }

noncomputable def gablePoints : List (Vec3 ℝ) :=
  sidePoints 3 6 (fun y => 3 / 4 * (y - 3)) ++ sidePoints 0 3 fun _ => 0

/-- The outline of the gable is taken over as it is. -/
theorem refinedOutlineToUtm_gableOutline :
  refinedOutlineToUtm rectangles [gableOutline.exterior] 10 = .ok gableOutline
  := by
  have hbox : IsBox (boxOf 0 0 8 6) := isBox_boxOf (by norm_num) (by norm_num)
  have hmended := mended_of_isBox hbox
  have harea : (Geometry.polygon gableOutline).area = 48 := by
    rw [Geometry.area, Geometry.polygons, List.map_singleton, List.sum_singleton, gableOutline,
      area_boxOf (by norm_num) (by norm_num)]
    norm_num
  have hlarge : ¬ ((Geometry.polygon gableOutline).isEmpty = true ∨
      (Geometry.polygon gableOutline).area ≤ 0) := by
    rw [harea]
    norm_num
    rfl
  have hchecked : refinedOutlineToUtm rectangles [gableOutline.exterior] 10 =
      if (mended rectangles (.polygon gableOutline)).isEmpty = true ∨
          (mended rectangles (.polygon gableOutline)).area ≤ 0 then
        .error (.valueError "degenerate refined polygon: zero planimetric area")
      else .ok (largestPolygon (mended rectangles (.polygon gableOutline))) := rfl
  rw [hchecked, gableOutline, hmended, ← gableOutline, if_neg hlarge]
  rfl

section Side

variable {y₀ y₁ : ℝ} (hside : y₁ = y₀ + 3) (z : ℝ → ℝ)

include hside

omit z in
/-- A side is a rectangle. -/
theorem isBox_side : IsBox (side y₀ y₁) :=
  isBox_boxOf (by norm_num) (by linarith)

omit z in
/-- A side is eight by three metres. -/
theorem area_side : (side y₀ y₁).area = 24 := by
  rw [side, area_boxOf (by norm_num) (by linarith), hside]
  ring

omit z in
/-- The region of a side is the product of its sides. -/
theorem region_side : region (side y₀ y₁) = Set.Icc 0 8 ×ˢ Set.Icc y₀ y₁ :=
  region_boxOf (by norm_num) (by linarith)

omit z in
/-- A side between the eaves lies in the outline. -/
theorem region_side_subset (h₀ : 0 ≤ y₀) (h₁ : y₁ ≤ 6) :
  region (side y₀ y₁) ⊆ region gableOutline
  := by
  rw [region_side hside, gableOutline, region_boxOf (by norm_num) (by norm_num)]
  exact Set.prod_mono subset_rfl (Set.Icc_subset_Icc h₀ h₁)

/-- A small square around a corner covers fewer than three of the points. -/
theorem length_covered_corner {p : Vec3 ℝ} (hp : p ∈ sidePoints y₀ y₁ z) {r : ℝ} (hr : 0 ≤ r)
    (hsmall : r < 1) :
  (covered rectangles (rectangles.pointBuffer (plan p) r) (sidePoints y₀ y₁ z)).length < 3
  := by
  have hbox (a b x y : ℝ) : rectangles.covers (rectangles.pointBuffer (a, b) r) (x, y) =
      decide ((a - r ≤ x ∧ x ≤ a + r) ∧ b - r ≤ y ∧ y ≤ b + r) := by
    rw [Bool.eq_iff_iff, decide_eq_true_eq]
    change rectangles.covers (.polygon (boxOf (a - r) (b - r) (a + r) (b + r))) _ = true ↔ _
    rw [rectangles_covers, region_boxOf (by linarith) (by linarith)]
    constructor
    · exact fun ⟨hx, hy⟩ => ⟨hx, hy⟩
    · exact fun ⟨hx, hy⟩ => ⟨hx, hy⟩
  have hwide : ¬ 8 ≤ r := by linarith
  have habove : ¬ y₁ ≤ y₀ + r := by linarith
  simp only [sidePoints, List.mem_cons, List.not_mem_nil, or_false] at hp
  rcases hp with rfl | rfl | rfl | rfl <;>
    simp [covered, sidePoints, plan, hbox, hr, hwide, habove]

omit hside in
/-- The regions around the corners are small squares. -/
theorem exists_corner {r d : ℝ} {region : PlanPolygon ℝ}
    (h : region ∈ (mended rectangles (rectangles.buffer (rectangles.unaryUnion
      ((sidePoints y₀ y₁ z).map fun p => rectangles.pointBuffer (plan p) r)) d)).polygons) :
  ∃ p ∈ sidePoints y₀ y₁ z, .polygon region = rectangles.pointBuffer (plan p) r
  := by
  rw [mended, if_pos (rectangles_isValid_buffer _ _)] at h
  obtain ⟨g, hg, hregion⟩ := List.mem_flatMap.mp (List.mem_of_mem_filter h)
  have hmap : g ∈ (sidePoints y₀ y₁ z).map fun p => rectangles.pointBuffer (plan p) r := hg
  obtain ⟨p, hp, rfl⟩ := List.mem_map.mp hmap
  rw [List.mem_singleton.mp hregion]
  exact ⟨p, hp, rfl⟩

/-- The points of a side are too few for the smaller regions, so that their support is the hull. -/
theorem supportPolygons_sidePoints :
  supportPolygons rectangles (sidePoints y₀ y₁ z) = [.polygon (side y₀ y₁)]
  := by
  have hmany : ¬ (sidePoints y₀ y₁ z).length < 3 := by simp [sidePoints]
  rw [supportPolygons, if_neg hmany]
  dsimp only
  rw [List.filterMap_eq_nil_iff.mpr, if_neg (not_not.mpr rfl)]
  · rfl
  · intro region hregion
    obtain ⟨p, hp, hcorner⟩ := exists_corner z hregion
    rw [if_pos]
    rw [hcorner]
    exact length_covered_corner hside z hp (by norm_num [supportPointBufferM])
      (by norm_num [supportPointBufferM])

/-- The side covers all of its points. -/
theorem covered_side :
  covered rectangles (.polygon (side y₀ y₁)) (sidePoints y₀ y₁ z) = sidePoints y₀ y₁ z
  := by
  have hle : y₀ ≤ y₁ := by linarith
  rw [covered, List.filter_eq_self]
  intro p hp
  rw [rectangles_covers, region_side hside]
  simp only [sidePoints, List.mem_cons, List.not_mem_nil, or_false] at hp
  rcases hp with rfl | rfl | rfl | rfl <;> simp [plan, hle]

omit z in
/-- A side is not clipped at the outline. -/
theorem clipSupport_side (h₀ : 0 ≤ y₀) (h₁ : y₁ ≤ 6) :
  clipSupport rectangles (.polygon (side y₀ y₁)) gableOutline = (side y₀ y₁, [])
  := by
  have harea : (Geometry.polygon (side y₀ y₁)).area = 24 := by
    rw [Geometry.area, Geometry.polygons, List.map_singleton, List.sum_singleton, area_side hside]
  have hclipped : (Geometry.multiPolygon [side y₀ y₁]).area = 24 := harea
  have hkept : ¬ ((Geometry.polygon (side y₀ y₁)).isEmpty = true ∨
      (Geometry.polygon (side y₀ y₁)).area ≤ 0) := by
    rw [harea]
    norm_num
    rfl
  have hlargest : largestPolygon (.multiPolygon [side y₀ y₁]) = side y₀ y₁ := rfl
  have hsame : largestPolygon (.polygon (side y₀ y₁)) = side y₀ y₁ := rfl
  rw [clipSupport, if_neg hkept]
  dsimp only
  rw [intersection_of_subset (region_side_subset hside h₀ h₁), hlargest,
    mended_of_isBox (isBox_side hside), hsame, harea, hclipped, if_neg (by norm_num)]

omit hside in
/-- The candidate of a side. -/
noncomputable def sideCandidate (planeIndex : ℕ) (plane : MergedPlane ℝ) (y₀ y₁ : ℝ)
    (z : ℝ → ℝ) : CandidateFacet ℝ where
  planeIndex := planeIndex
  plane := plane
  inlierPts := sidePoints y₀ y₁ z
  support := side y₀ y₁
  confidence := facetConfidence 1 (pointDensity 4 24)
  density := pointDensity 4 24
  anchorXy := meanXy (sidePoints y₀ y₁ z)

/-- A plane whose inliers are the points of a side has one candidate, the side itself. -/
theorem planeCandidates_side (h₀ : 0 ≤ y₀) (h₁ : y₁ ≤ 6) {plane : MergedPlane ℝ}
    {points : List (Vec3 ℝ)} (planeIndex : ℕ) (hratio : plane.inlierRatio = 1)
    (hbound : ∀ i ∈ plane.inlierIndices, i < points.length)
    (hinliers : plane.inlierIndices.map (fun i => points.getD i 0) = sidePoints y₀ y₁ z) :
  planeCandidates rectangles gableOutline points planeIndex plane
    = .ok ([sideCandidate planeIndex plane y₀ y₁ z], [])
  := by
  have hconfident : ¬ facetConfidence (1 : ℝ) (pointDensity 4 24) < minFacetConfidence := by
    norm_num [facetConfidence, pointDensity, minFacetConfidence, clip01]
  have hcandidate : candidateOf rectangles gableOutline planeIndex plane (sidePoints y₀ y₁ z)
      (.polygon (side y₀ y₁)) = (some (sideCandidate planeIndex plane y₀ y₁ z), []) := by
    have hlarge : ¬ ((side y₀ y₁).isEmpty = true ∨ (side y₀ y₁).area < minModelFacetAreaM2) := by
      rw [area_side hside, minModelFacetAreaM2]
      norm_num
      rfl
    have hfour : (sidePoints y₀ y₁ z).length = 4 := rfl
    rw [candidateOf, clipSupport_side hside h₀ h₁]
    dsimp only
    rw [if_neg hlarge, covered_side hside, hfour, if_neg (by decide), area_side hside, hratio]
    exact if_neg hconfident
  refine bind_eq_ok.mpr ⟨_, mapM_ok (g := fun i => points.getD i 0) ?_, ?_⟩
  · intro i hi
    simp [List.getElem?_eq_getElem (hbound i hi), pure, Except.pure]
  rw [hinliers]
  simp only [supportPolygons_sidePoints hside, List.cons_ne_nil, if_false, List.map_singleton,
    hcandidate]
  rfl

end Side

/-! ### The cells of the sides -/

/-- The intersection of two polygons with a half-plane that has the first and not the second. -/
theorem intersection_pair {p q h : PlanPolygon ℝ} (hp : region p ⊆ region h)
    (hq : ¬ region q ⊆ region h) :
  rectangles.intersection (.multiPolygon [p, q]) (.polygon h) = .multiPolygon [p]
  := by
  classical
  change Geometry.multiPolygon ([p, q].filter fun s => ∃ t ∈ [h], region s ⊆ region t) = _
  rw [List.filter_cons_of_pos, List.filter_cons_of_neg, List.filter_nil]
  · rw [decide_eq_true_eq]
    rintro ⟨t, ht, hsubset⟩
    rw [List.mem_singleton.mp ht] at hsubset
    exact hq hsubset
  · exact decide_eq_true ⟨h, List.mem_singleton_self h, hp⟩

/-- A rectangle is not empty. -/
theorem isEmpty_of_isBox {p : PlanPolygon ℝ} (hp : IsBox p) : p.isEmpty = false := by
  obtain ⟨x₀, y₀, x₁, y₁, -, -, rfl⟩ := hp
  rfl

/-- The coverage of two rectangles is made of both. -/
theorem partitionCoverage_pair {p q : PlanPolygon ℝ} (hp : IsBox p) (hq : IsBox q) :
  partitionCoverage rectangles [p, q] = .multiPolygon [p, q]
  := by
  classical
  have hbuffer (d : ℝ) : rectangles.buffer (.multiPolygon [p, q]) d = .multiPolygon [p, q] := by
    change Geometry.multiPolygon ([p, q].filter fun s => IsBox s) = _
    rw [List.filter_cons_of_pos, List.filter_cons_of_pos, List.filter_nil]
    · exact decide_eq_true hq
    · exact decide_eq_true hp
  have hcoverage : rectangles.unaryUnion [.polygon p, .polygon q] = .multiPolygon [p, q] := rfl
  have hsome : (Geometry.multiPolygon [p, q]).isEmpty = false := by
    simp [Geometry.isEmpty, Geometry.polygons, isEmpty_of_isBox hp]
  rw [partitionCoverage, List.map_cons, List.map_singleton, hcoverage]
  simp only [hbuffer, hsome]
  rfl

/-- Two candidates whose seam starts at a corner of one of them are partitioned. -/
theorem shouldPartitionAgainst_of_corner {a b : CandidateFacet ℝ}
    (hindex : a.planeIndex ≠ b.planeIndex)
    (hangle : ¬ planeAngle realNumpy a.plane b.plane < parallelPartitionAngleDeg)
    (ha : IsBox a.support) (hb : IsBox b.support)
    (hheight : elevation a.plane (0, 3) = elevation b.plane (0, 3))
    (hcorner : (8, 3) ∈ a.support.exterior)
    (hseam : value (elevationGap a.plane b.plane) (8, 3) = 0) :
  shouldPartitionAgainst realNumpy rectangles a b partitionNeighborBufferM = true
  := by
  have hgap : nearestSupportElevationGap rectangles a b = some 0 := by
    have hnearest : rectangles.nearestPoints (.polygon a.support) (.polygon b.support)
        = ((0, 3), (0, 3)) := rfl
    rw [nearestSupportElevationGap, isEmpty_of_isBox ha, isEmpty_of_isBox hb, hnearest]
    simp [hheight]
  have hcrosses : seamCrossesCoverage rectangles a b
      (partitionCoverage rectangles [a.support, b.support]) seamElevationToleranceM = true := by
    rw [partitionCoverage_pair ha hb]
    have hvalue : (0 : ℝ) ∈ (((Geometry.multiPolygon [a.support, b.support]).polygons.filter
        fun p => !p.isEmpty).flatMap fun p =>
          (p.exterior ++ [rectangles.centroid (.polygon p)]).map fun xy =>
            value (elevationGap a.plane b.plane) xy) := by
      rw [List.mem_flatMap]
      refine ⟨a.support, ?_, ?_⟩
      · simp [Geometry.polygons, isEmpty_of_isBox ha]
      · rw [List.mem_map]
        exact ⟨(8, 3), List.mem_append_left _ hcorner, hseam⟩
    have htolerance : (0 : ℝ) ≤ seamElevationToleranceM := by norm_num [seamElevationToleranceM]
    change (List.any _ _ && List.any _ _) = true
    rw [Bool.and_eq_true, List.any_eq_true, List.any_eq_true]
    constructor
    · exact ⟨0, hvalue, decide_eq_true htolerance⟩
    · exact ⟨0, hvalue, decide_eq_true (neg_nonpos.mpr htolerance)⟩
  rw [shouldPartitionAgainst, if_neg hindex, if_neg, if_neg hangle, if_neg, hcrosses]
  · rintro ⟨hfar, -⟩
    rw [hgap, Option.any_some, decide_eq_true_eq, maxPartitionAnchorElevationGapM] at hfar
    exact absurd hfar (by norm_num)
  · exact not_lt.mpr (by norm_num [rectangles, partitionNeighborBufferM])

/-- A candidate that is partitioned against one other keeps its support, when the half-plane on
the side of its anchor has all of that and not all of the other's. -/
theorem cellFor_of_pair {candidates : List (CandidateFacet ℝ)} {points : List (Vec3 ℝ)} {i : ℕ}
    {a b : CandidateFacet ℝ} (hneighbors : neighborsOf realNumpy rectangles candidates i a = [b])
    (ha : IsBox a.support) (hb : IsBox b.support)
    (hinside : region a.support ⊆ region gableOutline)
    (hside : 1 / 10 ^ 9 ≤ |value (elevationGap a.plane b.plane) a.anchorXy|)
    (hkept : region a.support ⊆ region (halfplanePolygon realNumpy
      (anchoredGap a.plane b.plane a.anchorXy).1 (anchoredGap a.plane b.plane a.anchorXy).2.1
      (anchoredGap a.plane b.plane a.anchorXy).2.2 (0, 0, 8, 6)))
    (hcut : ¬ region b.support ⊆ region (halfplanePolygon realNumpy
      (anchoredGap a.plane b.plane a.anchorXy).1 (anchoredGap a.plane b.plane a.anchorXy).2.1
      (anchoredGap a.plane b.plane a.anchorXy).2.2 (0, 0, 8, 6))) :
  cellFor realNumpy rectangles candidates points gableOutline i a = a.support
  := by
  have hempty : (Geometry.multiPolygon [a.support]).isEmpty = false := by
    simp [Geometry.isEmpty, Geometry.polygons, isEmpty_of_isBox ha]
  have hvalid : mended rectangles (.multiPolygon [a.support]) = .multiPolygon [a.support] := by
    rw [mended, if_pos]
    rw [rectangles_isValid]
    intro p hp
    rw [List.mem_singleton.mp hp]
    exact ha
  have hlargest : largestPolygon (.multiPolygon [a.support]) = a.support := by
    rw [largestPolygon, hempty]
    rfl
  have hcoverage : coverageOf realNumpy rectangles candidates points gableOutline i a
      = .multiPolygon [a.support, b.support] := by
    have hsupports : [a, b].map (·.support) = [a.support, b.support] := rfl
    have henvelope : (supportEnvelope rectangles [a.support, b.support]).isEmpty = true := by
      have hunion : rectangles.unaryUnion [.polygon a.support, .polygon b.support]
          = .multiPolygon [a.support, b.support] := rfl
      rw [supportEnvelope, List.map_cons, List.map_singleton, hunion]
      split <;> rfl
    rw [coverageOf, hneighbors, roofMassEnvelope, hsupports, if_pos henvelope,
      partitionCoverage_pair ha hb]
  have hbounds : boundsOf realNumpy rectangles candidates points gableOutline i a = (0, 0, 8, 6) :=
    rfl
  rw [cellFor_eq, hneighbors, hcoverage, hbounds, partitionCell, List.map_singleton, cutCell_cons]
  simp only [if_neg hside.not_gt]
  rw [intersection_pair hkept hcut, hempty]
  simp only [Bool.false_eq_true, if_false, cutCell]
  rw [hvalid, hlargest, intersection_of_subset hinside, hvalid, hlargest]

noncomputable def northCandidate : CandidateFacet ℝ :=
  sideCandidate 0 northPlane 3 6 fun y => 3 / 4 * (y - 3)

noncomputable def southCandidate : CandidateFacet ℝ := sideCandidate 1 southPlane 0 3 fun _ => 0

/-- The anchors are the middles of the sides. -/
theorem anchors :
  northCandidate.anchorXy = (4, 9 / 2) ∧ southCandidate.anchorXy = (4, 3 / 2)
  := by
  constructor
  · simp [northCandidate, sideCandidate, meanXy, sidePoints]
    norm_num
  · simp [southCandidate, sideCandidate, meanXy, sidePoints]
    norm_num

/-- The normals of both planes are unit vectors. -/
theorem unit_sides :
  dot northCandidate.plane.normal northCandidate.plane.normal = 1 ∧
    dot southCandidate.plane.normal southCandidate.plane.normal = 1
  := by
  simp [dot, northCandidate, southCandidate, sideCandidate, northPlane, southPlane, risingPlane,
    levelPlane]
  norm_num

/-- The north side rises from the ridge line and the south side is level. -/
theorem planeZCoeffs_sides :
  planeZCoeffs northCandidate.plane = (0, 3 / 4, -9 / 4) ∧
    planeZCoeffs southCandidate.plane = (0, 0, 0)
  := by
  constructor
  · simp only [planeZCoeffs, northCandidate, sideCandidate, northPlane, risingPlane,
      Matrix.cons_val]
    norm_num
  · norm_num [planeZCoeffs, southCandidate, sideCandidate, southPlane, levelPlane]

/-- The difference of the elevations of the two sides, in either order. -/
theorem value_gaps (xy : ℝ × ℝ) :
  value (elevationGap northCandidate.plane southCandidate.plane) xy = 3 / 4 * xy.2 - 9 / 4 ∧
    value (elevationGap southCandidate.plane northCandidate.plane) xy = 9 / 4 - 3 / 4 * xy.2
  := by
  obtain ⟨hnorth, hsouth⟩ := planeZCoeffs_sides
  simp only [value, elevationGap, hnorth, hsouth]
  constructor <;> ring

/-- Either side is turned to its own points. -/
theorem value_anchoredGaps (xy : ℝ × ℝ) :
  value (anchoredGap northCandidate.plane southCandidate.plane northCandidate.anchorXy) xy
      = 3 / 4 * xy.2 - 9 / 4 ∧
    value (anchoredGap southCandidate.plane northCandidate.plane southCandidate.anchorXy) xy
      = 9 / 4 - 3 / 4 * xy.2
  := by
  obtain ⟨hnorth, hsouth⟩ := anchors
  constructor
  · rw [value_anchoredGap_of_nonneg, (value_gaps xy).1]
    rw [hnorth, (value_gaps _).1]
    norm_num
  · rw [value_anchoredGap_of_nonneg, (value_gaps xy).2]
    rw [hsouth, (value_gaps _).2]
    norm_num

/-- The anchors are on the two sides of the seam, further from it than the margin. -/
theorem oppositeAnchors_sides : OppositeAnchors northCandidate southCandidate := by
  obtain ⟨hnorth, hsouth⟩ := anchors
  left
  rw [hnorth, hsouth, (value_gaps _).1, (value_gaps _).1]
  norm_num

/-- Either side is partitioned against the other. -/
theorem partitioned_sides :
  shouldPartitionAgainst realNumpy rectangles northCandidate southCandidate
      partitionNeighborBufferM = true ∧
    shouldPartitionAgainst realNumpy rectangles southCandidate northCandidate
      partitionNeighborBufferM = true
  := by
  have hnorth : IsBox northCandidate.support := isBox_side (by norm_num)
  have hsouth : IsBox southCandidate.support := isBox_side (by norm_num)
  have hheight : elevation northCandidate.plane (0, 3) = elevation southCandidate.plane (0, 3) := by
    obtain ⟨hnorth, hsouth⟩ := planeZCoeffs_sides
    norm_num [elevation, hnorth, hsouth]
  have hangle : ¬ planeAngle realNumpy northCandidate.plane southCandidate.plane
      < parallelPartitionAngleDeg := not_parallel_sides
  constructor
  · apply shouldPartitionAgainst_of_corner (by decide) hangle hnorth hsouth hheight
    · simp [northCandidate, sideCandidate, side, boxOf]
    · rw [(value_gaps _).1]
      norm_num
  · rw [planeAngle_comm] at hangle
    apply shouldPartitionAgainst_of_corner (by decide) hangle hsouth hnorth hheight.symm
    · simp [southCandidate, sideCandidate, side, boxOf]
    · rw [(value_gaps _).2]
      norm_num

/-- Either side is the only neighbour of the other. -/
theorem neighborsOf_sides :
  neighborsOf realNumpy rectangles [northCandidate, southCandidate] 0 northCandidate
      = [southCandidate] ∧
    neighborsOf realNumpy rectangles [northCandidate, southCandidate] 1 southCandidate
      = [northCandidate]
  := by
  have hnear : rectangles.distance (.polygon northCandidate.support)
      (.polygon southCandidate.support) ≤ partitionNeighborBufferM := by
    norm_num [rectangles, partitionNeighborBufferM]
  obtain ⟨hnorth, hsouth⟩ := partitioned_sides
  constructor
  · rw [neighborsOf, List.map_cons, List.map_singleton, clusterOf_pair hnear (by decide)]
    simp [Option.filter, hnorth]
  · rw [neighborsOf, List.map_cons, List.map_singleton, clusterOf_pair hnear (by decide)]
    simp [Option.filter, hsouth]

/-- A side is in the rectangle that cuts it off exactly when it is ahead of the seam. -/
theorem region_side_subset_iff {a b : CandidateFacet ℝ}
    (ha : dot a.plane.normal a.plane.normal = 1) (hb : dot b.plane.normal b.plane.normal = 1)
    (hangle : parallelPartitionAngleDeg ≤ planeAngle realNumpy a.plane b.plane)
    (hseam : value (anchoredGap a.plane b.plane a.anchorXy) (0, 3) = 0) {y₀ y₁ : ℝ}
    (hside : y₁ = y₀ + 3) (h₀ : 0 ≤ y₀) (h₁ : y₁ ≤ 6) :
  region (side y₀ y₁) ⊆ region (halfplanePolygon realNumpy
      (anchoredGap a.plane b.plane a.anchorXy).1 (anchoredGap a.plane b.plane a.anchorXy).2.1
      (anchoredGap a.plane b.plane a.anchorXy).2.2 (0, 0, 8, 6)) ↔
    ∀ p ∈ region (side y₀ y₁), 0 ≤ value (anchoredGap a.plane b.plane a.anchorXy) p
  := by
  have hsteep := le_steepness ha hb hangle
  have hbox : lowerCorner ((0, 0, 8, 6) : ℝ × ℝ × ℝ × ℝ) ≤ upperCorner (0, 0, 8, 6) := by
    simp [lowerCorner, upperCorner]
  have hexact : CutExact realNumpy (anchoredGap a.plane b.plane a.anchorXy) (0, 0, 8, 6) := by
    rw [cutExact_iff (le_trans (by norm_num) hsteep) (exactHypot_real _ _) (exactHypot_real _ _)
      hbox]
    apply withinReach_of_near hsteep (exactHypot_real _ _) (exactHypot_real _ _) hbox
      (p := (0, 3))
    · simp [lowerCorner, upperCorner]
      norm_num
    · rw [hseam]
      norm_num
  have hinside : ∀ p ∈ region (side y₀ y₁),
      p ∈ Set.Icc (lowerCorner ((0, 0, 8, 6) : ℝ × ℝ × ℝ × ℝ)) (upperCorner (0, 0, 8, 6)) := by
    intro p hp
    rw [region_side hside] at hp
    obtain ⟨⟨hx, hx'⟩, hy, hy'⟩ := hp
    exact ⟨⟨hx, h₀.trans hy⟩, hx', hy'.trans h₁⟩
  constructor
  · intro h p hp
    exact (hexact p (hinside p hp)).mp (h hp)
  · intro h p hp
    exact (hexact p (hinside p hp)).mpr (h p hp)

/-- Each side keeps its support, up to the ridge. -/
theorem cellFor_sides :
  cellFor realNumpy rectangles [northCandidate, southCandidate] gablePoints gableOutline 0
      northCandidate = side 3 6 ∧
    cellFor realNumpy rectangles [northCandidate, southCandidate] gablePoints gableOutline 1
      southCandidate = side 0 3
  := by
  obtain ⟨hunitN, hunitS⟩ := unit_sides
  obtain ⟨hanchorN, hanchorS⟩ := anchors
  have hnorth : (6 : ℝ) = 3 + 3 := by norm_num
  have hsouth : (3 : ℝ) = 0 + 3 := by norm_num
  have hangle : parallelPartitionAngleDeg ≤
      planeAngle realNumpy northCandidate.plane southCandidate.plane := not_lt.mp not_parallel_sides
  have hangle' := hangle
  rw [planeAngle_comm] at hangle'
  have hseamN : value (anchoredGap northCandidate.plane southCandidate.plane
      northCandidate.anchorXy) (0, 3) = 0 := by
    rw [(value_anchoredGaps _).1]
    norm_num
  have hseamS : value (anchoredGap southCandidate.plane northCandidate.plane
      southCandidate.anchorXy) (0, 3) = 0 := by
    rw [(value_anchoredGaps _).2]
    norm_num
  constructor
  · apply cellFor_of_pair neighborsOf_sides.1 (isBox_side hnorth) (isBox_side hsouth)
    · exact region_side_subset hnorth (by norm_num) (by norm_num)
    · rw [hanchorN, (value_gaps _).1]
      norm_num [abs_of_pos]
    · apply (region_side_subset_iff hunitN hunitS hangle hseamN hnorth (by norm_num)
        (by norm_num)).mpr
      intro p hp
      rw [region_side hnorth] at hp
      rw [(value_anchoredGaps p).1]
      linarith [hp.2.1]
    · intro h
      have hall := (region_side_subset_iff hunitN hunitS hangle hseamN hsouth (by norm_num)
        (by norm_num)).mp h (0, 0) (by rw [region_side hsouth]; simp)
      rw [(value_anchoredGaps _).1] at hall
      norm_num at hall
  · apply cellFor_of_pair neighborsOf_sides.2 (isBox_side hsouth) (isBox_side hnorth)
    · exact region_side_subset hsouth (by norm_num) (by norm_num)
    · rw [hanchorS, (value_gaps _).2]
      norm_num [abs_of_pos]
    · apply (region_side_subset_iff hunitS hunitN hangle' hseamS hsouth (by norm_num)
        (by norm_num)).mpr
      intro p hp
      rw [region_side hsouth] at hp
      rw [(value_anchoredGaps p).2]
      linarith [hp.2.2]
    · intro h
      have hall := (region_side_subset_iff hunitS hunitN hangle' hseamS hnorth (by norm_num)
        (by norm_num)).mp h (0, 6) (by rw [region_side hnorth]; norm_num)
      rw [(value_anchoredGaps _).2] at hall
      norm_num at hall

/-- The model of a gable has a facet for each side. -/
theorem buildRoofModel_gable :
  ∃ model f g, buildRoofModel realNumpy rectangles [northPlane, southPlane] gablePoints
      [gableOutline.exterior] 10 = .ok model ∧
    candidatesOf rectangles gableOutline gablePoints [northPlane, southPlane]
      = .ok [northCandidate, southCandidate] ∧
    model.facets = [f, g]
  := by
  have hnorth : (6 : ℝ) = 3 + 3 := by norm_num
  have hsouth : (3 : ℝ) = 0 + 3 := by norm_num
  have hcandidateN : planeCandidates rectangles gableOutline gablePoints 0 northPlane
      = .ok ([northCandidate], []) := by
    apply planeCandidates_side hnorth _ (by norm_num) (by norm_num) 0 rfl
    · simp [northPlane, gablePoints, sidePoints]
    · rfl
  have hcandidateS : planeCandidates rectangles gableOutline gablePoints 1 southPlane
      = .ok ([southCandidate], []) := by
    apply planeCandidates_side hsouth _ (by norm_num) (by norm_num) 1 rfl
    · simp [southPlane, gablePoints, sidePoints]
    · rfl
  have hmade : ([northPlane, southPlane].zipIdx.mapM fun (plane, i) =>
      planeCandidates rectangles gableOutline gablePoints i plane)
        = .ok [([northCandidate], []), ([southCandidate], [])] := by
    simp only [List.zipIdx_cons, List.zipIdx_nil, List.mapM_cons, List.mapM_nil, hcandidateN,
      Nat.zero_add, hcandidateS, bind, Except.bind, pure, Except.pure]
  have hfacet (number : ℕ) (candidate : CandidateFacet ℝ) {y₀ y₁ : ℝ} (hside : y₁ = y₀ + 3) :
      ∃ f, facetOfCell realNumpy rectangles number candidate (side y₀ y₁) = .inl f := by
    have hlarge : ¬ ((side y₀ y₁).isEmpty = true ∨ (side y₀ y₁).area < minModelFacetAreaM2) := by
      rw [area_side hside, minModelFacetAreaM2]
      norm_num
      rfl
    rw [facetOfCell, if_neg hlarge]
    exact ⟨_, rfl⟩
  obtain ⟨f, hf⟩ := hfacet 1 northCandidate hnorth
  obtain ⟨g, hg⟩ := hfacet 2 southCandidate hsouth
  have hemitted : emitFacets realNumpy rectangles
      (cellFor realNumpy rectangles [northCandidate, southCandidate] gablePoints gableOutline) 0 []
      [northCandidate, southCandidate] = ([f, g], []) := by
    simp only [emitFacets, cellFor_sides, List.length_nil, List.nil_append, List.length_singleton,
      Nat.zero_add, Nat.reduceAdd, hf, hg, List.singleton_append]
  refine ⟨_, f, g, bind_eq_ok.mpr ⟨gableOutline, refinedOutlineToUtm_gableOutline,
    bind_eq_ok.mpr ⟨_, hmade, rfl⟩⟩, bind_eq_ok.mpr ⟨_, hmade, rfl⟩, ?_⟩
  exact congrArg Prod.fst hemitted

/-- The facets of a gable are apart: its sides are partitioned against each other, with their
points on opposite sides of the seam. -/
theorem facets_apart_gable :
  ∃ model outline f g,
    buildRoofModel realNumpy rectangles [northPlane, southPlane] gablePoints
      [gableOutline.exterior] 10 = .ok model ∧
    refinedOutlineToUtm rectangles [gableOutline.exterior] 10 = .ok outline ∧
    model.facets = [f, g] ∧
    (∀ f ∈ model.facets, pointsOf rectangles f.polygonUtm ⊆ pointsOf rectangles outline) ∧
    Disjoint (interior (pointsOf rectangles f.polygonUtm))
      (interior (pointsOf rectangles g.polygonUtm)) ∧
    (model.facets.map (·.planAreaM2)).sum ≤ outline.area
  := by
  obtain ⟨model, f, g, hmodel, hsides, hboth⟩ := buildRoofModel_gable
  have hunit : ∀ plane ∈ [northPlane, southPlane], dot plane.normal plane.normal = 1 := by
    intro plane hplane
    simp only [List.mem_cons, List.not_mem_nil, or_false] at hplane
    obtain rfl | rfl := hplane
    · exact unit_sides.1
    · exact unit_sides.2
  obtain ⟨outline, candidates, houtline, hcandidates, hinside, made, hfacets, hincreasing, hmade,
    hapart, hsum⟩ := facets_apart rectangles_exact [northPlane, southPlane] hunit gablePoints
      [gableOutline.exterior] 10 model hmodel
  obtain rfl : gableOutline = outline :=
    Except.ok.inj (refinedOutlineToUtm_gableOutline.symm.trans houtline)
  obtain rfl : [northCandidate, southCandidate] = candidates :=
    Except.ok.inj (hsides.symm.trans hcandidates)
  -- two facets of two candidates, at increasing positions
  obtain ⟨m, n, rfl⟩ : ∃ m n, made = [m, n] := by
    apply List.length_eq_two.mp
    rw [← List.length_map (f := (·.2)), ← hfacets, hboth]
    rfl
  obtain ⟨rfl, rfl⟩ : m.2 = f ∧ n.2 = g := by
    simpa using hfacets.symm.trans hboth
  have hlt : m.1 < n.1 := by simpa using hincreasing
  obtain ⟨⟨b, hb, -⟩, -, -, -⟩ := hmade n (by simp)
  have hbound : n.1 < 2 := (List.getElem?_eq_some_iff.mp hb).choose
  have hseparated : Separated rectangles [northCandidate, southCandidate] gablePoints gableOutline
      m.1 n.1 := by
    have hm : m.1 = 0 := by omega
    have hn : n.1 = 1 := by omega
    rw [hm, hn]
    refine ⟨northCandidate, southCandidate, rfl, rfl, .inl ⟨?_, ?_, oppositeAnchors_sides⟩⟩
    · rw [neighborsOf_sides.1]
      exact List.mem_singleton_self _
    · rw [neighborsOf_sides.2]
      exact List.mem_singleton_self _
  refine ⟨model, gableOutline, m.2, n.2, hmodel, houtline, hboth, hinside,
    hapart m (by simp) n (by simp) hseparated, hsum ?_⟩
  exact List.pairwise_pair.mpr hseparated

/-! ### Two levels -/

/-- A flat roof at a height, with four inliers from a position on. -/
def flatLevel (height : ℚ) (first : ℕ) : MergedPlane ℚ where
  normal := ![0, 0, 1]
  d := -height
  inlierIndices := (List.range 4).map (first + ·)
  inlierRatio := 1
  residualStd := 0
  centroid := ![5, 5, height]
  mergedFrom := [first]

/-- The corners of two flat roofs, the higher one above the northern half of the lower one. -/
def levelPoints : List (Vec3 ℚ) :=
  ((square (0, 0) 10).take 4).map (fun p => ![p.1, p.2, 0]) ++
    ((square (0, 5) 10).take 4).map fun p => ![p.1, p.2, 3]

def levelOutline : Ring ℚ := (boxOf 0 0 10 15).exterior

/-- The areas of the outline and of the facets of the two levels. -/
def levelAreas : Except Exception (ℚ × List ℚ) := do
  let outline ← refinedOutlineToUtm boxes [levelOutline] 10
  let model ← buildRoofModel flatNumpy boxes [flatLevel 0 0, flatLevel 3 4] levelPoints
    [levelOutline] 10
  return (outline.area, model.facets.map (·.planAreaM2))

/-- The facets of roof levels count the ground twice that they have in common. -/
theorem levels_overlap :
  ∃ outline model, refinedOutlineToUtm boxes [levelOutline] 10 = .ok outline ∧
    buildRoofModel flatNumpy boxes [flatLevel 0 0, flatLevel 3 4] levelPoints [levelOutline] 10 =
      .ok model ∧
    outline.area < (model.facets.map (·.planAreaM2)).sum
  := by
  have hrun : levelAreas = .ok (150, [100, 100]) := by decide +kernel
  obtain ⟨outline, houtline, hrun⟩ := bind_eq_ok.mp hrun
  obtain ⟨model, hmodel, hrun⟩ := bind_eq_ok.mp hrun
  obtain ⟨harea, hareas⟩ := Prod.mk.inj (Except.ok.inj hrun)
  refine ⟨outline, model, houtline, hmodel, ?_⟩
  rw [harea, hareas]
  norm_num

end RoofModel

end Sidecar
