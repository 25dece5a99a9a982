import Mathlib.Data.List.Rotate
import RoofTrace.Sidecar.SeamCuts

/-!
# Mutual partitions

Whether two candidates are partitioned does not depend on their order. When they are, and their
anchors are on opposite sides of the seam, their cells have disjoint interiors, whatever coverage
each is cut from and whatever else it is cut with.
-/

namespace Sidecar

/-! ### Polygons up to the start of their rings -/

/-- A ring that starts at another point. -/
def SameRing {K : Type} (r s : Ring K) : Prop :=
  r.dropLast.IsRotated s.dropLast ∧ ∀ p, p ∈ r ↔ p ∈ s

/-- A polygon with its rings in another order, and from other points on. -/
def SamePolygon {K : Type} (p q : PlanPolygon K) : Prop :=
  SameRing p.exterior q.exterior ∧
    ∃ rings, rings.Perm q.interiors ∧ List.Forall₂ SameRing p.interiors rings

/-- A geometry of the same kind, with the same polygons in another order. -/
def SameGeometry {K : Type} : Geometry K → Geometry K → Prop
  | .polygon p, .polygon q => SamePolygon p q
  | .multiPolygon ps, .multiPolygon qs => ∃ rs, rs.Perm qs ∧ List.Forall₂ SamePolygon ps rs
  | .collection ps, .collection qs => ∃ rs, rs.Perm qs ∧ List.Forall₂ SamePolygon ps rs
  | .other, .other => True
  | _, _ => False

/-- The operations that do not depend on the order of two geometries, nor on how a geometry is
written. -/
structure Shapely.Symmetric {K : Type} (shapely : Shapely K) : Prop where
  distance_comm : ∀ g h, shapely.distance g h = shapely.distance h g
  nearestPoints_comm : ∀ g h, shapely.nearestPoints g h = (shapely.nearestPoints h g).swap
  unaryUnion_comm : ∀ g h, SameGeometry (shapely.unaryUnion [g, h]) (shapely.unaryUnion [h, g])
  buffer_congr : ∀ g h d, SameGeometry g h → SameGeometry (shapely.buffer g d) (shapely.buffer h d)
  centroid_congr : ∀ p q, SamePolygon p q →
    shapely.centroid (.polygon p) = shapely.centroid (.polygon q)

/-- Every polygon of a geometry is one of the other. -/
theorem exists_of_sameGeometry {K : Type} {g h : Geometry K} (hsame : SameGeometry g h) :
  (∀ p ∈ g.polygons, ∃ q ∈ h.polygons, SamePolygon p q) ∧
    ∀ q ∈ h.polygons, ∃ p ∈ g.polygons, SamePolygon p q
  := by
  have hlists {ps qs : List (PlanPolygon K)}
      (h : ∃ rs, rs.Perm qs ∧ List.Forall₂ SamePolygon ps rs) :
      (∀ p ∈ ps, ∃ q ∈ qs, SamePolygon p q) ∧ ∀ q ∈ qs, ∃ p ∈ ps, SamePolygon p q := by
    obtain ⟨rs, hperm, hall⟩ := h
    obtain ⟨hleft, hright⟩ := Outcome.exists_of_forall₂ hall
    constructor
    · intro p hp
      obtain ⟨r, hr, hpr⟩ := hleft p hp
      exact ⟨r, hperm.subset hr, hpr⟩
    · exact fun q hq => hright q (hperm.symm.subset hq)
  cases g <;> cases h <;> first | exact hsame.elim | skip
  · constructor
    · rintro _ (_ | ⟨_, ⟨⟩⟩)
      exact ⟨_, List.mem_cons_self, hsame⟩
    · rintro _ (_ | ⟨_, ⟨⟩⟩)
      exact ⟨_, List.mem_cons_self, hsame⟩
  · exact hlists hsame
  · exact hlists hsame
  · exact ⟨nofun, nofun⟩

theorem isEmpty_of_samePolygon {K : Type} {p q : PlanPolygon K} (h : SamePolygon p q) :
  p.isEmpty = q.isEmpty
  := by
  have hmem := h.1.2
  cases hp : p.exterior with
  | nil =>
      cases hq : q.exterior with
      | nil => rw [PlanPolygon.isEmpty, PlanPolygon.isEmpty, hp, hq]
      | cons y ys =>
          rw [hp, hq] at hmem
          exact absurd ((hmem y).mpr List.mem_cons_self) List.not_mem_nil
  | cons x xs =>
      cases hq : q.exterior with
      | nil =>
          rw [hp, hq] at hmem
          exact absurd ((hmem x).mp List.mem_cons_self) List.not_mem_nil
      | cons y ys => rw [PlanPolygon.isEmpty, PlanPolygon.isEmpty, hp, hq]; rfl

theorem isEmpty_of_sameGeometry {K : Type} {g h : Geometry K} (hsame : SameGeometry g h) :
  g.isEmpty = h.isEmpty
  := by
  obtain ⟨hleft, hright⟩ := exists_of_sameGeometry hsame
  rw [Bool.eq_iff_iff, Geometry.isEmpty, Geometry.isEmpty, List.all_eq_true, List.all_eq_true]
  constructor
  · intro hempty q hq
    obtain ⟨p, hp, hpq⟩ := hright q hq
    rw [← isEmpty_of_samePolygon hpq]
    exact hempty p hp
  · intro hempty p hp
    obtain ⟨q, hq, hpq⟩ := hleft p hp
    rw [isEmpty_of_samePolygon hpq]
    exact hempty q hq

namespace RoofModel

open Cone Planar Sidecar.Topology

/-! ### The decision -/

section Decision

variable {K : Type} [Field K] [LinearOrder K] [IsStrictOrderedRing K] {shapely : Shapely K}
  (hsymmetric : shapely.Symmetric)

include hsymmetric

omit [LinearOrder K] [IsStrictOrderedRing K] in
theorem partitionCoverage_comm (p q : PlanPolygon K) :
  SameGeometry (partitionCoverage shapely [p, q]) (partitionCoverage shapely [q, p])
  := by
  have hunion := hsymmetric.unaryUnion_comm (.polygon p) (.polygon q)
  simp only [partitionCoverage, List.map_cons, List.map_nil]
  cases hg : shapely.unaryUnion [.polygon p, .polygon q] <;>
    cases hh : shapely.unaryUnion [.polygon q, .polygon p] <;> rw [hg, hh] at hunion <;>
    first | exact hunion.elim | skip
  · exact hunion
  · have hclosed := hsymmetric.buffer_congr _ _ (-partitionNeighborBufferM)
      (hsymmetric.buffer_congr _ _ partitionNeighborBufferM hunion)
    simp only [isEmpty_of_sameGeometry hclosed]
    split_ifs
    · exact hunion
    · exact hclosed
  · exact hunion
  · exact hunion

omit [Field K] [LinearOrder K] [IsStrictOrderedRing K] in
/-- Geometries that are the same have the same points that a seam is tested on. -/
theorem testedPoints_subset {g h : Geometry K} (hsame : SameGeometry g h) :
  testedPoints shapely g ⊆ testedPoints shapely h
  := by
  intro xy hxy
  obtain ⟨p, hp, hxy⟩ := List.mem_flatMap.mp hxy
  obtain ⟨hp, hempty⟩ := List.mem_filter.mp hp
  obtain ⟨q, hq, hpq⟩ := (exists_of_sameGeometry hsame).1 p hp
  apply List.mem_flatMap.mpr
  refine ⟨q, List.mem_filter.mpr ⟨hq, ?_⟩, ?_⟩
  · rw [← isEmpty_of_samePolygon hpq]
    exact hempty
  · rw [List.mem_append, List.mem_singleton] at hxy ⊢
    rw [← hsymmetric.centroid_congr p q hpq, ← hpq.1.2]
    exact hxy

omit hsymmetric [IsStrictOrderedRing K] in
theorem value_elevationGap_comm (p q : MergedPlane K) (xy : K × K) :
  value (elevationGap q p) xy = -value (elevationGap p q) xy
  := by
  simp only [value, elevationGap]
  ring

omit hsymmetric [IsStrictOrderedRing K] in
/-- A seam crosses a coverage when tested points are on both sides, up to the tolerance. -/
theorem seamCrossesCoverage_iff {a b : CandidateFacet K} {coverage : Geometry K} {toleranceM : K} :
  seamCrossesCoverage shapely a b coverage toleranceM = true ↔
    (∃ xy ∈ testedPoints shapely coverage,
      value (elevationGap a.plane b.plane) xy ≤ toleranceM) ∧
    ∃ xy ∈ testedPoints shapely coverage,
      -toleranceM ≤ value (elevationGap a.plane b.plane) xy
  := by
  use exists_of_seamCrossesCoverage
  rintro ⟨⟨xy, hxy, hbelow⟩, xy', hxy', habove⟩
  simp only [seamCrossesCoverage, ← List.map_flatMap, Bool.and_eq_true, List.any_eq_true,
    decide_eq_true_eq, List.mem_map]
  exact ⟨⟨_, ⟨xy, hxy, rfl⟩, hbelow⟩, _, ⟨xy', hxy', rfl⟩, habove⟩

theorem seamCrossesCoverage_of_comm {a b : CandidateFacet K} {g h : Geometry K}
    (hsame : SameGeometry g h) {toleranceM : K}
    (hcrosses : seamCrossesCoverage shapely a b g toleranceM = true) :
  seamCrossesCoverage shapely b a h toleranceM = true
  := by
  obtain ⟨⟨xy, hxy, hbelow⟩, xy', hxy', habove⟩ := seamCrossesCoverage_iff.mp hcrosses
  apply seamCrossesCoverage_iff.mpr
  constructor
  · refine ⟨xy', testedPoints_subset hsymmetric hsame hxy', ?_⟩
    rw [value_elevationGap_comm]
    linarith
  · refine ⟨xy, testedPoints_subset hsymmetric hsame hxy, ?_⟩
    rw [value_elevationGap_comm]
    linarith

omit [IsStrictOrderedRing K] in
theorem nearestSupportElevationGap_comm (a b : CandidateFacet K) :
  nearestSupportElevationGap shapely a b = nearestSupportElevationGap shapely b a
  := by
  simp only [nearestSupportElevationGap, or_comm (a := a.support.isEmpty = true),
    hsymmetric.nearestPoints_comm (.polygon a.support) (.polygon b.support), Prod.fst_swap,
    Prod.snd_swap, abs_sub_comm (elevation a.plane _)]

omit hsymmetric [IsStrictOrderedRing K] in
theorem pointElevationRangesOverlap_comm (a b : CandidateFacet K) (toleranceM : K) :
  pointElevationRangesOverlap a b toleranceM = pointElevationRangesOverlap b a toleranceM
  := by
  simp only [pointElevationRangesOverlap]
  rw [max_comm, min_comm]

omit hsymmetric [IsStrictOrderedRing K] in
theorem planeAngle_comm (np : Numpy K) (p q : MergedPlane K) :
  planeAngle np p q = planeAngle np q p
  := by
  have hdot : dot p.normal q.normal = dot q.normal p.normal := by
    simp only [dot]
    ring
  rw [planeAngle, planeAngle, angleBetweenNormals, angleBetweenNormals, hdot]

/-- Two candidates are partitioned in either order. -/
theorem shouldPartitionAgainst_comm (np : Numpy K) (a b : CandidateFacet K) (bufferM : K) :
  shouldPartitionAgainst np shapely a b bufferM = shouldPartitionAgainst np shapely b a bufferM
  := by
  have hcrosses : seamCrossesCoverage shapely a b
      (partitionCoverage shapely [a.support, b.support]) seamElevationToleranceM =
      seamCrossesCoverage shapely b a
        (partitionCoverage shapely [b.support, a.support]) seamElevationToleranceM := by
    rw [Bool.eq_iff_iff]
    constructor
    · exact seamCrossesCoverage_of_comm hsymmetric
        (partitionCoverage_comm hsymmetric a.support b.support)
    · exact seamCrossesCoverage_of_comm hsymmetric
        (partitionCoverage_comm hsymmetric b.support a.support)
  simp only [shouldPartitionAgainst, eq_comm (a := a.planeIndex),
    hsymmetric.distance_comm (.polygon a.support), planeAngle_comm np a.plane,
    nearestSupportElevationGap_comm hsymmetric a, pointElevationRangesOverlap_comm a, hcrosses]

end Decision

/-! ### The cells -/

/-- The points of the polygons of a geometry. -/
def areal (shapely : Shapely ℝ) (g : Geometry ℝ) : Set (ℝ × ℝ) :=
  {xy | ∃ p ∈ g.polygons, shapely.covers (.polygon p) xy = true}

/-- Operations that add no area: an intersection is part of its first geometry, and on the side of
the half-plane when it is cut with the polygon of one, mending is part of what is mended, and the
empty polygon has no points. -/
structure Cutting (np : Numpy ℝ) (shapely : Shapely ℝ) : Prop where
  intersection : ∀ g h, areal shapely (shapely.intersection g h) ⊆ areal shapely g
  cut : ∀ g (form : ℝ × ℝ × ℝ) bbox, 1 / 10 ^ 12 ≤ steepness np form →
    areal shapely (shapely.intersection g
      (.polygon (halfplanePolygon np form.1 form.2.1 form.2.2 bbox))) ⊆ halfPlane form
  mend : ∀ g, areal shapely (shapely.buffer g 0) ⊆ areal shapely g
  nonempty : ∀ p xy, shapely.covers (.polygon p) xy = true → p.isEmpty = false

section Cells

variable {np : Numpy ℝ} {shapely : Shapely ℝ} (hcutting : Cutting np shapely)

include hcutting

omit hcutting in
theorem maxByArea_mem (p : PlanPolygon ℝ) (ps : List (PlanPolygon ℝ)) :
  maxByArea (p :: ps) ∈ p :: ps
  := by
  have hfold : ∀ (rest : List (PlanPolygon ℝ)) (best : PlanPolygon ℝ), best ∈ p :: ps →
      rest ⊆ p :: ps →
        rest.foldl (fun best q => if best.area < q.area then q else best) best ∈ p :: ps := by
    intro rest
    induction rest with
    | nil => exact fun best hbest _ => hbest
    | cons q rest ih =>
        intro best hbest hrest
        obtain ⟨hq, hrest⟩ := List.cons_subset.mp hrest
        rw [List.foldl_cons]
        apply ih _ _ hrest
        split_ifs
        · exact hq
        · exact hbest
  exact hfold ps p List.mem_cons_self (List.subset_cons_self p ps)

/-- The largest polygon of a geometry is part of it. -/
theorem areal_largestPolygon (g : Geometry ℝ) :
  areal shapely (.polygon (largestPolygon g)) ⊆ areal shapely g
  := by
  rintro xy ⟨p, hp, hxy⟩
  obtain rfl := List.mem_singleton.mp hp
  have hempty := hcutting.nonempty _ xy hxy
  unfold largestPolygon at hxy hempty
  split_ifs at hxy hempty
  · cases hempty
  · cases hpolygons : g.polygons with
    | nil =>
        rw [hpolygons] at hempty
        cases hempty
    | cons q qs =>
        rw [hpolygons] at hxy
        refine ⟨_, ?_, hxy⟩
        rw [hpolygons]
        exact maxByArea_mem q qs

theorem areal_mended (g : Geometry ℝ) :
  areal shapely (mended shapely g) ⊆ areal shapely g
  := by
  rw [mended]
  split_ifs
  · exact subset_rfl
  · exact hcutting.mend g

theorem areal_of_isEmpty {g : Geometry ℝ} (hg : g.isEmpty = true) :
  areal shapely g = ∅
  := by
  rw [Set.eq_empty_iff_forall_notMem]
  rintro xy ⟨p, hp, hxy⟩
  have hempty := List.all_eq_true.mp hg p hp
  rw [hcutting.nonempty p xy hxy] at hempty
  cases hempty

variable {plane : MergedPlane ℝ} {bbox : ℝ × ℝ × ℝ × ℝ} {anchorXy : ℝ × ℝ}

/-- What has been cut is part of what it was cut from. -/
theorem areal_cutCell (others : List (MergedPlane ℝ)) :
    ∀ cell, areal shapely (cutCell np shapely plane bbox anchorXy cell others) ⊆
      areal shapely cell := by
  induction others with
  | nil => exact fun cell => subset_rfl
  | cons other others ih =>
      intro cell
      rw [cutCell_cons]
      simp only
      split_ifs
      · exact ih cell
      · exact hcutting.intersection _ _
      · exact (ih _).trans (hcutting.intersection _ _)

/-- What has been cut along a seam is on the side of the anchor. -/
theorem cutCell_subset_halfPlane {other : MergedPlane ℝ}
    (hside : 1 / 10 ^ 9 ≤ |value (elevationGap plane other) anchorXy|)
    (hsteep : 1 / 10 ^ 12 ≤ steepness np (anchoredGap plane other anchorXy))
    (others : List (MergedPlane ℝ)) (hother : other ∈ others) :
    ∀ cell, areal shapely (cutCell np shapely plane bbox anchorXy cell others) ⊆
      halfPlane (anchoredGap plane other anchorXy) := by
  induction others with
  | nil => exact absurd hother List.not_mem_nil
  | cons first others ih =>
      intro cell
      rw [cutCell_cons]
      rcases List.mem_cons.mp hother with rfl | hrest
      · rw [if_neg hside.not_gt]
        have hcut := hcutting.cut cell (anchoredGap plane other anchorXy) bbox hsteep
        simp only
        split_ifs
        · exact hcut
        · exact (areal_cutCell hcutting others _).trans hcut
      · simp only
        split_ifs with hskip hempty
        · exact ih hrest cell
        · rw [areal_of_isEmpty hcutting hempty]
          exact Set.empty_subset _
        · exact ih hrest _

/-- A cell is on the side of its anchor of every seam that it is cut along. -/
theorem partitionCell_subset_halfPlane {other : MergedPlane ℝ}
    (hside : 1 / 10 ^ 9 ≤ |value (elevationGap plane other) anchorXy|)
    (hsteep : 1 / 10 ^ 12 ≤ steepness np (anchoredGap plane other anchorXy))
    {others : List (MergedPlane ℝ)} (hother : other ∈ others) (coverage : Geometry ℝ)
    (bbox : ℝ × ℝ × ℝ × ℝ) :
  areal shapely (.polygon (partitionCell np shapely plane others coverage bbox anchorXy)) ⊆
    halfPlane (anchoredGap plane other anchorXy)
  := by
  rw [partitionCell]
  apply (areal_largestPolygon hcutting _).trans
  apply (areal_mended hcutting _).trans
  exact cutCell_subset_halfPlane hcutting hside hsteep others hother coverage

end Cells

theorem value_anchoredGap_of_nonneg {plane other : MergedPlane ℝ} {anchorXy : ℝ × ℝ}
    (h : 0 ≤ value (elevationGap plane other) anchorXy) (p : ℝ × ℝ) :
  value (anchoredGap plane other anchorXy) p = value (elevationGap plane other) p
  := by
  rw [anchoredGap, if_neg h.not_gt]

theorem value_anchoredGap_of_neg {plane other : MergedPlane ℝ} {anchorXy : ℝ × ℝ}
    (h : value (elevationGap plane other) anchorXy < 0) (p : ℝ × ℝ) :
  value (anchoredGap plane other anchorXy) p = -value (elevationGap plane other) p
  := by
  rw [anchoredGap, if_pos h]
  simp only [value]
  ring

/-- The anchors of two candidates are on opposite sides of the seam of their planes. -/
def OppositeAnchors (a b : CandidateFacet ℝ) : Prop :=
  let gap := value (elevationGap a.plane b.plane)
  1 / 10 ^ 9 ≤ gap a.anchorXy ∧ gap b.anchorXy ≤ -(1 / 10 ^ 9) ∨
    gap a.anchorXy ≤ -(1 / 10 ^ 9) ∧ 1 / 10 ^ 9 ≤ gap b.anchorXy

/-- The cells of two candidates that are cut along the seam of their planes have disjoint interiors
when the anchors are on opposite sides of it. -/
theorem disjoint_partitionCell {shapely : Shapely ℝ} (hcutting : Cutting realNumpy shapely)
    {a b : CandidateFacet ℝ} (ha : dot a.plane.normal a.plane.normal = 1)
    (hb : dot b.plane.normal b.plane.normal = 1)
    (hangle : parallelPartitionAngleDeg ≤ planeAngle realNumpy a.plane b.plane)
    (hopposite : OppositeAnchors a b) {othersA othersB : List (MergedPlane ℝ)}
    (hotherA : b.plane ∈ othersA) (hotherB : a.plane ∈ othersB) (coverageA coverageB : Geometry ℝ)
    (bboxA bboxB : ℝ × ℝ × ℝ × ℝ) :
  Disjoint
    (interior (areal shapely (.polygon
      (partitionCell realNumpy shapely a.plane othersA coverageA bboxA a.anchorXy))))
    (interior (areal shapely (.polygon
      (partitionCell realNumpy shapely b.plane othersB coverageB bboxB b.anchorXy))))
  := by
  have hsteepA := le_steepness ha hb hangle
  have hsteepB := le_steepness hb ha (planeAngle_comm realNumpy a.plane b.plane ▸ hangle)
  have hgradient : 0 < (elevationGap a.plane b.plane).1 * (elevationGap a.plane b.plane).1 +
      (elevationGap a.plane b.plane).2.1 * (elevationGap a.plane b.plane).2.1 := by
    have hgap := gradient_le ha hb (dot_mul_self_le hangle)
    linarith
  have hsideA : 1 / 10 ^ 9 ≤ |value (elevationGap a.plane b.plane) a.anchorXy| := by
    rcases hopposite with h | h
    · exact h.1.trans (le_abs_self _)
    · exact (le_neg.mpr h.1).trans (neg_le_abs _)
  have hsideB : 1 / 10 ^ 9 ≤ |value (elevationGap b.plane a.plane) b.anchorXy| := by
    rw [value_elevationGap_comm, abs_neg]
    rcases hopposite with h | h
    · exact (le_neg.mpr h.2).trans (neg_le_abs _)
    · exact h.2.trans (le_abs_self _)
  have hA := partitionCell_subset_halfPlane hcutting hsideA
    (le_trans (by norm_num) hsteepA) hotherA coverageA bboxA
  have hB := partitionCell_subset_halfPlane hcutting hsideB
    (le_trans (by norm_num) hsteepB) hotherB coverageB bboxB
  have htiny : (0 : ℝ) < 1 / 10 ^ 9 := by norm_num
  rcases hopposite with ⟨habove, hbelow⟩ | ⟨hbelow, habove⟩
  · have hkeptA : ∀ p, value (anchoredGap a.plane b.plane a.anchorXy) p =
        value (elevationGap a.plane b.plane) p :=
      value_anchoredGap_of_nonneg (htiny.le.trans habove)
    have hkeptB : ∀ p, value (anchoredGap b.plane a.plane b.anchorXy) p =
        -value (elevationGap a.plane b.plane) p := by
      intro p
      rw [value_anchoredGap_of_nonneg, value_elevationGap_comm]
      rw [value_elevationGap_comm]
      linarith
    apply disjoint_interior hgradient
    · intro p hp
      rw [← hkeptA]
      exact hA hp
    · intro p hp
      rw [← neg_nonneg, ← hkeptB]
      exact hB hp
  · have hkeptA : ∀ p, value (anchoredGap a.plane b.plane a.anchorXy) p =
        -value (elevationGap a.plane b.plane) p :=
      value_anchoredGap_of_neg (by linarith)
    have hkeptB : ∀ p, value (anchoredGap b.plane a.plane b.anchorXy) p =
        value (elevationGap a.plane b.plane) p := by
      intro p
      rw [value_anchoredGap_of_neg, value_elevationGap_comm, neg_neg]
      rw [value_elevationGap_comm]
      linarith
    apply Disjoint.symm
    apply disjoint_interior hgradient
    · intro p hp
      rw [← hkeptB]
      exact hB hp
    · intro p hp
      rw [← neg_nonneg, ← hkeptA]
      exact hA hp

/-- Whether two candidates are partitioned does not depend on their order, and when they are, with
their anchors on opposite sides of the seam, their cells have disjoint interiors. -/
theorem partition_mutual {shapely : Shapely ℝ} (hsymmetric : shapely.Symmetric)
    (hcutting : Cutting realNumpy shapely) (a b : CandidateFacet ℝ)
    (ha : dot a.plane.normal a.plane.normal = 1) (hb : dot b.plane.normal b.plane.normal = 1)
    (bufferM : ℝ) :
  shouldPartitionAgainst realNumpy shapely a b bufferM =
      shouldPartitionAgainst realNumpy shapely b a bufferM ∧
    (shouldPartitionAgainst realNumpy shapely a b bufferM = true → OppositeAnchors a b →
      ∀ othersA othersB, b.plane ∈ othersA → a.plane ∈ othersB → ∀ coverageA coverageB bboxA bboxB,
        Disjoint
          (interior (areal shapely (.polygon
            (partitionCell realNumpy shapely a.plane othersA coverageA bboxA a.anchorXy))))
          (interior (areal shapely (.polygon
            (partitionCell realNumpy shapely b.plane othersB coverageB bboxB b.anchorXy)))))
  := by
  use shouldPartitionAgainst_comm hsymmetric realNumpy a b bufferM
  intro hpartition hopposite othersA othersB hotherA hotherB
  exact disjoint_partitionCell hcutting ha hb (spec_of_shouldPartitionAgainst hpartition).1 hopposite
    hotherA hotherB

/-! ### A gable -/

open Classical in
/-- The operations on convex polygons without holes, of which each is on one side of a cut. -/
noncomputable def gable : Shapely ℝ :=
  { twoSides with
    intersection := fun g h =>
      .multiPolygon (g.polygons.filter fun p => ∀ q ∈ h.polygons, region p ⊆ region q)
    covers := fun g xy => ∃ p ∈ g.polygons, xy ∈ region p }

theorem samePolygon_refl {K : Type} (p : PlanPolygon K) :
  SamePolygon p p
  := by
  have hring : ∀ r : Ring K, SameRing r r := fun r => ⟨List.IsRotated.refl _, fun _ => Iff.rfl⟩
  refine ⟨hring _, p.interiors, List.Perm.refl _, ?_⟩
  exact List.forall₂_same.mpr fun r _ => hring r

theorem gable_symmetric :
  gable.Symmetric
  where
  distance_comm _ _ := rfl
  nearestPoints_comm _ _ := rfl
  unaryUnion_comm _ _ := samePolygon_refl _
  buffer_congr _ _ _ h := h
  centroid_congr _ _ _ := rfl

theorem gable_covers {p : PlanPolygon ℝ} {xy : ℝ × ℝ} :
  gable.covers (.polygon p) xy = true ↔ xy ∈ region p
  := by
  classical
  change decide (∃ q ∈ [p], xy ∈ region q) = true ↔ _
  rw [decide_eq_true_eq]
  simp only [List.mem_singleton, exists_eq_left]

theorem gable_cutting :
  Cutting realNumpy gable
  where
  intersection := by
    rintro g h xy ⟨p, hp, hxy⟩
    exact ⟨p, List.mem_of_mem_filter hp, hxy⟩
  cut := by
    classical
    rintro g form bbox hsteep xy ⟨p, hp, hxy⟩
    have hinside := (List.mem_filter.mp hp).2
    rw [decide_eq_true_eq] at hinside
    have hmem := hinside _ (List.mem_singleton_self _) (gable_covers.mp hxy)
    rw [region_halfplanePolygon hsteep] at hmem
    have hlong : 0 ≤ diagonal realNumpy bbox := (exactHypot_real _ _).nonneg
    apply mem_halfPlane_of_mem_ahead (lt_of_lt_of_le (by positivity) hsteep) _
      (exactHypot_real _ _).mul_self hmem
    rw [reach]
    linarith
  mend _ := subset_rfl
  nonempty := by
    intro p xy hxy
    have hmem := gable_covers.mp hxy
    cases hexterior : p.exterior with
    | nil =>
        simp [region, hexterior] at hmem
    | cons q qs => rw [PlanPolygon.isEmpty, hexterior]; rfl

/-- The cells of the two sides of a gable have disjoint interiors. -/
theorem partition_mutual_gable :
  Disjoint
    (interior (areal gable (.polygon (partitionCell realNumpy gable risingPlane [levelPlane]
      (.multiPolygon [boxOf 0 0 8 3, boxOf 0 3 8 6]) (0, 0, 8, 6) (4, 4)))))
    (interior (areal gable (.polygon (partitionCell realNumpy gable levelPlane [risingPlane]
      (.multiPolygon [boxOf 0 0 8 3, boxOf 0 3 8 6]) (0, 0, 8, 6) (4, 1)))))
  := by
  have hunit : dot risingPlane.normal risingPlane.normal = 1 ∧
      dot levelPlane.normal levelPlane.normal = 1 := by
    simp [dot, risingPlane, levelPlane]
    norm_num
  have hopposite : OppositeAnchors northSide southSide := by
    left
    simp [value, elevationGap, planeZCoeffs, northSide, southSide, risingPlane, levelPlane]
    norm_num
  have hmutual := partition_mutual gable_symmetric gable_cutting northSide southSide hunit.1
    hunit.2 partitionNeighborBufferM
  exact hmutual.2 sides_partitioned hopposite [levelPlane] [risingPlane]
    (List.mem_singleton_self _) (List.mem_singleton_self _) _ _ _ _

end RoofModel

end Sidecar
