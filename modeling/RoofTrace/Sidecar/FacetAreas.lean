import RoofTrace.Sidecar.RoofModel

/-!
# The areas of facets

A facet of the contract has the area of a cell, and the exterior of the cell as its vertices, lifted
to the plane. The two agree exactly when the cell has no interior ring that encloses an area and the
plane is not nearly vertical.
-/

namespace Sidecar

namespace RoofModel

open Cone Sidecar.Topology Outcome

variable {K : Type} [Field K] [LinearOrder K] [FloorRing K]

/-! ### Facets that agree with their geometry -/

/-- The position of a vertex in the plan. -/
def planOf (shapely : Shapely K) (epsg : ℤ) (vertex : List K) : K × K :=
  shapely.toUtm epsg (vertex.getD 0 0, vertex.getD 1 0)

/-- A vertex lies on a plane up to a millimetre. -/
def OnPlane (shapely : Shapely K) (epsg : ℤ) (plane : MergedPlane K) (vertex : List K) : Prop :=
  ∃ lon lat z, vertex = [lon, lat, z] ∧
    |dot plane.normal ![(shapely.toUtm epsg (lon, lat)).1, (shapely.toUtm epsg (lon, lat)).2, z] +
      plane.d| ≤ 1 / 1000

/-- The area of a contract facet is, but for its rounding, that of the polygon that its vertices
bound in the plane, and its vertices are on the plane. -/
structure AgreesWithGeometry (shapely : Shapely K) (epsg : ℤ) (f : RoofModelFacet K)
    (c : ContractFacet K) : Prop where
  rounded : c.areaSqFt = HalfEven.digits 2 (areaSqFt f.surfaceAreaM2)
  area : f.surfaceAreaM2 = Ring.area (c.vertices.map (planOf shapely epsg)) / |f.plane.normal 2|
  vertices : ∀ vertex ∈ c.vertices, OnPlane shapely epsg f.plane vertex

/-- No interior ring of a facet encloses an area, and its plane is not nearly vertical. -/
structure Simple (f : RoofModelFacet K) : Prop where
  solid : f.polygonUtm.holeArea = 0
  slanted : 1 / 10 ^ 6 ≤ |f.plane.normal 2|

/-! ### Emission -/

/-- What is emitted of a cell. -/
structure Emitted (planes : List (MergedPlane K)) (f : RoofModelFacet K) : Prop where
  plane : f.plane ∈ planes
  large : minModelFacetAreaM2 ≤ f.polygonUtm.area
  surface : f.surfaceAreaM2 =
    f.polygonUtm.area / min (max |f.plane.normal 2| (1 / 10 ^ 6)) 1

variable {np : Numpy K} {shapely : Shapely K}

theorem facetOfCell_emitted {planes : List (MergedPlane K)} {number : ℕ}
    {candidate : CandidateFacet K} {cell : PlanPolygon K} {f : RoofModelFacet K}
    (plane : candidate.plane ∈ planes)
    (h : facetOfCell np shapely number candidate cell = .inl f) :
  Emitted planes f
  := by
  rw [facetOfCell] at h
  split at h
  · cases h
  · next large =>
    split at h
    · cases h
    · cases h
      exact ⟨plane, not_lt.mp (not_or.mp large).2, rfl⟩

theorem emitFacets_emitted {planes : List (MergedPlane K)}
    (cell : ℕ → CandidateFacet K → PlanPolygon K) {candidates : List (CandidateFacet K)}
    (hc : ∀ candidate ∈ candidates, candidate.plane ∈ planes) {i : ℕ}
    {facets : List (RoofModelFacet K)} (hf : ∀ f ∈ facets, Emitted planes f) :
  ∀ f ∈ (emitFacets np shapely cell i facets candidates).1, Emitted planes f
  := by
  induction candidates generalizing i facets with
  | nil => exact hf
  | cons candidate rest ih =>
      have plane := hc candidate (.head _)
      have others := fun candidate h => hc candidate (.tail _ h)
      rw [emitFacets]
      split
      · next facet emitted =>
        apply ih others
        intro f hm
        rcases List.mem_append.mp hm with hm | hm
        · exact hf f hm
        · rw [List.mem_singleton.mp hm]
          exact facetOfCell_emitted plane emitted
      · exact ih others hf

omit [FloorRing K] in
theorem candidateOf_plane {outline : PlanPolygon K} {i : ℕ} {plane : MergedPlane K}
    {inlierPts : List (Vec3 K)} {support : Geometry K} {candidate : CandidateFacet K}
    (h : (candidateOf shapely outline i plane inlierPts support).1 = some candidate) :
  candidate.plane = plane
  := by
  rw [candidateOf] at h
  dsimp only at h
  split at h
  · cases h
  · split at h
    · cases h
    · split at h
      · cases h
      · cases h
        rfl

omit [FloorRing K] in
theorem planeCandidates_plane {outline : PlanPolygon K} {points : List (Vec3 K)} {i : ℕ}
    {plane : MergedPlane K} {made : List (CandidateFacet K) × List String}
    (h : planeCandidates shapely outline points i plane = .ok made) :
  ∀ candidate ∈ made.1, candidate.plane = plane
  := by
  obtain ⟨inlierPts, -, h⟩ := bind_eq_ok.mp h
  dsimp only at h
  split at h
  · cases h
    nofun
  · cases h
    intro candidate hc
    obtain ⟨other, ho, hc⟩ := List.mem_filterMap.mp hc
    obtain ⟨support, -, rfl⟩ := List.mem_map.mp ho
    exact candidateOf_plane hc

/-- The facets of a roof model are emitted from cells of its planes. -/
theorem buildRoofModel_emitted {planes : List (MergedPlane K)} {points : List (Vec3 K)}
    {refinedPolygon : List (Ring K)} {utmZone : ℤ} {model : RoofModel K}
    (h : buildRoofModel np shapely planes points refinedPolygon utmZone = .ok model) :
  ∀ f ∈ model.facets, Emitted planes f
  := by
  obtain ⟨outline, -, h⟩ := bind_eq_ok.mp h
  obtain ⟨made, hm, h⟩ := bind_eq_ok.mp h
  cases h
  apply emitFacets_emitted
  · intro candidate hc
    obtain ⟨part, hp, hc⟩ := List.mem_flatMap.mp hc
    obtain ⟨⟨plane, i⟩, hi, hp⟩ := (mapM_eq_ok hm).2 part hp
    rw [planeCandidates_plane hp candidate hc]
    exact List.fst_mem_of_mem_zipIdx hi
  · nofun

/-! ### Areas -/

variable [IsStrictOrderedRing K]

omit [FloorRing K] in
theorem holeArea_nonneg (p : PlanPolygon K) : 0 ≤ p.holeArea := by
  apply List.sum_nonneg
  intro a ha
  obtain ⟨ring, -, rfl⟩ := List.mem_map.mp ha
  exact div_nonneg (abs_nonneg _) zero_le_two

omit [FloorRing K] in
theorem abs_normal_le_one {normal : Vec3 K} (unit : dot normal normal = 1) : |normal 2| ≤ 1 := by
  rw [abs_le_one_iff_mul_self_le_one]
  rw [dot] at unit
  nlinarith [mul_self_nonneg (normal 0), mul_self_nonneg (normal 1)]

omit [FloorRing K] in
/-- The quotient by a number that is kept from below by a bound. -/
theorem div_max_eq_div_iff {exterior holes t m : K} (hm : 0 < m) (ht : 0 ≤ t) (hh : 0 ≤ holes)
    (ha : 0 < exterior - holes) :
  (exterior - holes) / max t m = exterior / t ↔ holes = 0 ∧ m ≤ t
  := by
  have he : 0 < exterior := by linarith
  constructor
  · intro h
    have slanted : m ≤ t := by
      by_contra low
      rw [not_le] at low
      rw [max_eq_right low.le] at h
      rcases ht.eq_or_lt with rfl | ht
      · rw [div_zero] at h
        exact (div_pos ha hm).ne' h
      · have : (exterior - holes) / m < exterior / t :=
          (div_lt_div_of_pos_left ha ht low).trans_le
            (div_le_div_of_nonneg_right (by linarith) ht.le)
        exact this.ne h
    refine ⟨?_, slanted⟩
    rw [max_eq_left slanted, div_left_inj' (hm.trans_le slanted).ne'] at h
    linarith
  · rintro ⟨rfl, slanted⟩
    rw [max_eq_left slanted, sub_zero]

/-- The surface of an emitted facet is that of its exterior exactly when it is simple. -/
theorem surface_eq_iff {planes : List (MergedPlane K)} {f : RoofModelFacet K}
    (emitted : Emitted planes f) (unit : dot f.plane.normal f.plane.normal = 1) :
  f.surfaceAreaM2 = f.polygonUtm.exterior.area / |f.plane.normal 2| ↔ Simple f
  := by
  have large : 0 < f.polygonUtm.exterior.area - f.polygonUtm.holeArea := by
    have := emitted.large
    rw [minModelFacetAreaM2, PlanPolygon.area] at this
    linarith
  have clipped : min (max |f.plane.normal 2| (1 / 10 ^ 6)) (1 : K) =
      max |f.plane.normal 2| (1 / 10 ^ 6) := by
    rw [min_eq_left (max_le (abs_normal_le_one unit) _)]
    norm_num
  rw [emitted.surface, clipped, PlanPolygon.area,
    div_max_eq_div_iff (by positivity) (abs_nonneg _) (holeArea_nonneg _) large]
  exact ⟨fun h => ⟨h.1, h.2⟩, fun h => ⟨h.solid, h.slanted⟩⟩

/-! ### Vertices -/

/-- The vertex of the contract at a position of a plane. -/
def vertexAt (shapely : Shapely K) (epsg : ℤ) (plane : MergedPlane K) (xy : K × K) : List K :=
  let (lon, lat) := shapely.toWgs84 epsg xy
  [lon, lat] ++ ((planeElevationUtm plane.normal plane.d xy).map (HalfEven.digits 3)).toList

omit [IsStrictOrderedRing K] in
/-- A contract facet has the vertices of the exterior and a rounded area. -/
theorem contractFacet_eq_ok {utmZone epsg : ℤ} (zone : utmEpsg utmZone = .ok epsg)
    {f : RoofModelFacet K} {c : ContractFacet K} (h : contractFacet shapely utmZone f = .ok c) :
  c.vertices = f.polygonUtm.exterior.map (vertexAt shapely epsg f.plane) ∧
    c.areaSqFt = HalfEven.digits 2 (areaSqFt f.surfaceAreaM2)
  := by
  obtain ⟨vertices, hv, h⟩ := bind_eq_ok.mp h
  cases h
  rw [facetVerticesWgs84, zone] at hv
  cases hv
  exact ⟨rfl, rfl⟩

section

variable {epsg : ℤ} (inverse : ∀ p, shapely.toUtm epsg (shapely.toWgs84 epsg p) = p)
include inverse

omit [IsStrictOrderedRing K] in
theorem planOf_vertexAt (plane : MergedPlane K) (xy : K × K) :
  planOf shapely epsg (vertexAt shapely epsg plane xy) = xy
  := inverse xy

/-- A vertex is off its plane by the rounding of its elevation. -/
theorem vertexAt_onPlane {plane : MergedPlane K} (unit : dot plane.normal plane.normal = 1)
    (slanted : 1 / 10 ^ 6 ≤ |plane.normal 2|) (xy : K × K) :
  OnPlane shapely epsg plane (vertexAt shapely epsg plane xy)
  := by
  have steep : ¬|plane.normal 2| < 1 / 10 ^ 9 := by
    rw [not_lt]
    exact le_trans (by norm_num) slanted
  have nonzero : plane.normal 2 ≠ 0 := by
    intro zero
    rw [zero, abs_zero] at slanted
    norm_num at slanted
  let elev := -(plane.normal 0 * xy.1 + plane.normal 1 * xy.2 + plane.d) / plane.normal 2
  let position := shapely.toWgs84 epsg xy
  refine ⟨position.1, position.2, HalfEven.digits 3 elev, ?_, ?_⟩
  · rw [vertexAt, planeElevationUtm, if_neg steep]
    rfl
  · have back : shapely.toUtm epsg
        ((shapely.toWgs84 epsg xy).1, (shapely.toWgs84 epsg xy).2) = xy := inverse xy
    have height : plane.normal 2 * elev =
        -(plane.normal 0 * xy.1 + plane.normal 1 * xy.2 + plane.d) :=
      mul_div_cancel₀ _ nonzero
    have residual : dot plane.normal ![xy.1, xy.2, HalfEven.digits 3 elev] + plane.d =
        plane.normal 2 * (HalfEven.digits 3 elev - elev) := by
      rw [mul_sub, height]
      simp [dot]
      ring
    rw [back, residual, abs_mul]
    calc |plane.normal 2| * |HalfEven.digits 3 elev - elev|
        ≤ 1 * (1 / 2 / 10 ^ 3) :=
          mul_le_mul (abs_normal_le_one unit) (HalfEven.abs_digits_sub_le 3 elev) (abs_nonneg _)
            zero_le_one
      _ ≤ 1 / 1000 := by norm_num

/-- A contract facet agrees with its geometry exactly when its facet is simple. -/
theorem contractFacet_agrees_iff {planes : List (MergedPlane K)} {utmZone : ℤ}
    (zone : utmEpsg utmZone = .ok epsg) {f : RoofModelFacet K} {c : ContractFacet K}
    (emitted : Emitted planes f) (unit : dot f.plane.normal f.plane.normal = 1)
    (h : contractFacet shapely utmZone f = .ok c) :
  AgreesWithGeometry shapely epsg f c ↔ Simple f
  := by
  obtain ⟨vertices, rounded⟩ := contractFacet_eq_ok zone h
  have ring : c.vertices.map (planOf shapely epsg) = f.polygonUtm.exterior := by
    rw [vertices, List.map_map]
    exact List.map_id'' (planOf_vertexAt inverse f.plane) _
  constructor
  · intro agrees
    have area := agrees.area
    rw [ring] at area
    exact (surface_eq_iff emitted unit).mp area
  · intro simple
    refine ⟨rounded, ?_, ?_⟩
    · rw [ring]
      exact (surface_eq_iff emitted unit).mpr simple
    · rw [vertices]
      intro vertex hv
      obtain ⟨xy, -, rfl⟩ := List.mem_map.mp hv
      exact vertexAt_onPlane inverse unit simple.slanted xy

end

/-- The contract facets of a roof model agree with their geometry exactly when no cell has an
interior ring that encloses an area, which the vertices leave out, and no plane is nearly vertical.
-/
theorem facets_agree_iff (np : Numpy K) (shapely : Shapely K) (planes : List (MergedPlane K))
    (unit : ∀ plane ∈ planes, dot plane.normal plane.normal = 1) (points : List (Vec3 K))
    (refinedPolygon : List (Ring K)) (utmZone epsg : ℤ) (zone : utmEpsg utmZone = .ok epsg)
    (inverse : ∀ p, shapely.toUtm epsg (shapely.toWgs84 epsg p) = p) (model : RoofModel K)
    (built : buildRoofModel np shapely planes points refinedPolygon utmZone = .ok model)
    (facets : List (ContractFacet K))
    (converted : buildFacetsFromRoofModel shapely model utmZone = .ok facets) :
  List.Forall₂ (AgreesWithGeometry shapely epsg) model.facets facets ↔
    ∀ f ∈ model.facets, Simple f
  := by
  have emitted := buildRoofModel_emitted built
  have each := forall₂_of_mapM_eq_ok converted
  have agrees : ∀ f ∈ model.facets, ∀ c, contractFacet shapely utmZone f = .ok c →
      (AgreesWithGeometry shapely epsg f c ↔ Simple f) := fun f hf c h =>
    contractFacet_agrees_iff inverse zone (emitted f hf) (unit _ (emitted f hf).plane) h
  clear built converted
  generalize model.facets = fs at each emitted agrees
  induction each with
  | nil => simp
  | cons h rest ih =>
      have others := ih (fun f hf => emitted f (.tail _ hf)) fun f hf => agrees f (.tail _ hf)
      rw [List.forall₂_cons, List.forall_mem_cons]
      exact and_congr (agrees _ (.head _) _ h) others

/-! ### A courtyard -/

/-- The square at a corner with a side, counter-clockwise. -/
def square (corner : ℚ × ℚ) (side : ℚ) : Ring ℚ :=
  let (x, y) := corner
  [(x, y), (x + side, y), (x + side, y + side), (x, y + side), (x, y)]

/-- The functions on a flat plane. -/
def flatNumpy : Numpy ℚ where
  sqrt := id
  arccos _ := 0
  tan _ := 0
  degrees _ := 0

/-- The operations on squares with parallel sides, of which each is in another or apart from it.
Near the point of latitude 42 on the central meridian the projection of zone 10 is affine. -/
def squares : Shapely ℚ where
  isValid _ := true
  buffer g _ := g
  pointBuffer p r := .polygon ⟨square (p.1 - r, p.2 - r) (2 * r), []⟩
  unaryUnion
    | [g] => g
    | gs => .multiPolygon (gs.flatMap (·.polygons))
  intersection g h := if g.area ≤ h.area then g else h
  intersects _ _ := true
  covers g p := g.polygons.any fun polygon =>
    polygon.exterior.any (fun q => q.1 ≤ p.1 ∧ q.2 ≤ p.2) &&
      polygon.exterior.any fun q => p.1 ≤ q.1 ∧ p.2 ≤ q.2
  distance _ _ := 0
  pointsHull ps := .polygon ⟨ps ++ ps.take 1, []⟩
  convexHull
    | .polygon p => .polygon ⟨p.exterior, []⟩
    | g => g
  minimumRotatedRectangle g := g
  centroid _ := (0, 0)
  nearestPoints _ _ := ((0, 0), (0, 0))
  bounds _ := (0, 0, 0, 0)
  sharedLength _ _ := 0
  toUtm _ p := (500000 + (p.1 + 123) * 82770, 4649776 + (p.2 - 42) * 111020)
  toWgs84 _ p := (-123 + (p.1 - 500000) / 82770, 42 + (p.2 - 4649776) / 111020)

theorem squares_inverse (p : ℚ × ℚ) : squares.toUtm 32610 (squares.toWgs84 32610 p) = p := by
  ext <;> simp [squares]

def corner : ℚ × ℚ := (500000, 4649776)

/-- Points on the corners of a flat roof. -/
def roofPoints : List (Vec3 ℚ) := ((square corner 10).take 4).map fun p => ![p.1, p.2, 6]

/-- The plane of a flat roof. -/
def flatRoof : MergedPlane ℚ where
  normal := ![0, 0, 1]
  d := -6
  inlierIndices := [0, 1, 2, 3]
  inlierRatio := 1
  residualStd := 0
  centroid := ![500005, 4649781, 6]
  mergedFrom := [0]

/-- The model of a flat roof in an outline with courtyards. -/
def roofWith (courtyards : List (Ring ℚ)) : Except Exception (RoofModel ℚ) :=
  buildRoofModel flatNumpy squares [flatRoof] roofPoints
    ((square corner 10 :: courtyards).map (·.map (squares.toWgs84 32610))) 10

/-- The area of the interior rings of a facet and the third component of its normal. -/
def cellOf (f : RoofModelFacet ℚ) : ℚ × ℚ := (f.polygonUtm.holeArea, |f.plane.normal 2|)

/-- The area of a contract facet and that inside its vertices in the plan, in square feet. -/
def areasOf (c : ContractFacet ℚ) : ℚ × ℚ :=
  (c.areaSqFt, areaSqFt (Ring.area (c.vertices.map (planOf squares 32610))))

/-- What a model and its facets of the contract show. -/
def shown (courtyards : List (Ring ℚ)) :
    Except Exception (List (ℚ × ℚ) × List (ℚ × ℚ)) := do
  let model ← roofWith courtyards
  let facets ← buildFacetsFromRoofModel squares model 10
  return (model.facets.map cellOf, facets.map areasOf)

theorem shown_eq_ok {courtyards : List (Ring ℚ)} {pairs : List (ℚ × ℚ) × List (ℚ × ℚ)}
    (h : shown courtyards = .ok pairs) :
  ∃ model facets, roofWith courtyards = .ok model ∧
    buildFacetsFromRoofModel squares model 10 = .ok facets ∧
    (model.facets.map cellOf, facets.map areasOf) = pairs
  := by
  obtain ⟨model, hm, h⟩ := bind_eq_ok.mp h
  obtain ⟨facets, hf, h⟩ := bind_eq_ok.mp h
  exact ⟨model, facets, hm, hf, Except.ok.inj h⟩

/-- Without a courtyard the facet of a flat roof agrees with its geometry. -/
theorem flat_roof_agrees :
  ∃ model facets, roofWith [] = .ok model ∧
    buildFacetsFromRoofModel squares model 10 = .ok facets ∧ facets ≠ [] ∧
    List.Forall₂ (AgreesWithGeometry squares 32610) model.facets facets
  := by
  have run : shown [] = .ok ([(0, 1)], [(107639 / 100, 107639 / 100)]) := by decide +kernel
  obtain ⟨model, facets, hm, hf, h⟩ := shown_eq_ok run
  obtain ⟨cells, areas⟩ := Prod.mk.inj h
  refine ⟨model, facets, hm, hf, ?_, ?_⟩
  · rintro rfl
    cases areas
  · have unit : ∀ plane ∈ [flatRoof], dot plane.normal plane.normal = 1 := by
      intro plane hp
      rw [List.mem_singleton.mp hp]
      decide +kernel
    apply (facets_agree_iff flatNumpy squares [flatRoof] unit roofPoints _ 10 32610 rfl
      squares_inverse model hm facets hf).mpr
    intro f hf
    have cell : cellOf f ∈ model.facets.map cellOf := List.mem_map_of_mem hf
    rw [cells, List.mem_singleton] at cell
    obtain ⟨solid, slanted⟩ := Prod.mk.inj cell
    refine ⟨solid, ?_⟩
    rw [slanted]
    norm_num

/-- A courtyard is missing in the area of the contract, and the vertices go around it. -/
theorem courtyard_disagrees :
  ∃ model facets, roofWith [square (500004, 4649780) 2] = .ok model ∧
    buildFacetsFromRoofModel squares model 10 = .ok facets ∧
    ∃ c ∈ facets, c.areaSqFt = 103333 / 100 ∧
      areaSqFt (Ring.area (c.vertices.map (planOf squares 32610)) / |flatRoof.normal 2|) =
        107639 / 100
  := by
  have run : shown [square (500004, 4649780) 2] =
      .ok ([(4, 1)], [(103333 / 100, 107639 / 100)]) := by decide +kernel
  obtain ⟨model, facets, hm, hf, h⟩ := shown_eq_ok run
  obtain ⟨-, areas⟩ := Prod.mk.inj h
  obtain ⟨c, rfl, pair⟩ := List.map_eq_singleton_iff.mp areas
  obtain ⟨contract, inside⟩ := Prod.mk.inj pair
  have flat : |flatRoof.normal 2| = 1 := by decide +kernel
  refine ⟨model, [c], hm, hf, c, .head _, contract, ?_⟩
  rw [flat, div_one, inside]

end RoofModel

end Sidecar
