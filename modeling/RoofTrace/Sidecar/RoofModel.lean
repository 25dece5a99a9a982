import RoofTrace.Sidecar.SupportClusters
import RoofTrace.Sidecar.Utm

/-!
# The roof model

`planefit/roof_model.py`: the support of each plane is clipped to the outline, supports that are
near each other share their coverage along the intersections of their planes, and the cells that
are left become facets. `build_facets_from_roof_model` of `planefit/geometry.py` turns these into
facets of the contract.
-/

namespace Sidecar

/-- `RoofModelFacet` -/
structure RoofModelFacet (K : Type) where
  facetId : String
  planeIndex : ℕ
  plane : MergedPlane K
  polygonUtm : PlanPolygon K
  planAreaM2 : K
  surfaceAreaM2 : K
  pitchDegrees : K
  pitchRatio : K
  confidence : K
  inlierCount : ℕ
  pointDensityPerM2 : K
  boundaryMethod : String

/-- `RoofModelEdge` -/
structure RoofModelEdge (K : Type) where
  facetA : String
  facetB : String
  kind : String
  lengthM : K

/-- `RoofModel`, with the number among its diagnostics that is not a count of the rest. -/
structure RoofModel (K : Type) where
  facets : List (RoofModelFacet K)
  edges : List (RoofModelEdge K)
  warnings : List String
  coverageRatio : K

/-- `_CandidateFacet` -/
structure CandidateFacet (K : Type) where
  planeIndex : ℕ
  plane : MergedPlane K
  inlierPts : List (Vec3 K)
  support : PlanPolygon K
  confidence : K
  density : K
  anchorXy : K × K

namespace RoofModel

open Cone Sidecar.Topology

variable {K : Type} [Field K] [LinearOrder K] [FloorRing K]

def sqmToSqft : K := 107639 / 10000
def pitchStep : K := 1 / 2
def minFacetConfidence : K := 1 / 2
def minModelFacetAreaM2 : K := 12
def adjacencyToleranceM : K := 8 / 100
def partitionNeighborBufferM : K := 1 / 2
def supportPointBufferM : K := 6 / 10
def supportBridgeRatio : K := 35 / 100
def massEnvelopePointBufferM : K := 75 / 100
def massEnvelopeComponentBridgeRatio : K := 3 / 10
def massEnvelopeAttachBufferM : K := 9 / 10
def massEnvelopeResidualToleranceM : K := 45 / 100
def maxMassEnvelopeAreaRatio : K := 175 / 100
def parallelPartitionAngleDeg : K := 3
def seamElevationToleranceM : K := 25 / 100
def maxPartitionAnchorElevationGapM : K := 1
def pointElevationOverlapToleranceM : K := 5 / 100

/-! ### Polygons -/

/-- The first polygon with the largest area, or the empty one. -/
def maxByArea : List (PlanPolygon K) → PlanPolygon K
  | [] => .empty
  | p :: ps => ps.foldl (fun best q => if best.area < q.area then q else best) p

/-- `_largest_polygon` -/
def largestPolygon (geom : Geometry K) : PlanPolygon K :=
  if geom.isEmpty then .empty else maxByArea geom.polygons

variable (np : Numpy K) (shapely : Shapely K)

/-- A geometry, mended when it is not valid. -/
def mended (geom : Geometry K) : Geometry K :=
  if shapely.isValid geom then geom else shapely.buffer geom 0

/-- `refined_outline_to_utm` -/
def refinedOutlineToUtm (refinedPolygon : List (Ring K)) (utmZone : ℤ) :
    Except Exception (PlanPolygon K) := do
  let epsg ← utmEpsg utmZone
  match refinedPolygon.map (·.map (shapely.toUtm epsg)) with
  | [] => throw (.other "IndexError")
  | exterior :: holes =>
      let outline := mended shapely (.polygon ⟨exterior, holes⟩)
      if outline.isEmpty ∨ outline.area ≤ 0 then
        throw (.valueError "degenerate refined polygon: zero planimetric area")
      return largestPolygon outline

/-- The horizontal position of a point. -/
def plan (p : Vec3 K) : K × K := (p 0, p 1)

/-- The points that a geometry covers. -/
def covered (geom : Geometry K) (points : List (Vec3 K)) : List (Vec3 K) :=
  points.filter fun p => shapely.covers geom (plan p)

/-- The smallest rotated rectangle around points, when their hull is a polygon. -/
def rectangleAround (points : List (K × K)) : Option (Geometry K) :=
  match shapely.pointsHull points with
  | .polygon hull =>
      if hull.isEmpty then none else some (shapely.minimumRotatedRectangle (.polygon hull))
  | _ => none

/-- `_support_polygons` -/
def supportPolygons (inlierPts : List (Vec3 K)) : List (Geometry K) :=
  if inlierPts.length < 3 then []
  else
    let buffers := inlierPts.map fun p => shapely.pointBuffer (plan p) supportPointBufferM
    let support := mended shapely
      (shapely.buffer (shapely.unaryUnion buffers) (-supportPointBufferM * supportBridgeRatio))
    let supports := support.polygons.filterMap fun region =>
      let componentPts := covered shapely (.polygon region) inlierPts
      if componentPts.length < 3 then none
      else (rectangleAround shapely (componentPts.map plan)).filter fun support => 0 < support.area
    if supports ≠ [] then supports
    else (rectangleAround shapely (inlierPts.map plan)).toList

/-- `_clip_support` -/
def clipSupport (support : Geometry K) (outline : PlanPolygon K) :
    PlanPolygon K × List String :=
  if support.isEmpty ∨ support.area ≤ 0 then (.empty, [])
  else
    let clipped := shapely.intersection support (.polygon outline)
    let warnings :=
      if 0 < support.area ∧ clipped.area < support.area * (98 / 100) then ["outline_clipped"]
      else []
    (largestPolygon (mended shapely (.polygon (largestPolygon clipped))), warnings)

/-! ### Planes -/

/-- `_normal_to_pitch` -/
def normalToPitch (normal : Vec3 K) : K × K :=
  let pitchRad := np.arccos (clip01 |normal 2|)
  (np.degrees pitchRad,
    HalfEven.toInt (np.tan pitchRad * 12 / pitchStep) * pitchStep)

/-- `_plane_z_coeffs` -/
def planeZCoeffs (plane : MergedPlane K) : K × K × K :=
  let n := plane.normal
  let tiny : K := 1 / 10 ^ 9
  let nz := if |n 2| < tiny then (if n 2 < 0 then -tiny else tiny) else n 2
  (-n 0 / nz, -n 1 / nz, -plane.d / nz)

/-- The elevation of a plane at a position. -/
def elevation (plane : MergedPlane K) (xy : K × K) : K :=
  let (a, b, c) := planeZCoeffs plane
  a * xy.1 + b * xy.2 + c

/-- The difference of the elevations of two planes, as a function of the position. -/
def elevationGap (p q : MergedPlane K) : K × K × K :=
  let (ai, bi, ci) := planeZCoeffs p
  let (aj, bj, cj) := planeZCoeffs q
  (ai - aj, bi - bj, ci - cj)

/-- The angle of two planes in degrees. -/
def planeAngle (p q : MergedPlane K) : K := angleBetweenNormals np p.normal q.normal

/-- `point_density` -/
def pointDensity (nPoints : ℕ) (areaM2 : K) : K := if areaM2 ≤ 0 then 0 else nPoints / areaM2

/-- `facet_confidence` -/
def facetConfidence (inlierRatio ptsPerM2 : K) : K :=
  let densityScore := min (ptsPerM2 / 10) 1
  clip01 (6 / 10 * inlierRatio + 4 / 10 * densityScore)

/-! ### Candidates -/

/-- The mean of positions. -/
def meanXy (points : List (Vec3 K)) : K × K :=
  ((points.map (· 0)).sum / points.length, (points.map (· 1)).sum / points.length)

/-- What becomes of a support of a plane, and the warnings. -/
def candidateOf (outline : PlanPolygon K) (planeIndex : ℕ) (plane : MergedPlane K)
    (inlierPts : List (Vec3 K)) (support : Geometry K) :
    Option (CandidateFacet K) × List String :=
  let (clipped, warnings) := clipSupport shapely support outline
  if clipped.isEmpty ∨ clipped.area < minModelFacetAreaM2 then
    (none, warnings ++ ["facet_support_too_small"])
  else
    let componentPts := covered shapely (.polygon clipped) inlierPts
    if componentPts.length < 3 then (none, warnings ++ ["facet_support_too_small"])
    else
      let density := pointDensity componentPts.length clipped.area
      let confidence := facetConfidence plane.inlierRatio density
      if confidence < minFacetConfidence then
        (none, warnings ++ ["low_confidence_facet_dropped"])
      else
        (some
          { planeIndex
            plane
            inlierPts := componentPts
            support := clipped
            confidence
            density
            anchorXy := meanXy componentPts },
          warnings)

/-- The candidates of a plane, and the warnings. -/
def planeCandidates (outline : PlanPolygon K) (points : List (Vec3 K)) (planeIndex : ℕ)
    (plane : MergedPlane K) : Except Exception (List (CandidateFacet K) × List String) := do
  let inlierPts ← plane.inlierIndices.mapM fun i =>
    match points[i]? with
    | some p => pure p
    | none => throw (.other "IndexError")
  let supports := supportPolygons shapely inlierPts
  if supports = [] then return ([], ["facet_support_too_small"])
  else
    let made := supports.map (candidateOf shapely outline planeIndex plane inlierPts)
    return (made.filterMap (·.1), made.flatMap (·.2))

/-! ### Clusters -/

/-- The cluster that has the support at a position. -/
def clusterOf (supports : List (PlanPolygon K)) (bufferM : K) (i : ℕ) : List ℕ :=
  let clusters := (supportClusters shapely supports bufferM supports.length).getD []
  ((clusters.map fun cluster => cluster.map Fin.val).find? (i ∈ ·)).getD []

/-! ### Coverage -/

/-- `_partition_coverage` -/
def partitionCoverage (supports : List (PlanPolygon K)) : Geometry K :=
  let coverage := shapely.unaryUnion (supports.map .polygon)
  match coverage with
  | .multiPolygon _ =>
      let closed := shapely.buffer (shapely.buffer coverage partitionNeighborBufferM)
        (-partitionNeighborBufferM)
      if closed.isEmpty then coverage else closed
  | _ => coverage

/-- `_support_envelope` -/
def supportEnvelope (supports : List (PlanPolygon K)) : PlanPolygon K :=
  let coverage := shapely.unaryUnion (supports.map .polygon)
  if coverage.isEmpty then .empty
  else
    match shapely.convexHull coverage with
    | .polygon hull =>
        if hull.isEmpty then .empty
        else
          match shapely.minimumRotatedRectangle (.polygon hull) with
          | .polygon envelope => envelope
          | _ => .empty
    | _ => .empty

/-- `_near_any_plane_mask`, of one point. -/
def nearAnyPlane (planes : List (MergedPlane K)) (toleranceM : K) (p : Vec3 K) : Bool :=
  planes.any fun plane => |p 2 - elevation plane (plan p)| ≤ toleranceM

/-- The points of the regions that are attached to the coverage of the supports. -/
def attachedPoints (evidencePoints : List (Vec3 K)) (supportCoverage : Geometry K) :
    List (Vec3 K) :=
  let buffers := evidencePoints.map fun p => shapely.pointBuffer (plan p) massEnvelopePointBufferM
  let pointRegions := mended shapely (shapely.buffer (shapely.unaryUnion buffers)
    (-massEnvelopePointBufferM * massEnvelopeComponentBridgeRatio))
  let attachRegion := shapely.buffer supportCoverage massEnvelopeAttachBufferM
  pointRegions.polygons.flatMap fun region =>
    if region.isEmpty ∨ shapely.intersects (.polygon region) attachRegion = false then []
    else
      let componentPoints := covered shapely (.polygon region) evidencePoints
      if componentPoints.length < 3 then [] else componentPoints

/-- `_roof_mass_envelope` -/
def roofMassEnvelope (candidates : List (CandidateFacet K)) (allPoints : List (Vec3 K))
    (outline : PlanPolygon K) : Geometry K :=
  let supports := candidates.map (·.support)
  let supportCoverage := partitionCoverage shapely supports
  let envelope := supportEnvelope shapely supports
  if envelope.isEmpty then supportCoverage
  else
    let evidencePoints := covered shapely (.polygon outline)
      (allPoints.filter (nearAnyPlane (candidates.map (·.plane)) massEnvelopeResidualToleranceM))
    if evidencePoints.length < 3 then supportCoverage
    else
      let massPoints := attachedPoints shapely evidencePoints supportCoverage
      match (if massPoints = [] then none else rectangleAround shapely (massPoints.map plan)) with
      | some (.polygon rectangle) =>
          if rectangle.isEmpty then supportCoverage
          else
            let mass := largestPolygon
              (shapely.intersection (.polygon rectangle) (.polygon outline))
            if mass.isEmpty ∨ mass.area ≤ supportCoverage.area then supportCoverage
            else if envelope.area * maxMassEnvelopeAreaRatio < mass.area then supportCoverage
            else .polygon mass
      | _ => supportCoverage

/-! ### Partitions -/

/-- `_seam_crosses_coverage` -/
def seamCrossesCoverage (a b : CandidateFacet K) (coverage : Geometry K) (toleranceM : K) : Bool :=
  let (alpha, beta, gamma) := elevationGap a.plane b.plane
  let values := (coverage.polygons.filter fun p => !p.isEmpty).flatMap fun p =>
    (p.exterior ++ [shapely.centroid (.polygon p)]).map fun xy =>
      alpha * xy.1 + beta * xy.2 + gamma
  values.any (· ≤ toleranceM) && values.any (-toleranceM ≤ ·)

/-- `_nearest_support_elevation_gap` -/
def nearestSupportElevationGap (a b : CandidateFacet K) : Option K :=
  if a.support.isEmpty ∨ b.support.isEmpty then none
  else
    let (pa, pb) := shapely.nearestPoints (.polygon a.support) (.polygon b.support)
    some |elevation a.plane pa - elevation b.plane pb|

/-- The least and the greatest elevation of points. -/
def elevationRange (points : List (Vec3 K)) : K × K :=
  let zs := points.map (· 2)
  (zs.min?.getD 0, zs.max?.getD 0)

/-- `_point_elevation_ranges_overlap` -/
def pointElevationRangesOverlap (a b : CandidateFacet K) (toleranceM : K) : Bool :=
  let (aMin, aMax) := elevationRange a.inlierPts
  let (bMin, bMax) := elevationRange b.inlierPts
  max aMin bMin ≤ min aMax bMax + toleranceM

/-- `_should_partition_against` -/
def shouldPartitionAgainst (a b : CandidateFacet K) (bufferM : K) : Bool :=
  if a.planeIndex = b.planeIndex then false
  else if bufferM < shapely.distance (.polygon a.support) (.polygon b.support) then false
  else if planeAngle np a.plane b.plane < parallelPartitionAngleDeg then false
  else if (nearestSupportElevationGap shapely a b).any (maxPartitionAnchorElevationGapM < ·) ∧
      pointElevationRangesOverlap a b pointElevationOverlapToleranceM = false then false
  else
    seamCrossesCoverage shapely a b (partitionCoverage shapely [a.support, b.support])
      seamElevationToleranceM

/-- `math.hypot` -/
def hypot (x y : K) : K := np.sqrt (x * x + y * y)

/-- `box` -/
def boxOf (minx miny maxx maxy : K) : PlanPolygon K :=
  ⟨[(maxx, miny), (maxx, maxy), (minx, maxy), (minx, miny), (maxx, miny)], []⟩

/-- `_halfplane_polygon` -/
def halfplanePolygon (alpha beta gamma : K) (bbox : K × K × K × K) : PlanPolygon K :=
  let (minx, miny, maxx, maxy) := bbox
  let cx := (minx + maxx) / 2
  let cy := (miny + maxy) / 2
  let reach := hypot np (maxx - minx) (maxy - miny) * 4 + 10
  let norm := hypot np alpha beta
  if norm < 1 / 10 ^ 12 then
    if 0 ≤ gamma then boxOf (cx - reach) (cy - reach) (cx + reach) (cy + reach) else .empty
  else
    let nx := alpha / norm
    let ny := beta / norm
    let dx := -ny
    let dy := nx
    let dist := (alpha * cx + beta * cy + gamma) / norm
    let fx := cx - dist * nx
    let fy := cy - dist * ny
    let a := (fx + dx * reach, fy + dy * reach)
    let b := (fx - dx * reach, fy - dy * reach)
    let c := (b.1 + nx * 2 * reach, b.2 + ny * 2 * reach)
    let d := (a.1 + nx * 2 * reach, a.2 + ny * 2 * reach)
    ⟨[a, b, c, d, a], []⟩

/-- The loop of `_partition_cell` over the other planes. -/
def cutCell (plane : MergedPlane K) (bbox : K × K × K × K) (anchorXy : K × K) :
    Geometry K → List (MergedPlane K) → Geometry K
  | cell, [] => cell
  | cell, other :: others =>
      let (alpha, beta, gamma) := elevationGap plane other
      let side := alpha * anchorXy.1 + beta * anchorXy.2 + gamma
      if |side| < 1 / 10 ^ 9 then cutCell plane bbox anchorXy cell others
      else
        let half :=
          if side < 0 then halfplanePolygon np (-alpha) (-beta) (-gamma) bbox
          else halfplanePolygon np alpha beta gamma bbox
        let cell := shapely.intersection cell (.polygon half)
        if cell.isEmpty then cell else cutCell plane bbox anchorXy cell others

/-- `_partition_cell` -/
def partitionCell (plane : MergedPlane K) (others : List (MergedPlane K)) (coverage : Geometry K)
    (bbox : K × K × K × K) (anchorXy : K × K) : PlanPolygon K :=
  largestPolygon (mended shapely (cutCell np shapely plane bbox anchorXy coverage others))

/-- The cell of a candidate. -/
def cellFor (candidates : List (CandidateFacet K)) (points : List (Vec3 K))
    (outline : PlanPolygon K) (i : ℕ) (candidate : CandidateFacet K) : PlanPolygon K :=
  let cluster := clusterOf shapely (candidates.map (·.support)) partitionNeighborBufferM i
  let neighbors := (cluster.filter (· ≠ i)).filterMap fun j =>
    candidates[j]?.filter fun other =>
      shouldPartitionAgainst np shapely candidate other partitionNeighborBufferM
  let coverage := roofMassEnvelope shapely (candidate :: neighbors) points outline
  let bbox := shapely.bounds (if coverage.isEmpty then .polygon outline else coverage)
  let cell := partitionCell np shapely candidate.plane (neighbors.map (·.plane)) coverage bbox
    candidate.anchorXy
  largestPolygon (mended shapely (shapely.intersection (.polygon cell) (.polygon outline)))

/-! ### Facets -/

/-- The facet of a cell, or the warning why there is none. -/
def facetOfCell (number : ℕ) (candidate : CandidateFacet K) (cell : PlanPolygon K) :
    RoofModelFacet K ⊕ String :=
  if cell.isEmpty ∨ cell.area < minModelFacetAreaM2 then .inr "facet_cell_too_small"
  else if shapely.intersects (.polygon cell) (.polygon candidate.support) = false then
    .inr "facet_cell_off_support"
  else
    let (pitchDeg, pitchRatio) := normalToPitch np candidate.plane.normal
    let nz := min (max |candidate.plane.normal 2| (1 / 10 ^ 6)) 1
    let planAreaM2 := cell.area
    .inl
      { facetId := s!"F{number}"
        planeIndex := candidate.planeIndex
        plane := candidate.plane
        polygonUtm := cell
        planAreaM2
        surfaceAreaM2 := planAreaM2 / nz
        pitchDegrees := pitchDeg
        pitchRatio
        confidence := candidate.confidence
        inlierCount := candidate.inlierPts.length
        pointDensityPerM2 := candidate.density
        boundaryMethod := "plane_intersection_partition_of_supports" }

/-- Facets are emitted from the cells of the candidates. -/
def emitFacets (cell : ℕ → CandidateFacet K → PlanPolygon K) :
    ℕ → List (RoofModelFacet K) → List (CandidateFacet K) → List (RoofModelFacet K) × List String
  | _, facets, [] => (facets, [])
  | i, facets, candidate :: rest =>
      match facetOfCell np shapely (facets.length + 1) candidate (cell i candidate) with
      | .inl facet => emitFacets cell (i + 1) (facets ++ [facet]) rest
      | .inr warning =>
          let (facets, warnings) := emitFacets cell (i + 1) facets rest
          (facets, warning :: warnings)

/-- `_build_edges`, of one pair of facets. -/
def edgeBetween (a b : RoofModelFacet K) : Option (RoofModelEdge K) :=
  let length := shapely.sharedLength a.polygonUtm b.polygonUtm
  let near := decide (shapely.distance (.polygon a.polygonUtm) (.polygon b.polygonUtm) ≤
    adjacencyToleranceM)
  let length := if length ≤ 0 ∧ near then 0 else length
  if adjacencyToleranceM < length ∨ length = 0 ∧ near then
    some
      { facetA := a.facetId
        facetB := b.facetId
        kind := if planeAngle np a.plane b.plane < 1 then "coplanar" else "ridge"
        lengthM := HalfEven.digits 4 length }
  else none

/-- `_build_edges` -/
def buildEdges : List (RoofModelFacet K) → List (RoofModelEdge K)
  | [] => []
  | a :: rest => rest.filterMap (edgeBetween np shapely a) ++ buildEdges rest

/-- `build_roof_model` -/
def buildRoofModel (planes : List (MergedPlane K)) (points : List (Vec3 K))
    (refinedPolygon : List (Ring K)) (utmZone : ℤ) : Except Exception (RoofModel K) := do
  let outline ← refinedOutlineToUtm shapely refinedPolygon utmZone
  let made ← planes.zipIdx.mapM fun (plane, i) => planeCandidates shapely outline points i plane
  let candidates := made.flatMap (·.1)
  let (facets, warnings) :=
    emitFacets np shapely (cellFor np shapely candidates points outline) 0 [] candidates
  let assigned :=
    if facets = [] then Geometry.polygon .empty
    else shapely.unaryUnion (facets.map fun f => .polygon f.polygonUtm)
  let coverageRatio :=
    if 0 < outline.area ∧ assigned.isEmpty = false then
      (shapely.intersection assigned (.polygon outline)).area / outline.area
    else 0
  return {
    facets
    edges := buildEdges np shapely facets
    warnings := (made.flatMap (·.2) ++ warnings).eraseDups
    coverageRatio := HalfEven.digits 4 coverageRatio }

/-! ### The contract -/

/-- A facet of the contract, as far as it is computed here. -/
structure ContractFacet (K : Type) where
  facetId : String
  vertices : List (List K)
  pitchRatio : K
  pitchDegrees : K
  areaSqFt : K
  confidence : K

/-- `plane_elevation_utm` -/
def planeElevationUtm (normal : Vec3 K) (d : K) (xy : K × K) : Option K :=
  if |normal 2| < 1 / 10 ^ 9 then none
  else some (-(normal 0 * xy.1 + normal 1 * xy.2 + d) / normal 2)

/-- `facet_vertices_wgs84` -/
def facetVerticesWgs84 (facet : RoofModelFacet K) (utmZone : ℤ) :
    Except Exception (List (List K)) := do
  let epsg ← utmEpsg utmZone
  return facet.polygonUtm.exterior.map fun xy =>
    let (lon, lat) := shapely.toWgs84 epsg xy
    [lon, lat] ++ ((planeElevationUtm facet.plane.normal facet.plane.d xy).map
      (HalfEven.digits 3)).toList

/-- `area_sq_ft` -/
def areaSqFt (areaM2 : K) : K := areaM2 * sqmToSqft

/-- The contract facet of a facet of the model. -/
def contractFacet (utmZone : ℤ) (f : RoofModelFacet K) : Except Exception (ContractFacet K) := do
  return {
    facetId := f.facetId
    vertices := ← facetVerticesWgs84 shapely f utmZone
    pitchRatio := f.pitchRatio
    pitchDegrees := HalfEven.digits 2 f.pitchDegrees
    areaSqFt := HalfEven.digits 2 (areaSqFt f.surfaceAreaM2)
    confidence := HalfEven.digits 4 f.confidence }

/-- `build_facets_from_roof_model` -/
def buildFacetsFromRoofModel (model : RoofModel K) (utmZone : ℤ) :
    Except Exception (List (ContractFacet K)) :=
  model.facets.mapM (contractFacet shapely utmZone)

end RoofModel

end Sidecar
