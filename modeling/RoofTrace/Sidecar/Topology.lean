import RoofTrace.Fixpoint.Merging
import RoofTrace.Rigid.Cone
import Mathlib.Data.Finset.Sort

/-!
# Topology cleanup

`planefit/topology.py`: fitted planes that are nearly coplanar are merged, two at a time, until no
two of them are.
-/

namespace Sidecar

/-- The functions of numpy on the numbers of a field. -/
structure Numpy (K : Type) where
  sqrt : K → K
  arccos : K → K
  tan : K → K
  degrees : K → K

/-- `FittedPlane` -/
structure FittedPlane (K : Type) where
  normal : Vec3 K
  d : K
  inlierIndices : List ℕ
  inlierRatio : K
  residualStd : K
  centroid : Vec3 K

/-- `MergedPlane` -/
structure MergedPlane (K : Type) extends FittedPlane K where
  mergedFrom : List ℕ

namespace Topology

open Cone

variable {K : Type} [Field K] [LinearOrder K]

/-- `np.clip(x, 0.0, 1.0)` -/
def clip01 (x : K) : K := min (max x 0) 1

variable (np : Numpy K)

/-- `np.linalg.norm` -/
def norm (v : Vec3 K) : K := np.sqrt (dot v v)

def maxNormalAngleDeg : K := 5

def maxCentroidDistM : K := 3 / 10

/-- `_pitch_degrees_from_normal` -/
def pitchDegreesFromNormal (normal : Vec3 K) : K := np.degrees (np.arccos (clip01 |normal 2|))

/-- `_angle_between_normals` -/
def angleBetweenNormals (n₁ n₂ : Vec3 K) : K := np.degrees (np.arccos (clip01 |dot n₁ n₂|))

/-- `_plane_plane_dist` -/
def planePlaneDist (n₁ : Vec3 K) (d₁ : K) (c₂ : Vec3 K) : K := |dot n₁ c₂ + d₁|

/-- `_should_merge` -/
def shouldMerge (p₁ p₂ : MergedPlane K) : Bool :=
  if angleBetweenNormals np p₁.normal p₂.normal ≥ maxNormalAngleDeg then false
  else
    min (planePlaneDist p₁.normal p₁.d p₂.centroid) (planePlaneDist p₂.normal p₂.d p₁.centroid) <
      maxCentroidDistM

/-- `np.unique(np.concatenate([xs, ys]))` -/
def unique (xs ys : List ℕ) : List ℕ := (xs ++ ys).toFinset.sort (· ≤ ·)

/-- A vector is normalised, unless its length is nearly zero. -/
def renormalise (v : Vec3 K) : Vec3 K :=
  if norm np v > 1 / 10 ^ 9 then fun i => v i / norm np v else v

/-- `_merge_two` -/
def mergeTwo (p₁ p₂ : MergedPlane K) : MergedPlane K :=
  let w₁ : K := p₁.inlierIndices.length
  let w₂ : K := p₂.inlierIndices.length
  let avgNormal := renormalise np (average p₁.normal p₂.normal w₁ w₂)
  let avgNormal := if avgNormal 2 < 0 then fun i => -avgNormal i else avgNormal
  let centroid := average p₁.centroid p₂.centroid w₁ w₂
  { normal := avgNormal
    d := -dot avgNormal centroid
    inlierIndices := unique p₁.inlierIndices p₂.inlierIndices
    inlierRatio := (p₁.inlierRatio * w₁ + p₂.inlierRatio * w₂) / (w₁ + w₂)
    residualStd := (p₁.residualStd * w₁ + p₂.residualStd * w₂) / (w₁ + w₂)
    centroid
    mergedFrom := p₁.mergedFrom ++ p₂.mergedFrom }

/-- `merge_coplanar_facets` -/
def mergeCoplanarFacets (planes : List (FittedPlane K)) : List (MergedPlane K) :=
  Merging.loop (shouldMerge np) (mergeTwo np)
    (planes.mapIdx fun i p => { toFittedPlane := p, mergedFrom := [i] })

end Topology

end Sidecar
