import RoofTrace.Rigid.Transform
import Mathlib.Data.Rat.Defs

/-!
# Alignment of the mesh to the LiDAR cloud

`fuse_capture/icp.py`: the seed transform, and the two passes of point-to-plane ICP that
refine it. The registration itself and the distances between clouds are those of `open3d`.
The cross-check of the seed against the GPS origin only writes a log entry and is left out.
-/

namespace Sidecar

/-- `_seed_transform`: the translation that takes the centroid of the mesh to that of the
cloud. -/
def seedTransform {K : Type} [Field K] (meshPts lidarPts : List (Vec3 K)) : Transform K :=
  let meshCentroid := Transform.centroid meshPts
  let lidarCentroid := Transform.centroid lidarPts
  let translation := lidarCentroid - meshCentroid
  !![1, 0, 0, translation 0;
     0, 1, 0, translation 1;
     0, 0, 1, translation 2;
     0, 0, 0, 1]

/-- The result of one ICP registration. -/
structure Registration where
  transformation : Transform ℚ
  fitness : ℚ
  inlierRmse : ℚ

/-- What the alignment uses of `open3d` and `numpy`. -/
structure Open3d where
  /-- Point-to-plane registration of a source to a target cloud, with the largest
  distance of corresponding points, the initial transform and the number of iterations. -/
  registrationIcp : List (Vec3 ℚ) → List (Vec3 ℚ) → ℚ → Transform ℚ → ℕ → Registration
  /-- The distance of each point of a cloud to a target cloud. -/
  pointCloudDistance : List (Vec3 ℚ) → List (Vec3 ℚ) → List ℚ
  sqrt : ℚ → ℚ

structure AlignResult where
  transformation : Transform ℚ
  rmseM : ℚ
  pctWithin : ℚ
  converged : Bool
  fitness : ℚ

def pass1MaxCorr : ℚ := 1 / 2
def pass1MaxIter : ℕ := 50
def pass2MaxCorr : ℚ := 15 / 100
def pass2MaxIter : ℕ := 30
def rmseConvergedM : ℚ := 1 / 2
def fitnessConverged : ℚ := 2 / 10
def withinM : ℚ := 1 / 10

def mean (xs : List ℚ) : ℚ := xs.sum / xs.length

/-- `align_mesh_to_lidar` -/
def alignMeshToLidar (o3d : Open3d) (meshPts lidarPts : List (Vec3 ℚ)) : AlignResult :=
  let init := seedTransform meshPts lidarPts
  let pass1 := o3d.registrationIcp meshPts lidarPts pass1MaxCorr init pass1MaxIter
  let pass2 :=
    o3d.registrationIcp meshPts lidarPts pass2MaxCorr pass1.transformation pass2MaxIter
  let aligned := meshPts.map pass2.transformation.point
  let dists := o3d.pointCloudDistance aligned lidarPts
  let pctWithin :=
    if dists = [] then 0 else mean (dists.map fun d => if d ≤ withinM then 1 else 0)
  -- On a failed alignment the inlier residual is about 0, so the distance of the whole
  -- cloud is reported instead.
  let rmseM :=
    if pass2.fitness > fitnessConverged ∧ pass2.inlierRmse > 0 then pass2.inlierRmse
    else if dists ≠ [] then o3d.sqrt (mean (dists.map (· ^ 2)))
    else pass2.inlierRmse
  { transformation := pass2.transformation
    rmseM
    pctWithin
    converged := decide (rmseM < rmseConvergedM ∧ pass2.fitness > fitnessConverged)
    fitness := pass2.fitness }

/-- The residual of a converged alignment is below the threshold. -/
theorem rmseM_lt_of_converged {o3d : Open3d} {meshPts lidarPts : List (Vec3 ℚ)}
    (h : (alignMeshToLidar o3d meshPts lidarPts).converged = true) :
  (alignMeshToLidar o3d meshPts lidarPts).rmseM < rmseConvergedM
  := (of_decide_eq_true h).1

theorem seedTransform_eq_translation {K : Type} [Field K] (meshPts lidarPts : List (Vec3 K)) :
  seedTransform meshPts lidarPts =
    Transform.translation (Transform.centroid lidarPts - Transform.centroid meshPts)
  := by
  ext i j
  fin_cases i <;> fin_cases j <;> rfl

end Sidecar
