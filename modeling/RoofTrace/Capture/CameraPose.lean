import RoofTrace.Json.Value
import RoofTrace.Rigid.Transform
import RoofTrace.Sidecar.Pipeline
import Mathlib.Algebra.Order.Field.Basic
import Mathlib.Tactic.NormNum

/-!
# The camera pose from the phone to the projection

The pose of a capture passes through four hands. The phone takes the view matrix and the
intrinsics from ARKit and writes them row by row into the session manifest; Rails copies
the two arrays into columns of the capture and from there into the request of the
projection; the sidecar reads them as matrices and projects points with them.

The row and column orders agree along the way, and so do the intrinsics. The frames do
not: ARKit's camera looks down its third axis backwards, with the second axis up, while the
projection takes a camera that looks down the third axis forwards, with the second axis
down, and nothing turns one into the other.
-/

namespace Capture

open Transform Sidecar

variable {K : Type} [Field K]

/-! ### The phone -/

/-- A `simd` matrix: `columns c r` is the entry of column `c` and row `r`. -/
structure Simd (n : ℕ) (K : Type) where
  columns : Fin n → Fin n → K

/-- The `simd` matrix with the entries of a matrix. -/
def Simd.ofMatrix {n : ℕ} (M : Matrix (Fin n) (Fin n) K) : Simd n K := ⟨fun c r => M r c⟩

namespace MatrixSerializer

/-- `rowMajor` of a 4 × 4 matrix. -/
def rowMajor4 (m : Simd 4 K) : List K :=
  let c := m.columns
  (List.finRange 4).flatMap fun i => [c 0 i, c 1 i, c 2 i, c 3 i]

/-- `rowMajor` of a 3 × 3 matrix. -/
def rowMajor3 (m : Simd 3 K) : List K :=
  let c := m.columns
  (List.finRange 3).flatMap fun i => [c 0 i, c 1 i, c 2 i]

end MatrixSerializer

/-- A rotation by 90 degrees about the third axis, in one sense or the other. -/
def quarterTurn (clockwise : Bool) : Transform K :=
  let s : K := if clockwise then 1 else -1
  ofParts !![0, s, 0; -s, 0, 0; 0, 0, 1] 0

/-- The camera of an ARKit frame. Its transform is the pose of the native camera, and its
intrinsics are in pixels of the captured image. In which sense the portrait view matrix is
turned is left open. -/
structure ARCamera (K : Type) [Field K] where
  transform : Transform K
  rigid : IsRigid transform
  intrinsics : Matrix (Fin 3) (Fin 3) K
  portraitClockwise : Bool

/-- `viewMatrix(for: .portrait)` -/
def ARCamera.viewMatrixPortrait (c : ARCamera K) : Transform K :=
  quarterTurn c.portraitClockwise * c.transform.rigidInverse

/-- The two matrices of a `CaptureFrame`. -/
structure CaptureFrame (K : Type) where
  worldToCamera : Simd 4 K
  intrinsics : Simd 3 K

/-- `captureFrame` -/
def captureFrame (camera : ARCamera K) : CaptureFrame K where
  worldToCamera := .ofMatrix camera.viewMatrixPortrait
  intrinsics := .ofMatrix camera.intrinsics

/-- The `camera_pose` member of a manifest capture. -/
def cameraPose (frame : CaptureFrame K) : Json K :=
  .obj
    [("intrinsics_row_major",
       .arr ((MatrixSerializer.rowMajor3 frame.intrinsics).map .num)),
     ("world_to_camera_row_major",
       .arr ((MatrixSerializer.rowMajor4 frame.worldToCamera).map .num))]

/-- The entry of a capture in the session manifest. -/
def manifestCapture (captureIndex : K) (promptLabel : String) (frame : CaptureFrame K) : Json K :=
  .obj
    [("capture_index", .num captureIndex),
     ("prompt_label", .str promptLabel),
     ("camera_pose", cameraPose frame)]

/-! ### Rails -/

/-- The pose columns of a capture row. -/
structure CapturePoseColumns (K : Type) where
  cameraIntrinsics : Json K
  cameraExtrinsics : Json K

/-- The pose columns that `build_captures` copies from an entry of the manifest. -/
def buildCapturePose (capture : Json K) : CapturePoseColumns K where
  cameraIntrinsics := (capture.get "camera_pose").get "intrinsics_row_major"
  cameraExtrinsics := (capture.get "camera_pose").get "world_to_camera_row_major"

/-- The `camera_pose` of a projection request. -/
def requestCameraPose (capture : CapturePoseColumns K) : Json K :=
  .obj
    [("intrinsics", capture.cameraIntrinsics), ("extrinsics", capture.cameraExtrinsics)]

/-! ### The sidecar -/

/-- `list[float]` of a request. -/
def floats : Json K → Except Exception (List K)
  | .arr js => js.mapM fun j =>
      match j with
      | .num x => return x
      | _ => throw .validationError
  | _ => throw .validationError

/-- `_as_4x4` -/
def as4x4 (flat : List K) : Except Exception (Matrix (Fin 4) (Fin 4) K) :=
  if flat.length ≠ 16 then
    throw (.valueError s!"expected a 16-element row-major 4x4, got {flat.length}")
  else
    return Matrix.of fun i j => flat.getD (4 * i + j) 0

/-- `_as_3x3` -/
def as3x3 (flat : List K) : Except Exception (Matrix (Fin 3) (Fin 3) K) :=
  if flat.length ≠ 9 then
    throw (.valueError s!"expected a 9-element row-major 3x3, got {flat.length}")
  else
    return Matrix.of fun i j => flat.getD (3 * i + j) 0

section Projection

variable [LinearOrder K]

/-- `_MIN_DEPTH_M` -/
def minDepthM : K := 1 / 10 ^ 6

/-- The pixel of a point and whether it is in front of the camera. -/
def projectPoint (intrinsics : Matrix (Fin 3) (Fin 3) K) (M : Transform K) (p : Vec3 K) :
    (K × K) × Bool :=
  let cam := M.point p
  let z := cam 2
  let inFront := decide (z > minDepthM)
  let safeZ := if |z| < minDepthM then minDepthM else z
  let fx := intrinsics 0 0
  let fy := intrinsics 1 1
  let cx := intrinsics 0 2
  let cy := intrinsics 1 2
  let skew := intrinsics 0 1
  let u := fx * cam 0 / safeZ + skew * cam 1 / safeZ + cx
  let v := fy * cam 1 / safeZ + cy
  ((u, v), inFront)

/-- `project_points` -/
def projectPoints (points : List (Vec3 K)) (intrinsics extrinsics : List K) :
    Except Exception (List ((K × K) × Bool)) := do
  let intrinsics ← as3x3 intrinsics
  let M ← as4x4 extrinsics
  return points.map (projectPoint intrinsics M)

/-- What the sidecar projects some points to, from the `camera_pose` of its request. -/
def projectRequest (pose : Json K) (points : List (Vec3 K)) :
    Except Exception (List ((K × K) × Bool)) := do
  let intrinsics ← floats (pose.get "intrinsics")
  let extrinsics ← floats (pose.get "extrinsics")
  projectPoints points intrinsics extrinsics

/-- The projection of points with the pose of a capture taken by `camera`, after the
manifest, the capture row and the request. -/
def projectCaptured (camera : ARCamera K) (captureIndex : K) (promptLabel : String)
    (points : List (Vec3 K)) : Except Exception (List ((K × K) × Bool)) :=
  let capture := manifestCapture captureIndex promptLabel (captureFrame camera)
  projectRequest (requestCameraPose (buildCapturePose capture)) points

end Projection

/-! ### ARKit's camera model -/

/-- The coordinates of a world point in the frame of the native camera. -/
def ARCamera.coordinates (c : ARCamera K) (p : Vec3 K) : Vec3 K :=
  c.transform.rigidInverse.point p

/-- Whether a world point lies in front of the camera, which looks down its third axis
backwards. -/
def ARCamera.InFront [LinearOrder K] (c : ARCamera K) (p : Vec3 K) : Prop :=
  c.coordinates p 2 < 0

/-- The pixel of a world point in the captured image, whose first axis points right and
second axis down. -/
def ARCamera.pixel (c : ARCamera K) (p : Vec3 K) : K × K :=
  let q := c.coordinates p
  let h := c.intrinsics.mulVec ![q 0, -q 1, -q 2]
  (h 0 / h 2, h 1 / h 2)

/-- The turn to portrait leaves the third coordinate as it is. -/
theorem viewMatrixPortrait_depth (c : ARCamera K) (p : Vec3 K) :
  c.viewMatrixPortrait.point p 2 = c.coordinates p 2
  := by
  have haffine : IsAffine c.transform.rigidInverse := isAffine_ofParts _ _
  rw [ARCamera.viewMatrixPortrait, mul_point _ haffine, point_apply]
  simp [quarterTurn, ofParts, ARCamera.coordinates]

/-! ### Row and column orders -/

theorem as4x4_rowMajor4 (M : Matrix (Fin 4) (Fin 4) K) :
  as4x4 (MatrixSerializer.rowMajor4 (.ofMatrix M)) = .ok M
  := by
  change Except.ok _ = Except.ok _
  congr 1
  ext i j
  fin_cases i <;> fin_cases j <;> rfl

theorem as3x3_rowMajor3 (M : Matrix (Fin 3) (Fin 3) K) :
  as3x3 (MatrixSerializer.rowMajor3 (.ofMatrix M)) = .ok M
  := by
  change Except.ok _ = Except.ok _
  congr 1
  ext i j
  fin_cases i <;> fin_cases j <;> rfl

omit [Field K] in
theorem floats_num (xs : List K) :
  floats (.arr (xs.map .num)) = .ok xs
  := by
  change (xs.map Json.num).mapM _ = Except.ok xs
  induction xs with
  | nil => rfl
  | cons x xs ih =>
      rw [List.map_cons, List.mapM_cons, ih]
      rfl

section Projected

variable [LinearOrder K]

/-- The sidecar projects with the very matrices that the phone took from ARKit. -/
theorem projectCaptured_eq (camera : ARCamera K) (captureIndex : K) (promptLabel : String)
    (points : List (Vec3 K)) :
  projectCaptured camera captureIndex promptLabel points
    = .ok (points.map (projectPoint camera.intrinsics camera.viewMatrixPortrait))
  := by
  have hintrinsics : (requestCameraPose (buildCapturePose
      (manifestCapture captureIndex promptLabel (captureFrame camera)))).get "intrinsics"
      = .arr ((MatrixSerializer.rowMajor3 (.ofMatrix camera.intrinsics)).map .num) := rfl
  have hextrinsics : (requestCameraPose (buildCapturePose
      (manifestCapture captureIndex promptLabel (captureFrame camera)))).get "extrinsics"
      = .arr ((MatrixSerializer.rowMajor4 (.ofMatrix camera.viewMatrixPortrait)).map .num) := rfl
  simp only [projectCaptured, projectRequest, hintrinsics, hextrinsics, floats_num,
    projectPoints, bind, Except.bind, as3x3_rowMajor3, as4x4_rowMajor4]
  rfl

variable [IsStrictOrderedRing K]

theorem minDepthM_pos :
  0 < (minDepthM : K)
  := by
  rw [minDepthM]
  positivity

/-- A point in front of the camera is projected as a point behind it. -/
theorem projectPoint_viewMatrixPortrait (c : ARCamera K) {p : Vec3 K} (h : c.InFront p) :
  (projectPoint c.intrinsics c.viewMatrixPortrait p).2 = false
  := by
  have hdepth : c.viewMatrixPortrait.point p 2 < 0 := by
    rw [viewMatrixPortrait_depth]
    apply h
  apply decide_eq_false
  have hmin := minDepthM_pos (K := K)
  apply not_lt.mpr
  apply hdepth.le.trans hmin.le

/-- The turn from ARKit's camera frame to that of the projection: the second and third
axis are reversed. -/
def toOpenCv : Transform K := ofParts !![1, 0, 0; 0, -1, 0; 0, 0, -1] 0

/-- With the native view matrix turned to the frame of the projection, a point at a depth
the projection accepts is projected to the pixel of ARKit, when the intrinsics are those of
a pinhole camera. -/
theorem projectPoint_toOpenCv (c : ARCamera K) {p : Vec3 K}
    (hlast : c.intrinsics 2 = ![0, 0, 1]) (hfocal : c.intrinsics 1 0 = 0)
    (hdepth : c.coordinates p 2 < -minDepthM) :
  projectPoint c.intrinsics (toOpenCv * c.transform.rigidInverse) p = (c.pixel p, true)
  := by
  have haffine : IsAffine c.transform.rigidInverse := isAffine_ofParts _ _
  have hcoords : ∀ i, point (toOpenCv * c.transform.rigidInverse) p i
      = ![c.coordinates p 0, -c.coordinates p 1, -c.coordinates p 2] i := by
    intro i
    rw [mul_point _ haffine, point_apply]
    fin_cases i <;> simp [toOpenCv, ofParts, ARCamera.coordinates]
  have hz : minDepthM < -c.coordinates p 2 := by linarith
  have hpos := minDepthM_pos (K := K)
  have hsafe : ¬ |(-c.coordinates p 2)| < minDepthM := by
    rw [abs_of_pos (hpos.trans hz)]
    apply not_lt.mpr hz.le
  have h20 : c.intrinsics 2 0 = 0 := by rw [hlast]; rfl
  have h21 : c.intrinsics 2 1 = 0 := by rw [hlast]; rfl
  have h22 : c.intrinsics 2 2 = 1 := by rw [hlast]; rfl
  have hne : c.coordinates p 2 ≠ 0 := by
    intro h0
    rw [h0, neg_zero] at hz
    apply absurd hz hpos.not_gt
  simp only [projectPoint, hcoords, ARCamera.pixel, Matrix.mulVec, dotProduct, Fin.sum_univ_three]
  simp only [Matrix.cons_val_zero, Matrix.cons_val_one, Matrix.cons_val, h20, h21, h22, hfocal,
    hsafe, if_false, hz, decide_true, zero_mul, zero_add, one_mul]
  congr 2
  · field_simp
    ring
  · field_simp
    ring

/-- The pose convention holds of a camera and a point when the sidecar projects the point
to ARKit's pixel and in front of the camera. -/
def PoseAgrees (camera : ARCamera K) (captureIndex : K) (promptLabel : String)
    (p : Vec3 K) : Prop :=
  projectCaptured camera captureIndex promptLabel [p] = .ok [(camera.pixel p, true)]

/-- The sidecar takes a point that the camera sees for one behind the camera. -/
theorem projectCaptured_behind (camera : ARCamera K) (captureIndex : K) (promptLabel : String)
    {p : Vec3 K} (h : camera.InFront p) :
  ∃ uv, projectCaptured camera captureIndex promptLabel [p] = .ok [(uv, false)]
  := by
  use (projectPoint camera.intrinsics camera.viewMatrixPortrait p).1
  rw [projectCaptured_eq, List.map_singleton, ← projectPoint_viewMatrixPortrait camera h]

/-- For every camera and every point in front of it, the pose convention fails: the sidecar takes
the point to be behind the camera. -/
theorem not_poseAgrees (camera : ARCamera K) (captureIndex : K) (promptLabel : String)
    (p : Vec3 K) (h : camera.InFront p) :
  ¬ PoseAgrees camera captureIndex promptLabel p
  := by
  intro hagrees
  obtain ⟨uv, hbehind⟩ := projectCaptured_behind camera captureIndex promptLabel h
  rw [PoseAgrees, hbehind] at hagrees
  have hflag := congrArg Prod.snd (List.cons.inj (Except.ok.inj hagrees)).1
  cases hflag

end Projected

/-- A camera at the origin of its session, with a focal length of 100 pixels. -/
def originCamera : ARCamera ℚ where
  transform := translation 0
  rigid := isRigid_translation 0
  intrinsics := !![100, 0, 50; 0, 100, 50; 0, 0, 1]
  portraitClockwise := true

/-- A point two metres ahead of that camera, to its right. -/
def aheadPoint : Vec3 ℚ := ![1, 0, -2]

theorem originCamera_inFront :
  originCamera.InFront aheadPoint
  := by
  rw [ARCamera.InFront]
  decide +kernel

/-- The camera at the origin and the projection disagree about the point ahead of it. -/
theorem not_poseAgrees_originCamera :
  ¬ PoseAgrees originCamera 0 "front" aheadPoint
  := not_poseAgrees originCamera 0 "front" aheadPoint originCamera_inFront

/-- ARKit sees the point at the pixel (100, 50); the projection puts it at (50, 100) and
behind the camera. -/
theorem projectCaptured_originCamera :
  originCamera.InFront aheadPoint ∧ originCamera.pixel aheadPoint = (100, 50) ∧
    projectCaptured originCamera 0 "front" [aheadPoint] = .ok [((50, 100), false)] ∧
    ¬ PoseAgrees originCamera 0 "front" aheadPoint
  := by
  have hprojected : projectCaptured originCamera 0 "front" [aheadPoint]
      = .ok [((50, 100), false)] := by
    rw [projectCaptured_eq]
    decide +kernel
  refine ⟨originCamera_inFront, by decide +kernel, hprojected, ?_⟩
  intro hagrees
  rw [PoseAgrees, hprojected] at hagrees
  have hflag := congrArg Prod.snd (List.cons.inj (Except.ok.inj hagrees)).1
  cases hflag

end Capture
