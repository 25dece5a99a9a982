import RoofTrace.Sidecar.Mesh
import RoofTrace.Sidecar.Icp
import Mathlib.Algebra.Order.Field.Basic
import Mathlib.Tactic.NormNum

/-!
# The gravity axis along the fusion seed

An ARKit session has a frame of its own, aligned with gravity and with the second axis up,
while the LiDAR cloud is in UTM with the third axis up. The mesh travels from one to the
other through the OBJ file, its parser and the seed of ICP. The seed is rigid and matches
the centroids, but it is a translation: it leaves the up direction of the session where it
is, which in UTM is a horizontal direction.
-/

namespace Capture

open Transform Sidecar

variable {K : Type} [Field K]

/-- The up direction of an ARKit session. -/
def arkitUp : Vec3 K := ![0, 1, 0]

/-- The up direction of UTM. -/
def utmUp : Vec3 K := ![0, 0, 1]

/-- Where an ARKit session lies in UTM: its origin, and its heading as a point of the unit
circle. -/
structure SessionPose (K : Type) [Field K] where
  origin : Vec3 K
  cos : K
  sin : K
  unit : cos * cos + sin * sin = 1

/-- The transform from the frame of a session to UTM. -/
def SessionPose.toUtm (s : SessionPose K) : Transform K :=
  ofParts !![s.cos, 0, s.sin; s.sin, 0, -s.cos; 0, 1, 0] s.origin

/-- The points of UTM expressed in the frame of a session. -/
def SessionPose.express (s : SessionPose K) (ps : List (Vec3 K)) : List (Vec3 K) :=
  ps.map s.toUtm.rigidInverse.point

theorem SessionPose.isRigid_toUtm (s : SessionPose K) :
  IsRigid s.toUtm
  := by
  have hunit := s.unit
  constructor
  · apply isAffine_ofParts
  · rw [toUtm, linear_ofParts]
    ext i j
    fin_cases i <;> fin_cases j <;> simp [Matrix.mul_apply, Fin.sum_univ_three]
    · apply hunit
    · ring
    · ring
    · linear_combination hunit
  · rw [toUtm, linear_ofParts, Matrix.det_fin_three]
    simp
    linear_combination hunit

/-- Sessions are aligned with gravity. -/
theorem SessionPose.toUtm_up (s : SessionPose K) :
  s.toUtm.direction arkitUp = utmUp
  := by
  ext i
  rw [direction_apply]
  fin_cases i <;> simp [toUtm, ofParts, arkitUp, utmUp]

/-- A seed that leaves to ICP a rotation about the vertical only: it is rigid, takes the up
direction of the session to that of UTM, and the centroid of the mesh to that of the
cloud. -/
structure RespectsGravity (seed : Transform K) (meshPts lidarPts : List (Vec3 K)) : Prop where
  rigid : IsRigid seed
  up : seed.direction arkitUp = utmUp
  centroid : seed.point (centroid meshPts) = centroid lidarPts

/-! ### The seed -/

theorem isRigid_seedTransform (meshPts lidarPts : List (Vec3 K)) :
  IsRigid (seedTransform meshPts lidarPts)
  := by
  rw [seedTransform_eq_translation]
  apply isRigid_translation

theorem seedTransform_centroid (meshPts lidarPts : List (Vec3 K)) :
  (seedTransform meshPts lidarPts).point (centroid meshPts) = centroid lidarPts
  := by
  rw [seedTransform_eq_translation, translation_point]
  simp

theorem seedTransform_direction (meshPts lidarPts : List (Vec3 K)) (d : Vec3 K) :
  (seedTransform meshPts lidarPts).direction d = d
  := by
  rw [seedTransform_eq_translation, translation_direction]

theorem arkitUp_ne_utmUp :
  (arkitUp : Vec3 K) ≠ utmUp
  := by
  intro h
  have h1 := congrFun h 1
  simp [arkitUp, utmUp] at h1

theorem not_respectsGravity_seedTransform (meshPts lidarPts : List (Vec3 K)) :
  ¬ RespectsGravity (seedTransform meshPts lidarPts) meshPts lidarPts
  := by
  intro h
  apply arkitUp_ne_utmUp (K := K)
  rw [← h.up, seedTransform_direction]

/-- What the seed leaves for ICP takes the vertical of UTM to a horizontal direction,
whatever the heading. -/
theorem residual_vertical (s : SessionPose K) :
  s.toUtm.direction utmUp = ![s.sin, -s.cos, 0]
  := by
  ext i
  rw [direction_apply]
  fin_cases i <;> simp [SessionPose.toUtm, ofParts, utmUp]

/-- The mesh of a session with the second and third axis exchanged, so that its up
direction is the third. -/
def zUp : Transform K := ofParts !![1, 0, 0; 0, 0, -1; 0, 1, 0] 0

/-- Seeding after the exchange of axes respects gravity. -/
theorem respectsGravity_zUp {meshPts : List (Vec3 K)} (lidarPts : List (Vec3 K)) :
  RespectsGravity (translation (centroid lidarPts - zUp.point (centroid meshPts)) * zUp)
    meshPts lidarPts
  := by
  constructor
  · constructor
    · ext j
      fin_cases j <;>
        simp [Matrix.mul_apply, Fin.sum_univ_four, translation, zUp, ofParts]
    · ext i j
      fin_cases i <;> fin_cases j <;>
        simp [linear, Matrix.mul_apply, Fin.sum_univ_four, Fin.sum_univ_three, translation, zUp,
          ofParts]
    · rw [Matrix.det_fin_three]
      simp [linear, Matrix.mul_apply, Fin.sum_univ_four, translation, zUp, ofParts]
  · ext i
    rw [direction_apply]
    fin_cases i <;>
      simp [Matrix.mul_apply, Fin.sum_univ_four, translation, zUp, ofParts, arkitUp, utmUp]
  · have haffine : IsAffine (zUp : Transform K) := isAffine_ofParts _ _
    rw [mul_point _ haffine, translation_point]
    simp

/-- For every roof, session and cloud: when the OBJ file holds the roof expressed in the
frame of the session, it is parsed to these points, and the seed that ICP is given does not
respect gravity. -/
theorem parsed_seed_not_respectsGravity (float : String → Option K) (lines : List String)
    (roof lidarPts : List (Vec3 K)) (s : SessionPose K)
    (hobj : objVertices float lines = s.express roof) (hfit : roof.length ≤ maxVertices) :
  ∃ meshPts, parseObj float lines = .ok meshPts ∧ meshPts = s.express roof ∧
    ¬ RespectsGravity (seedTransform meshPts lidarPts) meshPts lidarPts
  := by
  have hlength : (objVertices float lines).length ≤ maxVertices := by
    rw [hobj, SessionPose.express, List.length_map]
    apply hfit
  use objVertices float lines, parseObj_eq float lines hlength, hobj
  apply not_respectsGravity_seedTransform

/-- The numbers `0` to `3`, as `float` reads them. -/
def smallFloat : String → Option ℚ
  | "0" => some 0
  | "1" => some 1
  | "2" => some 2
  | "3" => some 3
  | _ => none

/-- A session that starts at the origin of UTM and faces north. -/
def northPose : SessionPose ℚ := ⟨0, 1, 0, by norm_num⟩

/-- A ridge two metres up and one eave point, in UTM. -/
def ridgeRoof : List (Vec3 ℚ) := [![0, 0, 3], ![1, 0, 3], ![0, -1, 2]]

/-- The same roof as the phone exports it. -/
def ridgeObj : List String := ["# exported mesh", "v 0 3 0", "v 1 3 0", "v 0 2 1", "f 1 2 3"]

theorem ridgeObj_holds :
  objVertices smallFloat ridgeObj = northPose.express ridgeRoof
  := by
  decide +kernel

/-- The exported ridge roof is parsed as it was measured, and its seed does not respect gravity. -/
theorem parsed_seed_ridge :
  ∃ meshPts, parseObj smallFloat ridgeObj = .ok meshPts ∧
    meshPts = northPose.express ridgeRoof ∧
    ¬ RespectsGravity (seedTransform meshPts ridgeRoof) meshPts ridgeRoof
  := parsed_seed_not_respectsGravity smallFloat ridgeObj ridgeRoof ridgeRoof northPose
    ridgeObj_holds (by decide)

/-- The seed of the ridge roof keeps the up direction of the session, a horizontal
direction of UTM. -/
theorem ridge_seed_not_respectsGravity :
  parseObj smallFloat ridgeObj = .ok (northPose.express ridgeRoof) ∧
    (seedTransform (northPose.express ridgeRoof) ridgeRoof).direction arkitUp = ![0, 1, 0] ∧
    ¬ RespectsGravity (seedTransform (northPose.express ridgeRoof) ridgeRoof)
      (northPose.express ridgeRoof) ridgeRoof
  := by
  constructor
  · rw [parseObj_eq, ridgeObj_holds]
    rw [ridgeObj_holds]
    decide
  · constructor
    · apply seedTransform_direction
    · apply not_respectsGravity_seedTransform

end Capture
