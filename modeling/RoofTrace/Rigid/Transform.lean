import RoofTrace.Numbers.Literals
import Mathlib.LinearAlgebra.Matrix.NonsingularInverse
import Mathlib.Data.Matrix.Mul
import Mathlib.Data.Matrix.Reflection
import Mathlib.LinearAlgebra.Matrix.Notation
import Mathlib.Tactic.LinearCombination
import Mathlib.Tactic.FinCases

/-!
# Transforms of space

A `Transform` is a 4 × 4 matrix of homogeneous coordinates. It takes a point with the last
coordinate 1 and a direction with the last coordinate 0. A rigid transform is a rotation
followed by a translation, and it has a rigid inverse.
-/

/-- A point or a direction of space. -/
abbrev Vec3 (K : Type) : Type := Fin 3 → K

/-- A transform in homogeneous coordinates. -/
abbrev Transform (K : Type) : Type := Matrix (Fin 4) (Fin 4) K

namespace Transform

section Ring

variable {K : Type} [CommRing K]

/-- The homogeneous coordinates of a point. -/
def homogeneous (p : Vec3 K) : Fin 4 → K := ![p 0, p 1, p 2, 1]

/-- The image of a point. -/
def point (M : Transform K) (p : Vec3 K) : Vec3 K :=
  fun i => Matrix.mulVec M (homogeneous p) i.castSucc

/-- The image of a direction. -/
def direction (M : Transform K) (d : Vec3 K) : Vec3 K :=
  fun i => Matrix.mulVec M ![d 0, d 1, d 2, 0] i.castSucc

/-- The linear part of a transform. -/
def linear (M : Transform K) : Matrix (Fin 3) (Fin 3) K :=
  Matrix.of fun i j => M i.castSucc j.castSucc

/-- The transform with a given linear part and translation. -/
def ofParts (R : Matrix (Fin 3) (Fin 3) K) (t : Vec3 K) : Transform K :=
  !![R 0 0, R 0 1, R 0 2, t 0;
     R 1 0, R 1 1, R 1 2, t 1;
     R 2 0, R 2 1, R 2 2, t 2;
     0, 0, 0, 1]

/-- The translation by a vector. -/
def translation (t : Vec3 K) : Transform K := ofParts 1 t

/-- Whether the last row of a transform is that of an affine one. -/
def IsAffine (M : Transform K) : Prop := M 3 = ![0, 0, 0, 1]

/-- A rotation followed by a translation. -/
structure IsRigid (M : Transform K) : Prop where
  affine : IsAffine M
  orthogonal : M.linear * M.linear.transpose = 1
  proper : M.linear.det = 1

theorem point_apply (M : Transform K) (p : Vec3 K) (i : Fin 3) :
  M.point p i
    = M i.castSucc 0 * p 0 + M i.castSucc 1 * p 1 + M i.castSucc 2 * p 2 + M i.castSucc 3
  := by
  simp [point, homogeneous, Matrix.mulVec, dotProduct, Fin.sum_univ_four]

theorem direction_apply (M : Transform K) (d : Vec3 K) (i : Fin 3) :
  M.direction d i = M i.castSucc 0 * d 0 + M i.castSucc 1 * d 1 + M i.castSucc 2 * d 2
  := by
  simp [direction, Matrix.mulVec, dotProduct, Fin.sum_univ_four]

/-- The image of a point under a product, when the first transform to act is affine. -/
theorem mul_point (M : Transform K) {N : Transform K} (hN : IsAffine N) (p : Vec3 K) :
  point (M * N) p = M.point (N.point p)
  := by
  have hlast : N 3 = ![0, 0, 0, 1] := hN
  ext i
  have h0 : N 3 0 = 0 := by rw [hlast]; rfl
  have h1 : N 3 1 = 0 := by rw [hlast]; rfl
  have h2 : N 3 2 = 0 := by rw [hlast]; rfl
  have h3 : N 3 3 = 1 := by rw [hlast]; rfl
  have hc0 : (0 : Fin 3).castSucc = 0 := rfl
  have hc1 : (1 : Fin 3).castSucc = 1 := rfl
  have hc2 : (2 : Fin 3).castSucc = 2 := rfl
  simp only [point_apply, Matrix.mul_apply, Fin.sum_univ_four, h0, h1, h2, h3, hc0, hc1, hc2]
  ring

/-- The identity leaves every point where it is. -/
@[simp]
theorem one_point (p : Vec3 K) :
  (1 : Transform K).point p = p
  := by
  ext i
  rw [point_apply]
  fin_cases i <;> simp [Matrix.one_apply]

/-- The inverse of a rigid transform: the transposed rotation after the translation back. -/
def rigidInverse (M : Transform K) : Transform K :=
  ofParts M.linear.transpose fun i =>
    -(M 0 i.castSucc * M 0 3 + M 1 i.castSucc * M 1 3 + M 2 i.castSucc * M 2 3)

theorem isAffine_ofParts (R : Matrix (Fin 3) (Fin 3) K) (t : Vec3 K) :
  IsAffine (ofParts R t)
  := rfl

@[simp]
theorem linear_ofParts (R : Matrix (Fin 3) (Fin 3) K) (t : Vec3 K) :
  (ofParts R t).linear = R
  := by
  ext i j
  fin_cases i <;> fin_cases j <;> rfl

/-- The rows of the linear part of a rigid transform are orthonormal. -/
theorem IsRigid.row_dot {M : Transform K} (h : IsRigid M) (i j : Fin 3) :
  M.linear i 0 * M.linear j 0 + M.linear i 1 * M.linear j 1 + M.linear i 2 * M.linear j 2
    = if i = j then 1 else 0
  := by
  have hij := congrFun (congrFun h.orthogonal i) j
  simpa [Matrix.mul_apply, Fin.sum_univ_three, Matrix.one_apply] using hij

/-- A rigid transform undoes its inverse. -/
theorem IsRigid.point_rigidInverse {M : Transform K} (h : IsRigid M) (p : Vec3 K) :
  M.point (M.rigidInverse.point p) = p
  := by
  have hrow : ∀ i j : Fin 3,
      M i.castSucc 0 * M j.castSucc 0 + M i.castSucc 1 * M j.castSucc 1
        + M i.castSucc 2 * M j.castSucc 2 = if i = j then 1 else 0 := by
    intro i j
    simpa [linear] using h.row_dot i j
  ext i
  simp only [point_apply, rigidInverse, ofParts, linear]
  have h0 := hrow i 0
  have h1 := hrow i 1
  have h2 := hrow i 2
  fin_cases i <;> simp at h0 h1 h2 ⊢ <;>
    linear_combination (p 0 - M 0 3) * h0 + (p 1 - M 1 3) * h1 + (p 2 - M 2 3) * h2

theorem isRigid_translation (t : Vec3 K) :
  IsRigid (translation t)
  := by
  constructor
  · apply isAffine_ofParts
  · simp [translation]
  · simp [translation]

theorem translation_point (t p : Vec3 K) :
  (translation t).point p = p + t
  := by
  ext i
  rw [point_apply]
  fin_cases i <;> simp [translation, ofParts]

/-- A translation turns no direction. -/
theorem translation_direction (t d : Vec3 K) :
  (translation t).direction d = d
  := by
  ext i
  rw [direction_apply]
  fin_cases i <;> simp [translation, ofParts]

end Ring

/-! ### Centroids -/

section Field

variable {K : Type} [Field K]

/-- The mean of some points. -/
def centroid (ps : List (Vec3 K)) : Vec3 K :=
  fun i => (ps.map (· i)).sum / ps.length

end Field

end Transform
