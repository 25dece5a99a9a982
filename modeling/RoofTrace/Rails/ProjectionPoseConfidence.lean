import RoofTrace.Rails.Ruby

/-!
# The confidence in the pose of a photo

`app/services/projection_pose_confidence.rb`: a score of the residual of the alignment, for
a photo whose extrinsics are those of a plausible camera.
-/

namespace Rails

namespace ProjectionPoseConfidence

def defaultThreshold : ℚ := 7 / 10

def rmseFloorM : ℚ := 0

def rmseCeilingM : ℚ := 1 / 2

def maxTranslationM : ℚ := 1000

def orthonormalTolerance : ℚ := 5 / 100

variable [Platform]

def threshold : Double := Platform.poseConfidenceMin.getD (.finite defaultThreshold)

/-- `acceptable?` -/
def acceptable (score : ℚ) : Bool := threshold.atMost score

/-- `residual_term` -/
def residualTerm (icpRmseM : Json ℚ) : ℚ :=
  let span := rmseCeilingM - rmseFloorM
  let t := Ruby.clamp ((Ruby.toF icpRmseM - rmseFloorM) / span) 0 1
  1 - 6 / 10 * t

/-- The numbers of an array, when it has numbers only. -/
def numbers : List (Json ℚ) → Option (List ℚ)
  | [] => some []
  | .num x :: rest => (numbers rest).map (x :: ·)
  | _ :: _ => none

def dot (a b : List ℚ) : ℚ := (List.zipWith (· * ·) a b).sum

/-- `rotation_orthonormal?` -/
def rotationOrthonormal (m : List ℚ) : Bool :=
  let column (j : ℕ) : List ℚ := [m.getD j 0, m.getD (4 + j) 0, m.getD (8 + j) 0]
  ([0, 1, 2].all fun j =>
      |Platform.sqrt (dot (column j) (column j)) - 1| ≤ orthonormalTolerance) &&
    [(0, 1), (0, 2), (1, 2)].all fun (i, j) =>
      |dot (column i) (column j)| ≤ orthonormalTolerance

/-- `translation_plausible?` -/
def translationPlausible (m : List ℚ) : Bool :=
  let t := [m.getD 3 0, m.getD 7 0, m.getD 11 0]
  Platform.sqrt (dot t t) ≤ maxTranslationM

/-- `extrinsics_sane?` -/
def extrinsicsSane : Json ℚ → Bool
  | .arr xs =>
      match numbers xs with
      | some m => xs.length = 16 && m.all Ruby.finite && rotationOrthonormal m && translationPlausible m
      | none => false
  | _ => false

def score (icpRmseM extrinsics : Json ℚ) : ℚ :=
  if icpRmseM.isNull then 0
  else if !extrinsicsSane extrinsics then 0
  else Ruby.round4 (Ruby.clamp (residualTerm icpRmseM) 0 1)

end ProjectionPoseConfidence

end Rails
