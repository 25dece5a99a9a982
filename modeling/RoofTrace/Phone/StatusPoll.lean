import Mathlib.Data.Rat.Defs

/-!
# The status of a job on the phone

`ios/RoofTrace/Networking/JobStatus.swift` and what `StatusPollViewModel.swift` makes of it:
the status is read from the text of a response, and its stage among the stages of the
pipeline is the progress that is shown.
-/

namespace Phone

/-- The cases of `Stage`, in the order of the source. -/
inductive Stage where
  | resolvingAddress
  | fetchingImagery
  | fetchingLidar
  | refiningOutline
  | detectingFeatures
  | fittingPlanes
deriving DecidableEq

namespace Stage

def rawValue : Stage → String
  | resolvingAddress => "resolving_address"
  | fetchingImagery => "fetching_imagery"
  | fetchingLidar => "fetching_lidar"
  | refiningOutline => "refining_outline"
  | detectingFeatures => "detecting_features"
  | fittingPlanes => "fitting_planes"

def allCases : List Stage :=
  [resolvingAddress, fetchingImagery, fetchingLidar, refiningOutline, detectingFeatures,
    fittingPlanes]

/-- `Stage(rawValue:)` -/
def ofRawValue (rawValue : String) : Option Stage :=
  allCases.find? (·.rawValue = rawValue)

end Stage

/-- The cases of `JobStatus`; what is shown with a status apart. -/
inductive JobStatus where
  | pending
  | processing (stage : Stage)
  | ready
  | failed (reason : String)
  | unknown (rawValue : String)
deriving DecidableEq

namespace JobStatus

def init (rawValue : String) (lastError : Option String) : JobStatus :=
  if rawValue = "pending" then pending
  else
    match Stage.ofRawValue rawValue with
    | some stage => processing stage
    | none =>
        if rawValue = "ready" then ready
        else if rawValue = "failed" then failed (lastError.getD "Measurement failed")
        else unknown rawValue

def isTerminal : JobStatus → Bool
  | ready => true
  | failed _ => true
  | _ => false

end JobStatus

namespace StatusPollViewModel

/-- The status of the job, if it has been polled. -/
def status (job : Option JobStatus) : JobStatus := job.getD .pending

def activeStageIndex (job : Option JobStatus) : Option ℕ :=
  match status job with
  | .pending => some 0
  | .processing stage => Stage.allCases.findIdx? (· = stage)
  | .ready => some (Stage.allCases.length - 1)
  | .failed _ =>
      match job with
      | some (.failed _) => some (Stage.allCases.length - 1)
      | _ => none
  | .unknown _ => some 0

def completedStageFraction (job : Option JobStatus) : ℚ :=
  match activeStageIndex job with
  | none => 0
  | some activeStageIndex => activeStageIndex / Stage.allCases.length

def progressFraction (job : Option JobStatus) : ℚ :=
  match activeStageIndex job with
  | none =>
      match status job with
      | .ready => 1
      | .failed _ => completedStageFraction job
      | .pending => 0
      | .unknown _ => 0
      | .processing _ => 0
  | some activeIndex => (activeIndex + 1 : ℕ) / Stage.allCases.length

/-- The values that `job` takes while it is polled, from the one it has: `none` is a request
that fails, after which it is asked again. -/
def pollUntilTerminal (job : Option JobStatus) : List (Option JobStatus) → List (Option JobStatus)
  | [] => [job]
  | none :: responses => job :: pollUntilTerminal job responses
  | some response :: responses =>
      job ::
        if response.isTerminal then [some response]
        else pollUntilTerminal (some response) responses

end StatusPollViewModel

end Phone
