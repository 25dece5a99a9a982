import RoofTrace.Rails.Database

/-!
# The thread of the feature detection

`app/services/vlm_runner.rb`: the detection runs next to the geometric stages. What it
comes to is known when it is joined; a failure yields no features and a warning. The
warnings of a run are kept here.
-/

namespace Rails

open Effects

structure VlmRunner where
  warnings : List (Json ℚ)
  /-- Whether there is a thread that has not been joined. -/
  thread : Bool

namespace VlmRunner

def vlmJoinTimeoutSeconds : ℕ := 60

def new : VlmRunner where
  warnings := []
  thread := false

/-- `add_warning` -/
def addWarning (message : Json ℚ) : Method VlmRunner Unit :=
  modify fun vlm => { vlm with warnings := vlm.warnings ++ [message] }

def start : Method VlmRunner Unit := do
  perform .startVlm
  modify fun vlm => { vlm with thread := true }

def join : Method VlmRunner (List (Json ℚ)) := do
  modify fun vlm => { vlm with thread := false }
  match ← perform .joinVlm with
  | .timedOut =>
      addWarning (.str s!"vlm_failed: detection timed out after {vlmJoinTimeoutSeconds}s")
      return []
  | .error message =>
      addWarning (.str s!"vlm_failed: {message}")
      return []
  | .features features => return Ruby.array features

def cleanup : Method VlmRunner Unit := do
  let vlm ← get
  modify fun vlm => { vlm with thread := false }
  if vlm.thread then perform .cleanupVlm else return ()

end VlmRunner

end Rails
