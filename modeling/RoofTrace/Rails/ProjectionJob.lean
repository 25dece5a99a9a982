import RoofTrace.Rails.ProjectionOrchestrator

/-!
# The projection job

`app/jobs/projection_job.rb`: an attempt loads the job and runs the orchestrator. An
exception is recorded on the job and raised again, so that the attempt is retried.
-/

namespace Rails

open Effects

namespace ProjectionJob

def maxAttempts : ℕ := 3

/-- `last_error_for` -/
def lastErrorFor (executions : ℕ) (e : Exn) : String :=
  if maxAttempts ≤ executions then
    s!"Projection failed after {maxAttempts} attempts: {e.className}"
  else s!"Projection crashed (attempt {executions}): {e.className}"

variable [FormatAssertion] [Platform]

/-- The body of `perform`, when the job has been loaded. -/
def attempt (executions : ℕ) : Method Job Unit :=
  tryCatch ProjectionOrchestrator.call fun e => do
    Job.updateLastError (lastErrorFor executions e)
    throw e

/-- `perform`, as the attempt of the number `executions`. When the job is not loaded there
is nothing to record. -/
def perform (executions : ℕ) : Prog application (Except Exn Unit) :=
  .perform (.findJob executions) fun
    | .error e => .pure (.error e)
    | .ok row => (attempt executions).outcome (Job.ofRow row)

/-- A delivery of the job: `perform` is retried on every exception. -/
def delivery : Prog application (Except Exn Unit) :=
  Prog.retrying perform 1 (maxAttempts - 1)

end ProjectionJob

end Rails
