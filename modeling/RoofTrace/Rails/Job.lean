import RoofTrace.Rails.Database

/-!
# The job

`app/models/job.rb`: a job in memory is a copy of its row. The guard of `advance_to!` looks
at the copy, and an UPDATE writes the columns in which the copy differs from the row as it
was last read or written; when it raises, the copy keeps what was assigned to it.
-/

namespace Rails

open Effects

/-- `terminal?` -/
def Status.terminal : Status → Bool
  | .ready => true
  | .failed => true
  | _ => false

/-- A job in memory: its row as last read or written, and the attributes assigned since. -/
structure Job where
  row : JobRow
  status : Status
  lastError : Option String

namespace Job

def ofRow (row : JobRow) : Job where
  row := row
  status := row.status
  lastError := row.lastError

def changes (job : Job) : JobChanges where
  status := if job.status = job.row.status then none else some job.status
  lastError := if job.lastError = job.row.lastError then none else some job.lastError

/-- The job after an UPDATE of what has changed. -/
def saved (job : Job) : Job := { job with row := job.row.apply job.changes }

/-- `save!` -/
def save : Method Job Unit := do
  let job ← get
  if job.changes.isEmpty then return ()
  else
    perform (.updateJob job.changes)
    set job.saved

/-- `broadcast_status` -/
def broadcastStatus : Method Job Unit := do
  let job ← get
  perform (.broadcastStatus job.status)

/-- The guard and the UPDATE of `advance_to!`. -/
def advanceBy {α : Type} (status : Status) (save : Method Job α) : Method Job α := do
  let job ← get
  if job.status.terminal then throw (.standardError "ArgumentError")
  else
    modify fun job => { job with status := status }
    save

/-- `advance_to!`, with its broadcast. -/
def advanceTo (status : Status) : Method Job Unit := do
  advanceBy status save
  broadcastStatus

/-- `fail_with!` -/
def failWith (message : String) : Method Job Unit := do
  modify fun job => { job with status := .failed, lastError := some message }
  save
  broadcastStatus

/-- `reset_for_rerun!` -/
def resetForRerun : Method Job Unit := do
  modify fun job => { job with status := .pending }
  save

/-- `update!(last_error: message)` -/
def updateLastError (message : String) : Method Job Unit := do
  modify fun job => { job with lastError := some message }
  save

@[simp]
theorem saved_status (job : Job) :
  job.saved.status = job.status
  := rfl

theorem apply_changes (job : Job) :
  job.row.apply job.changes = { job.row with status := job.status, lastError := job.lastError }
  := by
  simp only [JobRow.apply, changes]
  congr 1
  · split_ifs with h
    · exact h.symm
    · rfl
  · split_ifs with h
    · exact h.symm
    · rfl

@[simp]
theorem saved_row (job : Job) :
  job.saved.row = { job.row with status := job.status, lastError := job.lastError }
  := apply_changes job

/-- Nothing is written when nothing has changed. -/
theorem row_of_changes_isEmpty {job : Job} (h : job.changes.isEmpty = true) :
  job.row = { job.row with status := job.status, lastError := job.lastError }
  := by
  simp only [JobChanges.isEmpty, changes, Bool.and_eq_true, Option.isNone_iff_eq_none,
    ite_eq_left_iff, reduceCtorEq, imp_false, not_not] at h
  rw [h.1, h.2]

/-- The status that is written is that of the copy. -/
theorem eq_of_changes_status {job : Job} {status : Status}
    (h : job.changes.status = some status) :
  status = job.status
  := by
  simp only [changes] at h
  split at h
  · cases h
  · exact (Option.some.inj h).symm

/-- A status that the row does not have is written. -/
theorem changes_status_of_ne {job : Job} (h : job.status ≠ job.row.status) :
  job.changes.status = some job.status
  := by
  simp only [changes, if_neg h]

theorem changes_isEmpty_of_ne {job : Job} (h : job.status ≠ job.row.status) :
  job.changes.isEmpty = false
  := by
  rw [JobChanges.isEmpty, changes_status_of_ne h]
  rfl

/-! ### The idempotency cache -/

/-- `IDEMPOTENCY_WINDOW`, in microseconds. -/
def idempotencyWindow : ℕ := 60 * 60 * 1000000

/-- `MeasurementIdempotencyCache#fingerprint` -/
def fingerprint [Platform] (job : JobRow) : String :=
  let address := job.address
  let selection := toString job.polygonSelection
  Platform.hexdigest s!"{address.length}:{address}|{selection.length}:{selection}"

/-- `MeasurementIdempotencyCache#cached_measurement` -/
def cachedMeasurement [Platform] : Method Job (Option Measurement) := do
  match ← perform (.latestMeasurement .idempotencyCache) with
  | none => return none
  | some recent =>
      let now ← perform .now
      if recent.generatedAt + idempotencyWindow < now then return none
      else
        let job ← get
        if recent.sourceFingerprint = some (fingerprint job.row) then
          if job.status ≠ .ready ∧ job.status.terminal = false then advanceTo .ready
          return some recent
        else return none

end Job

end Rails
