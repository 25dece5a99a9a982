import RoofTrace.Capture.CaptureViewModel

/-!
# The location provider

`Services/GPSProvider.swift`: one stored continuation and one stored timeout task serve every call
of `acquireOriginFix`. A task whose sleep is cancelled goes on at once, and does what it does when
the time is up.
-/

namespace Phone

/-- What is used of a location. -/
structure CLLocation where
  latitude : ℚ
  longitude : ℚ
  ellipsoidalAltitude : ℚ
  horizontalAccuracy : ℚ
  verticalAccuracy : ℚ
  timestamp : String

/-- A location is invalid when its horizontal accuracy is negative. -/
def CLLocation.IsValid (loc : CLLocation) : Prop := 0 ≤ loc.horizontalAccuracy

/-- A call of `acquireOriginFix`, with its number. -/
structure AcquireCall where
  number : ℕ
  targetAccuracyM : ℚ

/-- A timeout task that has not ended, of a call. -/
structure TimeoutTask where
  call : AcquireCall
  cancelled : Bool

/-- What resumes a call. -/
inductive ResumeCause where
  | update
  | timeout (number : ℕ)
deriving DecidableEq

structure Resumption where
  call : AcquireCall
  cause : ResumeCause
  fix : Option LocationFix

/-- A provider, with the calls that there have been, the timeout tasks that have not ended and the
resumptions of calls. -/
structure GPSProvider where
  best : Option CLLocation := none
  continuation : Option AcquireCall := none
  targetAccuracy : ℚ := 10
  /-- The number of the call that the stored task is of. -/
  timeoutTask : Option ℕ := none
  /-- Whether the manager updates locations. -/
  updating : Bool := false
  calls : List AcquireCall := []
  timers : List TimeoutTask := []
  resumptions : List Resumption := []

namespace GPSProvider

def fix (loc : CLLocation) (degraded : Bool) : LocationFix where
  latitude := loc.latitude
  longitude := loc.longitude
  altitudeM := loc.ellipsoidalAltitude
  horizontalAccuracyM := loc.horizontalAccuracy
  verticalAccuracyM := loc.verticalAccuracy
  timestamp := loc.timestamp
  degraded := degraded

variable (gps : GPSProvider)

def latestFix : Option LocationFix :=
  gps.best.map fun loc => fix loc (loc.horizontalAccuracy > gps.targetAccuracy)

/-- `acquireOriginFix`, up to the continuation. -/
def acquireOriginFix (targetAccuracyM : ℚ) : GPSProvider :=
  let call : AcquireCall := ⟨gps.calls.length, targetAccuracyM⟩
  { gps with
    targetAccuracy := targetAccuracyM
    updating := true
    continuation := some call
    timeoutTask := some call.number
    calls := gps.calls ++ [call]
    timers := gps.timers ++ [⟨call, false⟩] }

/-- The rest of `acquireOriginFix`. -/
def stopUpdatingLocation : GPSProvider := { gps with updating := false }

/-- The timeout task of a call is cancelled. -/
def cancel (number : ℕ) : List TimeoutTask → List TimeoutTask :=
  List.map fun timer =>
    if timer.call.number = number then { timer with cancelled := true } else timer

def resumeOnce (cause : ResumeCause) (fix : Option LocationFix) : GPSProvider :=
  match gps.continuation with
  | none => gps
  | some call =>
      { gps with
        continuation := none
        timers := gps.timeoutTask.elim gps.timers (cancel · gps.timers)
        timeoutTask := none
        resumptions := gps.resumptions ++ [⟨call, cause, fix⟩] }

/-- The best location after an update. -/
def better (loc : CLLocation) : CLLocation :=
  match gps.best with
  | none => loc
  | some best => if loc.horizontalAccuracy < best.horizontalAccuracy then loc else best

def didUpdateLocations (locations : List CLLocation) : GPSProvider :=
  match locations.getLast? with
  | none => gps
  | some loc =>
      let gps := { gps with best := some (gps.better loc) }
      if loc.horizontalAccuracy ≤ gps.targetAccuracy then
        gps.resumeOnce .update (some (fix loc false))
      else gps

/-- A timeout task goes on, when its time is up or it has been cancelled. -/
def timeout (place : ℕ) : GPSProvider :=
  match gps.timers[place]? with
  | none => gps
  | some timer =>
      let degradedFix := gps.best.map fun loc =>
        fix loc (loc.horizontalAccuracy > timer.call.targetAccuracyM)
      { gps with timers := gps.timers.eraseIdx place }.resumeOnce
        (.timeout timer.call.number) degradedFix

end GPSProvider

end Phone
