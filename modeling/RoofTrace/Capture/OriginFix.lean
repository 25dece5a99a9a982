import RoofTrace.Capture.GPSProvider
import Mathlib.Data.List.Basic
import Mathlib.Data.List.Perm.Basic
import Mathlib.Algebra.Order.Field.Rat

/-!
# The origin fix

The setup check of the view model starts the AR session and, when the probe succeeds, a task that
acquires the origin fix from the location provider. The guard of the check is tested before the
probe is awaited, and the provider trusts every update: the protocol holds as long as the check is
not fired again while a probe is awaited and no update is invalid.
-/

namespace Phone

/-- A view model and its location provider, with how many AR sessions have been started and how
many origin tasks have not begun. -/
structure OriginFix where
  model : CaptureViewModel
  gps : GPSProvider := {}
  sessions : ℕ := 0
  tasks : ℕ := 0
  /-- The fixes with which `acquireOriginFix` has been resumed and has not gone on. -/
  resumed : List (Option LocationFix) := []

namespace Suspension

def isProbe : Suspension → Bool
  | probe => true
  | _ => false

def isOrigin : Suspension → Bool
  | acquireOrigin => true
  | _ => false

end Suspension

namespace OriginFix

inductive Event where
  | runSetupCheck
  /-- The probe of the setup check at a place completes. -/
  | probed (place : ℕ) (ok : Bool)
  /-- An origin task begins. -/
  | taskBegins
  | didUpdateLocations (locations : List CLLocation)
  /-- The timeout task at a place goes on. -/
  | timeout (place : ℕ)
  /-- The origin task of the suspension at a place goes on with the fix at a place. -/
  | returned (place i : ℕ)

variable (s : OriginFix)

/-- The provider goes on, and what it resumes is to go on. -/
def provide (gps : GPSProvider) : OriginFix :=
  { s with
    gps := gps
    resumed := s.resumed ++ (gps.resumptions.drop s.gps.resumptions.length).map (·.fix) }

def step : Event → OriginFix
  | .runSetupCheck =>
      { s with
        model := s.model.runSetupCheck
        sessions :=
          if s.model.state = .setupCheck ∧ s.model.hasSensors then s.sessions + 1
          else s.sessions }
  | .probed place ok =>
      match s.model.suspended[place]? with
      | some .probe =>
          { s with
            model := { s.model with suspended := s.model.suspended.eraseIdx place }.probed ok
            tasks := if ok then s.tasks + 1 else s.tasks }
      | _ => s
  | .taskBegins =>
      match s.tasks with
      | 0 => s
      | tasks + 1 => { s with tasks := tasks, gps := s.gps.acquireOriginFix 10 }
  | .didUpdateLocations locations => s.provide (s.gps.didUpdateLocations locations)
  | .timeout place => s.provide (s.gps.timeout place)
  | .returned place i =>
      match s.model.suspended[place]?, s.resumed[i]? with
      | some .acquireOrigin, some fix =>
          { s with
            model :=
              { s.model with suspended := s.model.suspended.eraseIdx place }.originAcquired fix
            gps := s.gps.stopUpdatingLocation
            resumed := s.resumed.eraseIdx i }
      | _, _ => s

def run (s : OriginFix) : List Event → OriginFix
  | [] => s
  | event :: events => (s.step event).run events

/-- Before the first event. -/
def start (hasSensors : Bool) (backendURL jobID token sessionID startedAt : String) :
    OriginFix where
  model := .init hasSensors backendURL jobID token sessionID startedAt

/-! ### The protocol -/

end OriginFix

namespace Resumption

variable (r : Resumption)

/-- A call is resumed by a location update or by its own timeout task. -/
def HasOwnCause : Prop := r.cause = .update ∨ r.cause = .timeout r.call.number

/-- A fix is not that of an invalid update, and is within the target when it is not degraded. -/
def HasSoundFix : Prop :=
  ∀ fix ∈ r.fix, 0 ≤ fix.horizontalAccuracyM ∧
    (fix.degraded = false → fix.horizontalAccuracyM ≤ r.call.targetAccuracyM)

end Resumption

namespace GPSProvider

/-- A call has been resumed once, or it has not been resumed and waits, with its timeout task. -/
def ResumesOnce (gps : GPSProvider) (call : AcquireCall) : Prop :=
  gps.resumptions.countP (·.call.number = call.number) = 1 ∨
    gps.resumptions.countP (·.call.number = call.number) = 0 ∧
      gps.continuation = some call ∧ ⟨call, false⟩ ∈ gps.timers

end GPSProvider

namespace OriginFix

/-- What the protocol promises of a state. -/
structure Sound (s : OriginFix) : Prop where
  sessions : s.sessions ≤ 1
  acquisitions : s.model.suspended.countP Suspension.isOrigin ≤ 1
  resumes : ∀ call ∈ s.gps.calls, s.gps.ResumesOnce call
  causes : ∀ r ∈ s.gps.resumptions, r.HasOwnCause
  fixes : ∀ r ∈ s.gps.resumptions, r.HasSoundFix
  latest : ∀ fix ∈ s.gps.latestFix, 0 ≤ fix.horizontalAccuracyM

/-- The check is not fired while a probe is awaited, and the location that is used of an update is
valid. -/
def Calm (s : OriginFix) : Event → Prop
  | .runSetupCheck => s.model.suspended.countP Suspension.isProbe = 0
  | .didUpdateLocations locations => ∀ loc ∈ locations.getLast?, loc.IsValid
  | _ => True

def CalmRun (s : OriginFix) : List Event → Prop
  | [] => True
  | event :: events => s.Calm event ∧ (s.step event).CalmRun events

end OriginFix

/-! ### One acquisition -/

namespace GPSProvider

/-- A provider of which at most one fix has been asked for. -/
inductive Sequential (gps : GPSProvider) : Prop where
  | idle : gps.calls = [] → gps.continuation = none → gps.timers = [] → gps.resumptions = [] →
      Sequential gps
  | awaiting (call : AcquireCall) : gps.calls = [call] → gps.continuation = some call →
      gps.targetAccuracy = call.targetAccuracyM → gps.timers = [⟨call, false⟩] →
      gps.resumptions = [] → Sequential gps
  | resumed (r : Resumption) : gps.calls = [r.call] → gps.continuation = none →
      gps.resumptions = [r] → r.HasOwnCause → r.HasSoundFix → Sequential gps

/-- The best location is valid. -/
def BestValid (gps : GPSProvider) : Prop := ∀ loc ∈ gps.best, loc.IsValid

section

variable {gps : GPSProvider}

theorem resumeOnce_of_none (gps : GPSProvider) (h : gps.continuation = none) (cause : ResumeCause)
    (fix : Option LocationFix) :
  gps.resumeOnce cause fix = gps
  := by
  rw [resumeOnce, h]

@[simp] theorem resumeOnce_calls (cause : ResumeCause) (fix : Option LocationFix) :
  (gps.resumeOnce cause fix).calls = gps.calls
  := by
  rw [resumeOnce]
  split <;> rfl

@[simp] theorem resumeOnce_best (cause : ResumeCause) (fix : Option LocationFix) :
  (gps.resumeOnce cause fix).best = gps.best
  := by
  rw [resumeOnce]
  split <;> rfl

/-- The one call is resumed. -/
theorem Sequential.resumeOnce (gps : GPSProvider) {call : AcquireCall} (calls : gps.calls = [call])
    (waits : gps.continuation = some call) (none : gps.resumptions = []) {cause : ResumeCause}
    {fix : Option LocationFix} (hc : (Resumption.mk call cause fix).HasOwnCause)
    (hf : (Resumption.mk call cause fix).HasSoundFix) :
  Sequential (gps.resumeOnce cause fix)
  := by
  rw [GPSProvider.resumeOnce, waits]
  apply Sequential.resumed ⟨call, cause, fix⟩
  · exact calls
  · rfl
  · change gps.resumptions ++ [_] = [_]
    rw [none]
    rfl
  · exact hc
  · exact hf

theorem better_valid (h : gps.BestValid) {loc : CLLocation} (hl : loc.IsValid) :
  (gps.better loc).IsValid
  := by
  rw [better]
  split
  · exact hl
  · next best hb =>
    split
    · exact hl
    · exact h best hb

theorem didUpdateLocations_valid (h : gps.BestValid) {locations : List CLLocation}
    (hl : ∀ loc ∈ locations.getLast?, loc.IsValid) :
  (gps.didUpdateLocations locations).BestValid
  := by
  rw [didUpdateLocations]
  split
  · exact h
  · next loc last =>
    have best : BestValid { gps with best := some (gps.better loc) } := by
      rintro _ ⟨⟩
      exact better_valid h (hl loc last)
    dsimp only
    split
    · rw [BestValid, resumeOnce_best]
      exact best
    · exact best

/-- An invalid location is better than every valid one. -/
theorem didUpdateLocations_invalid (h : gps.BestValid) {locations : List CLLocation}
    {loc : CLLocation} (last : locations.getLast? = some loc) (invalid : ¬ loc.IsValid) :
  (gps.didUpdateLocations locations).best = some loc
  := by
  have beats : gps.better loc = loc := by
    rw [better]
    split
    · rfl
    · next best hb =>
      have : loc.horizontalAccuracy < best.horizontalAccuracy :=
        lt_of_lt_of_le (not_le.mp invalid) (h best hb)
      rw [if_pos this]
  rw [didUpdateLocations, last]
  dsimp only
  split
  · rw [resumeOnce_best, beats]
  · exact congrArg some beats

theorem Sequential.didUpdateLocations (h : Sequential gps) {locations : List CLLocation}
    (hl : ∀ loc ∈ locations.getLast?, loc.IsValid) :
  Sequential (gps.didUpdateLocations locations)
  := by
  rw [GPSProvider.didUpdateLocations]
  split
  · exact h
  · next loc last =>
    let gps' := { gps with best := some (gps.better loc) }
    change Sequential (if loc.horizontalAccuracy ≤ gps.targetAccuracy then
      gps'.resumeOnce .update (some (fix loc false)) else gps')
    cases h with
    | idle calls waits timers none =>
        rw [resumeOnce_of_none gps' waits, ite_self]
        exact .idle calls waits timers none
    | awaiting call calls waits target timers none =>
        split
        · next within =>
          apply Sequential.resumeOnce gps' calls waits none (.inl rfl)
          rintro _ ⟨⟩
          exact ⟨hl loc last, fun _ => target ▸ within⟩
        · exact .awaiting call calls waits target timers none
    | resumed r calls waits resumptions cause fix =>
        rw [resumeOnce_of_none gps' waits, ite_self]
        exact .resumed r calls waits resumptions cause fix

/-- The fix of a timeout is that of the best location, degraded when it is not within the
target. -/
theorem timeout_sound (h : gps.BestValid) (call : AcquireCall) (cause : ResumeCause) :
  (Resumption.mk call cause (gps.best.map fun loc =>
    fix loc (loc.horizontalAccuracy > call.targetAccuracyM))).HasSoundFix
  := by
  intro degradedFix hf
  obtain ⟨loc, best, rfl⟩ := Option.map_eq_some_iff.mp hf
  use h loc best
  intro within
  exact Rat.not_lt.mp (of_decide_eq_false within)

theorem Sequential.timeout (h : Sequential gps) (best : gps.BestValid) (place : ℕ) :
  Sequential (gps.timeout place)
  := by
  rw [GPSProvider.timeout]
  split
  · exact h
  · next timer ht =>
    let gps' := { gps with timers := gps.timers.eraseIdx place }
    change Sequential (gps'.resumeOnce (.timeout timer.call.number) _)
    cases h with
    | idle calls waits timers none =>
        rw [timers] at ht
        cases ht
    | awaiting call calls waits target timers none =>
        rw [timers] at ht
        have : timer ∈ [TimeoutTask.mk call false] := List.mem_of_getElem? ht
        obtain rfl := List.mem_singleton.mp this
        apply Sequential.resumeOnce gps' calls waits none (.inr rfl)
        exact timeout_sound best call _
    | resumed r calls waits resumptions cause fix =>
        rw [resumeOnce_of_none gps' waits]
        exact .resumed r calls waits resumptions cause fix

theorem Sequential.acquireOriginFix (h : Sequential gps) (calls : gps.calls = [])
    (targetAccuracyM : ℚ) :
  Sequential (gps.acquireOriginFix targetAccuracyM)
  := by
  cases h with
  | idle _ waits timers none =>
      apply Sequential.awaiting ⟨gps.calls.length, targetAccuracyM⟩
      · change gps.calls ++ [_] = [_]
        rw [calls]
        rfl
      · rfl
      · rfl
      · change gps.timers ++ [_] = [_]
        rw [timers]
        rfl
      · exact none
  | awaiting call asked => cases calls.symm.trans asked
  | resumed r asked => cases calls.symm.trans asked

theorem didUpdateLocations_calls (locations : List CLLocation) :
  (gps.didUpdateLocations locations).calls = gps.calls
  := by
  rw [didUpdateLocations]
  split
  · rfl
  · dsimp only
    split
    · rw [resumeOnce_calls]
    · rfl

theorem timeout_calls (place : ℕ) : (gps.timeout place).calls = gps.calls := by
  rw [timeout]
  split
  · rfl
  · dsimp only
    rw [resumeOnce_calls]

theorem timeout_best (place : ℕ) : (gps.timeout place).best = gps.best := by
  rw [timeout]
  split
  · rfl
  · dsimp only
    rw [resumeOnce_best]

/-- The one call is resumed once. -/
theorem Sequential.resumesOnce (h : Sequential gps) :
  ∀ call ∈ gps.calls, gps.ResumesOnce call
  := by
  intro call hc
  cases h with
  | idle calls =>
      rw [calls] at hc
      cases hc
  | awaiting waiting calls waits target timers none =>
      rw [calls] at hc
      obtain rfl := List.mem_singleton.mp hc
      right
      rw [none, timers]
      exact ⟨rfl, waits, .head _⟩
  | resumed r calls waits resumptions =>
      rw [calls] at hc
      obtain rfl := List.mem_singleton.mp hc
      left
      rw [resumptions, List.countP_singleton, decide_eq_true rfl, if_pos rfl]

theorem Sequential.resumptions (h : Sequential gps) :
  ∀ r ∈ gps.resumptions, r.HasOwnCause ∧ r.HasSoundFix
  := by
  intro r hr
  cases h with
  | idle _ _ _ none | awaiting _ _ _ _ _ none =>
      rw [none] at hr
      cases hr
  | resumed r' _ _ resumptions cause fix =>
      rw [resumptions] at hr
      obtain rfl := List.mem_singleton.mp hr
      exact ⟨cause, fix⟩

end

end GPSProvider

/-! ### Steps -/

namespace OriginFix

/-- What holds while every event is calm: there is at most one session, one probe and one
acquisition, in this order. -/
structure Orderly (s : OriginFix) : Prop where
  check : s.model.state = .setupCheck →
    s.sessions = s.model.suspended.countP Suspension.isProbe ∧
      s.model.suspended.countP Suspension.isOrigin = 0 ∧ s.tasks = 0 ∧ s.gps.calls = []
  probing : s.model.suspended.countP Suspension.isProbe ≠ 0 →
    s.model.state = .setupCheck ∧ s.model.hasSensors = true
  sessions : s.sessions ≤ 1
  origins : s.model.suspended.countP Suspension.isOrigin ≤ 1
  tasks : s.tasks + s.gps.calls.length ≤ 1
  sequential : s.gps.Sequential
  best : s.gps.BestValid

theorem countP_of_getElem? (p : Suspension → Bool) {suspended : List Suspension} {place : ℕ}
    {t : Suspension} (ht : suspended[place]? = some t) :
  suspended.countP p = (suspended.eraseIdx place).countP p + if p t then 1 else 0
  := by
  obtain ⟨bound, rfl⟩ := List.getElem?_eq_some_iff.mp ht
  exact ((List.getElem_cons_eraseIdx_perm bound).countP_eq p).symm.trans List.countP_cons

namespace Orderly

variable {s : OriginFix}

theorem start (hasSensors : Bool) (backendURL jobID token sessionID startedAt : String) :
  Orderly (.start hasSensors backendURL jobID token sessionID startedAt)
  where
  check := fun _ => ⟨rfl, rfl, rfl, rfl⟩
  probing := fun probes => absurd rfl probes
  sessions := Nat.zero_le _
  origins := Nat.zero_le _
  tasks := Nat.zero_le _
  sequential := .idle rfl rfl rfl rfl
  best := nofun

theorem sound (h : Orderly s) : Sound s where
  sessions := h.sessions
  acquisitions := h.origins
  resumes := h.sequential.resumesOnce
  causes := fun r hr => (h.sequential.resumptions r hr).1
  fixes := fun r hr => (h.sequential.resumptions r hr).2
  latest := by
    intro fix hf
    obtain ⟨loc, best, rfl⟩ := Option.map_eq_some_iff.mp hf
    exact h.best loc best

/-- The provider may go on by itself. -/
theorem provide (h : Orderly s) {gps : GPSProvider} (calls : gps.calls = s.gps.calls)
    (sequential : gps.Sequential) (best : gps.BestValid) :
  Orderly (s.provide gps)
  :=
    { h with
      check := fun hs => (h.check hs).imp_right (.imp_right (.imp_right calls.trans))
      tasks := (congrArg (s.tasks + ·.length) calls).trans_le h.tasks
      sequential
      best }

theorem runSetupCheck (h : Orderly s) (calm : s.Calm .runSetupCheck) :
  Orderly (s.step .runSetupCheck)
  := by
  simp only [Calm] at calm
  rw [step, CaptureViewModel.runSetupCheck]
  by_cases hs : s.model.state = .setupCheck
  · obtain ⟨sessions, origins, tasks, calls⟩ := h.check hs
    rw [calm] at sessions
    by_cases sensors : s.model.hasSensors = true
    · have probes : (s.model.suspended ++ [Suspension.probe]).countP Suspension.isProbe = 1 := by
        rw [List.countP_append, calm]
        rfl
      have none : (s.model.suspended ++ [Suspension.probe]).countP Suspension.isOrigin = 0 := by
        rw [List.countP_append, origins]
        rfl
      rw [if_pos hs, if_pos sensors, if_pos ⟨hs, sensors⟩, sessions]
      exact
        { h with
          check := fun _ => ⟨probes.symm, none, tasks, calls⟩
          probing := fun _ => ⟨hs, sensors⟩
          sessions := Nat.le_refl _
          origins := none.trans_le (Nat.zero_le _) }
    · have left : s.model.state.advance .lidarUnsupported = .lidarUnsupported := by
        rw [hs]
        rfl
      rw [if_pos hs, if_neg sensors, if_neg fun both => sensors both.2, left]
      exact
        { h with
          check := nofun
          probing := fun probes => absurd calm probes }
  · rw [if_neg hs, if_neg fun both => hs both.1]
    exact h

theorem probed (h : Orderly s) (place : ℕ) (ok : Bool) : Orderly (s.step (.probed place ok)) := by
  rw [step]
  split
  · next hp =>
    have probes := countP_of_getElem? Suspension.isProbe hp
    have origins := countP_of_getElem? Suspension.isOrigin hp
    have awaited : s.model.suspended.countP Suspension.isProbe ≠ 0 := by
      rw [probes]
      exact Nat.succ_ne_zero _
    have hs := (h.probing awaited).1
    obtain ⟨sessions, none, tasks, calls⟩ := h.check hs
    have last : (s.model.suspended.eraseIdx place).countP Suspension.isProbe = 0 := by
      have := h.sessions
      rw [sessions, probes] at this
      exact Nat.le_zero.mp (Nat.le_of_succ_le_succ this)
    have noOrigin : (s.model.suspended.eraseIdx place).countP Suspension.isOrigin = 0 :=
      origins.symm.trans none
    cases ok with
    | true =>
        have left : s.model.state.advance (.capturePrompt 0) = .capturePrompt 0 := by
          rw [hs]
          rfl
        have noProbe : ((s.model.suspended.eraseIdx place) ++ [Suspension.acquireOrigin]).countP
            Suspension.isProbe = 0 := by
          rw [List.countP_append, last]
          rfl
        have oneOrigin : ((s.model.suspended.eraseIdx place) ++ [Suspension.acquireOrigin]).countP
            Suspension.isOrigin = 1 := by
          rw [List.countP_append, noOrigin]
          rfl
        simp only [CaptureViewModel.probed, left, if_true]
        exact
          { h with
            check := nofun
            probing := fun probes => absurd noProbe probes
            origins := oneOrigin.le
            tasks := by
              change s.tasks + 1 + s.gps.calls.length ≤ 1
              rw [tasks, calls]
              rfl }
    | false =>
        have left : s.model.state.advance .lidarUnsupported = .lidarUnsupported := by
          rw [hs]
          rfl
        simp only [CaptureViewModel.probed, left, Bool.false_eq_true, if_false]
        exact
          { h with
            check := nofun
            probing := fun probes => absurd last probes
            origins := noOrigin.trans_le (Nat.zero_le _) }
  · exact h

theorem taskBegins (h : Orderly s) : Orderly (s.step .taskBegins) := by
  rw [step]
  split
  · exact h
  · next tasks ht =>
    have bound := h.tasks
    have calls : s.gps.calls = [] := by
      apply List.eq_nil_of_length_eq_zero
      omega
    exact
      { h with
        check := by
          intro hs
          obtain ⟨-, -, none, -⟩ := h.check hs
          cases none.symm.trans ht
        tasks := by
          change tasks + (s.gps.calls ++ [_]).length ≤ 1
          rw [calls, List.nil_append, List.length_singleton]
          omega
        sequential := h.sequential.acquireOriginFix calls 10 }

theorem returned (h : Orderly s) (place i : ℕ) : Orderly (s.step (.returned place i)) := by
  rw [step]
  split
  · next fix ho _ =>
    have probes := countP_of_getElem? Suspension.isProbe ho
    have origins := countP_of_getElem? Suspension.isOrigin ho
    exact
      { h with
        check := by
          intro hs
          obtain ⟨-, none, -, -⟩ := h.check hs
          rw [none] at origins
          exact absurd origins.symm (Nat.succ_ne_zero _)
        probing := by
          intro awaited
          apply h.probing
          rw [probes]
          exact awaited
        origins := by
          have := h.origins
          rw [origins] at this
          exact Nat.le_trans (Nat.le_add_right _ _) this
        sequential := by
          cases h.sequential with
          | idle calls waits timers none => exact .idle calls waits timers none
          | awaiting call calls waits target timers none =>
              exact .awaiting call calls waits target timers none
          | resumed r calls waits resumptions cause fix =>
              exact .resumed r calls waits resumptions cause fix }
  · exact h

/-- A calm event keeps the order of the calls: one call at a time is awaited, and the best location
is valid. -/
theorem step (h : Orderly s) {event : Event} (calm : s.Calm event) : Orderly (s.step event) := by
  cases event with
  | runSetupCheck => exact h.runSetupCheck calm
  | probed place ok => exact h.probed place ok
  | taskBegins => exact h.taskBegins
  | didUpdateLocations locations =>
      apply h.provide
      · apply GPSProvider.didUpdateLocations_calls
      · exact h.sequential.didUpdateLocations calm
      · exact GPSProvider.didUpdateLocations_valid h.best calm
  | timeout place =>
      apply h.provide
      · apply GPSProvider.timeout_calls
      · exact h.sequential.timeout h.best place
      · rw [GPSProvider.BestValid, GPSProvider.timeout_best]
        exact h.best
  | returned place i => exact h.returned place i

/-- An event that is not calm breaks what the protocol promises. -/
theorem not_sound (h : Orderly s) {event : Event} (wild : ¬ s.Calm event) :
  ¬ Sound (s.step event)
  := by
  intro sound
  cases event with
  | runSetupCheck =>
      obtain ⟨hs, sensors⟩ := h.probing wild
      have started := (h.check hs).1
      have sessions := sound.sessions
      rw [OriginFix.step, if_pos ⟨hs, sensors⟩, started] at sessions
      exact wild (Nat.le_zero.mp (Nat.le_of_succ_le_succ sessions))
  | didUpdateLocations locations =>
      obtain ⟨loc, wild⟩ := not_forall.mp wild
      obtain ⟨last, invalid⟩ := Classical.not_imp.mp wild
      have best : (s.gps.didUpdateLocations locations).best = some loc :=
        GPSProvider.didUpdateLocations_invalid h.best last invalid
      have latest := sound.latest _ (Option.map_eq_some_iff.mpr ⟨loc, best, rfl⟩)
      exact invalid latest
  | probed | taskBegins | timeout | returned => exact wild trivial

/-- The protocol holds throughout a run exactly when the run is calm. -/
theorem sound_iff (h : Orderly s) (events : List Event) :
  (∀ before after, events = before ++ after → Sound (s.run before)) ↔ s.CalmRun events
  := by
  induction events generalizing s with
  | nil =>
      constructor
      · exact fun _ => trivial
      · intro _ before after split
        rw [(List.append_eq_nil_iff.mp split.symm).1]
        exact h.sound
  | cons event events ih =>
      constructor
      · intro sounds
        have calm : s.Calm event := by
          by_contra wild
          exact h.not_sound wild (sounds [event] events rfl)
        use calm
        apply (ih (h.step calm)).mp
        rintro before after rfl
        exact sounds (event :: before) after rfl
      · rintro ⟨calm, calms⟩ before after split
        cases before with
        | nil => exact h.sound
        | cons first before =>
            obtain ⟨rfl, rest⟩ := List.cons.inj split
            exact (ih (h.step calm)).mpr calms before after rest

end Orderly

/-- In every run, the protocol holds in every state exactly when no setup check is fired while a
probe is awaited, for which nothing but the state is tested, and no update ends with a location of
negative accuracy. -/
theorem origin_fix_sound_iff (hasSensors : Bool)
    (backendURL jobID token sessionID startedAt : String) (events : List Event) :
  (∀ before after, events = before ++ after →
    Sound ((start hasSensors backendURL jobID token sessionID startedAt).run before)) ↔
  (start hasSensors backendURL jobID token sessionID startedAt).CalmRun events
  := (Orderly.start hasSensors backendURL jobID token sessionID startedAt).sound_iff events

/-- A setup check that is fired again while the probe is awaited starts a second session, and an
invalid update is the fix that a call returns. -/
theorem refired_check_and_invalid_update :
  ¬ Sound ((start true "" "" "" "" "").run [.runSetupCheck, .runSetupCheck]) ∧
    ¬ Sound ((start true "" "" "" "" "").run
      [.runSetupCheck, .probed 0 true, .taskBegins, .didUpdateLocations [⟨0, 0, 0, -1, -1, ""⟩]])
  := by
  constructor
  · intro sound
    exact absurd sound.sessions (by decide)
  · intro sound
    have fix := sound.fixes ⟨⟨0, 10⟩, .update, some ⟨0, 0, 0, -1, -1, "", false⟩⟩ (.head _) _ rfl
    exact absurd fix.1 (by decide)

end OriginFix

end Phone
