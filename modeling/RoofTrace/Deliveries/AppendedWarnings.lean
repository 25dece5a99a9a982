import RoofTrace.Rails.FusionRule

/-!
# Warnings that are appended

A call of `append_failure_warning` that returns has read a measurement and written its message
to it, unless the measurement had the message, or there was none to be read. The orchestrator
announces that a fusion has failed after each of its calls, and an attempt that is the last one
calls it once more when it has failed: so all that has passed says which messages an attempt
has appended.
-/

namespace Rails

open Effects SidecarClient FusionOrchestrator

namespace AppendedWarnings

variable {ι : Type}

/-! ### What the past says of an append -/

/-- A measurement has been read. -/
def HasRead (i : ι) (reader : Reader) (m : Measurement) (past : List (ι × Event application)) :
    Prop :=
  (i, ⟨.latestMeasurement reader, .ok (some m)⟩) ∈ past

/-- A message has been appended to a measurement that had been read, or it was there. -/
inductive AppendedTo (i : ι) (reader : Reader) (message : String) (m : Measurement) :
    List (ι × Event application) → Prop where
  | written {later earlier : List (ι × Event application)} (read : HasRead i reader m earlier) :
      AppendedTo i reader message m
        (later ++ (i, ⟨.updateWarnings m.id (m.warnings ++ [.str message]), .ok ()⟩) :: earlier)
  | present {past : List (ι × Event application)} (read : HasRead i reader m past)
      (mem : .str message ∈ m.warnings) :
      AppendedTo i reader message m past

/-- A message has been appended to a measurement that was read for it, or there was none. -/
def AppendedLast (i : ι) (message : String) (past : List (ι × Event application)) : Prop :=
  (∃ m, AppendedTo i .failureWarning message m past) ∨
    (i, ⟨.latestMeasurement .failureWarning, .ok none⟩) ∈ past

/-- A message has been appended, to the measurement to refine or to one that was read for it. -/
def Appended (i : ι) (message : String) (past : List (ι × Event application)) : Prop :=
  (∃ m, AppendedTo i .prior message m past) ∨ AppendedLast i message past

/-- The last event of `i`. -/
def lastOf [DecidableEq ι] (i : ι) (past : List (ι × Event application)) :
    Option (Event application) :=
  (past.find? (·.1 = i)).map (·.2)

/-- The last event of `i` is that the appending of a message raised. -/
inductive Refused [DecidableEq ι] (i : ι) (message : String)
    (past : List (ι × Event application)) : Prop where
  | read {e : Exn} (last : lastOf i past = some ⟨.latestMeasurement .failureWarning, .error e⟩) :
      Refused i message past
  | write {id : ℕ} {warnings : List (Json ℚ)} {e : Exn}
      (last : lastOf i past =
        some ⟨.updateWarnings id (warnings ++ [.str message]), .error e⟩) :
      Refused i message past

/-- The messages that are appended before a fusion is announced to have failed, with an error of
the alignment or without. -/
inductive FailureMessage [Platform] : Json ℚ → String → Prop where
  | skipped : FailureMessage .null "icp_skipped: lidar_unavailable"
  | unaligned (rmse : Json ℚ) : FailureMessage rmse (alignmentWarning rmse)
  | sidecarError : FailureMessage .null "fusion_failed: sidecar_error"

/-- A fusion has been announced to have failed. -/
def Failed (i : ι) (past : List (ι × Event application)) : Prop :=
  ∃ rmse answer, (i, ⟨.broadcastFusionStatus .failed rmse, answer⟩) ∈ past

/-- One of the messages has been appended whenever a fusion is announced to have failed. -/
def Announced [Platform] (past : List (ι × Event application)) : Prop :=
  ∀ i rmse answer, (i, ⟨.broadcastFusionStatus .failed rmse, answer⟩) ∈ past →
    ∃ message, FailureMessage rmse message ∧ Appended i message past

/-- A measurement has been inserted. -/
def Inserted (i : ι) (m : Measurement) (past : List (ι × Event application)) : Prop :=
  ∃ attributes, (i, ⟨.insertMeasurement attributes, .ok m⟩) ∈ past

/-- The job has been found to be fused. -/
def FoundFused (i : ι) (past : List (ι × Event application)) : Prop :=
  ∃ latest, (i, ⟨.latestMeasurement .alreadyFused, .ok latest⟩) ∈ past ∧
    latest.any (·.source == fusedSource) = true

/-- What the past says of an attempt of the number `executions` that has ended. The job was
found to be fused, or the failure of the fusion has been announced, or a measurement was
inserted. A failure of the sidecar that is raised has been announced; and when the last attempt
has failed, the exhaustion of the job has been appended, unless the job could not be loaded or
the appending raised. -/
def Accounted [DecidableEq ι] (executions : ℕ) (i : ι) :
    Except Exn FusionJob.Outcome → List (ι × Event application) → Prop
  | .ok .alreadyFused, past => FoundFused i past
  | .ok .warned, past => Failed i past
  | .ok (.fused m), past => Inserted i m past
  | .error e, past =>
      (∀ errorClass message, e = .sidecar errorClass message → Failed i past) ∧
        (FusionJob.maxAttempts ≤ executions →
          (∃ e, (i, ⟨.findJob executions, .error e⟩) ∈ past) ∨
            AppendedLast i "fusion_job_exhausted" past ∨ Refused i "fusion_job_exhausted" past)

/-- What the past says of a delivery that has ended: of the attempt that was its last. -/
def DeliveryAccounted [DecidableEq ι] (i : ι) (past : List (ι × Event application)) : Prop :=
  ∃ n outcome, Accounted n i outcome past ∧
    ∀ e : Exn, outcome = .error e → FusionJob.maxAttempts ≤ n

/-! ### What is remembered -/

/-- Nothing that happens takes back what has passed. -/
def Remembered (A : List (ι × Event application) → Prop) : Prop :=
  ∀ event past, A past → A (event :: past)

/-- That an event is in the past is remembered. -/
theorem remembered_mem (event : ι × Event application) :
  Remembered fun past => event ∈ past
  := fun _ _ hmem => List.mem_cons_of_mem _ hmem

/-- What is remembered in two parts is remembered as a whole. -/
theorem Remembered.and {A B : List (ι × Event application) → Prop} (hA : Remembered A)
    (hB : Remembered B) :
  Remembered fun past => A past ∧ B past
  := fun event past h => ⟨hA event past h.1, hB event past h.2⟩

/-- One of two things that are remembered is remembered. -/
theorem Remembered.or {A B : List (ι × Event application) → Prop} (hA : Remembered A)
    (hB : Remembered B) :
  Remembered fun past => A past ∨ B past
  := fun event past h => h.imp (hA event past) (hB event past)

/-- What is remembered of every value is remembered of all. -/
theorem Remembered.forall {γ : Sort*} {A : γ → List (ι × Event application) → Prop}
    (hA : ∀ v, Remembered (A v)) :
  Remembered fun past => ∀ v, A v past
  := fun event past h v => hA v event past (h v)

/-- What is remembered of every value is remembered of some value. -/
theorem Remembered.exists {γ : Sort*} {A : γ → List (ι × Event application) → Prop}
    (hA : ∀ v, Remembered (A v)) :
  Remembered fun past => ∃ v, A v past
  := fun event past h => h.imp fun v => hA v event past

/-- A proposition that does not depend on the past is remembered. -/
theorem remembered_const (p : Prop) :
  Remembered fun _ : List (ι × Event application) => p
  := fun _ _ h => h

/-- A measurement that has been read remains read. -/
theorem remembered_hasRead (i : ι) (reader : Reader) (m : Measurement) :
  Remembered (HasRead i reader m)
  := remembered_mem _

/-- What was appended to a measurement remains appended: nothing ever comes below the UPDATE. -/
theorem remembered_appendedTo (i : ι) (reader : Reader) (message : String) (m : Measurement) :
  Remembered (AppendedTo i reader message m)
  := by
  intro event past h
  cases h with
  | @written later earlier read =>
      rw [← List.cons_append]
      exact .written read
  | present read mem => exact .present (List.mem_cons_of_mem _ read) mem

/-- What has been appended was appended before, or by the last event. -/
theorem AppendedTo.of_cons {i j : ι} {reader : Reader} {message : String} {m : Measurement}
    {event : Event application} {past : List (ι × Event application)}
    (h : AppendedTo i reader message m ((j, event) :: past)) :
  AppendedTo i reader message m past ∨
    (j = i ∧ event = ⟨.updateWarnings m.id (m.warnings ++ [.str message]), .ok ()⟩ ∧
      HasRead i reader m past) ∨
    (j = i ∧ event = ⟨.latestMeasurement reader, .ok (some m)⟩ ∧ .str message ∈ m.warnings)
  := by
  generalize hpast : (j, event) :: past = all at h
  cases h with
  | written read =>
      rcases List.cons_eq_append_iff.mp hpast with ⟨rfl, heq⟩ | ⟨later, rfl, rfl⟩
      · cases heq
        exact .inr (.inl ⟨rfl, rfl, read⟩)
      · exact .inl (.written read)
  | present read mem =>
      subst hpast
      rcases List.mem_cons.mp read with heq | read
      · cases heq
        exact .inr (.inr ⟨rfl, rfl, mem⟩)
      · exact .inl (.present read mem)

/-- What was appended to the latest measurement remains appended. -/
theorem remembered_appendedLast (i : ι) (message : String) :
  Remembered (AppendedLast i message)
  := (Remembered.exists fun m => remembered_appendedTo i _ message m).or (remembered_mem _)

/-- A message that was appended remains appended. -/
theorem remembered_appended (i : ι) (message : String) :
  Remembered (Appended i message)
  := (Remembered.exists fun m => remembered_appendedTo i _ message m).or
    (remembered_appendedLast i message)

/-- A failure that was announced remains announced. -/
theorem remembered_failed (i : ι) :
  Remembered (Failed i)
  := Remembered.exists fun _ => Remembered.exists fun _ => remembered_mem _

/-- A measurement that was inserted remains inserted. -/
theorem remembered_inserted (i : ι) (m : Measurement) :
  Remembered (Inserted i m)
  := Remembered.exists fun _ => remembered_mem _

/-- That the job was found to be fused is remembered. -/
theorem remembered_foundFused (i : ι) :
  Remembered (FoundFused i)
  := Remembered.exists fun _ => (remembered_mem _).and (remembered_const _)

section Last

variable [DecidableEq ι] {i : ι}

/-- The last event of a process is the one that it has just performed. -/
theorem lastOf_cons_self (event : Event application) (past : List (ι × Event application)) :
  lastOf i ((i, event) :: past) = some event
  := by simp [lastOf]

/-- The last event of a process is not changed by what another performs. -/
theorem lastOf_cons_of_ne {j : ι} (hj : j ≠ i) (event : Event application)
    (past : List (ι × Event application)) :
  lastOf i ((j, event) :: past) = lastOf i past
  := by simp [lastOf, hj]

/-- What the others do does not change how the appending has ended. -/
theorem Refused.cons {message : String} {past : List (ι × Event application)}
    (h : Refused i message past) {j : ι} (hj : j ≠ i) (event : Event application) :
  Refused i message ((j, event) :: past)
  := by
  cases h with
  | read last => exact .read ((lastOf_cons_of_ne hj event past).trans last)
  | write last => exact .write ((lastOf_cons_of_ne hj event past).trans last)

/-- What the others do does not change what the past says of an attempt that has ended. -/
theorem Accounted.cons {n : ℕ} {outcome : Except Exn FusionJob.Outcome}
    {past : List (ι × Event application)} (h : Accounted n i outcome past) {j : ι} (hj : j ≠ i)
    (event : Event application) :
  Accounted n i outcome ((j, event) :: past)
  := by
  rcases outcome with e | (_ | _ | m)
  · obtain ⟨htold, hexhausted⟩ := h
    constructor
    · exact fun errorClass message he => remembered_failed i _ _ (htold errorClass message he)
    · intro hle
      rcases hexhausted hle with ⟨e, hmem⟩ | happended | hrefused
      · exact .inl ⟨e, List.mem_cons_of_mem _ hmem⟩
      · exact .inr (.inl (remembered_appendedLast i _ _ _ happended))
      · exact .inr (.inr (hrefused.cons hj event))
  · exact remembered_foundFused i _ _ h
  · exact remembered_failed i _ _ h
  · exact remembered_inserted i m _ _ h

end Last

/-! ### Announcements -/

/-- An operation announces no failure of which no message has been appended. -/
def Announces [Platform] (i : ι) (o : Op) (past : List (ι × Event application)) : Prop :=
  ∀ rmse, o = .broadcastFusionStatus .failed rmse →
    ∃ message, FailureMessage rmse message ∧ Appended i message past

/-- Operations that announce a failure. -/
def announcesFailure : Op → Bool
  | .broadcastFusionStatus .failed _ => true
  | _ => false

/-- Operations that are not broadcasts of a failed fusion announce nothing. -/
theorem announces_other [Platform] {i : ι} {o : Op} {past : List (ι × Event application)}
    (ho : announcesFailure o = false) :
  Announces i o past
  := by
  rintro rmse rfl
  nomatch ho

/-- Failures are announced after their messages have been appended. -/
def announcing (ι : Type) [Platform] : Protocol rails ι where
  ok _ _ _ _ := True
  guar i o _ c := Announces i o c.past

/-- Failures stay announced after their messages when one more operation announces none without. -/
theorem announced_after [Platform] {i : ι} {o : Op} {χ : rails.Choice o} {c : Config rails ι}
    (hannounces : Announces i o c.past) (h : Announced c.past) :
  Announced (c.after i o χ).past
  := by
  intro j rmse answer hmem
  rcases List.mem_cons.mp hmem with heq | hmem
  · obtain ⟨rfl, hevent⟩ := Prod.mk.inj heq
    obtain ⟨rfl, -⟩ := Sigma.mk.inj hevent
    obtain ⟨message, hmessage, happended⟩ := hannounces rmse rfl
    exact ⟨message, hmessage, remembered_appended j message _ _ happended⟩
  · obtain ⟨message, hmessage, happended⟩ := h j rmse answer hmem
    exact ⟨message, hmessage, remembered_appended j message _ _ happended⟩

section Operations

variable [Platform] {σ : Type} {i : ι}

/-- What is remembered is stable under what the others do. -/
theorem stable_remembered {A : List (ι × Event application) → Prop} (hA : Remembered A) :
  (announcing ι).Stable i fun c => A c.past
  := by
  rintro c _ ⟨j, -, o, χ, -, -, rfl⟩ h
  exact hA _ _ h

/-- An operation is the last event that has passed. -/
theorem triple_operation [DecidableEq ι] {A : σ → List (ι × Event application) → Prop}
    (hA : ∀ s, Remembered (A s)) {o : Op} (ho : ∀ s past, A s past → Announces i o past) :
  (announcing ι).Triple i (fun s c => A s c.past) (perform o)
    (fun a s c => ∃ earlier, c.past = (i, ⟨o, .ok a⟩) :: earlier ∧ A s earlier)
    (fun e s c => e.expected = false ∧ ∃ earlier, c.past = (i, ⟨o, .error e⟩) :: earlier ∧
      A s earlier)
  := by
  apply Protocol.triple_perform
  · exact fun s => stable_remembered (hA s)
  · intro s c χ _ hs
    use ho s c.past hs
    cases hanswer : c.answer o χ with
    | ok a =>
        refine ⟨c.past, ?_, hs⟩
        rw [Config.after_past, hanswer]
    | error e =>
        refine ⟨expected_of_exec_eq_error hanswer, c.past, ?_, hs⟩
        rw [Config.after_past, hanswer]

/-- An operation is remembered, and it is the last event of `i` when it raises. -/
theorem triple_remembered [DecidableEq ι] {A : σ → List (ι × Event application) → Prop}
    (hA : ∀ s, Remembered (A s)) {o : Op} (ho : ∀ s past, A s past → Announces i o past) :
  (announcing ι).Triple i (fun s c => A s c.past) (perform o)
    (fun a s c => (i, ⟨o, .ok a⟩) ∈ c.past ∧ A s c.past)
    (fun e s c => e.expected = false ∧ lastOf i c.past = some ⟨o, .error e⟩ ∧ A s c.past)
  := by
  apply (triple_operation hA ho).post
  · rintro a s c ⟨earlier, hpast, hs⟩
    rw [hpast]
    exact ⟨List.mem_cons_self, hA s _ _ hs⟩
  · rintro e s c ⟨he, earlier, hpast, hs⟩
    rw [hpast]
    exact ⟨he, lastOf_cons_self _ _, hA s _ _ hs⟩

/-- What is remembered is kept by an operation that announces no failure without its message. -/
theorem keeps_operation [DecidableEq ι] {A : σ → List (ι × Event application) → Prop}
    (hA : ∀ s, Remembered (A s)) {o : Op} (ho : ∀ s past, A s past → Announces i o past) :
  (announcing ι).Triple i (fun s c => A s c.past) (perform o) (fun _ s c => A s c.past)
    (fun e s c => e.expected = false ∧ A s c.past)
  := by
  apply (triple_remembered hA ho).post
  · exact fun _ _ _ hc => hc.2
  · exact fun _ _ _ hc => ⟨hc.1, hc.2.2⟩

end Operations

/-! ### Appending -/

section Appending

variable [Platform] [DecidableEq ι] {σ : Type} {i : ι}
  {A : σ → List (ι × Event application) → Prop} (hA : ∀ s, Remembered (A s))

include hA

/-- A warning that is written is appended to the measurement that was read. Otherwise the operation
that raised is the last event of the process. -/
theorem triple_warn (reader : Reader) (message : String) (m : Measurement) :
  (announcing ι).Triple i (fun s c => HasRead i reader m c.past ∧ A s c.past) (warn message m)
    (fun _ s c => AppendedTo i reader message m c.past ∧ A s c.past)
    (fun e s c => e.expected = false ∧ Refused i message c.past ∧ A s c.past)
  := by
  unfold warn
  split
  · next hcontains =>
    rw [List.contains_iff_mem] at hcontains
    exact Protocol.Triple.ret fun _ _ hc => ⟨.present hc.1 hcontains, hc.2⟩
  · apply (triple_operation (fun s => (remembered_hasRead i reader m).and (hA s))
      fun _ _ _ => announces_other rfl).post
    · rintro _ s c ⟨earlier, hpast, hread, hs⟩
      rw [hpast]
      exact ⟨@AppendedTo.written ι i reader message m [] earlier hread, hA s _ _ hs⟩
    · rintro e s c ⟨he, earlier, hpast, hread, hs⟩
      rw [hpast]
      exact ⟨he, .write (lastOf_cons_self _ _), hA s _ _ hs⟩

/-- A call that reads the measurement and returns has appended its message. -/
theorem triple_appendLast (message : String) :
  (announcing ι).Triple i (fun s c => A s c.past) (appendFailureWarning message none)
    (fun _ s c => AppendedLast i message c.past ∧ A s c.past)
    (fun e s c => e.expected = false ∧ Refused i message c.past ∧ A s c.past)
  := by
  apply Protocol.Triple.bind
  · apply (triple_remembered hA fun _ _ _ => announces_other rfl).post
    · exact fun _ _ _ hc => hc
    · exact fun _ _ _ hc => ⟨hc.1, .read hc.2.1, hc.2.2⟩
  · intro found
    cases found with
    | none => exact Protocol.Triple.ret fun _ _ hc => ⟨.inr hc.1, hc.2⟩
    | some m =>
        apply (triple_warn hA .failureWarning message m).post
        · exact fun _ _ _ hc => ⟨.inl ⟨m, hc.1⟩, hc.2⟩
        · exact fun _ _ _ hc => hc

/-- A call that returns has appended its message. -/
theorem triple_appendFailureWarning (message : String) (prior : Option Measurement) :
  (announcing ι).Triple i (fun s c => (∀ m ∈ prior, HasRead i .prior m c.past) ∧ A s c.past)
    (appendFailureWarning message prior)
    (fun _ s c => Appended i message c.past ∧ A s c.past)
    (fun e s c => e.expected = false ∧ A s c.past)
  := by
  cases prior with
  | some m =>
      apply (triple_warn hA .prior message m).conseq
      · exact fun _ _ hc => ⟨hc.1 m rfl, hc.2⟩
      · exact fun _ _ _ hc => ⟨.inl ⟨m, hc.1⟩, hc.2⟩
      · exact fun _ _ _ hc => ⟨hc.1, hc.2.2⟩
  | none =>
      apply (triple_appendLast hA message).conseq
      · exact fun _ _ hc => hc.2
      · exact fun _ _ _ hc => ⟨.inr hc.1, hc.2⟩
      · exact fun _ _ _ hc => ⟨hc.1, hc.2.2⟩

end Appending

/-! ### Fusions -/

/-- The measurement that is refined has been read. -/
def Held (i : ι) (o : FusionOrchestrator) (past : List (ι × Event application)) : Prop :=
  ∀ m ∈ o.prior, HasRead i .prior m past

/-- That the refined measurement was read is remembered. -/
theorem remembered_held (i : ι) (o : FusionOrchestrator) :
  Remembered (Held i o)
  := Remembered.forall fun m => Remembered.forall fun _ => remembered_hasRead i _ m

section Fusions

variable [Platform] [DecidableEq ι] {i : ι}

/-- A message is appended to the measurement that is refined. -/
theorem triple_appendPriorWarning (message : String) :
  (announcing ι).Triple i (fun o c => Held i o c.past) (appendPriorWarning message)
    (fun _ o c => Appended i message c.past ∧ Held i o c.past)
    (fun e o c => e.expected = false ∧ Held i o c.past)
  := by
  apply Protocol.Triple.getting
  intro o
  apply (triple_appendFailureWarning (remembered_held i) message o.prior).conseq
  · rintro _ c ⟨rfl, hc⟩
    exact ⟨hc, hc⟩
  · exact fun _ _ _ hc => hc
  · exact fun _ _ _ hc => hc

/-- The failure is announced once its message has been appended. -/
theorem triple_broadcastFailed {message : String} {rmse : Json ℚ}
    (hmessage : FailureMessage rmse message) :
  (announcing ι).Triple i (fun o c => Appended i message c.past ∧ Held i o c.past)
    (perform (.broadcastFusionStatus .failed rmse))
    (fun _ o c => Failed i c.past ∧ Held i o c.past)
    (fun e o c => e.expected = false ∧ Held i o c.past)
  := by
  apply Protocol.Triple.post
  · apply triple_remembered (A := fun o past => Appended i message past ∧ Held i o past)
    · exact fun o => (remembered_appended i message).and (remembered_held i o)
    · rintro o past hc _ ⟨⟩
      exact ⟨message, hmessage, hc.1⟩
  · exact fun _ _ _ hc => ⟨⟨rmse, _, hc.1⟩, hc.2.2⟩
  · exact fun _ _ _ hc => ⟨hc.1, hc.2.2.2⟩

/-- What does not announce a failure keeps the measurement that is refined. -/
theorem keeps_held {o : Op} (ho : announcesFailure o = false) :
  (announcing ι).Keeps i (fun o c => Held i o c.past) (perform o)
  := by
  apply (keeps_operation (remembered_held i) fun _ _ _ => announces_other ho).post
  · exact fun _ _ _ hc => hc
  · exact fun _ _ _ hc => hc.2

/-- What the past says of a fusion that has ended. -/
def Concluded (i : ι) : Option Measurement → List (ι × Event application) → Prop
  | none, past => Failed i past
  | some m, past => Inserted i m past

/-- A fusion that finds nothing has announced it. -/
theorem triple_warned {message : String} {rmse : Json ℚ} (hmessage : FailureMessage rmse message) :
  (announcing ι).Triple i (fun o c => Held i o c.past)
    (do
      appendPriorWarning message
      perform (.broadcastFusionStatus .failed rmse)
      return none)
    (fun m _ c => Concluded i m c.past)
    (fun _ o c => Held i o c.past)
  := by
  apply Protocol.Triple.bind ((triple_appendPriorWarning message).post
    (fun _ _ _ hc => hc) (fun _ _ _ hc => hc.2))
  intro _
  apply Protocol.Triple.bind ((triple_broadcastFailed hmessage).post
    (fun _ _ _ hc => hc) (fun _ _ _ hc => hc.2))
  intro _
  exact Protocol.Triple.ret fun _ _ hc => hc.1

/-- A fusion from a response of the sidecar ends with a measurement or with an announced failure. -/
theorem triple_fuse (prior : Measurement) (response : Json ℚ) :
  (announcing ι).Triple i (fun o c => Held i o c.past) (fuse prior response)
    (fun m _ c => Concluded i m c.past) (fun _ o c => Held i o c.past)
  := by
  unfold fuse
  split
  · apply Protocol.Triple.bind (B := fun m o c => Inserted i m c.past ∧ Held i o c.past)
    · apply Protocol.Triple.getting
      intro o
      apply Protocol.Triple.pre (A := fun o c => Held i o c.past) _ (fun _ _ hc => hc.2)
      apply Protocol.Triple.bind (keeps_held rfl)
      intro now
      apply (triple_remembered (remembered_held i) fun _ _ _ => announces_other rfl).post
      · exact fun _ _ _ hc => ⟨⟨_, hc.1⟩, hc.2⟩
      · exact fun _ _ _ hc => hc.2.2
    · intro m
      have hkeeps {o : Op} (ho : announcesFailure o = false) :
          (announcing ι).Triple i (fun s c => Inserted i m c.past ∧ Held i s c.past) (perform o)
            (fun _ s c => Inserted i m c.past ∧ Held i s c.past)
            (fun _ s c => Held i s c.past) := by
        apply (keeps_operation (A := fun s past => Inserted i m past ∧ Held i s past)
          (fun s => (remembered_inserted i m).and (remembered_held i s))
          fun _ _ _ => announces_other ho).post
        · exact fun _ _ _ hc => hc
        · exact fun _ _ _ hc => hc.2.2
      apply Protocol.Triple.bind (hkeeps rfl)
      intro _
      apply Protocol.Triple.bind (hkeeps rfl)
      intro _
      exact Protocol.Triple.ret fun _ _ hc => hc.1
  · exact triple_warned (.unaligned _)

variable [FormatAssertion]

/-- A refinement ends with a measurement or with an announced failure. -/
theorem triple_refine :
  (announcing ι).Triple i (fun o c => Held i o c.past) refine
    (fun m _ c => Concluded i m c.past) (fun _ o c => Held i o c.past)
  := by
  apply Protocol.Triple.bind
  · apply (triple_remembered (remembered_held i) fun _ _ _ => announces_other rfl).post
    · exact fun _ _ _ hc => hc.1
    · exact fun _ _ _ hc => hc.2.2
  · intro latest
    apply Protocol.Triple.bind (B := fun _ o c => o.prior = latest ∧ Held i o c.past)
    · apply Protocol.Triple.modifying
      rintro o c hread
      refine ⟨rfl, ?_⟩
      rintro m hm
      rw [show latest = some m from hm] at hread
      exact hread
    · intro _
      apply Protocol.Triple.pre (A := fun o c => Held i o c.past) _ (fun _ _ hc => hc.2)
      split
      · exact triple_warned .skipped
      · apply Protocol.Triple.bind (keeps_held rfl)
        intro _
        apply Protocol.Triple.getting
        intro o
        apply Protocol.Triple.pre (A := fun o c => Held i o c.past) _ (fun _ _ hc => hc.2)
        apply Protocol.Triple.bind (B := fun _ o c => Held i o c.past)
        · apply Protocol.Keeps.bind (Protocol.Keeps.ofExcept _)
          intro _
          apply Protocol.Keeps.bind (keeps_held rfl)
          intro exchange
          apply Protocol.Keeps.ofExcept
        · intro response
          exact triple_fuse _ response

/-- What is known after an exception: a failure of the sidecar has been announced. -/
abbrev Told (i : ι) (e : Exn) (past : List (ι × Event application)) : Prop :=
  ∀ errorClass message, e = .sidecar errorClass message → Failed i past

omit [Platform] [DecidableEq ι] [FormatAssertion] in
/-- Of an exception that no sidecar raises nothing need have been announced. -/
theorem told_of_unexpected {e : Exn} {past : List (ι × Event application)}
    (he : e.expected = false) :
  Told i e past
  := by
  rintro errorClass message rfl
  cases he

/-- A call ends with a measurement or an announced failure, and when it raises a failure of the
sidecar it has announced one. -/
theorem triple_call :
  (announcing ι).Triple i (fun o c => Held i o c.past) call
    (fun m _ c => Concluded i m c.past) (fun e _ c => Told i e c.past)
  := by
  apply Protocol.Triple.rescue triple_refine
  intro e
  split
  · next errorClass message =>
    apply Protocol.Triple.bind ((triple_appendPriorWarning _).post
      (fun _ _ _ hc => hc) (fun _ _ _ hc => told_of_unexpected hc.1))
    intro _
    apply Protocol.Triple.bind ((triple_broadcastFailed .sidecarError).post
      (fun _ _ _ hc => hc) (fun _ _ _ hc => told_of_unexpected hc.1))
    intro _
    exact Protocol.Triple.raise fun _ _ hc _ _ _ => hc.1
  · next hother =>
    apply Protocol.Triple.raise
    rintro _ _ _ errorClass message rfl
    exact absurd rfl (hother errorClass message)

/-! ### Attempts -/

/-- The exhaustion of the job is appended after the last attempt. -/
abbrev Exhausted (n : ℕ) (i : ι) (past : List (ι × Event application)) : Prop :=
  FusionJob.maxAttempts ≤ n →
    AppendedLast i "fusion_job_exhausted" past ∨ Refused i "fusion_job_exhausted" past

omit [FormatAssertion] in
/-- Recording the failure of an attempt keeps what was told of it, and on the last attempt it
appends that the job is exhausted. -/
theorem triple_recordFailure (n : ℕ) (e e₀ : Exn) :
  (announcing ι).Triple i (fun (_ : Job) c => Told i e₀ c.past) (FusionJob.recordFailure n e)
    (fun _ _ c => Told i e₀ c.past ∧ Exhausted n i c.past)
    (fun e _ c => Told i e c.past ∧ Exhausted n i c.past)
  := by
  have htold : ∀ _ : Job, Remembered (Told i e₀) :=
    fun _ => Remembered.forall fun _ => Remembered.forall fun _ => Remembered.forall fun _ =>
      remembered_failed i
  unfold FusionJob.recordFailure
  split
  · apply (triple_appendLast htold _).post
    · exact fun _ _ _ hc => ⟨hc.2, fun _ => .inl hc.1⟩
    · exact fun _ _ _ hc => ⟨told_of_unexpected hc.1, fun _ => .inr hc.2.1⟩
  · next hlt =>
    apply Protocol.Triple.bind (B := fun _ (_ : Job) c => Told i e₀ c.past)
    · exact Protocol.Triple.modifying fun _ _ hc => hc
    · intro _
      apply (Job.triple_save (A := fun _ c => Told i e₀ c.past)
        (B := fun _ c => Told i e₀ c.past) (E := fun _ _ => True) _ _ _).post
      · exact fun _ _ _ hc => ⟨hc, fun hle => absurd hle hlt⟩
      · exact fun _ _ _ hc => ⟨told_of_unexpected hc.1, fun hle => absurd hle hlt⟩
      · exact fun job => stable_remembered (htold job)
      · exact fun _ _ hc _ => hc
      · intro job c χ hc _ _
        use announces_other rfl
        cases χ with
        | none => exact htold job _ _ hc
        | some className => trivial

/-- An attempt that returns accounts for its outcome, and one that raises has told its failure. -/
theorem triple_attempt (captureSessionId : String) (n : ℕ) :
  (announcing ι).Triple i (fun (_ : Job) _ => True) (FusionJob.attempt captureSessionId n)
    (fun outcome _ c => Accounted n i (.ok outcome) c.past)
    (fun e _ c => Told i e c.past ∧ Exhausted n i c.past)
  := by
  apply Protocol.Triple.rescue (F := fun e _ c => Told i e c.past)
  · apply Protocol.Triple.bind (B := fun _ _ _ => True)
    · apply (keeps_operation (A := fun _ _ => True) (fun _ => remembered_const True)
        fun _ _ _ => announces_other rfl).post
      · exact fun _ _ _ _ => trivial
      · exact fun _ _ _ hc => told_of_unexpected hc.1
    · intro captureSession
      apply Protocol.Triple.bind
      · apply (triple_remembered (A := fun _ _ => True) (fun _ => remembered_const True)
          fun _ _ _ => announces_other rfl).post
        · exact fun _ _ _ hc => hc.1
        · exact fun _ _ _ hc => told_of_unexpected hc.1
      · intro latest
        split
        · next hfused => exact Protocol.Triple.ret fun _ _ hc => ⟨latest, hc, hfused⟩
        · apply Protocol.Triple.bind (B := fun m (_ : Job) c => Concluded i m c.past)
          · apply Protocol.Triple.within
            intro job
            apply triple_call.pre
            rintro _ c ⟨-, rfl⟩
            exact nofun
          · intro m
            cases m with
            | some measurement => exact Protocol.Triple.ret fun _ _ hc => hc
            | none => exact Protocol.Triple.ret fun _ _ hc => hc
  · intro e
    apply Protocol.Triple.bind (triple_recordFailure n e e)
    intro _
    exact Protocol.Triple.raise fun _ _ hc => hc

/-- An execution of the job accounts for its outcome, whether it returns or raises. -/
theorem wp_perform (captureSessionId : String) (n : ℕ) (c : Config rails ι) :
  (announcing ι).wp i (FusionJob.perform captureSessionId n)
    (fun outcome c => Accounted n i outcome c.past) c
  := by
  intro c' _ χ _
  use announces_other rfl
  cases hanswer : c'.answer (.findJob n) χ with
  | error e =>
      constructor
      · exact told_of_unexpected (expected_of_exec_eq_error hanswer)
      · intro _
        left
        rw [Config.after_past, hanswer]
        exact ⟨e, List.mem_cons_self⟩
  | ok row =>
      apply Protocol.wp_mono _ (Protocol.wp_outcome
        (A := fun _ _ => True) (triple_attempt captureSessionId n) trivial)
      rintro (e | outcome) c hc
      · exact ⟨hc.1, fun hle => .inr (hc.2 hle)⟩
      · exact hc

/-- A delivery accounts for the outcome of its last execution, by induction on the attempts that are
left. -/
theorem wp_delivery (captureSessionId : String) (c : Config rails ι) :
  (announcing ι).wp i (FusionJob.delivery captureSessionId)
    (fun _ c => DeliveryAccounted i c.past) c
  := by
  apply Protocol.wp_retrying (A := fun _ _ => True)
  · intro n _ _ c _
    apply Protocol.wp_mono _ (wp_perform captureSessionId n c)
    rintro (e | outcome) c hc
    · trivial
    · exact ⟨n, .ok outcome, hc, nofun⟩
  · intro c _
    apply Protocol.wp_mono _ (wp_perform captureSessionId _ c)
    intro outcome c hc
    exact ⟨_, outcome, hc, fun _ _ => Nat.le_refl _⟩
  · trivial

end Fusions

section Stable

variable [Platform] [DecidableEq ι] {i : ι}

/-- What has been accounted for remains so, whatever the others do. -/
theorem stable_accounted (n : ℕ) (outcome : Except Exn FusionJob.Outcome) :
  (announcing ι).Stable i fun c => Accounted n i outcome c.past
  := by
  rintro c _ ⟨j, hj, o, χ, -, -, rfl⟩ h
  exact h.cons hj _

/-- A delivery that has ended remains accounted for. -/
theorem stable_deliveryAccounted :
  (announcing ι).Stable i fun c => DeliveryAccounted i c.past
  := by
  rintro c c' hstep ⟨n, outcome, haccounted, hlast⟩
  exact ⟨n, outcome, stable_accounted n outcome c c' hstep haccounted, hlast⟩

/-- In every run of parties that keep the protocol, failures are announced after their messages
have been appended. -/
theorem announced_run {α : Type} {Q : ι → α → Config rails ι → Prop}
    (hQ : ∀ j a, (announcing ι).Stable j (Q j a)) {s : Pool rails ι α}
    (hstart : s.Keeps (announcing ι) Q) (hpast : s.config.past = [])
    (schedule : List (ι × rails.Choices)) :
  Announced (s.run schedule).config.past ∧ (s.run schedule).Keeps (announcing ι) Q
  := by
  have hmeets : s.Meets (announcing ι).ok schedule :=
    Pool.meets_of_forall s fun _ _ _ _ _ => trivial
  obtain ⟨hguar, hkeeps⟩ := Pool.run_of_keeps hQ hstart hmeets
  refine ⟨?_, hkeeps⟩
  apply Pool.invariant_run (P := announcing ι) (A := fun c => Announced c.past) _ hmeets hguar
  · rw [hpast]
    exact fun _ _ _ hmem => nomatch hmem
  · exact fun i o χ c _ hannounces hc => announced_after hannounces hc

end Stable

end AppendedWarnings

end Rails
