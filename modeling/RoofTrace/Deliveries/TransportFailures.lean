import RoofTrace.Deliveries.DegradationHonesty
import RoofTrace.Rails.Succession

/-!
# Transport failures of the optional stages

The LiDAR and the outline stage are optional: a failure of their transport should degrade the
run, not end it. The client turns timeouts on opening and reading, system call errors, bad
statuses and bad bodies into errors of its own, which degrade the stage, and the run begins the
next one. A failure of any other class passes through all the layers: the run ends with it, and
the job is attempted again.
-/

namespace Rails

open Effects SidecarClient

namespace TransportFailures

open MeasurementOrchestrator StageWarnings DegradationHonesty Succession

/-! ### Failures of an exchange -/

/-- The classes of the exceptions that an exchange raises. -/
inductive NetError where
  | systemCallError
  | socketError
  | sslError
  | eofError
  | ioError
  | openTimeout
  | readTimeout
  | writeTimeout
  | protocolError
deriving DecidableEq

/-- A class and its superclasses, up to `StandardError`. -/
def NetError.ancestors : NetError → List String
  | systemCallError => ["SystemCallError", "StandardError"]
  | socketError => ["SocketError", "StandardError"]
  | sslError => ["OpenSSL::SSL::SSLError", "OpenSSL::OpenSSLError", "StandardError"]
  | eofError => ["EOFError", "IOError", "StandardError"]
  | ioError => ["IOError", "StandardError"]
  | openTimeout => ["Net::OpenTimeout", "Timeout::Error", "RuntimeError", "StandardError"]
  | readTimeout => ["Net::ReadTimeout", "Timeout::Error", "RuntimeError", "StandardError"]
  | writeTimeout => ["Net::WriteTimeout", "Timeout::Error", "RuntimeError", "StandardError"]
  | protocolError => ["Net::ProtocolError", "StandardError"]

/-- A way in which an exchange fails. -/
inductive HttpFailure where
  /-- An exception of a class, or of the subclass `className` of it. -/
  | raised (error : NetError) (className message : String)
  | status (code : ℕ) (body : Option (Json ℚ)) (bad : ¬ (200 ≤ code ∧ code ≤ 299))
  | nonJson (code : ℕ) (good : 200 ≤ code ∧ code ≤ 299)

namespace HttpFailure

/-- The `rescue` clauses of `post_json` that an exception comes to. -/
def exchange : HttpFailure → Exchange
  | raised error className message =>
      if "Net::OpenTimeout" ∈ error.ancestors ∨ "Net::ReadTimeout" ∈ error.ancestors then
        .timeout message
      else if "SystemCallError" ∈ error.ancestors then .systemCallError className
      else .raised className
  | status code body _ => .response code body
  | nonJson code _ => .response code none

/-- Failures that the client turns into an error of its own. -/
def Mapped : HttpFailure → Prop
  | raised error _ _ => error = .systemCallError ∨ error = .openTimeout ∨ error = .readTimeout
  | status _ _ _ => True
  | nonJson _ _ => True

variable [FormatAssertion]

/-- A failure that is mapped is an error of the client, and not one of the contract. -/
theorem degrading_of_mapped {f : HttpFailure} (h : f.Mapped) (stage : Stage) (timeout : ℕ) :
  ∃ e, receive stage timeout f.exchange = .error e ∧ Degrading e
  := by
  cases f with
  | raised error className message =>
      rcases h with rfl | rfl | rfl
      · exact ⟨_, rfl, _, _, rfl, by decide⟩
      · exact ⟨_, rfl, _, _, rfl, by decide⟩
      · exact ⟨_, rfl, _, _, rfl, by decide⟩
  | status code body bad =>
      simp only [exchange, receive, postJson, handle, if_neg bad]
      split_ifs
      · exact ⟨_, rfl, _, _, rfl, by decide⟩
      · exact ⟨_, rfl, _, _, rfl, by decide⟩
      · exact ⟨_, rfl, _, _, rfl, by decide⟩
  | nonJson code good =>
      simp only [exchange, receive, postJson, handle, if_pos good]
      exact ⟨_, rfl, _, _, rfl, by decide⟩

/-- A failure that is not mapped passes as it is. -/
theorem receive_of_not_mapped {f : HttpFailure} (h : ¬ f.Mapped) (stage : Stage)
    (timeout : ℕ) :
  ∃ className, receive stage timeout f.exchange = .error (.standardError className)
  := by
  cases f with
  | raised error className message =>
      use className
      cases error with
      | systemCallError => exact absurd (.inl rfl) h
      | openTimeout => exact absurd (.inr (.inl rfl)) h
      | readTimeout => exact absurd (.inr (.inr rfl)) h
      | _ => rfl
  | status code body bad => exact absurd trivial h
  | nonJson code good => exact absurd trivial h

end HttpFailure

/-! ### Transport failures degrade -/

section Runs

variable [FormatAssertion] [Platform]

/-- The run of what an orchestrator does before it handles exceptions: one that the run ends
with fails the job, or the attempt of the job raises it. -/
def attempt (w : World) (job : Job) (χ : ℕ → rails.Choices) :
    (Except Exn (Option Measurement) × MeasurementOrchestrator) × Config rails Unit :=
  (attempted (new job)).run () χ ⟨w, []⟩

/-- A run goes on after a failure of a stage: the failure is an error of the client and not one
of the contract, the next stage begins right after it, and what is measured then is measured on
imagery or without a refined outline. -/
structure GoesOn (stage : Stage) (payload : Json ℚ) (timeout : ℕ) (f : HttpFailure)
    (run : (Except Exn (Option Measurement) × MeasurementOrchestrator) × Config rails Unit) :
    Prop where
  reached : ∃ e, receive stage timeout f.exchange = .error e ∧ Degrading e
  continued : ∀ later earlier,
    run.2.past = later ++ ((), ⟨.post stage payload timeout, .ok f.exchange⟩) :: earlier →
      ∃ request, NextRequest stage (facts earlier) request ∧
        BeginsNext stage request later.reverse
  imagery : stage = ingestLidar → ∀ m, .committed m ∈ facts run.2.past → m.source = "imagery"
  unrefined : stage = refineOutline → ∀ m, .committed m ∈ facts run.2.past →
    m.roofOutline = m.footprint

/-- A run goes on after a failure of an optional stage just when the client maps the failure. Then
the status of the next stage is written and broadcast and its request is posted, and what is
measured is on imagery, or has the footprint for its outline; otherwise what is raised is no error of
the client. -/
theorem goesOn_iff_mapped (w : World) (job : Job) (χ : ℕ → rails.Choices) {stage : Stage}
    (hstage : Optional stage) (payload : Json ℚ) (timeout : ℕ)
    (f : HttpFailure)
    (hposted : ((), ⟨.post stage payload timeout, .ok f.exchange⟩) ∈ (attempt w job χ).2.past) :
  GoesOn stage payload timeout f (attempt w job χ) ↔ f.Mapped
  := by
  constructor
  · intro hgoes
    by_contra hnot
    obtain ⟨e, hreceived, _, _, rfl, -⟩ := hgoes.reached
    obtain ⟨className, hraised⟩ := HttpFailure.receive_of_not_mapped hnot stage timeout
    rw [hraised] at hreceived
    cases hreceived
  · intro hmapped
    obtain ⟨e, hreceived, hdegrading⟩ := HttpFailure.degrading_of_mapped hmapped stage timeout
    have hfact : .posted stage (.error e) ∈ facts (attempt w job χ).2.past := by
      apply List.mem_filterMap.mpr
      refine ⟨_, hposted, ?_⟩
      rw [← hreceived]
      rfl
    have hended : Ended (attempt w job χ).1.2 (attempt w job χ).2 :=
      ended_of_run (triple_attempted_at (R := fun _ _ _ _ => True))
    constructor
    · exact ⟨e, hreceived, hdegrading⟩
    · intro later earlier hpast
      exact settled_run w job χ stage later _ earlier hpast ⟨hstage, hreceived, hdegrading⟩
    · rintro rfl m hm
      obtain ⟨r, hcommits, -⟩ := hended m hm
      obtain ⟨jobId, -, hrow⟩ := hcommits.row
      have hlidar : Except.error e = r.lidar := (posted_lidar_iff hcommits.facts _).mp hfact
      rw [hrow.source_eq, StageRun.source, StageRun.lidarResponse, ← hlidar, orElse,
        lidarIsAvailable_syntheticLidarMissing]
      rfl
    · rintro rfl m hm
      obtain ⟨r, hcommits, -⟩ := hended m hm
      exact (outline_reported hcommits hfact).1

end Runs

/-- The run on a job that has been submitted, on imagery, whose LiDAR stage fails. -/
def failing (f : HttpFailure) : ℕ → rails.Choices :=
  fun _ => choosing (fun _ => none)
    (fun stage => if stage = ingestLidar then f.exchange else imageryExchange [flatFacet] stage)
    .timedOut

/-- A read timeout. -/
def readTimedOut : HttpFailure := .raised .readTimeout "Net::ReadTimeout" "Net::ReadTimeout"

/-- A host name that is not resolved. -/
def unresolved : HttpFailure :=
  .raised .socketError "Socket::ResolutionError" "Failed to open TCP connection"

/-- Whether an event is a request of the LiDAR stage that timed out. -/
def lidarTimedOut : Unit × Event application → Bool
  | (_, ⟨.post stage _ _, .ok (.timeout message)⟩) =>
      stage = ingestLidar && message = "Net::ReadTimeout"
  | _ => false

/-- Whether an event is a request of the LiDAR stage for which no host was found. -/
def lidarUnresolved : Unit × Event application → Bool
  | (_, ⟨.post stage _ _, .ok (.raised className)⟩) =>
      stage = ingestLidar && className = "Socket::ResolutionError"
  | _ => false

/-- A timeout of the LiDAR stage is a failure that the client maps, and the run goes on with the
next stage. -/
theorem goesOn_iff_mapped_readTimedOut :
  ∃ payload timeout,
    ((), ⟨.post ingestLidar payload timeout, .ok readTimedOut.exchange⟩) ∈
      (@attempt anyFormat plainPlatform submittedJob (Job.ofRow submittedJob.job)
        (failing readTimedOut)).2.past ∧
    (@GoesOn anyFormat ingestLidar payload timeout readTimedOut
      (@attempt anyFormat plainPlatform submittedJob (Job.ofRow submittedJob.job)
        (failing readTimedOut)) ↔
      readTimedOut.Mapped)
  := by
  have hposted : (@attempt anyFormat plainPlatform submittedJob (Job.ofRow submittedJob.job)
      (failing readTimedOut)).2.past.any lidarTimedOut = true := by
    decide +kernel
  obtain ⟨⟨_, o, answer⟩, hmem, he⟩ := List.any_eq_true.mp hposted
  unfold lidarTimedOut at he
  split at he
  · next stage payload timeout message heq =>
    simp only [Bool.and_eq_true, decide_eq_true_eq] at he
    obtain ⟨rfl, rfl⟩ := he
    cases heq
    exact ⟨payload, timeout, hmem,
      @goesOn_iff_mapped anyFormat plainPlatform _ _ _ ingestLidar (.inl rfl) payload timeout
        readTimedOut hmem⟩
  · cases he

/-- A name that is not resolved during the LiDAR stage ends the run, and the attempt of the job
raises it. -/
theorem unresolved_ends_run :
  (∃ payload timeout,
    ((), ⟨.post ingestLidar payload timeout, .ok unresolved.exchange⟩) ∈
      (@attempt anyFormat plainPlatform submittedJob (Job.ofRow submittedJob.job)
        (failing unresolved)).2.past ∧
    ¬ @GoesOn anyFormat ingestLidar payload timeout unresolved
      (@attempt anyFormat plainPlatform submittedJob (Job.ofRow submittedJob.job)
        (failing unresolved))) ∧
    ((@GeometryJob.perform anyFormat plainPlatform 1).run () (failing unresolved)
      ⟨submittedJob, []⟩).1.toOption.isNone
  := by
  have hposted : (@attempt anyFormat plainPlatform submittedJob (Job.ofRow submittedJob.job)
      (failing unresolved)).2.past.any lidarUnresolved = true := by
    decide +kernel
  constructor
  · obtain ⟨⟨_, o, answer⟩, hmem, he⟩ := List.any_eq_true.mp hposted
    unfold lidarUnresolved at he
    split at he
    · next stage payload timeout className heq =>
      simp only [Bool.and_eq_true, decide_eq_true_eq] at he
      obtain ⟨rfl, rfl⟩ := he
      cases heq
      use payload, timeout, hmem
      intro hgoes
      obtain ⟨e, hreceived, _, _, rfl, -⟩ := @GoesOn.reached anyFormat _ _ _ _ _ hgoes
      cases hreceived
    · cases he
  · decide +kernel

end TransportFailures

end Rails
