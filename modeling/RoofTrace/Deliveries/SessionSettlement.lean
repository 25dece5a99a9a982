import RoofTrace.Deliveries.AppendedWarnings
import RoofTrace.Rails.Deliveries
import RoofTrace.Rails.Rows

/-!
# The settlement of capture sessions

What the deliveries of the fusion jobs of several capture sessions come to. The check for a
fused measurement looks at the job, so that a session may be taken to be fused because
another one is; the check, the insertion, the announcement and the enqueuing are separate
operations, so that deliveries of one session may both insert, and an exception after the
insertion leaves a measurement whose projection is never enqueued; and a warning is written
together with the warnings that were read before. In a run in which none of this happens,
every session is settled: fused once, with a projection enqueued afterwards, or not fused,
with a warning on a measurement that its own delivery has appended.
-/

namespace Rails

open Effects FusionOrchestrator SidecarClient AppendedWarnings

namespace SessionSettlement

variable {ι : Type} {i j : ι}

/-! ### What has happened -/

/-- The measurement that an operation has inserted. -/
def insertedRow : Event application → Option Measurement
  | ⟨.insertMeasurement _, .ok m⟩ => some m
  | _ => none

/-- Whether an operation has found the job not to be fused. -/
def findsUnfused : Event application → Bool
  | ⟨.latestMeasurement .alreadyFused, .ok latest⟩ => !latest.any (·.source == fusedSource)
  | _ => false

/-- Whether another delivery of the session of `i` has inserted a measurement since `i` has
found the job not to be fused. -/
def overlapped [DecidableEq ι] (session : ι → String) (i : ι) :
    List (ι × Event application) → Bool
  | [] => false
  | (j, e) :: past =>
      (j ≠ i && session j = session i && (insertedRow e).isSome) ||
        (!(j = i && findsUnfused e) && overlapped session i past)

/-- The measurements that the fusion of a session has made. -/
def rowsOf (session : String) (measurements : List Measurement) : List Measurement :=
  measurements.filter (·.fusionSessionId = .str session)

/-- Whether a measurement has a warning now. -/
def Bears (w : World) (id : ℕ) (message : String) : Prop :=
  ∃ m ∈ w.measurements, m.id = id ∧ .str message ∈ m.warnings

/-- Whether the delivery of `i` has recorded that its session is not fused: it has appended a
warning to a measurement that still has it, before it announced the failure of the fusion or
for the exhaustion of the job. -/
inductive Recorded [Platform] (i : ι) (c : Config rails ι) : Prop where
  | announced {rmse : Json ℚ} {answer : Except Exn Unit} {message : String} {reader : Reader}
      {m : Measurement}
      (failed : (i, ⟨.broadcastFusionStatus .failed rmse, answer⟩) ∈ c.past)
      (failure : FailureMessage rmse message)
      (reads : reader = .prior ∨ reader = .failureWarning)
      (appended : AppendedTo i reader message m c.past) (bears : Bears c.world m.id message) :
      Recorded i c
  | exhausted {m : Measurement}
      (appended : AppendedTo i .failureWarning "fusion_job_exhausted" m c.past)
      (bears : Bears c.world m.id "fusion_job_exhausted") :
      Recorded i c

/-- Whether the fusion of a session has made a measurement, and a projection was enqueued
after its insertion. -/
def Projected (session : String) (w : World) : Prop :=
  ∃ m ∈ rowsOf session w.measurements, ∃ n ∈ w.projectionJobs, m.id < n

/-! ### Orderly steps -/

/-- Whether a step of the delivery of a session is orderly. A delivery that finds the job to
be fused belongs to a session that is; none has been overlapped when it inserts; nothing is
raised between the insertion and the enqueuing, nor where the last attempt is recorded; and
no warning is lost when warnings are written. -/
def orderly [DecidableEq ι] (session : ι → String) (i : ι) (o : Op) (χ : o.Choice)
    (c : Config rails ι) : Bool :=
  let succeeds : Bool := (c.answer o χ).isOk
  match o with
  | .findJob n => n < FusionJob.maxAttempts || succeeds
  | .latestMeasurement .alreadyFused =>
      !(c.world.latestMeasurement.any (·.source == fusedSource)) ||
        !(rowsOf (session i) c.world.measurements).isEmpty
  | .latestMeasurement .failureWarning => succeeds
  | .insertMeasurement _ => !succeeds || !overlapped session i c.past
  | .broadcastFusionStatus .complete _ => succeeds
  | .enqueueProjectionJob => succeeds
  | .updateWarnings id warnings =>
      c.world.measurements.all
          (fun m => m.id ≠ id || m.warnings.all warnings.contains) &&
        (warnings.getLast? ≠ some (.str "fusion_job_exhausted") || succeeds)
  | _ => true

def Orderly [DecidableEq ι] (session : ι → String) : StepPred rails ι := fun i o χ c =>
  orderly session i o χ c = true

/-- A row that is inserted is one of the session, late and the first. -/
def InsertsFirst (session : ι → String) (start : ℕ) : StepPred rails ι := fun i o χ c =>
  match o with
  | .insertMeasurement m =>
      (c.answer (.insertMeasurement m) χ).isOk = true →
        m.source = fusedSource ∧
          m.provenance.get Measurement.fusionSessionIdKey = .str (session i) ∧
          start < m.generatedAt ∧ rowsOf (session i) c.world.measurements = []
  | .commit _ _ => False
  | _ => True

def settlementProtocol [DecidableEq ι] (session : ι → String) (start : ℕ) :
    Protocol rails ι where
  ok := Orderly session
  guar := InsertsFirst session start

/-! ### What a step does -/

section Steps

variable {session : ι → String} {start : ℕ} {o : Op} {χ : rails.Choice o} {c : Config rails ι}

/-- What is known of a row that `i` inserts. -/
structure Inserts (session : ι → String) (start : ℕ) (i : ι) (c : Config rails ι)
    (m : Measurement) : Prop where
  id : m.id = c.world.measurements.length
  source : m.source = fusedSource
  ofSession : m.fusionSessionId = .str (session i)
  late : start < m.generatedAt
  first : rowsOf (session i) c.world.measurements = []

/-- An operation inserts no row and may write warnings, or it inserts a row as guaranteed. -/
theorem measurements_after (h : InsertsFirst session start i o χ c) :
  (insertedRow ⟨o, c.answer o χ⟩ = none ∧
      ((c.after i o χ).world.measurements = c.world.measurements ∨
        ∃ id warnings, o = .updateWarnings id warnings ∧
          (c.after i o χ).world.measurements =
            (c.world.updateWarnings id warnings).measurements)) ∨
    ∃ m, o.inserted.isSome = true ∧ insertedRow ⟨o, c.answer o χ⟩ = some m ∧
      Inserts session start i c m ∧
        (c.after i o χ).world.measurements = c.world.measurements ++ [m]
  := by
  cases o with
  | insertMeasurement m =>
      cases χ with
      | some className => exact .inl ⟨rfl, .inl rfl⟩
      | none =>
          cases hvalid : m.valid with
          | false =>
              left
              simp only [Config.answer, Config.after, exec, unlessRaised, hvalid]
              exact ⟨rfl, .inl rfl⟩
          | true =>
              have hanswer : c.answer (.insertMeasurement m) (none : Option String)
                  = .ok ⟨m, c.world.measurements.length⟩ := by
                simp only [Config.answer, exec, unlessRaised, hvalid, if_true]
              obtain ⟨hsource, hsession, hlate, hfirst⟩ := h (by rw [hanswer]; rfl)
              right
              refine ⟨⟨m, c.world.measurements.length⟩, rfl, ?_, ⟨rfl, hsource, hsession, hlate,
                hfirst⟩, ?_⟩
              · rw [hanswer]
                rfl
              · simp only [Config.after, exec, unlessRaised, hvalid, if_true]
                rfl
  | updateWarnings id warnings =>
      left
      cases χ with
      | some className => exact ⟨rfl, .inl rfl⟩
      | none => exact ⟨rfl, .inr ⟨id, warnings, rfl, rfl⟩⟩
  | commit m changes => exact h.elim
  | ingestCaptureSession captureSession captures =>
      left
      use rfl
      left
      cases χ with
      | some className => rfl
      | none =>
          simp only [Config.after, exec, unlessRaised]
          split <;> rfl
  | _ => exact .inl ⟨rfl, .inl (by first | rfl | (cases χ <;> rfl))⟩

/-- Writing warnings does not change which rows are of a session. -/
theorem rowsOf_updateWarnings (s : String) (w : World) (id : ℕ) (warnings : List (Json ℚ)) :
  rowsOf s (w.updateWarnings id warnings).measurements =
    (rowsOf s w.measurements).map fun m => if m.id = id then { m with warnings := warnings } else m
  := by
  simp only [rowsOf, World.updateWarnings, List.filter_map]
  congr 2
  funext m
  simp only [Function.comp_apply]
  split_ifs <;> rfl

theorem rowsOf_append (s : String) (measurements : List Measurement) (m : Measurement) :
  rowsOf s (measurements ++ [m]) =
    rowsOf s measurements ++ if m.fusionSessionId = .str s then [m] else []
  := by
  simp only [rowsOf, List.filter_append, List.filter_singleton]
  split_ifs with h <;> simp [h]

/-- A row is kept with its warnings, others may be added. -/
theorem row_after (hfirst : InsertsFirst session start j o χ c) [DecidableEq ι]
    (horderly : Orderly session j o χ c) {m : Measurement} (hm : m ∈ c.world.measurements) :
  ∃ m' ∈ (c.after j o χ).world.measurements, m'.id = m.id ∧ m.warnings ⊆ m'.warnings
  := by
  rcases measurements_after hfirst with ⟨-, hsame | ⟨id, warnings, rfl, hafter⟩⟩ |
    ⟨inserted, -, -, -, hafter⟩
  · rw [hsame]
    exact ⟨m, hm, rfl, List.Subset.refl _⟩
  · rw [hafter]
    refine ⟨_, List.mem_map_of_mem hm, ?_⟩
    split_ifs with hid
    · refine ⟨rfl, ?_⟩
      have hall : ∀ m ∈ c.world.measurements, m.id = id → m.warnings ⊆ warnings := by
        intro m hm hid warning hwarning
        simp only [Orderly, orderly, Bool.and_eq_true, List.all_eq_true, Bool.or_eq_true,
          decide_eq_true_eq] at horderly
        rcases horderly.1 m hm with hother | hkeeps
        · exact absurd hid hother
        · exact List.contains_iff_mem.mp (hkeeps warning hwarning)
      exact hall m hm hid
    · exact ⟨rfl, List.Subset.refl _⟩
  · rw [hafter]
    exact ⟨m, List.mem_append_left _ hm, rfl, List.Subset.refl _⟩

end Steps

/-! ### What every step keeps -/

/-- Whether `i` has inserted a row of the given number. -/
def Inserted (i : ι) (id : ℕ) (past : List (ι × Event application)) : Prop :=
  ∃ e, (i, e) ∈ past ∧ ∃ m ∈ insertedRow e, m.id = id

/-- The rows of the sessions are those that were inserted, and they are later than the others;
no session has more than one. -/
structure Inv (session : ι → String) (start : ℕ) (c : Config rails ι) : Prop where
  clock : start ≤ c.world.clock
  measured : c.world.measurements ≠ []
  rows : ∀ m ∈ c.world.measurements,
    (m.generatedAt ≤ start ∧ ∀ i, m.fusionSessionId ≠ .str (session i)) ∨
      (start < m.generatedAt ∧ m.source = fusedSource ∧
        ∃ i, m.fusionSessionId = .str (session i) ∧ Inserted i m.id c.past)
  once : ∀ i, (rowsOf (session i) c.world.measurements).length ≤ 1

section Kept

variable {session : ι → String} {start : ℕ} {o : Op} {χ : rails.Choice o} {c : Config rails ι}

theorem Inserted.after {id : ℕ} (h : Inserted i id c.past) :
  Inserted i id (c.after j o χ).past
  := by
  obtain ⟨e, he, hm⟩ := h
  exact ⟨e, List.mem_cons_of_mem _ he, hm⟩

/-- What has been inserted was inserted before, or by the last step. -/
theorem inserted_of_after {id : ℕ} (h : Inserted i id (c.after j o χ).past) :
  Inserted i id c.past ∨ (j = i ∧ ∃ m ∈ insertedRow ⟨o, c.answer o χ⟩, m.id = id)
  := by
  obtain ⟨e, he, hm⟩ := h
  rcases List.mem_cons.mp he with heq | hbefore
  · cases heq
    exact .inr ⟨rfl, hm⟩
  · exact .inl ⟨e, hbefore, hm⟩

theorem inv_after (hfirst : InsertsFirst session start j o χ c) (h : Inv session start c) :
  Inv session start (c.after j o χ)
  := by
  have hclock : start ≤ (c.after j o χ).world.clock :=
    h.clock.trans (clock_le_exec o χ c.world)
  rcases measurements_after hfirst with ⟨-, hsame | ⟨id, warnings, -, hafter⟩⟩ |
    ⟨inserted, -, hrow, hinserts, hafter⟩
  · constructor
    · exact hclock
    · rw [hsame]
      exact h.measured
    · rw [hsame]
      intro m hm
      rcases h.rows m hm with hold | ⟨hlate, hsource, k, hsession, hinserted⟩
      · exact .inl hold
      · exact .inr ⟨hlate, hsource, k, hsession, hinserted.after⟩
    · rw [hsame]
      exact h.once
  · constructor
    · exact hclock
    · rw [hafter]
      simpa [World.updateWarnings] using h.measured
    · rw [hafter]
      intro m' hm'
      obtain ⟨m, hm, rfl⟩ := List.mem_map.mp hm'
      have hrow := h.rows m hm
      split_ifs <;> (
        rcases hrow with hold | ⟨hlate, hsource, k, hsession, hinserted⟩
        · exact .inl hold
        · exact .inr ⟨hlate, hsource, k, hsession, hinserted.after⟩)
    · intro k
      rw [hafter, rowsOf_updateWarnings, List.length_map]
      exact h.once k
  · constructor
    · exact hclock
    · rw [hafter]
      simp
    · rw [hafter]
      intro m hm
      rcases List.mem_append.mp hm with hbefore | hnew
      · rcases h.rows m hbefore with hold | ⟨hlate, hsource, k, hsession, hinserted⟩
        · exact .inl hold
        · exact .inr ⟨hlate, hsource, k, hsession, hinserted.after⟩
      · rw [List.mem_singleton.mp hnew]
        right
        refine ⟨hinserts.late, hinserts.source, j, hinserts.ofSession, ?_⟩
        exact ⟨_, List.mem_cons_self, inserted, hrow, rfl⟩
    · intro k
      rw [hafter, rowsOf_append]
      split_ifs with hsession
      · have hsame : session j = session k := by
          rw [hinserts.ofSession] at hsession
          exact Json.str.inj hsession
        rw [← hsame, hinserts.first]
        exact Nat.le_refl 1
      · rw [List.append_nil]
        exact h.once k

/-- A session that has a row keeps it. -/
theorem rowsOf_after_ne_nil (hfirst : InsertsFirst session start j o χ c) {s : String}
    (h : rowsOf s c.world.measurements ≠ []) :
  rowsOf s (c.after j o χ).world.measurements ≠ []
  := by
  rcases measurements_after hfirst with ⟨-, hsame | ⟨id, warnings, -, hafter⟩⟩ |
    ⟨inserted, -, -, -, hafter⟩
  · rw [hsame]
    exact h
  · rw [hafter, rowsOf_updateWarnings]
    simpa using h
  · rw [hafter, rowsOf_append]
    simp [h]

/-- A job that is found not to be fused has no row of a session. -/
theorem rowsOf_eq_nil_of_unfused (h : Inv session start c)
    (hunfused : c.world.latestMeasurement.any (·.source == fusedSource) = false) (i : ι) :
  rowsOf (session i) c.world.measurements = []
  := by
  rw [rowsOf, List.filter_eq_nil_iff]
  intro m hm hsession
  rw [decide_eq_true_eq] at hsession
  obtain ⟨latest, hlatest⟩ : ∃ latest, c.world.latestMeasurement = some latest := by
    cases hargmax : c.world.latestMeasurement with
    | some latest => exact ⟨latest, rfl⟩
    | none => exact absurd (List.argmax_eq_none.mp hargmax) h.measured
  have hlate : start < latest.generatedAt := by
    rcases h.rows m hm with ⟨-, hother⟩ | ⟨hlate, -⟩
    · exact absurd hsession (hother i)
    · exact hlate.trans_le
        (List.le_of_mem_argmax (f := fun m : Measurement => m.generatedAt) hm hlatest)
  rcases h.rows latest (List.argmax_mem hlatest) with ⟨hold, -⟩ | ⟨-, hsource, -⟩
  · omega
  · simp [hlatest, hsource] at hunfused

end Kept

/-! ### What persists -/

/-- An assertion that is kept by the steps of the others, and by those of `i` that insert
nothing. -/
def Persists [DecidableEq ι] (session : ι → String) (start : ℕ) (i : ι)
    (B : Config rails ι → Prop) : Prop :=
  ∀ j o χ c, Orderly session j o χ c → InsertsFirst session start j o χ c →
    (j = i → o.inserted = none) → B c → B (c.after j o χ)

/-- Whether `i` may take it that its session has no row yet. -/
def First [DecidableEq ι] (session : ι → String) (i : ι) (c : Config rails ι) : Prop :=
  overlapped session i c.past = false → rowsOf (session i) c.world.measurements = []

/-- Whether a projection was enqueued after every row that `i` has inserted, but for `id`. -/
def AnnouncedBut (id : Option ℕ) (i : ι) (c : Config rails ι) : Prop :=
  ∀ id', Inserted i id' c.past → some id' = id ∨ ∃ n ∈ c.world.projectionJobs, id' < n

section Persisting

variable [DecidableEq ι] {session : ι → String} {start : ℕ}

omit [DecidableEq ι] in
theorem guar_of_not_inserted {o : Op} (ho : o.inserted = none) (χ : rails.Choice o)
    (c : Config rails ι) :
  InsertsFirst session start i o χ c
  := by
  cases o with
  | insertMeasurement m => cases ho
  | commit m changes => cases ho
  | _ => trivial

namespace Persists

variable {B C : Config rails ι → Prop}

theorem and (hB : Persists session start i B) (hC : Persists session start i C) :
  Persists session start i fun c => B c ∧ C c
  := fun j o χ c hok hfirst hi h =>
    ⟨hB j o χ c hok hfirst hi h.1, hC j o χ c hok hfirst hi h.2⟩

theorem stable (h : Persists session start i B) :
  (settlementProtocol session start).Stable i B
  := by
  rintro c c' ⟨j, hj, o, χ, hok, hfirst, rfl⟩ hB
  exact h j o χ c hok hfirst (fun heq => absurd heq hj) hB

theorem own (h : Persists session start i B) {o : Op} (ho : o.inserted = none)
    {χ : rails.Choice o} {c : Config rails ι} (hok : Orderly session i o χ c) (hB : B c) :
  InsertsFirst session start i o χ c ∧ B (c.after i o χ)
  := by
  have hfirst : InsertsFirst session start i o χ c := guar_of_not_inserted ho χ c
  exact ⟨hfirst, h i o χ c hok hfirst (fun _ => ho) hB⟩

theorem undisturbed (h : Persists session start i B) :
  Undisturbed (settlementProtocol session start) i B
  where
  stable := h.stable
  quiet o χ c ho hok hB := by
    apply h.own _ hok hB
    cases o <;> first | rfl | cases ho

end Persists

theorem persists_inv :
  Persists session start i (Inv session start)
  := fun _ _ _ _ _ hfirst _ h => inv_after hfirst h

theorem persists_announcedBut (id : Option ℕ) :
  Persists session start i (AnnouncedBut id i)
  := by
  intro j o χ c _ _ hi h id' hinserted
  rcases inserted_of_after hinserted with hbefore | ⟨rfl, m, hm, rfl⟩
  · rcases h id' hbefore with hbut | ⟨n, hn, hlt⟩
    · exact .inl hbut
    · exact .inr ⟨n, projectionJob_kept hn, hlt⟩
  · have hnone := hi rfl
    cases o with
    | insertMeasurement m' => cases hnone
    | _ => cases hm

theorem persists_length (id : ℕ) :
  Persists session start i fun c => id < c.world.measurements.length
  := by
  intro j o χ c _ hfirst _ h
  rcases measurements_after hfirst with ⟨-, hsame | ⟨id, warnings, -, hafter⟩⟩ |
    ⟨inserted, -, -, -, hafter⟩
  · rw [hsame]
    exact h
  · rw [hafter]
    simpa [World.updateWarnings] using h
  · rw [hafter, List.length_append]
    exact Nat.lt_add_right _ h

/-- Whatever another delivery inserts overlaps with `i`, or is of another session. -/
theorem persists_first :
  Persists session start i fun c => Inv session start c ∧ First session i c
  := by
  rintro j o χ c hok hfirst hi ⟨hinv, h⟩
  refine ⟨inv_after hfirst hinv, fun hover => ?_⟩
  simp only [Config.after_past, overlapped, Bool.or_eq_false_iff, Bool.and_eq_false_iff,
    Bool.not_eq_false'] at hover
  obtain ⟨hother, hown⟩ := hover
  have hbefore : rowsOf (session i) c.world.measurements = [] := by
    rcases hown with hunfused | hover
    · simp only [Bool.and_eq_true, decide_eq_true_eq] at hunfused
      obtain ⟨rfl, hunfused⟩ := hunfused
      apply rowsOf_eq_nil_of_unfused hinv
      cases o with
      | latestMeasurement reader =>
          cases χ with
          | none =>
              cases reader with
              | alreadyFused =>
                  simpa [findsUnfused, Config.answer, exec, unlessRaised] using hunfused
              | _ => cases hunfused
          | some className => cases reader <;> cases hunfused
      | _ => cases hunfused
    · exact h hover
  rcases measurements_after hfirst with ⟨-, hsame | ⟨id, warnings, -, hafter⟩⟩ |
    ⟨inserted, hins, hrow, hinserts, hafter⟩
  · rw [hsame]
    exact hbefore
  · rw [hafter, rowsOf_updateWarnings, hbefore]
    rfl
  · have hne : j ≠ i := by
      intro heq
      rw [hi heq] at hins
      cases hins
    rw [hafter, rowsOf_append, hbefore, List.nil_append, if_neg]
    intro hsession
    rw [hinserts.ofSession] at hsession
    have hsame : session j = session i := Json.str.inj hsession
    simp [hne, hsame, hrow] at hother

end Persisting

/-! ### The rule of a delivery -/

/-- What holds whenever a delivery neither has inserted nor is about to insert. -/
def Base [DecidableEq ι] (session : ι → String) (start : ℕ) (i : ι) (c : Config rails ι) : Prop :=
  Inv session start c ∧ AnnouncedBut none i c

/-- What holds once the job has been found not to be fused. -/
def Refining [DecidableEq ι] (session : ι → String) (start : ℕ) (i : ι)
    (c : Config rails ι) : Prop :=
  (Inv session start c ∧ First session i c) ∧ AnnouncedBut none i c

/-- What holds once a delivery has inserted a row. -/
structure HasInserted [DecidableEq ι] (session : ι → String) (start : ℕ) (i : ι)
    (m : Measurement) (c : Config rails ι) : Prop where
  inv : Inv session start c
  announced : AnnouncedBut (some m.id) i c
  counted : m.id < c.world.measurements.length

section Rule

variable [DecidableEq ι] {session : ι → String} {start : ℕ}

theorem persists_base :
  Persists session start i (Base session start i)
  := persists_inv.and (persists_announcedBut none)

theorem persists_refining :
  Persists session start i (Refining session start i)
  := persists_first.and (persists_announcedBut none)

theorem persists_hasInserted (m : Measurement) :
  Persists session start i (HasInserted session start i m)
  := by
  intro j o χ c hok hfirst hi h
  constructor
  · exact persists_inv j o χ c hok hfirst hi h.inv
  · exact persists_announcedBut _ j o χ c hok hfirst hi h.announced
  · exact persists_length _ j o χ c hok hfirst hi h.counted

theorem Refining.base {c : Config rails ι} (h : Refining session start i c) :
  Base session start i c
  := ⟨h.1.1, h.2⟩

/-- An operation that inserts nothing, when what it answers does not matter. -/
theorem takes_of_persists {A : Config rails ι → Prop} {o : Op}
    (hA : Persists session start i A) (ho : o.inserted = none) :
  Takes (settlementProtocol session start) i o A (fun _ => A) A
  where
  stable := hA.stable
  step χ c hok hc := by
    obtain ⟨hguar, hafter⟩ := hA.own ho hok hc
    use hguar
    split <;> exact hafter

theorem triple_of_persists {σ : Type} {A : Config rails ι → Prop} {o : Op}
    (hA : Persists session start i A) (ho : o.inserted = none) :
  (settlementProtocol session start).Triple i (fun _ : σ => A) (perform o) (fun _ _ => A)
    (fun e _ c => e.expected = false ∧ A c)
  := (takes_of_persists hA ho).triple

/-- The writing of a warning inserts nothing. -/
theorem triple_appendFailureWarning {σ : Type} {A : Config rails ι → Prop}
    (hA : Persists session start i A) (message : String) (prior : Option Measurement) :
  (settlementProtocol session start).Triple i (fun _ : σ => A)
    (appendFailureWarning message prior) (fun _ _ => A) (fun e _ c => e.expected = false ∧ A c)
  := by
  have hwarn (m : Measurement) :
      (settlementProtocol session start).Triple i (fun _ : σ => A) (warn message m)
        (fun _ _ => A) (fun e _ c => e.expected = false ∧ A c) := by
    unfold warn
    split
    · exact Protocol.Triple.ret fun _ _ hc => hc
    · exact triple_of_persists hA rfl
  cases prior with
  | some m => exact hwarn m
  | none =>
      apply Protocol.Triple.bind (triple_of_persists hA rfl)
      intro latest
      cases latest with
      | some m => exact hwarn m
      | none => exact Protocol.Triple.ret fun _ _ hc => hc

/-- The row of a fusion is of the capture session. -/
theorem fusionSessionId_fusedMeasurement (captureSession : CaptureSession) (prior : Measurement)
    (response : Json ℚ) (now : ℕ) :
  (fusedMeasurement captureSession prior response now).provenance.get
    Measurement.fusionSessionIdKey = .str captureSession.id
  := by
  have hbase : ∃ members, (if Ruby.isHash prior.provenance then prior.provenance else .obj [])
      = .obj members := by
    cases prior.provenance with
    | obj members => exact ⟨members, rfl⟩
    | _ => exact ⟨[], rfl⟩
  obtain ⟨members, hmembers⟩ := hbase
  simp only [fusedMeasurement, fusedProvenance, hmembers]
  apply Ruby.get_merge members [("fusion_icp_rmse_m", response.get "icp_rmse_m")]
  intro m hm
  rcases List.mem_cons.mp hm with rfl | hm
  · exact show "fusion_capture_mesh_ref" ≠ Measurement.fusionSessionIdKey by decide
  · have hcompact := (List.mem_filter.mp hm).1
    simp only [List.mem_cons, List.not_mem_nil, or_false] at hcompact
    rcases hcompact with rfl | rfl
    · exact show Measurement.fusionArkitToUtmKey ≠ Measurement.fusionSessionIdKey by decide
    · exact show Measurement.fusionUtmEpsgKey ≠ Measurement.fusionSessionIdKey by decide

theorem takes_insert {captureSession : CaptureSession} (hsession : captureSession.id = session i)
    (prior : Measurement) (response : Json ℚ) {now : ℕ} (hlate : start < now) :
  Takes (settlementProtocol session start) i
    (.insertMeasurement (fusedMeasurement captureSession prior response now))
    (Refining session start i) (HasInserted session start i) (Base session start i)
  where
  stable := persists_refining.stable
  step χ c hok hrefining := by
    have hguar : InsertsFirst session start i
        (.insertMeasurement (fusedMeasurement captureSession prior response now)) χ c := by
      intro hinserts
      refine ⟨rfl, ?_, hlate, ?_⟩
      · rw [fusionSessionId_fusedMeasurement, hsession]
      · apply hrefining.1.2
        simpa [settlementProtocol, Orderly, orderly, hinserts] using hok
    use hguar
    have hinv := inv_after hguar hrefining.1.1
    cases hanswer : c.answer (.insertMeasurement
        (fusedMeasurement captureSession prior response now)) χ with
    | error e =>
        refine ⟨hinv, ?_⟩
        intro id hinserted
        rcases inserted_of_after hinserted with hbefore | ⟨-, m, hm, -⟩
        · rcases hrefining.2 id hbefore with hnone | ⟨n, hn, hlt⟩
          · cases hnone
          · exact .inr ⟨n, projectionJob_kept hn, hlt⟩
        · rw [hanswer] at hm
          cases hm
    | ok m =>
        rcases measurements_after hguar with ⟨hnone, -⟩ | ⟨m', -, hrow, hinserts, hafter⟩
        · rw [hanswer] at hnone
          cases hnone
        · rw [hanswer] at hrow
          cases hrow
          constructor
          · exact hinv
          · intro id hinserted
            rcases inserted_of_after hinserted with hbefore | ⟨-, m', hm', rfl⟩
            · rcases hrefining.2 id hbefore with hnone | ⟨n, hn, hlt⟩
              · cases hnone
              · exact .inr ⟨n, projectionJob_kept hn, hlt⟩
            · rw [hanswer] at hm'
              cases hm'
              exact .inl rfl
          · rw [hafter, hinserts.id, List.length_append]
            exact Nat.lt_succ_self _

theorem takes_complete (m : Measurement) (rmse : Json ℚ) :
  Takes (settlementProtocol session start) i (.broadcastFusionStatus .complete rmse)
    (HasInserted session start i m) (fun _ => HasInserted session start i m)
    (Base session start i)
  where
  stable := (persists_hasInserted m).stable
  step χ c hok hc := by
    obtain ⟨hguar, hafter⟩ := (persists_hasInserted m).own rfl hok hc
    use hguar
    cases χ with
    | none => exact hafter
    | some className =>
        simp [settlementProtocol, Orderly, orderly, Config.answer, exec, unlessRaised,
          Except.isOk, Except.toBool] at hok

/-- Once the projection is enqueued, the delivery has announced all its rows. -/
theorem takes_enqueue (m : Measurement) :
  Takes (settlementProtocol session start) i .enqueueProjectionJob
    (HasInserted session start i m) (fun _ => Base session start i) (Base session start i)
  where
  stable := (persists_hasInserted m).stable
  step χ c hok hc := by
    obtain ⟨hguar, hafter⟩ := (persists_hasInserted m).own rfl hok hc
    use hguar
    cases χ with
    | some className =>
        simp [settlementProtocol, Orderly, orderly, Config.answer, exec, unlessRaised,
          Except.isOk, Except.toBool] at hok
    | none =>
        refine ⟨hafter.inv, ?_⟩
        intro id hinserted
        right
        rcases hafter.announced id hinserted with hown | hother
        · cases hown
          exact ⟨c.world.measurements.length,
            List.mem_append_right _ (List.mem_singleton_self _), hc.counted⟩
        · exact hother

variable [FormatAssertion] [Platform]

/-- What a fusion does, once the job has been found not to be fused. -/
theorem fusionSpec {captureSession : CaptureSession} (hsession : captureSession.id = session i) :
  FusionSpec (settlementProtocol session start) i captureSession (fun _ => True)
    (fun now => start < now) (Refining session start i) (fun _ => Refining session start i)
    (Base session start i) (Base session start i) (HasInserted session start i)
    (fun _ => Base session start i)
  where
  read := by
    constructor
    · exact persists_refining.stable
    · intro χ c hok hc
      obtain ⟨hguar, hafter⟩ := persists_refining.own (o := .latestMeasurement .prior) rfl hok hc
      use hguar
      cases χ with
      | some className => exact hafter.base
      | none => exact hafter
  undisturbed _ := persists_refining.undisturbed
  undisturbedWarned := persists_base.undisturbed
  undisturbedError := persists_base.undisturbed
  goodResponse _ _ _ := trivial
  lateTime {prior c passed} hc := by
    have := hc.1.1.clock
    omega
  skip prior _ := by
    apply (triple_appendFailureWarning persists_refining _ prior).post
    · exact fun _ _ _ hc => hc.base
    · exact fun _ _ _ hc => ⟨hc.1, hc.2.base⟩
  unaligned prior response _ _ _ := by
    apply (triple_appendFailureWarning persists_refining _ (some prior)).post
    · exact fun _ _ _ hc => hc.base
    · exact fun _ _ _ hc => ⟨hc.1, hc.2.base⟩
  failed prior := by
    apply (triple_appendFailureWarning persists_refining _ prior).post
    · exact fun _ _ _ hc => hc.base
    · exact fun _ _ _ hc => hc.2.base
  insert prior response now _ _ _ hlate := takes_insert hsession prior response hlate
  complete m rmse := takes_complete m rmse
  enqueue m := takes_enqueue m
  error hc := hc.base
  warned hc := hc

/-- A delivery looks for a fused measurement, and then fuses. -/
theorem attemptSpec :
  FusionAttemptSpec (settlementProtocol session start) i (session i) (Base session start i)
    (Refining session start i) (Base session start i) (Base session start i)
    (Base session start i) (fun _ => Base session start i)
  where
  undisturbed := persists_base.undisturbed
  check := by
    constructor
    · exact persists_base.stable
    · intro χ c hok hc
      obtain ⟨hguar, hafter⟩ :=
        persists_base.own (o := .latestMeasurement .alreadyFused) rfl hok hc
      use hguar
      cases χ with
      | some className => exact hafter
      | none =>
          cases hfused : c.world.latestMeasurement.any (·.source == fusedSource) with
          | true =>
              simp only [Config.answer, exec, unlessRaised, hfused, if_true]
              exact hafter
          | false =>
              have hfirst := rowsOf_eq_nil_of_unfused hc.1 hfused i
              simp only [Config.answer, exec, unlessRaised, hfused, Bool.false_eq_true, if_false]
              exact ⟨⟨hafter.1, fun _ => hfirst⟩, hafter.2⟩
  call _ hsession := (fusionSpec hsession).triple_call
  error hc := hc

omit [FormatAssertion] [Platform] in
/-- Recording a failure inserts nothing. -/
theorem keeps_recordFailure (n : ℕ) (e : Exn) :
  (settlementProtocol session start).Keeps i (fun _ => Base session start i)
    (FusionJob.recordFailure n e)
  := by
  unfold FusionJob.recordFailure
  split
  · apply (triple_appendFailureWarning persists_base _ none).post
    · exact fun _ _ _ hc => hc
    · exact fun _ _ _ hc => hc.2
  · apply Protocol.Triple.bind (B := fun _ _ => Base session start i)
    · exact Protocol.Triple.modifying fun _ _ hc => hc
    · intro _
      apply (Job.triple_save (A := fun _ => Base session start i)
        (B := fun _ => Base session start i) (E := fun _ => Base session start i) _ _ _).post
      · exact fun _ _ _ hc => hc
      · exact fun _ _ _ hc => hc.2
      · exact fun _ => persists_base.stable
      · exact fun _ _ hc _ => hc
      · intro job c χ hc _ hok
        obtain ⟨hguar, hafter⟩ := persists_base.own (o := .updateJob job.changes) rfl hok hc
        use hguar
        cases χ <;> exact hafter

/-- An attempt leaves no row without a projection. -/
theorem wp_perform (n : ℕ) {c : Config rails ι} (h : Base session start i c) :
  (settlementProtocol session start).wp i (FusionJob.perform (session i) n)
    (fun _ => Base session start i) c
  := by
  intro c' hrely χ hok
  have hbase := persists_base.stable.rely hrely h
  obtain ⟨hguar, hafter⟩ := persists_base.own (o := .findJob n) rfl hok hbase
  use hguar
  cases χ with
  | some className => exact hafter
  | none =>
      apply Protocol.wp_mono _ (Protocol.wp_outcome (A := fun _ => Base session start i)
        (attemptSpec.triple_attempt (keeps_recordFailure n)) hafter)
      rintro (e | (_ | _ | m)) c hc <;> exact hc

theorem wp_delivery {c : Config rails ι} (h : Base session start i c) :
  (settlementProtocol session start).wp i (FusionJob.delivery (session i))
    (fun _ => Base session start i) c
  := by
  apply Protocol.wp_retrying (A := fun _ => Base session start i) _ _ h
  · intro n _ _ c hc
    apply Protocol.wp_mono _ (wp_perform n hc)
    rintro (e | outcome) c hc <;> exact hc
  · exact fun c hc => wp_perform _ hc

end Rule

/-! ### What the past says -/

/-- What an orderly run remembers: sessions that were found to be fused or for which a row was
inserted have rows, measurements that were read have kept the warnings that they had, and what
was appended is there. The job is loaded for the last attempt, and the exhaustion of the job is
recorded. -/
structure Remembers [DecidableEq ι] (session : ι → String) (c : Config rails ι) : Prop where
  fused : ∀ i, FoundFused i c.past → rowsOf (session i) c.world.measurements ≠ []
  inserted : ∀ i m, AppendedWarnings.Inserted i m c.past →
    rowsOf (session i) c.world.measurements ≠ []
  read : ∀ i reader m, HasRead i reader m c.past →
    ∃ row ∈ c.world.measurements, row.id = m.id ∧ m.warnings ⊆ row.warnings
  appended : ∀ i reader message m, AppendedTo i reader message m c.past →
    Bears c.world m.id message
  loaded : ∀ i n e, (i, ⟨.findJob n, .error e⟩) ∈ c.past → n < FusionJob.maxAttempts
  found : ∀ i, (i, ⟨.latestMeasurement .failureWarning, .ok none⟩) ∉ c.past
  recorded : ∀ i, ¬ Refused i "fusion_job_exhausted" c.past

section Past

variable [DecidableEq ι] {session : ι → String} {start : ℕ} {o : Op} {χ : rails.Choice o}
  {c : Config rails ι}

theorem remembers_start (w : World) :
  Remembers session (⟨w, []⟩ : Config rails ι)
  where
  fused _ := by
    rintro ⟨latest, hmem, -⟩
    nomatch hmem
  inserted _ _ := by
    rintro ⟨attributes, hmem⟩
    nomatch hmem
  read _ _ _ hmem := nomatch hmem
  appended i reader message m h := by
    generalize hpast : ([] : List (ι × Event application)) = past at h
    cases h with
    | written read => simp at hpast
    | present read mem =>
        subst hpast
        nomatch read
  loaded _ _ _ hmem := nomatch hmem
  found _ hmem := nomatch hmem
  recorded _ h := by
    cases h with
    | read last => nomatch last
    | write last => nomatch last

theorem bears_after (hfirst : InsertsFirst session start j o χ c) (horderly : Orderly session j o χ c)
    {id : ℕ} {message : String} (h : Bears c.world id message) :
  Bears (c.after j o χ).world id message
  := by
  obtain ⟨m, hm, rfl, hmessage⟩ := h
  obtain ⟨m', hm', hid, hwarnings⟩ := row_after hfirst horderly hm
  exact ⟨m', hm', hid, hwarnings hmessage⟩

omit [DecidableEq ι] in
/-- What a read answers is the latest measurement. -/
theorem latest_of_answer {reader : Reader} {χ : rails.Choice (.latestMeasurement reader)}
    {latest : Option Measurement}
    (h : Except.ok latest = c.answer (.latestMeasurement reader) χ) :
  latest = c.world.latestMeasurement
  := by
  cases χ with
  | some className => nomatch h
  | none => exact Except.ok.inj h

/-- A session that is found to be fused has a row. -/
theorem foundFused_after (hfirst : InsertsFirst session start j o χ c)
    (horderly : Orderly session j o χ c) (h : Remembers session c)
    (hfound : FoundFused i (c.after j o χ).past) :
  rowsOf (session i) (c.after j o χ).world.measurements ≠ []
  := by
  obtain ⟨latest, hmem, hfused⟩ := hfound
  rcases List.mem_cons.mp hmem with heq | hmem
  · obtain ⟨rfl, hevent⟩ := Prod.mk.inj heq
    obtain ⟨rfl, hanswer⟩ := Sigma.mk.inj hevent
    rw [latest_of_answer (eq_of_heq hanswer)] at hfused
    apply rowsOf_after_ne_nil hfirst
    simpa [Orderly, orderly, hfused, List.isEmpty_iff] using horderly
  · exact rowsOf_after_ne_nil hfirst (h.fused i ⟨latest, hmem, hfused⟩)

/-- A session for which a row has been inserted has it. -/
theorem insertedRow_after (hfirst : InsertsFirst session start j o χ c)
    (h : Remembers session c) {m : Measurement}
    (hinserted : AppendedWarnings.Inserted i m (c.after j o χ).past) :
  rowsOf (session i) (c.after j o χ).world.measurements ≠ []
  := by
  obtain ⟨attributes, hmem⟩ := hinserted
  rcases List.mem_cons.mp hmem with heq | hmem
  · obtain ⟨rfl, hevent⟩ := Prod.mk.inj heq
    obtain ⟨rfl, hanswer⟩ := Sigma.mk.inj hevent
    rcases measurements_after hfirst with ⟨hnone, -⟩ | ⟨m', -, -, hinserts, hafter⟩
    · rw [← eq_of_heq hanswer] at hnone
      nomatch hnone
    · rw [hafter, rowsOf_append, if_pos hinserts.ofSession]
      simp
  · exact rowsOf_after_ne_nil hfirst (h.inserted i m ⟨attributes, hmem⟩)

/-- A measurement that has been read keeps the warnings that it had. -/
theorem hasRead_after (hfirst : InsertsFirst session start j o χ c)
    (horderly : Orderly session j o χ c) (h : Remembers session c) {reader : Reader}
    {m : Measurement} (hread : HasRead i reader m (c.after j o χ).past) :
  ∃ row ∈ (c.after j o χ).world.measurements, row.id = m.id ∧ m.warnings ⊆ row.warnings
  := by
  rcases List.mem_cons.mp hread with heq | hmem
  · obtain ⟨rfl, hevent⟩ := Prod.mk.inj heq
    obtain ⟨rfl, hanswer⟩ := Sigma.mk.inj hevent
    have hlatest := latest_of_answer (eq_of_heq hanswer)
    exact row_after hfirst horderly (List.argmax_mem hlatest.symm)
  · obtain ⟨row, hrow, hid, hwarnings⟩ := h.read i reader m hmem
    obtain ⟨row', hrow', hid', hwarnings'⟩ := row_after hfirst horderly hrow
    exact ⟨row', hrow', hid'.trans hid, List.Subset.trans hwarnings hwarnings'⟩

/-- What has been appended to a measurement is there. -/
theorem appendedTo_after (hfirst : InsertsFirst session start j o χ c)
    (horderly : Orderly session j o χ c) (h : Remembers session c) {reader : Reader}
    {message : String} {m : Measurement}
    (happended : AppendedTo i reader message m (c.after j o χ).past) :
  Bears (c.after j o χ).world m.id message
  := by
  rcases happended.of_cons with hbefore | ⟨rfl, hevent, hread⟩ | ⟨rfl, hevent, hmessage⟩
  · exact bears_after hfirst horderly (h.appended i reader message m hbefore)
  · obtain ⟨rfl, hanswer⟩ := Sigma.mk.inj hevent
    obtain ⟨row, hrow, hid, -⟩ := h.read j reader m hread
    cases χ with
    | some className => nomatch eq_of_heq hanswer
    | none =>
        refine ⟨{ row with warnings := m.warnings ++ [.str message] }, ?_, hid, ?_⟩
        · exact List.mem_map.mpr ⟨row, hrow, if_pos hid⟩
        · exact List.mem_append_right _ (List.mem_singleton_self _)
  · have hread : HasRead j reader m (c.after j o χ).past := by
      rw [Config.after_past, hevent]
      exact List.mem_cons_self
    obtain ⟨row, hrow, hid, hwarnings⟩ := hasRead_after hfirst horderly h hread
    exact ⟨row, hrow, hid, hwarnings hmessage⟩

/-- The exhaustion of the job is recorded without an exception. -/
theorem not_refused_after (horderly : Orderly session j o χ c) (h : Remembers session c) :
  ¬ Refused i "fusion_job_exhausted" (c.after j o χ).past
  := by
  intro hrefused
  by_cases hj : j = i
  · subst hj
    cases hrefused with
    | read last =>
        rw [Config.after_past, lastOf_cons_self] at last
        obtain ⟨rfl, hanswer⟩ := Sigma.mk.inj (Option.some.inj last)
        simp [Orderly, orderly, eq_of_heq hanswer, Except.isOk, Except.toBool] at horderly
    | write last =>
        rw [Config.after_past, lastOf_cons_self] at last
        obtain ⟨rfl, hanswer⟩ := Sigma.mk.inj (Option.some.inj last)
        simp [Orderly, orderly, eq_of_heq hanswer, Except.isOk, Except.toBool] at horderly
  · apply h.recorded i
    cases hrefused with
    | read last => exact .read ((lastOf_cons_of_ne hj _ _).symm.trans last)
    | write last => exact .write ((lastOf_cons_of_ne hj _ _).symm.trans last)

theorem remembers_after (hfirst : InsertsFirst session start j o χ c)
    (horderly : Orderly session j o χ c) (hinv : Inv session start c) (h : Remembers session c) :
  Remembers session (c.after j o χ)
  where
  fused _ := foundFused_after hfirst horderly h
  inserted _ _ := insertedRow_after hfirst h
  read _ _ _ := hasRead_after hfirst horderly h
  appended _ _ _ _ := appendedTo_after hfirst horderly h
  loaded k n e hmem := by
    rcases List.mem_cons.mp hmem with heq | hmem
    · obtain ⟨rfl, hevent⟩ := Prod.mk.inj heq
      obtain ⟨rfl, hanswer⟩ := Sigma.mk.inj hevent
      simpa [Orderly, orderly, ← eq_of_heq hanswer, Except.isOk, Except.toBool] using horderly
    · exact h.loaded k n e hmem
  found k hmem := by
    rcases List.mem_cons.mp hmem with heq | hmem
    · obtain ⟨rfl, hevent⟩ := Prod.mk.inj heq
      obtain ⟨rfl, hanswer⟩ := Sigma.mk.inj hevent
      have hlatest := latest_of_answer (eq_of_heq hanswer)
      exact hinv.measured (List.argmax_eq_none.mp hlatest.symm)
    · exact h.found k hmem
  recorded _ := not_refused_after horderly h

/-- A delivery that has ended has fused its session, or it has recorded that it has not. -/
theorem recorded_of_accounted [Platform] (h : Remembers session c) (hannounced : Announced c.past)
    (haccounted : DeliveryAccounted i c.past) :
  rowsOf (session i) c.world.measurements ≠ [] ∨ Recorded i c
  := by
  obtain ⟨n, outcome, haccounted, hlast⟩ := haccounted
  have hexhausted (happended : AppendedLast i "fusion_job_exhausted" c.past) : Recorded i c := by
    rcases happended with ⟨m, happended⟩ | hnowhere
    · exact .exhausted happended (h.appended i _ _ m happended)
    · exact absurd hnowhere (h.found i)
  rcases outcome with e | (_ | _ | m)
  · right
    rcases haccounted.2 (hlast e rfl) with ⟨e, hmem⟩ | happended | hrefused
    · exact absurd (h.loaded i n e hmem) (Nat.not_lt.mpr (hlast _ rfl))
    · exact hexhausted happended
    · exact absurd hrefused (h.recorded i)
  · exact .inl (h.fused i haccounted)
  · right
    obtain ⟨rmse, answer, hmem⟩ := haccounted
    obtain ⟨message, hmessage, happended⟩ := hannounced i rmse answer hmem
    rcases happended with ⟨m, happended⟩ | ⟨m, happended⟩ | hnowhere
    · exact .announced hmem hmessage (.inl rfl) happended (h.appended i _ _ m happended)
    · exact .announced hmem hmessage (.inr rfl) happended (h.appended i _ _ m happended)
    · exact absurd hnowhere (h.found i)
  · exact .inl (h.inserted i m haccounted)

end Past

/-! ### Runs -/

section Runs

variable [FormatAssertion] [Platform] [DecidableEq ι]

/-- In every orderly run, no session is fused twice. A session whose deliveries are done has
been fused, and a projection was enqueued afterwards, or it has not, and its delivery has
recorded that on a measurement. -/
theorem sessions_settle (session : ι → String) (w : World) (hmeasured : w.measurements ≠ [])
    (hclock : ∀ m ∈ w.measurements, m.generatedAt ≤ w.clock)
    (hsessions : ∀ m ∈ w.measurements, ∀ i, m.fusionSessionId ≠ .str (session i))
    (schedule : List (ι × rails.Choices))
    (hmeets : (deliveries (fun i => .fusion (session i)) w).Meets (Orderly session) schedule)
    (i : ι) :
  let final := (deliveries (fun i => .fusion (session i)) w).run schedule
  (rowsOf (session i) final.config.world.measurements).length ≤ 1 ∧
    ((∀ j, session j = session i → (final.prog j).result? = some ()) →
      Projected (session i) final.config.world ∨
        (rowsOf (session i) final.config.world.measurements = [] ∧ Recorded i final.config))
  := by
  intro final
  have hinv : Inv session w.clock ⟨w, []⟩ := by
    constructor
    · exact Nat.le_refl _
    · exact hmeasured
    · exact fun m hm => .inl ⟨hclock m hm, hsessions m hm⟩
    · intro k
      rw [show rowsOf (session k) w.measurements = [] by
        rw [rowsOf, List.filter_eq_nil_iff]
        intro m hm hsession
        exact hsessions m hm k (of_decide_eq_true hsession)]
      exact Nat.zero_le _
  have hnone (k : ι) : AnnouncedBut none k (⟨w, []⟩ : Config rails ι) := by
    rintro id ⟨e, he, -⟩
    cases he
  have hstart : (deliveries (fun i => .fusion (session i)) w).Keeps
      (settlementProtocol session w.clock) fun k _ => Base session w.clock k := by
    intro k
    apply wp_discarding
    exact wp_delivery ⟨hinv, hnone k⟩
  obtain ⟨hguar, hkeeps⟩ :=
    Pool.run_of_keeps (fun _ _ => persists_base.stable) hstart hmeets
  obtain ⟨hfinal, hremembers⟩ : Inv session w.clock final.config ∧
      Remembers session final.config :=
    Pool.invariant_run (P := settlementProtocol session w.clock)
      (A := fun c => Inv session w.clock c ∧ Remembers session c)
      (fun _ _ _ _ hok hfirst h => ⟨inv_after hfirst h.1, remembers_after hfirst hok h.1 h.2⟩)
      hmeets hguar ⟨hinv, remembers_start w⟩
  have hannouncing : (deliveries (fun i => .fusion (session i)) w).Keeps (announcing ι)
      fun k _ c => DeliveryAccounted k c.past :=
    fun k => wp_discarding (AppendedWarnings.wp_delivery (session k) _)
  obtain ⟨hannounced, haccounted⟩ :=
    announced_run (fun _ _ => stable_deliveryAccounted) hannouncing rfl schedule
  use hfinal.once i
  intro hdone
  cases hrows : rowsOf (session i) final.config.world.measurements with
  | nil =>
      right
      rcases recorded_of_accounted hremembers hannounced (haccounted.done (hdone i rfl)) with
        hrow | hrecorded
      · exact absurd hrows hrow
      · exact ⟨rfl, hrecorded⟩
  | cons m rest =>
      left
      have hm : m ∈ rowsOf (session i) final.config.world.measurements := by
        rw [hrows]
        exact List.mem_cons_self
      obtain ⟨hmem, hsession⟩ := List.mem_filter.mp hm
      have hof : m.fusionSessionId = .str (session i) := of_decide_eq_true hsession
      refine ⟨m, hm, ?_⟩
      rcases hfinal.rows m hmem with ⟨-, hother⟩ | ⟨-, -, j, hj, hinserted⟩
      · exact absurd hof (hother i)
      · have hsame : session j = session i := Json.str.inj (hj.symm.trans hof)
        obtain ⟨-, hprojections⟩ := hkeeps.done (hdone j hsame)
        rcases hprojections m.id hinserted with hbut | hprojected
        · cases hbut
        · exact hprojected

end Runs

instance [DecidableEq ι] (session : ι → String) (i : ι) (o : Op) (χ : rails.Choice o)
    (c : Config rails ι) : Decidable (Orderly session i o χ c) :=
  inferInstanceAs (Decidable (orderly session i o χ c = true))

/-- The fusion of a capture session, whose steps all succeed. -/
def fusedAlone : Pool rails Unit Unit :=
  (@deliveries Unit anyFormat plainPlatform (fun _ => .fusion "1") (measuredJob ["1"])).run
    (List.replicate 10 ((), answering (fusionResponse [flatFacet] (translation 0))))

/-- The fusion of a capture session, in a world in which the sidecar times out. -/
def exhaustedAlone : Pool rails Unit Unit :=
  (@deliveries Unit anyFormat plainPlatform (fun _ => .fusion "1") (measuredJob ["1"])).run
    (List.replicate 40 ((), choosing (fun _ => none) (fun _ => .timeout "Net::ReadTimeout")
      .timedOut))

/-- The first delivery fuses its session, and the second one records that it has not. -/
theorem sessions_settle_alone :
  Projected "1" fusedAlone.config.world ∧ @Recorded Unit plainPlatform () exhaustedAlone.config
  := by
  constructor
  · obtain ⟨-, hsettled⟩ := @sessions_settle Unit anyFormat plainPlatform _ (fun _ => "1")
      (measuredJob ["1"]) nofun (by decide) (by decide)
      (List.replicate 10 ((), answering (fusionResponse [flatFacet] (translation 0))))
      (by decide +kernel) ()
    rcases hsettled (by decide +kernel) with hprojected | ⟨hrows, -⟩
    · exact hprojected
    · have hfused : (rowsOf "1" fusedAlone.config.world.measurements).length = 1 := by
        decide +kernel
      rw [fusedAlone, hrows] at hfused
      nomatch hfused
  · obtain ⟨-, hsettled⟩ := @sessions_settle Unit anyFormat plainPlatform _ (fun _ => "1")
      (measuredJob ["1"]) nofun (by decide) (by decide)
      (List.replicate 40 ((), choosing (fun _ => none) (fun _ => .timeout "Net::ReadTimeout")
        .timedOut))
      (by decide +kernel) ()
    rcases hsettled (by decide +kernel) with ⟨m, hm, -⟩ | ⟨-, hrecorded⟩
    · have hnone : (rowsOf "1" exhaustedAlone.config.world.measurements).length = 0 := by
        decide +kernel
      have hempty : rowsOf "1" exhaustedAlone.config.world.measurements = [] :=
        List.length_eq_zero_iff.mp hnone
      rw [exhaustedAlone] at hempty
      rw [hempty] at hm
      nomatch hm
    · exact hrecorded

/-- The capture sessions of two deliveries. -/
def twoSessions : Bool → String
  | false => "1"
  | true => "2"

/-- The fusion of the second session is delivered once the first session has been fused. -/
def fusedInTurn : Pool rails Bool Unit :=
  (@deliveries Bool anyFormat plainPlatform (fun i => .fusion (twoSessions i))
    (measuredJob ["1", "2"])).run
    ((List.replicate 10 false ++ List.replicate 3 true).map
      fun i => (i, answering (fusionResponse [flatFacet] (translation 0))))

/-- The second session is not fused, and nothing says so. -/
theorem second_session_skipped :
  (∀ i, (fusedInTurn.prog i).result? = some ()) ∧
    ¬ (Projected "2" fusedInTurn.config.world ∨
      (rowsOf "2" fusedInTurn.config.world.measurements = [] ∧
        @Recorded Bool plainPlatform true fusedInTurn.config))
  := by
  have hrows : rowsOf "2" fusedInTurn.config.world.measurements = [] := by
    rw [← List.length_eq_zero_iff]
    decide +kernel
  have hwarnings : ∀ m ∈ fusedInTurn.config.world.measurements, m.warnings = [] := by
    decide +kernel
  constructor
  · decide +kernel
  · have hbears {id : ℕ} {message : String} : ¬ Bears fusedInTurn.config.world id message := by
      rintro ⟨m, hm, -, hmessage⟩
      rw [hwarnings m hm] at hmessage
      cases hmessage
    rintro (⟨m, hm, -⟩ | ⟨-, ⟨-, -, -, -, bears⟩ | ⟨-, bears⟩⟩)
    · rw [hrows] at hm
      cases hm
    · exact hbears bears
    · exact hbears bears

end SessionSettlement

end Rails
