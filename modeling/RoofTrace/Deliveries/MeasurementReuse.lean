import RoofTrace.Effects.Play
import RoofTrace.Rails.FusionJob

/-!
# Reuse of measurements

`MeasurementIdempotencyCache` answers a submission with a measurement that was generated
within the last hour from the address and the selection that the job has now. It looks at
the latest measurement only.

A history of a job is a list of generations: runs of the pipeline, each for the inputs that
its job had, and fusions. `Exact` says that a measurement is reused when there is one to be
reused. The latest row decides that it is: when it was generated from other inputs, or by a
fusion, the measurements before it are not found.
-/

namespace Rails.MeasurementReuse

open Effects

/-! ### Fields with their lengths -/

namespace Field

/-- A field of a preimage: its length and its text. -/
def framed (s : String) : String := s!"{s.length}:{s}"

theorem toList_framed (s : String) :
  (framed s).toList = Nat.toDigits 10 s.length ++ ':' :: s.toList
  := by
  simp only [framed, toString, String.toList_append, Nat.toList_repr, List.append_assoc]
  rfl

theorem notMem_toDigits {c : Char} (h : c.isDigit = false) (n : ℕ) :
  c ∉ Nat.toDigits 10 n
  := by
  intro hmem
  rw [Nat.isDigit_of_mem_toDigits (by decide) (by decide) hmem] at h
  nomatch h

theorem toDigits_injective :
  Function.Injective (Nat.toDigits 10)
  := by
  intro m n h
  calc
    m = Nat.ofDigitChars 10 (Nat.toDigits 10 m) 0 := Nat.ofDigitChars_ten_toDigits.symm
    _ = Nat.ofDigitChars 10 (Nat.toDigits 10 n) 0 := by rw [h]
    _ = n := Nat.ofDigitChars_ten_toDigits

theorem toList_repr_ofNat (n : ℕ) :
  (Int.repr n).toList = Nat.toDigits 10 n
  := Nat.toList_repr

theorem toList_repr_negSucc (n : ℕ) :
  (Int.repr (.negSucc n)).toList = '-' :: Nat.toDigits 10 (n + 1)
  := by
  change ("-" ++ Nat.repr (n + 1)).toList = _
  rw [String.toList_append, Nat.toList_repr]
  rfl

theorem repr_ofNat_ne_negSucc (m n : ℕ) :
  Int.repr m ≠ Int.repr (.negSucc n)
  := by
  intro h
  have hlist := congrArg String.toList h
  rw [toList_repr_ofNat, toList_repr_negSucc] at hlist
  apply notMem_toDigits (c := '-') rfl m
  rw [hlist]
  apply List.mem_cons_self

theorem repr_injective :
  Function.Injective Int.repr
  := by
  intro m n h
  cases m with
  | ofNat m =>
      cases n with
      | ofNat n =>
          have hdigits : Nat.toDigits 10 m = Nat.toDigits 10 n := by
            rw [← toList_repr_ofNat, ← toList_repr_ofNat]
            exact congrArg String.toList h
          rw [toDigits_injective hdigits]
      | negSucc n => exact absurd h (repr_ofNat_ne_negSucc m n)
  | negSucc m =>
      cases n with
      | ofNat n => exact absurd h.symm (repr_ofNat_ne_negSucc n m)
      | negSucc n =>
          have hlist := congrArg String.toList h
          rw [toList_repr_negSucc, toList_repr_negSucc] at hlist
          rw [Nat.succ_injective (toDigits_injective (List.cons.inj hlist).2)]

/-- What stands before the first colon of a list, and what follows it, is told by the list. -/
theorem append_colon_inj {xs xs' ys ys' : List Char} (hxs : ':' ∉ xs) (hxs' : ':' ∉ xs')
    (h : xs ++ ':' :: ys = xs' ++ ':' :: ys') :
  xs = xs' ∧ ys = ys'
  := by
  induction xs generalizing xs' with
  | nil =>
      cases xs' with
      | nil => exact ⟨rfl, (List.cons.inj h).2⟩
      | cons x' xs' =>
          rw [(List.cons.inj h).1] at hxs'
          exact absurd List.mem_cons_self hxs'
  | cons x xs ih =>
      cases xs' with
      | nil =>
          rw [← (List.cons.inj h).1] at hxs
          exact absurd List.mem_cons_self hxs
      | cons x' xs' =>
          obtain ⟨rfl, htail⟩ := List.cons.inj h
          obtain ⟨rfl, rfl⟩ := ih (List.not_mem_of_not_mem_cons hxs)
            (List.not_mem_of_not_mem_cons hxs') htail
          exact ⟨rfl, rfl⟩

/-- A framed field at the beginning of a text is told by the text. -/
theorem framed_append_inj {s s' : String} {rest rest' : List Char}
    (h : (framed s).toList ++ rest = (framed s').toList ++ rest') :
  s = s' ∧ rest = rest'
  := by
  rw [toList_framed, toList_framed, List.append_assoc, List.append_assoc, List.cons_append,
    List.cons_append] at h
  obtain ⟨hdigits, htexts⟩ :=
    append_colon_inj (notMem_toDigits rfl _) (notMem_toDigits rfl _) h
  have hlength : s.toList.length = s'.toList.length := toDigits_injective hdigits
  obtain ⟨htext, hrest⟩ := List.append_inj htexts hlength
  exact ⟨String.toList_inj.mp htext, hrest⟩

end Field

/-! ### Inputs -/

/-- What determines a measurement. -/
structure Inputs where
  address : String
  polygonSelection : ℤ
deriving DecidableEq

/-- The inputs that a job has. -/
def inputsOf (row : JobRow) : Inputs where
  address := row.address
  polygonSelection := row.polygonSelection

/-- The text that is digested. -/
def preimage (inputs : Inputs) : String :=
  let selection := toString inputs.polygonSelection
  s!"{inputs.address.length}:{inputs.address}|{selection.length}:{selection}"

theorem toList_preimage (inputs : Inputs) :
  (preimage inputs).toList =
    (Field.framed inputs.address).toList ++
      '|' :: (Field.framed (toString inputs.polygonSelection)).toList
  := by
  simp only [preimage, Field.framed, toString, String.toList_append, List.append_assoc]
  rfl

theorem preimage_injective :
  Function.Injective preimage
  := by
  intro inputs inputs' h
  have hlist := congrArg String.toList h
  rw [toList_preimage, toList_preimage] at hlist
  obtain ⟨haddress, hrest⟩ := Field.framed_append_inj hlist
  have hselection := (List.cons.inj hrest).2
  rw [← List.append_nil (Field.framed _).toList,
    ← List.append_nil (Field.framed (toString inputs'.polygonSelection)).toList] at hselection
  have hrepr := (Field.framed_append_inj hselection).1
  obtain ⟨address, polygonSelection⟩ := inputs
  obtain ⟨address', polygonSelection'⟩ := inputs'
  obtain rfl : address = address' := haddress
  obtain rfl : polygonSelection = polygonSelection' := Field.repr_injective hrepr
  rfl

theorem fingerprint_eq [Platform] (row : JobRow) :
  Job.fingerprint row = Platform.hexdigest (preimage (inputsOf row))
  := rfl

/-! ### Histories -/

section

variable [Platform]

/-- What generates a measurement. -/
inductive Origin where
  /-- A run of the pipeline, with what it writes. -/
  | pipeline (row : JobRow) (doc provenance totalPerimeterFt geocode parcelPolygon : Json ℚ)
  /-- A fusion, with the measurement that it refines. -/
  | fusion (captureSession : CaptureSession) (prior : Measurement) (response : Json ℚ)

/-- A measurement that has been generated, and the warnings that it has by now. -/
structure Generation where
  id : ℕ
  origin : Origin
  generatedAt : ℕ
  warnings : List (Json ℚ)

/-- The attributes that `persist` creates a measurement with. -/
def pipelineMeasurement (row : JobRow) (doc provenance : Json ℚ) (warnings : List (Json ℚ))
    (totalPerimeterFt geocode parcelPolygon : Json ℚ) (now : ℕ) : MeasurementAttributes where
  footprint := doc.get "footprint"
  roofOutline := doc.get "roof_outline"
  lidar := doc.get "lidar"
  facets := Ruby.array (doc.get "facets")
  features := Ruby.array (doc.get "features")
  totalAreaSqFt := doc.get "total_area_sq_ft"
  predominantPitchRatio := doc.get "predominant_pitch_ratio"
  source := Ruby.text (doc.get "source")
  confidence := Ruby.toF (doc.get "confidence")
  warnings := warnings
  provenance := provenance
  totalPerimeterFt := totalPerimeterFt
  geocode := geocode
  parcelPolygon := parcelPolygon
  sourceFingerprint := some (Job.fingerprint row)
  generatedAt := now

namespace Generation

/-- The row of a measurement. -/
def measurement (g : Generation) : Measurement :=
  match g.origin with
  | .pipeline row doc provenance totalPerimeterFt geocode parcelPolygon =>
      ⟨pipelineMeasurement row doc provenance g.warnings totalPerimeterFt geocode parcelPolygon
        g.generatedAt, g.id⟩
  | .fusion captureSession prior response =>
      ⟨{ FusionOrchestrator.fusedMeasurement captureSession prior response g.generatedAt with
          warnings := g.warnings }, g.id⟩

omit [Platform] in
/-- The inputs that the pipeline generated a measurement from. -/
def inputs (g : Generation) : Option Inputs :=
  match g.origin with
  | .pipeline row _ _ _ _ _ => some (inputsOf row)
  | .fusion _ _ _ => none

@[simp]
theorem generatedAt_measurement (g : Generation) :
  g.measurement.generatedAt = g.generatedAt
  := by
  unfold measurement
  split <;> rfl

/-- When digests do not collide, a row has the fingerprint of the inputs of a job exactly when
it was generated from them. -/
theorem sourceFingerprint_iff (hhexdigest : Function.Injective Platform.hexdigest)
    (g : Generation) (row : JobRow) :
  g.measurement.sourceFingerprint = some (Job.fingerprint row) ↔ g.inputs = some (inputsOf row)
  := by
  unfold measurement inputs
  split
  · next generated _ _ _ _ _ _ =>
      change some (Job.fingerprint generated) = _ ↔ _
      rw [Option.some_inj, Option.some_inj, fingerprint_eq, fingerprint_eq]
      exact (hhexdigest.comp preimage_injective).eq_iff
  · simp only [FusionOrchestrator.fusedMeasurement, reduceCtorEq]

end Generation

/-- The rows of a history. -/
def measurements (history : List Generation) : List Measurement :=
  history.map (·.measurement)

/-- The generation of the latest measurement. -/
def newest (history : List Generation) : Option Generation :=
  history.argmax (·.generatedAt)

omit [Platform] in
theorem argmax_map {α β : Type} (f : β → ℕ) (g : α → β) (as : List α) :
  (as.map g).argmax f = (as.argmax fun a => f (g a)).map g
  := by
  induction as using List.reverseRecOn with
  | nil => rfl
  | append_singleton as a ih =>
      rw [List.map_append, List.map_singleton, List.argmax_concat, List.argmax_concat, ih]
      cases as.argmax fun a => f (g a) with
      | none => rfl
      | some a' =>
          dsimp only [Option.map_some]
          split_ifs <;> rfl

theorem latestMeasurement_eq {w : World} {history : List Generation}
    (h : w.measurements = measurements history) :
  w.latestMeasurement = (newest history).map (·.measurement)
  := by
  rw [World.latestMeasurement, h, measurements, argmax_map, newest]
  simp only [Generation.generatedAt_measurement]

/-- Whether a measurement can be reused for a job: it was generated from the inputs of the job
within the window. -/
def Reusable (row : JobRow) (now : ℕ) (g : Generation) : Prop :=
  now ≤ g.generatedAt + Job.idempotencyWindow ∧ g.inputs = some (inputsOf row)

/-- A measurement is reused when there is one that can be, and one that can be is. -/
structure Exact (history : List Generation) (row : JobRow) (now : ℕ)
    (reused : Option Measurement) : Prop where
  hit : reused.isSome ↔ ∃ g ∈ history, Reusable row now g
  reusable : ∀ m, reused = some m → ∃ g ∈ history, g.measurement = m ∧ Reusable row now g

/-! ### The lookup -/

/-- The database and the cable answer. -/
structure Available (χ : rails.Choices) : Prop where
  latestMeasurement : (χ (.latestMeasurement .idempotencyCache) : Option String) = none
  updateJob : ∀ changes, (χ (.updateJob changes) : Option String) = none
  broadcastStatus : ∀ status, (χ (.broadcastStatus status) : Option String) = none

/-- What `cached_measurement` returns for a job with a history. -/
def cached (w : World) (history : List Generation) (job : Job) (χ : ℕ → rails.Choices) :
    Except Exn (Option Measurement) :=
  ((Job.cachedMeasurement job).play () χ
    ⟨{ w with measurements := measurements history }, []⟩).1.1

/-- The time that it reads. -/
def timeOf (w : World) (χ : ℕ → rails.Choices) : ℕ := w.clock + χ 1 .now + 1

variable {χ : ℕ → rails.Choices}

section

omit [Platform]

variable {job : Job} {status : Status} {c : Config rails Unit}

/-- An operation that answers is followed by what is next. -/
theorem play_perform_of_ok {σ : Type} {s : σ} {o : Op} {a : o.Res}
    (h : c.answer o (χ 0 o) = .ok a) :
  ((perform o : Method σ o.Res) s).play () χ c =
    ((.ok a, s), fun n => χ (n + 1), c.after () o (χ 0 o))
  := by
  rw [← h]
  rfl

theorem play_save (c : Config rails Unit) (job : Job) (hχ : ∀ n, Available (χ n)) :
  ∃ job' χ' c', (Job.save job).play () χ c = ((.ok (), job'), χ', c') ∧ ∀ n, Available (χ' n)
  := by
  unfold Job.save
  rw [Action.play_bind_of_ok (a := job) (t := job) rfl]
  cases hchanges : job.changes.isEmpty with
  | true => exact ⟨job, χ, c, rfl, hχ⟩
  | false =>
      have hanswer : c.answer (.updateJob job.changes) (χ 0 (.updateJob job.changes)) =
          .ok () := by
        simp only [Config.answer, exec, (hχ 0).updateJob]
        rfl
      rw [if_neg Bool.false_ne_true, Action.play_bind_of_ok (play_perform_of_ok hanswer)]
      exact ⟨job.saved, _, _, rfl, fun n => hχ (n + 1)⟩

theorem play_broadcastStatus (c : Config rails Unit) (job : Job) (hχ : ∀ n, Available (χ n)) :
  ∃ χ' c', (Job.broadcastStatus job).play () χ c = ((.ok (), job), χ', c')
  := by
  have hanswer : c.answer (.broadcastStatus job.status) (χ 0 (.broadcastStatus job.status)) =
      .ok () := by
    simp only [Config.answer, exec, (hχ 0).broadcastStatus]
    rfl
  unfold Job.broadcastStatus
  rw [Action.play_bind_of_ok (a := job) (t := job) rfl]
  exact ⟨_, _, play_perform_of_ok hanswer⟩

theorem play_advanceTo (c : Config rails Unit) (status : Status) (hχ : ∀ n, Available (χ n))
    (hopen : job.status.terminal = false) :
  ∃ job' χ' c', (Job.advanceTo status job).play () χ c = ((.ok (), job'), χ', c')
  := by
  obtain ⟨job', χ', c', hsave, hχ'⟩ := play_save c { job with status := status } hχ
  obtain ⟨χ'', c'', hbroadcast⟩ := play_broadcastStatus c' job' hχ'
  have hadvance : (Job.advanceBy status Job.save job).play () χ c = ((.ok (), job'), χ', c') := by
    unfold Job.advanceBy
    rw [Action.play_bind_of_ok (a := job) (t := job) rfl, hopen, if_neg Bool.false_ne_true]
    exact hsave
  unfold Job.advanceTo
  rw [Action.play_bind_of_ok hadvance, hbroadcast]
  exact ⟨_, _, _, rfl⟩

/-- A measurement that is reused is returned, whether the job is advanced for it or not. -/
theorem play_found (hχ : ∀ n, Available (χ n)) (m : Measurement) :
  ((((do
    if job.status ≠ .ready ∧ job.status.terminal = false then Job.advanceTo .ready
    return some m) : Method Job (Option Measurement)) job).play () χ c).1.1 = .ok (some m)
  := by
  by_cases hopen : job.status ≠ .ready ∧ job.status.terminal = false
  · obtain ⟨job', χ', c', hadvance⟩ := play_advanceTo c .ready hχ hopen.2
    rw [if_pos hopen, Action.play_bind_of_ok hadvance]
    rfl
  · rw [if_neg hopen]
    rfl

end

/-- Whether the latest measurement is reused. -/
def Hit (row : JobRow) (now : ℕ) (m : Measurement) : Prop :=
  now ≤ m.generatedAt + Job.idempotencyWindow ∧
    m.sourceFingerprint = some (Job.fingerprint row)

instance (row : JobRow) (now : ℕ) : DecidablePred (Hit row now) := fun _ =>
  inferInstanceAs (Decidable (_ ∧ _))

/-- The latest measurement is returned when it has been found in the window, with the
fingerprint of the job. -/
theorem play_cachedMeasurement {job : Job} {c : Config rails Unit}
    (hχ : ∀ n, Available (χ n)) :
  ((Job.cachedMeasurement job).play () χ c).1.1 =
    .ok (c.world.latestMeasurement.filter (Hit job.row (c.world.clock + χ 1 .now + 1)))
  := by
  have hread : c.answer (.latestMeasurement .idempotencyCache)
      (χ 0 (.latestMeasurement .idempotencyCache)) = .ok c.world.latestMeasurement := by
    simp only [Config.answer, exec, (hχ 0).latestMeasurement]
    rfl
  have hnow : (c.after () (.latestMeasurement .idempotencyCache)
      (χ 0 (.latestMeasurement .idempotencyCache))).answer .now (χ 1 .now) =
        .ok (c.world.clock + χ 1 .now + 1) := by
    simp only [Config.answer, Config.after, exec, (hχ 0).latestMeasurement]
    rfl
  unfold Job.cachedMeasurement
  rw [Action.play_bind_of_ok (play_perform_of_ok hread)]
  cases c.world.latestMeasurement with
  | none => rfl
  | some m =>
      dsimp only
      rw [Action.play_bind_of_ok (play_perform_of_ok hnow)]
      by_cases hold : m.generatedAt + Job.idempotencyWindow < c.world.clock + χ 1 .now + 1
      · rw [if_pos hold, Option.filter_some, if_neg]
        · rfl
        · rw [decide_eq_true_eq]
          exact fun h => Nat.not_lt.mpr h.1 hold
      · rw [if_neg hold, Action.play_bind_of_ok (a := job) (t := job) rfl, Option.filter_some]
        by_cases hfingerprint : m.sourceFingerprint = some (Job.fingerprint job.row)
        · have hhit : decide (Hit job.row (c.world.clock + χ 1 .now + 1) m) = true :=
            decide_eq_true ⟨Nat.not_lt.mp hold, hfingerprint⟩
          rw [if_pos hfingerprint, if_pos hhit]
          exact play_found (fun n => hχ (n + 1 + 1)) m
        · rw [if_neg hfingerprint, if_neg]
          · rfl
          · rw [decide_eq_true_eq]
            exact fun h => hfingerprint h.2

/-! ### When reuse is exact -/

omit [Platform] in
theorem mem_of_newest {history : List Generation} {g : Generation}
    (h : newest history = some g) :
  g ∈ history
  := List.argmax_mem h

/-- Digests not colliding, the row of a generation is a hit exactly when it is reusable. -/
theorem hit_iff (hhexdigest : Function.Injective Platform.hexdigest) {row : JobRow} {now : ℕ}
    (g : Generation) :
  Hit row now g.measurement ↔ Reusable row now g
  := by
  rw [Hit, Reusable, g.generatedAt_measurement, g.sourceFingerprint_iff hhexdigest]

/-- The lookup is exact when the latest measurement is reusable or none is. -/
theorem exact_filter_iff (hhexdigest : Function.Injective Platform.hexdigest)
    {history : List Generation} {row : JobRow} {now : ℕ} :
  Exact history row now (((newest history).map (·.measurement)).filter (Hit row now)) ↔
    ((∃ g ∈ history, Reusable row now g) → ∃ g, newest history = some g ∧ Reusable row now g)
  := by
  have hfilter : ∀ m, ((newest history).map (·.measurement)).filter (Hit row now) = some m ↔
      ∃ g, newest history = some g ∧ Reusable row now g ∧ g.measurement = m := by
    intro m
    rw [Option.filter_eq_some_iff, Option.map_eq_some_iff, decide_eq_true_eq]
    constructor
    · rintro ⟨⟨g, hg, rfl⟩, hhit⟩
      exact ⟨g, hg, (hit_iff hhexdigest g).mp hhit, rfl⟩
    · rintro ⟨g, hg, hreusable, rfl⟩
      exact ⟨⟨g, hg, rfl⟩, (hit_iff hhexdigest g).mpr hreusable⟩
  constructor
  · intro hexact hsome
    obtain ⟨m, hm⟩ := Option.isSome_iff_exists.mp (hexact.hit.mpr hsome)
    obtain ⟨g, hg, hreusable, -⟩ := (hfilter m).mp hm
    exact ⟨g, hg, hreusable⟩
  · intro h
    constructor
    · rw [Option.isSome_iff_exists]
      constructor
      · rintro ⟨m, hm⟩
        obtain ⟨g, hg, hreusable, -⟩ := (hfilter m).mp hm
        exact ⟨g, mem_of_newest hg, hreusable⟩
      · intro hsome
        obtain ⟨g, hg, hreusable⟩ := h hsome
        exact ⟨g.measurement, (hfilter _).mpr ⟨g, hg, hreusable, rfl⟩⟩
    · intro m hm
      obtain ⟨g, hg, hreusable, hmeasurement⟩ := (hfilter m).mp hm
      exact ⟨g, mem_of_newest hg, hmeasurement, hreusable⟩

/-- The preimage of the fingerprint tells the inputs; and, digests not colliding, measurements
are reused exactly unless one can be reused and the latest one cannot. -/
theorem exact_iff (hhexdigest : Function.Injective Platform.hexdigest)
    (hχ : ∀ n, Available (χ n)) (w : World) (history : List Generation) (job : Job) :
  Function.Injective preimage ∧
    ∃ reused, cached w history job χ = .ok reused ∧
      (Exact history job.row (timeOf w χ) reused ↔
        ((∃ g ∈ history, Reusable job.row (timeOf w χ) g) →
          ∃ g, newest history = some g ∧ Reusable job.row (timeOf w χ) g))
  := by
  use preimage_injective
  use ((newest history).map (·.measurement)).filter (Hit job.row (timeOf w χ))
  constructor
  · rw [← latestMeasurement_eq (w := { w with measurements := measurements history }) rfl]
    exact play_cachedMeasurement hχ
  · exact exact_filter_iff hhexdigest

end

/-! ### A submission after a fusion -/

namespace SubmittedAfterFusion

scoped instance platform : Platform := plainPlatform

/-- A run of the pipeline for the submitted job, and a fusion a second later. -/
def history : List Generation :=
  [{ id := 0
     origin := .pipeline submittedJob.job .null .null .null .null .null
     generatedAt := 1
     warnings := [] },
   { id := 1
     origin := .fusion { id := "session", worldMeshRef := .null }
       ⟨pipelineMeasurement submittedJob.job .null .null [] .null .null .null 1, 0⟩ .null
     generatedAt := 1000001
     warnings := [] }]

/-- A world that answers, two seconds after the run. -/
def world : World := { submittedJob with clock := 2000000 }

def choices : rails.Choices :=
  choosing (fun _ => none) (fun _ => .raised "SocketError") .timedOut

theorem available (n : ℕ) :
  Available ((fun _ => choices : ℕ → rails.Choices) n)
  := ⟨rfl, fun _ => rfl, fun _ => rfl⟩

theorem reusable_first :
  Reusable submittedJob.job (timeOf world fun _ => choices) (history.head (by decide))
  := by
  constructor
  · decide +kernel
  · rfl

/-- After a fusion, the measurement of the pipeline is missed. -/
theorem fusion_hides_measurement :
  ¬ ∀ (w : World) (history : List Generation) (job : Job) (χ : ℕ → rails.Choices),
    (∀ n, Available (χ n)) →
      ∃ reused, cached w history job χ = .ok reused ∧
        Exact history job.row (timeOf w χ) reused
  := by
  intro h
  obtain ⟨reused, hcached, hexact⟩ :=
    h world history (Job.ofRow submittedJob.job) (fun _ => choices) available
  have hmissed : (cached world history (Job.ofRow submittedJob.job)
      fun _ => choices).toOption.map Option.isSome = some false := by
    decide +kernel
  have hfound := hexact.hit.mpr ⟨_, List.head_mem (by decide), reusable_first⟩
  rw [hcached] at hmissed
  rw [Option.some.inj hmissed] at hfound
  nomatch hfound

/-- After a fusion a measurement is reused exactly when the newest one is reusable, if any is. -/
theorem exact_iff_after_fusion :
  Function.Injective preimage ∧
    ∃ reused, cached world history (Job.ofRow submittedJob.job) (fun _ => choices) = .ok reused ∧
      (Exact history submittedJob.job (timeOf world fun _ => choices) reused ↔
        ((∃ g ∈ history, Reusable submittedJob.job (timeOf world fun _ => choices) g) →
          ∃ g, newest history = some g ∧
            Reusable submittedJob.job (timeOf world fun _ => choices) g))
  := exact_iff Function.injective_id available world history (Job.ofRow submittedJob.job)

end SubmittedAfterFusion

end Rails.MeasurementReuse
