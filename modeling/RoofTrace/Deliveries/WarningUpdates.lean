import RoofTrace.Deliveries.AppendedWarnings
import RoofTrace.Rails.Deliveries
import RoofTrace.Rails.Rows

/-!
# Updates of the warnings

A fusion that fails appends a warning to the measurement that it has read, and writes the whole
column as it was read, with the warning added. When no attempt writes a column that another one
has written since it was read, no warning is lost and none is written twice, and what an attempt
has appended is there.
-/

namespace Rails

open Effects FusionOrchestrator AppendedWarnings

namespace WarningUpdates

variable {ι : Type}

/-- Attempts at fusions, each of a capture session and with the number of its execution, before
the first of them has begun. -/
def attempts [FormatAssertion] [Platform] (work : ι → String × ℕ) (w : World) :
    Pool rails ι (Except Exn FusionJob.Outcome) where
  config := ⟨w, []⟩
  prog := fun i => FusionJob.perform (work i).1 (work i).2

/-! ### Warnings that are kept -/

/-- A warning that a measurement has had, since the world was `w`: before the first event, once
it has been written, or when the measurement was read. -/
inductive Noted (w : World) (past : List (ι × Event application)) (id : ℕ) (message : Json ℚ) :
    Prop where
  | present (row : Measurement) :
      row ∈ w.measurements → row.id = id → message ∈ row.warnings → Noted w past id message
  | written (i : ι) (warnings : List (Json ℚ)) :
      (i, ⟨.updateWarnings id warnings, .ok ()⟩) ∈ past → message ∈ warnings →
        Noted w past id message
  | read (i : ι) (reader : Reader) (row : Measurement) :
      (i, ⟨.latestMeasurement reader, .ok (some row)⟩) ∈ past → row.id = id →
        message ∈ row.warnings → Noted w past id message

/-- Every warning that a measurement has had since the world was `w`, it has exactly once. -/
def NoneLost (w : World) (c : Config rails ι) : Prop :=
  ∀ id message, Noted w c.past id message →
    ∀ row ∈ c.world.measurements, row.id = id → row.warnings.count message = 1

/-- A message that has been appended, a measurement has had, unless there was none. -/
def AppendsNoted (w : World) (past : List (ι × Event application)) : Prop :=
  ∀ i message, Appended i message past →
    (∃ id, Noted w past id (.str message)) ∨
      (i, ⟨.latestMeasurement .failureWarning, .ok none⟩) ∈ past

theorem appendsNoted (w : World) (past : List (ι × Event application)) :
  AppendsNoted w past
  := by
  intro i message h
  have hnoted {reader : Reader} : (∃ m, AppendedTo i reader message m past) →
      ∃ id, Noted w past id (.str message) := by
    rintro ⟨m, happended⟩
    use m.id
    cases happended with
    | written read =>
        exact .written i _ (List.mem_append_right _ List.mem_cons_self)
          (List.mem_append_right _ List.mem_cons_self)
    | present read mem => exact .read i reader m read rfl mem
  rcases h with hprior | hlast | hnowhere
  · exact .inl (hnoted hprior)
  · exact .inl (hnoted hlast)
  · exact .inr hnowhere

/-! ### Writers that are not overtaken -/

/-- The measurement that is read. -/
def readMeasurement : Event application → Option Measurement
  | ⟨.latestMeasurement _, .ok latest⟩ => latest
  | _ => none

/-- The measurements that `i` has read. -/
def copies [DecidableEq ι] (i : ι) (past : List (ι × Event application)) : List Measurement :=
  past.filterMap fun (j, e) => if j = i then readMeasurement e else none

/-- The column of warnings that an operation writes, and the measurement that it is of. -/
def Op.writtenWarnings : Op → Option (ℕ × List (Json ℚ))
  | .updateWarnings id warnings => some (id, warnings)
  | _ => none

/-- Warnings are written while the row has those of the copy that they are added to. -/
def NotOvertaken [DecidableEq ι] : StepPred rails ι := fun i o _ c =>
  ∀ write ∈ Op.writtenWarnings o, ∀ m ∈ copies i c.past, m.id = write.1 →
    m.warnings = write.2.dropLast →
      ∀ row ∈ c.world.measurements, row.id = m.id → row.warnings = m.warnings

instance [DecidableEq ι] (i : ι) (o : Op) (χ : rails.Choice o) (c : Config rails ι) :
    Decidable (NotOvertaken i o χ c) :=
  inferInstanceAs (Decidable (∀ write ∈ Op.writtenWarnings o, ∀ m ∈ copies i c.past,
    m.id = write.1 → m.warnings = write.2.dropLast →
      ∀ row ∈ c.world.measurements, row.id = m.id → row.warnings = m.warnings))

/-- What is written is what a row has and one warning more, and a row that is inserted has no
warning. -/
structure Appends (i : ι) (o : Op) (χ : rails.Choice o) (c : Config rails ι) : Prop where
  update : ∀ id warnings, o = .updateWarnings id warnings →
    ∃ row ∈ c.world.measurements, row.id = id ∧
      ∃ message, message ∉ row.warnings ∧ warnings = row.warnings ++ [message]
  insert : ∀ m, o.inserted = some m → m.warnings = []

def warningProtocol (ι : Type) [DecidableEq ι] : Protocol rails ι where
  ok := NotOvertaken
  guar := Appends

/-! ### What is kept -/

/-- Rows that are numbered by their places, each with warnings that are distinct. -/
structure Numbered (w : World) : Prop where
  places : w.measurements.map (·.id) = List.range w.measurements.length
  distinct : ∀ row ∈ w.measurements, row.warnings.Nodup

/-- A row has a warning. -/
def Has (w : World) (id : ℕ) (message : Json ℚ) : Prop :=
  ∃ row ∈ w.measurements, row.id = id ∧ message ∈ row.warnings

/-- The warnings that have been noted are there. -/
structure Kept (w : World) (c : Config rails ι) : Prop where
  numbered : Numbered c.world
  noted : ∀ id message, Noted w c.past id message → Has c.world id message

theorem Numbered.eq_of_id {w : World} (h : Numbered w) {row row' : Measurement}
    (hrow : row ∈ w.measurements) (hrow' : row' ∈ w.measurements) (hid : row.id = row'.id) :
  row = row'
  := by
  have hnodup : (w.measurements.map (·.id)).Nodup := by
    rw [h.places]
    exact List.nodup_range
  exact List.inj_on_of_nodup_map hnodup hrow hrow' hid

theorem kept_start {w : World} (h : Numbered w) :
  Kept w (⟨w, []⟩ : Config rails ι)
  := by
  constructor
  · exact h
  · intro id message hnoted
    cases hnoted with
    | present row hrow hid hmessage => exact ⟨row, hrow, hid, hmessage⟩
    | written i warnings hmem => nomatch hmem
    | read i reader row hmem => nomatch hmem

theorem Kept.noneLost {w : World} {c : Config rails ι} (h : Kept w c) :
  NoneLost w c
  := by
  intro id message hnoted row hrow hid
  obtain ⟨row', hrow', hid', hmessage⟩ := h.noted id message hnoted
  obtain rfl := h.numbered.eq_of_id hrow hrow' (hid.trans hid'.symm)
  exact List.count_eq_one_of_mem (h.numbered.distinct row hrow) hmessage

section Step

variable {i : ι} {o : Op} {χ : o.Choice} {c : Config rails ι}

/-- Steps keep the rows numbered, and their warnings distinct. -/
theorem numbered_after (happends : Appends i o χ c) (h : Numbered c.world) :
  Numbered (c.after i o χ).world
  := by
  change Numbered (exec o χ c.world).2
  rcases exec_measurements o χ c.world with hsame | ⟨id, warnings, rfl, hupdate⟩ |
    ⟨m, hinserted, hinsert⟩
  · constructor
    · rw [hsame]
      exact h.places
    · rw [hsame]
      exact h.distinct
  · constructor
    · rw [hupdate, World.updateWarnings, List.length_map, ← h.places, List.map_map]
      apply List.map_congr_left
      intro row _
      simp only [Function.comp]
      split_ifs <;> rfl
    · rw [hupdate]
      intro row hrow
      obtain ⟨row₀, hrow₀, rfl⟩ := List.mem_map.mp hrow
      split_ifs with hid
      · obtain ⟨row', hrow', -, message, hmessage, rfl⟩ := happends.update id warnings rfl
        change (row'.warnings ++ [message]).Nodup
        rw [← List.concat_eq_append]
        exact (h.distinct row' hrow').concat hmessage
      · exact h.distinct row₀ hrow₀
  · constructor
    · rw [hinsert, List.map_append, h.places, List.length_append, List.length_singleton,
        List.range_succ]
      rfl
    · rw [hinsert]
      intro row hrow
      rcases List.mem_append.mp hrow with hrow | hrow
      · exact h.distinct row hrow
      · rw [List.mem_singleton.mp hrow]
        change m.warnings.Nodup
        rw [happends.insert m hinserted]
        exact List.nodup_nil

/-- Steps keep the warnings that a row has. -/
theorem has_after (happends : Appends i o χ c) (h : Numbered c.world) {id : ℕ} {message : Json ℚ}
    (hhas : Has c.world id message) :
  Has (c.after i o χ).world id message
  := by
  obtain ⟨row, hrow, rfl, hmessage⟩ := hhas
  change Has (exec o χ c.world).2 row.id message
  rcases exec_measurements o χ c.world with hsame | ⟨id, warnings, rfl, hupdate⟩ |
    ⟨m, hinserted, hinsert⟩
  · use row
    rw [hsame]
    exact ⟨hrow, rfl, hmessage⟩
  · obtain ⟨row', hrow', hid', message', -, rfl⟩ := happends.update id warnings rfl
    unfold Has
    rw [hupdate]
    refine ⟨_, List.mem_map_of_mem hrow, ?_⟩
    split_ifs with hid
    · obtain rfl := h.eq_of_id hrow hrow' (hid.trans hid'.symm)
      exact ⟨rfl, List.mem_append_left _ hmessage⟩
    · exact ⟨rfl, hmessage⟩
  · use row
    rw [hinsert]
    exact ⟨List.mem_append_left _ hrow, rfl, hmessage⟩

/-- A warning is noted already, or it is noted as it is written or read. -/
theorem noted_after {w : World} {id : ℕ} {message : Json ℚ}
    (h : Noted w (c.after i o χ).past id message) :
  Noted w c.past id message ∨
    (∃ warnings, o = .updateWarnings id warnings ∧
      (exec o χ c.world).2 = c.world.updateWarnings id warnings ∧ message ∈ warnings) ∨
    (∃ row ∈ c.world.measurements, row.id = id ∧ message ∈ row.warnings)
  := by
  cases h with
  | present row hrow hid hmessage => exact .inl (.present row hrow hid hmessage)
  | written j warnings hmem hmessage =>
      rcases List.mem_cons.mp hmem with heq | hmem
      · right; left
        obtain ⟨rfl, hevent⟩ := Prod.mk.inj heq
        obtain ⟨rfl, hanswer⟩ := Sigma.mk.inj hevent
        use warnings, rfl
        cases χ with
        | some className =>
            have hraised := eq_of_heq hanswer
            nomatch hraised
        | none => exact ⟨rfl, hmessage⟩
      · exact .inl (.written j warnings hmem hmessage)
  | read j reader row hmem hid hmessage =>
      rcases List.mem_cons.mp hmem with heq | hmem
      · right; right
        obtain ⟨rfl, hevent⟩ := Prod.mk.inj heq
        obtain ⟨rfl, hanswer⟩ := Sigma.mk.inj hevent
        use row
        cases χ with
        | some className =>
            have hraised := eq_of_heq hanswer
            nomatch hraised
        | none =>
            have hlatest : some row = c.world.latestMeasurement :=
              Except.ok.inj (eq_of_heq hanswer)
            exact ⟨List.argmax_mem hlatest.symm, hid, hmessage⟩
      · exact .inl (.read j reader row hmem hid hmessage)

theorem kept_after {w : World} (happends : Appends i o χ c) (h : Kept w c) :
  Kept w (c.after i o χ)
  := by
  constructor
  · exact numbered_after happends h.numbered
  · intro id message hnoted
    rcases noted_after hnoted with hnoted | ⟨warnings, rfl, hworld, hmessage⟩ | hhas
    · exact has_after happends h.numbered (h.noted id message hnoted)
    · obtain ⟨row, hrow, hid, -⟩ := happends.update id warnings rfl
      unfold Has
      rw [Config.after_world, hworld]
      refine ⟨_, List.mem_map_of_mem hrow, ?_⟩
      rw [if_pos hid]
      exact ⟨hid, hmessage⟩
    · exact has_after happends h.numbered hhas

end Step

/-! ### Attempts -/

section Attempts

variable [DecidableEq ι] {i : ι}

/-- A measurement that has been read, and whose row is there. -/
def Reading (i : ι) (m : Measurement) (c : Config rails ι) : Prop :=
  m ∈ copies i c.past ∧ ∃ row ∈ c.world.measurements, row.id = m.id

/-- What has been read is not forgotten. -/
theorem reading_after {m : Measurement} {j : ι} {o : Op} {χ : o.Choice} {c : Config rails ι}
    (h : Reading i m c) :
  Reading i m (c.after j o χ)
  := by
  obtain ⟨hread, row, hrow, hid⟩ := h
  constructor
  · exact List.Sublist.mem hread ((List.sublist_cons_self _ _).filterMap _)
  · obtain ⟨row', hrow', hsame⟩ := kept_of_mem (o := o) (χ := χ) hrow
    use row', hrow'
    rw [hsame]
    exact hid

/-- What an attempt does besides writing warnings. -/
def Performs (o : Op) : Prop :=
  Op.writtenWarnings o = none ∧ ∀ m, o.inserted = some m → m.warnings = []

omit [DecidableEq ι] in
theorem appends_of_performs {o : Op} {χ : rails.Choice o} {c : Config rails ι} (ho : Performs o) :
  Appends i o χ c
  := by
  constructor
  · rintro id warnings rfl
    nomatch ho.1
  · exact ho.2

theorem permits : Permits (warningProtocol ι) i Performs
  where
  quiet o ho := by
    constructor
    · cases o <;> first | rfl | nomatch ho
    · intro m hm
      cases o <;> simp_all [Op.inserted, Op.quiet]
  update _ := ⟨rfl, nofun⟩
  guar := appends_of_performs

theorem undisturbed_reading (m : Measurement) :
  Undisturbed (warningProtocol ι) i (Reading i m)
  := by
  constructor
  · rintro c _ ⟨j, -, o, χ, -, -, rfl⟩ h
    exact reading_after h
  · intro o χ c ho _ h
    exact ⟨permits.guar (permits.quiet (ι := ι) (i := i) o ho), reading_after h⟩

/-- The measurement that is read is known, and so is its row. -/
theorem takes_latest (reader : Reader) (A : Config rails ι → Prop)
    (hA : (warningProtocol ι).Stable i A) :
  Takes (warningProtocol ι) i (.latestMeasurement reader) A
    (fun latest c => ∀ m ∈ latest, Reading i m c) (fun _ => True)
  := by
  constructor
  · exact hA
  · intro χ c _ _
    use appends_of_performs ⟨rfl, nofun⟩
    cases χ with
    | some className => trivial
    | none =>
        intro m hm
        constructor
        · have hread : (if i = i then readMeasurement
              ⟨.latestMeasurement reader, .ok c.world.latestMeasurement⟩ else none) = some m := by
            rw [if_pos rfl]
            exact hm
          exact List.mem_filterMap.mpr ⟨_, List.mem_cons_self, hread⟩
        · exact ⟨m, List.argmax_mem hm, rfl⟩

/-- A warning is appended to the measurement that has been read last. -/
theorem triple_warn {σ : Type} (message : String) (m : Measurement) :
  (warningProtocol ι).Triple i (fun (_ : σ) => Reading i m) (warn message m) (fun _ _ _ => True)
    (fun e _ _ => e.expected = false ∧ True)
  := by
  unfold warn
  split
  · exact Protocol.Triple.ret fun _ _ _ => trivial
  · next hnew =>
    apply Takes.triple
    constructor
    · exact (undisturbed_reading m).stable
    · intro χ c hok h
      constructor
      · constructor
        · rintro _ _ ⟨⟩
          obtain ⟨row, hrow, hid⟩ := h.2
          have hcopy : m.warnings = (m.warnings ++ [Json.str message]).dropLast := by simp
          have hsame := hok _ rfl m h.1 rfl hcopy row hrow hid
          use row, hrow, hid, .str message
          rw [hsame]
          refine ⟨?_, rfl⟩
          rw [List.contains_iff_mem] at hnew
          exact hnew
        · exact nofun
      · cases χ <;> trivial

theorem triple_appendFailureWarning {σ : Type} (message : String) (latest : Option Measurement) :
  (warningProtocol ι).Triple i (fun (_ : σ) c => ∀ m ∈ latest, Reading i m c)
    (appendFailureWarning message latest) (fun _ _ _ => True)
    (fun e _ _ => e.expected = false ∧ True)
  := by
  cases latest with
  | some m => exact (triple_warn message m).pre fun _ _ h => h m rfl
  | none =>
      apply Protocol.Triple.bind
        ((takes_latest .failureWarning (fun _ => True) (Protocol.stable_const _)).triple.pre
          fun _ _ _ => trivial)
      intro found
      cases found with
      | none => exact Protocol.Triple.ret fun _ _ _ => trivial
      | some m => exact (triple_warn message m).pre fun _ _ h => h m rfl

theorem keeps_recordFailure (n : ℕ) (e : Exn) :
  (warningProtocol ι).Keeps i (fun _ _ => True) (FusionJob.recordFailure n e)
  := by
  unfold FusionJob.recordFailure
  split
  · apply (triple_appendFailureWarning _ none).conseq
    · exact fun _ _ _ _ hm => nomatch hm
    · exact fun _ _ _ _ => trivial
    · exact fun _ _ _ _ => trivial
  · exact permits.keeps_updateLastError _

variable [FormatAssertion] [Platform]

theorem fusionSpec (captureSession : CaptureSession) :
  FusionSpec (warningProtocol ι) i captureSession (fun _ => True) (fun _ => True) (fun _ => True)
    (fun latest c => ∀ m ∈ latest, Reading i m c) (fun _ => True) (fun _ => True) (fun _ _ => True)
    (fun _ _ => True)
  where
  read := takes_latest .prior _ (Protocol.stable_const _)
  undisturbed latest := by
    constructor
    · intro c c' hstep h m hm
      exact (undisturbed_reading m).stable c c' hstep (h m hm)
    · intro o χ c ho hok h
      use permits.guar (permits.quiet (ι := ι) (i := i) o ho)
      exact fun m hm => reading_after (h m hm)
  undisturbedWarned := permits.undisturbed _
  undisturbedError := permits.undisturbed _
  goodResponse _ _ _ := trivial
  lateTime _ := trivial
  skip latest _ := triple_appendFailureWarning _ latest
  unaligned m _ _ _ _ := triple_appendFailureWarning _ (some m)
  failed latest := (triple_appendFailureWarning _ latest).post (fun _ _ _ _ => trivial)
    (fun _ _ _ _ => trivial)
  insert prior response now _ _ _ _ := by
    constructor
    · intro c c' hstep h m hm
      exact (undisturbed_reading m).stable c c' hstep (h m hm)
    · intro χ c _ _
      constructor
      · apply appends_of_performs
        use rfl
        rintro _ ⟨⟩
        rfl
      · split <;> trivial
  complete _ _ := Takes.of_guar (fun _ _ => permits.guar ⟨rfl, nofun⟩) (fun _ _ => trivial)
  enqueue _ := Takes.of_guar (fun _ _ => permits.guar ⟨rfl, nofun⟩) (fun _ _ => trivial)
  error _ := trivial
  warned _ := trivial

/-- An attempt appends warnings to the measurement that it has read. -/
theorem wp_attempt (captureSessionId : String) (n : ℕ) (c : Config rails ι) :
  (warningProtocol ι).wp i (FusionJob.perform captureSessionId n) (fun _ _ => True) c
  := by
  have hspec : FusionAttemptSpec (warningProtocol ι) i captureSessionId (fun _ => True)
      (fun _ => True) (fun _ => True) (fun _ => True) (fun _ => True) (fun _ _ => True) := by
    constructor
    · exact permits.undisturbed _
    · apply Takes.of_guar
      · exact fun _ _ => permits.guar ⟨rfl, nofun⟩
      · intro latest c
        split <;> trivial
    · exact fun captureSession _ => (fusionSpec captureSession).triple_call
    · exact fun _ => trivial
  apply permits.wp_perform (fun _ => ⟨rfl, nofun⟩)
  apply (hspec.triple_attempt (keeps_recordFailure n)).post
  · exact fun _ _ _ _ => trivial
  · exact fun _ _ _ hc => hc

/-- In every interleaving of attempts, messages are appended before failures are announced, and
the past accounts for the attempts that have ended. -/
theorem accounted_run (work : ι → String × ℕ) (w : World) (schedule : List (ι × rails.Choices)) :
  Announced ((attempts work w).run schedule).config.past ∧
    ∀ i outcome, (((attempts work w).run schedule).prog i).result? = some outcome →
      Accounted (work i).2 i outcome ((attempts work w).run schedule).config.past
  := by
  have hstart : (attempts work w).Keeps (announcing ι) fun i outcome c =>
      Accounted (work i).2 i outcome c.past :=
    fun i => AppendedWarnings.wp_perform (work i).1 (work i).2 _
  obtain ⟨hannounced, hkeeps⟩ :=
    announced_run (fun i => stable_accounted (work i).2) hstart rfl schedule
  exact ⟨hannounced, fun i outcome hdone => hkeeps.done hdone⟩

/-- In every interleaving of attempts in which no writer of warnings is overtaken, no warning is
lost. Every message that an attempt has appended a measurement has had: one for each failure that
is announced, and the exhaustion of the job for a last attempt that fails. -/
theorem no_warning_lost (work : ι → String × ℕ) (w : World) (hw : Numbered w)
    (schedule : List (ι × rails.Choices))
    (hmeets : (attempts work w).Meets NotOvertaken schedule) :
  NoneLost w ((attempts work w).run schedule).config ∧
    AppendsNoted w ((attempts work w).run schedule).config.past ∧
    Announced ((attempts work w).run schedule).config.past ∧
    ∀ i outcome, (((attempts work w).run schedule).prog i).result? = some outcome →
      Accounted (work i).2 i outcome ((attempts work w).run schedule).config.past
  := by
  refine ⟨?_, appendsNoted w _, accounted_run work w schedule⟩
  have hstart : (attempts work w).Keeps (warningProtocol ι) fun _ _ _ => True :=
    fun i => wp_attempt (work i).1 (work i).2 _
  obtain ⟨hguar, -⟩ := Pool.run_of_keeps (fun _ _ => Protocol.stable_const True) hstart hmeets
  have hinv := Pool.invariant_run (P := warningProtocol ι) (A := Kept w)
    (fun i o χ c _ happends hc => kept_after happends hc) hmeets hguar (kept_start hw)
  exact hinv.noneLost

end Attempts

/-! ### A writer that is overtaken -/

/-- A program that is done. -/
def finished {α : Type} : Prog application α → Bool
  | .pure _ => true
  | .perform _ _ => false

/-- The last attempt at a fusion of one session, and the first one of another. -/
def lastAndFirst : Bool → String × ℕ
  | true => ("1", 3)
  | false => ("2", 1)

/-- Nothing is raised, and the sidecar times out. -/
def timingOut : rails.Choices :=
  choosing (fun _ => none) (fun _ => .timeout "Net::ReadTimeout") .timedOut

/-- One attempt after the other. -/
def oneByOne : List (Bool × rails.Choices) :=
  List.replicate 10 (true, timingOut) ++ List.replicate 9 (false, timingOut)

/-- The past of the attempts one after the other. -/
def pastOneByOne : List (Bool × Event application) :=
  ((@attempts Bool anyFormat plainPlatform lastAndFirst (measuredJob ["1", "2"])).run
    oneByOne).config.past

/-- Both fusions are announced to have failed and the first attempt has exhausted its job, so
each message is on the measurement once. -/
theorem no_warning_lost_one_by_one :
  NoneLost (measuredJob ["1", "2"])
      ((@attempts Bool anyFormat plainPlatform lastAndFirst (measuredJob ["1", "2"])).run
        oneByOne).config ∧
    AppendsNoted (measuredJob ["1", "2"]) pastOneByOne ∧
    @Announced Bool plainPlatform pastOneByOne ∧
    ∀ i outcome,
      (((@attempts Bool anyFormat plainPlatform lastAndFirst (measuredJob ["1", "2"])).run
        oneByOne).prog i).result? = some outcome →
      Accounted (lastAndFirst i).2 i outcome pastOneByOne
  := by
  apply @no_warning_lost Bool _ anyFormat plainPlatform
  · constructor
    · decide
    · decide +kernel
  · decide +kernel

/-- The first attempt reads the measurement before the other one begins, and writes its warning
after the other one has ended. -/
def overtaking : List (Bool × rails.Choices) :=
  List.replicate 5 (false, timingOut) ++ oneByOne

/-- Whether an event writes the warning of an exhausted fusion job, to the measurement 0. -/
def writesExhausted : Bool × Event application → Bool
  | (_, ⟨.updateWarnings 0 warnings, .ok _⟩) => decide (.str "fusion_job_exhausted" ∈ warnings)
  | _ => false

/-- The attempt that was overtaken writes what it had read before, and the warning of the other one
is lost. -/
theorem overtaken_writer_loses_warning :
  ¬ ∀ (work : Bool → String × ℕ) (w : World) (schedule : List (Bool × rails.Choices)),
    Numbered w →
      (∀ i, finished (((@attempts Bool anyFormat plainPlatform work w).run schedule).prog i)) →
        NoneLost w ((@attempts Bool anyFormat plainPlatform work w).run schedule).config
  := by
  intro h
  have hnumbered : Numbered (measuredJob ["1", "2"]) := by
    constructor
    · decide
    · decide +kernel
  have hkept := h lastAndFirst (measuredJob ["1", "2"]) overtaking hnumbered (by decide +kernel)
  have hwritten : ((@attempts Bool anyFormat plainPlatform lastAndFirst
      (measuredJob ["1", "2"])).run overtaking).config.past.any writesExhausted = true := by
    decide +kernel
  have hlost : ∃ row ∈ ((@attempts Bool anyFormat plainPlatform lastAndFirst
      (measuredJob ["1", "2"])).run overtaking).config.world.measurements,
        row.id = 0 ∧ row.warnings.count (.str "fusion_job_exhausted") = 0 := by
    decide +kernel
  obtain ⟨⟨i, event⟩, hevent, hmessage⟩ := List.any_eq_true.mp hwritten
  obtain ⟨row, hrow, hid, hcount⟩ := hlost
  unfold writesExhausted at hmessage
  split at hmessage
  · next heq =>
    obtain ⟨-, rfl⟩ := Prod.mk.inj heq
    have hone := hkept 0 _ (.written i _ hevent (of_decide_eq_true hmessage)) row hrow hid
    rw [hcount] at hone
    cases hone
  · cases hmessage

end WarningUpdates

end Rails
