import RoofTrace.Rails.Database

/-!
# Share links

The reports of jobs, whose tokens are the share links, and the requests that make reports
and that resolve tokens: the report page of a job, the end of the measurement pipeline, the
JSON exports, the status and the public page. A request is a program over the statements
that it sends to the database, and any number of requests are interleaved, also with the
creation and the destruction of jobs.

The links of a run are the reports that it has inserted, each with the job it was inserted
for. The table of reports is what is left of them when the jobs that are gone are forgotten,
and no two links have the same job or the same token.
-/

namespace Rails.ShareLinks

open Effects

/-! ### Tables -/

/-- A row of `reports`. -/
structure Report where
  id : ℕ
  jobId : Option ℕ
  shareToken : String
deriving DecidableEq

/-- A row of `measurements`, with the job it belongs to. -/
structure JobMeasurement extends Measurement where
  jobId : ℕ

/-- The tables, the last row of `reports` first. The ids of jobs are numbered as they are
drawn. -/
structure Tables where
  drawn : ℕ
  jobs : List ℕ
  measurements : List JobMeasurement
  reports : List Report

namespace Tables

/-- `Report.find_by(job:)` -/
def findReport (T : Tables) (job : ℕ) : Option Report :=
  T.reports.find? (·.jobId = some job)

/-- `Report.find_by(share_token:)` -/
def findReportByToken (T : Tables) (token : String) : Option Report :=
  T.reports.find? (·.shareToken = token)

/-- `Job#latest_measurement` -/
def latestMeasurement (T : Tables) (job : ℕ) : Option JobMeasurement :=
  (T.measurements.filter (·.jobId = job)).argmax (·.generatedAt)

/-- A job is created under an id that is drawn for it. -/
def createJob (T : Tables) : Tables :=
  { T with drawn := T.drawn + 1, jobs := T.drawn :: T.jobs }

/-- A report loses its job. -/
def nullify (job : ℕ) (report : Report) : Report :=
  if report.jobId = some job then { report with jobId := none } else report

/-- A job is destroyed with its measurements, and its report is kept. -/
def destroyJob (T : Tables) (job : ℕ) : Tables :=
  { T with
    jobs := T.jobs.filter (· ≠ job)
    measurements := T.measurements.filter (·.jobId ≠ job)
    reports := T.reports.map (nullify job) }

def insertReport (T : Tables) (job : ℕ) (token : String) : Tables :=
  { T with reports := ⟨T.reports.length, some job, token⟩ :: T.reports }

end Tables

/-! ### Statements -/

/-- The unique indexes on `reports`. -/
inductive UniqueIndex where
  | jobId
  | shareToken
deriving DecidableEq

inductive Failure where
  | recordInvalid
  | recordNotUnique (index : UniqueIndex)
  | invalidForeignKey
  | recordNotFound
  | standardError (className : String)
deriving DecidableEq

inductive Statement where
  | createJob
  | destroyJob (job : ℕ)
  | insertMeasurement (job : ℕ) (m : Measurement)
  | findJob (job : ℕ)
  | latestMeasurement (job : ℕ)
  | findReport (job : ℕ)
  /-- The SELECT of the validation that no report has the job. -/
  | jobTaken (job : ℕ)
  | insertReport (job : ℕ)
  | findReportByToken (token : String)

/-- What a statement answers when it does not raise. -/
abbrev Statement.Res : Statement → Type
  | .createJob => ℕ
  | .findJob _ => Bool
  | .latestMeasurement _ => Option JobMeasurement
  | .findReport _ => Option Report
  | .jobTaken _ => Bool
  | .insertReport _ => Report
  | .findReportByToken _ => Option Report
  | _ => Unit

abbrev statements : Signature := .fallible Failure Statement Statement.Res

/-- What is left to the world: the class of the exception that a statement raises, if it
does, and the token of a report that is inserted. -/
abbrev Statement.Choice : Statement → Type
  | .insertReport _ => Option String × String
  | _ => Option String

/-- A statement that raises, or else has an answer and an effect. -/
def unlessFailed {α : Type} (raised : Option String) (T : Tables)
    (effect : Except Failure α × Tables) : Except Failure α × Tables :=
  match raised with
  | some className => (.error (.standardError className), T)
  | none => effect

def exec : (o : Statement) → o.Choice → Tables → Except Failure o.Res × Tables
  | .createJob, χ, T => unlessFailed χ T (.ok T.drawn, T.createJob)
  | .destroyJob job, χ, T => unlessFailed χ T (.ok (), T.destroyJob job)
  | .insertMeasurement job m, χ, T =>
      unlessFailed χ T
        (if job ∈ T.jobs then
          (.ok (), { T with measurements := T.measurements ++ [⟨m, job⟩] })
        else (.error .invalidForeignKey, T))
  | .findJob job, χ, T => unlessFailed χ T (.ok (decide (job ∈ T.jobs)), T)
  | .latestMeasurement job, χ, T => unlessFailed χ T (.ok (T.latestMeasurement job), T)
  | .findReport job, χ, T => unlessFailed χ T (.ok (T.findReport job), T)
  | .jobTaken job, χ, T => unlessFailed χ T (.ok (T.findReport job).isSome, T)
  | .insertReport job, (raised, token), T =>
      unlessFailed raised T
        (if (T.findReport job).isSome then (.error (.recordNotUnique .jobId), T)
        else if (T.findReportByToken token).isSome then
          (.error (.recordNotUnique .shareToken), T)
        else if job ∈ T.jobs then
          (.ok ⟨T.reports.length, some job, token⟩, T.insertReport job token)
        else (.error .invalidForeignKey, T))
  | .findReportByToken token, χ, T => unlessFailed χ T (.ok (T.findReportByToken token), T)

abbrev database : Interp statements where
  World := Tables
  Choice := Statement.Choice
  exec := exec

/-! ### Requests -/

abbrev Method (α : Type) : Type := Action statements Failure Unit α

def perform (o : Statement) : Method o.Res := Action.perform o

def rescuingNotUnique {α : Type} (x handler : Method α) : Method α :=
  tryCatch x fun
    | .recordNotUnique _ => handler
    | e => throw e

/-- `find_by!` -/
def found {α : Type} : Option α → Method α
  | some a => pure a
  | none => throw .recordNotFound

namespace Report

/-- `Report.find_by!(job:)` -/
def findByJob (job : ℕ) : Method Report := do found (← perform (.findReport job))

/-- `Report.create!(job:)` -/
def create (job : ℕ) : Method Report := do
  if ← perform (.jobTaken job) then throw .recordInvalid
  perform (.insertReport job)

/-- `Report.create_or_find_by!(job:)` -/
def createOrFindBy (job : ℕ) : Method Report := rescuingNotUnique (create job) (findByJob job)

/-- `Report.find_or_create_by!(job:)` -/
def findOrCreateBy (job : ℕ) : Method Report := do
  match ← perform (.findReport job) with
  | some report => pure report
  | none => createOrFindBy job

end Report

/-- `ensure_report`, and `ensure_report_for` of the pipeline. -/
def ensureReport (job : ℕ) : Method Report :=
  rescuingNotUnique (Report.findOrCreateBy job) (Report.findByJob job)

/-- What is shown: the report whose token is offered, the job and its measurement. -/
structure Page where
  report : Option Report
  job : Option ℕ
  measurement : Option JobMeasurement

inductive Answer where
  | done
  | notFound
  | page (p : Page)

namespace JobsController

/-- `report`, after `set_job`. -/
def report (job : ℕ) : Method Answer := do
  if ← perform (.findJob job) then
    let measurement ← perform (.latestMeasurement job)
    let report ← ensureReport job
    pure (.page ⟨some report, some job, measurement⟩)
  else pure .notFound

end JobsController

namespace MeasurementOrchestrator

/-- `ensure_report_for` -/
def ensureReportFor (job : ℕ) : Method Answer := do
  let report ← ensureReport job
  pure (.page ⟨some report, some job, none⟩)

end MeasurementOrchestrator

namespace JsonExportsController

/-- `show`, with the share identity of the job. -/
def «show» (job : ℕ) : Method Answer := do
  if ← perform (.findJob job) then
    let report ← perform (.findReport job)
    let measurement ← perform (.latestMeasurement job)
    pure (.page ⟨report, some job, measurement⟩)
  else pure .notFound

end JsonExportsController

namespace JobStatusSerializer

/-- `summary`, of a job that is found. -/
def summary (job : ℕ) : Method Answer := do
  if ← perform (.findJob job) then
    let report ← perform (.findReport job)
    pure (.page ⟨report, some job, none⟩)
  else pure .notFound

end JobStatusSerializer

namespace ReportsController

/-- `Report#job` -/
def jobOf (report : Report) : Method (Option ℕ) :=
  match report.jobId with
  | some job => do
      if ← perform (.findJob job) then pure (some job) else pure none
  | none => pure none

/-- `show_public`, after `load_report_by_token`. -/
def showPublic (token : String) : Method Answer := do
  match ← perform (.findReportByToken token) with
  | none => pure .notFound
  | some report =>
      match ← jobOf report with
      | none => pure (.page ⟨some report, none, none⟩)
      | some job =>
          let measurement ← perform (.latestMeasurement job)
          pure (.page ⟨some report, some job, measurement⟩)

/-- `export_public`, after `load_report_by_token`. -/
def exportPublic (token : String) : Method Answer := do
  match ← perform (.findReportByToken token) with
  | none => pure .notFound
  | some report =>
      match ← jobOf report with
      | none => pure .notFound
      | some job =>
          let measurement ← perform (.latestMeasurement job)
          pure (.page ⟨some report, some job, measurement⟩)

end ReportsController

inductive Request where
  | createJob
  | destroyJob (job : ℕ)
  | insertMeasurement (job : ℕ) (m : Measurement)
  | report (job : ℕ)
  | ensureReportFor (job : ℕ)
  | exportJob (job : ℕ)
  | status (job : ℕ)
  | showPublic (token : String)
  | exportPublic (token : String)

def Request.method : Request → Method Answer
  | .createJob => do
      let _ ← perform .createJob
      pure .done
  | .destroyJob job => do
      perform (.destroyJob job)
      pure .done
  | .insertMeasurement job m => do
      perform (.insertMeasurement job m)
      pure .done
  | .report job => JobsController.report job
  | .ensureReportFor job => MeasurementOrchestrator.ensureReportFor job
  | .exportJob job => JsonExportsController.show job
  | .status job => JobStatusSerializer.summary job
  | .showPublic token => ReportsController.showPublic token
  | .exportPublic token => ReportsController.exportPublic token

/-- Requests that have not begun, over empty tables. -/
def requests {ι : Type} (work : ι → Request) : Pool database ι (Except Failure Answer) where
  config := ⟨⟨0, [], [], []⟩, []⟩
  prog i := (work i).method.outcome ()

/-! ### Links -/

variable {ι : Type}

/-- The report that an event has inserted, with the job it was inserted for. -/
def inserted : Event statements → Option (ℕ × Report)
  | ⟨.insertReport job, .ok report⟩ => some (job, report)
  | _ => none

/-- The links of the past, the last one first. -/
def links (c : Config database ι) : List (ℕ × Report) := c.past.filterMap fun e => inserted e.2

/-- What is left of a link in the table. -/
def stored (jobs : List ℕ) (link : ℕ × Report) : Report :=
  if link.1 ∈ jobs then link.2 else { link.2 with jobId := none }

/-- The table holds the links as far as their jobs exist, and they are distinct. -/
structure Sound (c : Config database ι) : Prop where
  reports : c.world.reports = (links c).map (stored c.world.jobs)
  own : ∀ link ∈ links c, link.2.jobId = some link.1
  distinct_jobs : ((links c).map (·.1)).Nodup
  distinct_tokens : ((links c).map (·.2.shareToken)).Nodup
  link_drawn : ∀ link ∈ links c, link.1 < c.world.drawn
  job_drawn : ∀ job ∈ c.world.jobs, job < c.world.drawn

section

variable {jobs : List ℕ} {link : ℕ × Report}

/-- A stored report keeps its token, whether its job is there or not. -/
@[simp]
theorem shareToken_stored :
  (stored jobs link).shareToken = link.2.shareToken
  := by
  unfold stored
  split <;> rfl

/-- The report of a job that is there is stored as it was made. -/
theorem stored_of_mem (h : link.1 ∈ jobs) :
  stored jobs link = link.2
  := if_pos h

/-- The report of a job that has been deleted has lost its job. -/
theorem stored_of_not_mem (h : link.1 ∉ jobs) :
  stored jobs link = { link.2 with jobId := none }
  := if_neg h

/-- A stored report has the job that it was made for, as long as that is there. -/
theorem jobId_stored (hown : link.2.jobId = some link.1) {job : ℕ} :
  (stored jobs link).jobId = some job ↔ link.1 = job ∧ job ∈ jobs
  := by
  unfold stored
  split
  next h =>
    rw [hown, Option.some.injEq]
    constructor
    · rintro rfl
      exact ⟨rfl, h⟩
    · exact And.left
  next h =>
    constructor
    · rintro ⟨⟩
    · rintro ⟨rfl, hmem⟩
      exact absurd hmem h

/-- What the foreign key does when a job is deleted is what is stored without the job. -/
theorem nullify_stored (hown : link.2.jobId = some link.1) (job : ℕ) :
  Tables.nullify job (stored jobs link) = stored (jobs.filter (· ≠ job)) link
  := by
  by_cases hjob : link.1 = job
  · subst hjob
    have hgone : link.1 ∉ jobs.filter (· ≠ link.1) := by simp
    rw [stored_of_not_mem hgone]
    by_cases hmem : link.1 ∈ jobs
    · rw [stored_of_mem hmem]
      exact if_pos hown
    · rw [stored_of_not_mem hmem]
      unfold Tables.nullify
      rw [if_neg]
      rintro ⟨⟩
  · have hsame : link.1 ∈ jobs.filter (· ≠ job) ↔ link.1 ∈ jobs := by
      simp [hjob]
    unfold Tables.nullify
    rw [if_neg (fun h => hjob ((jobId_stored hown).mp h).1)]
    simp only [stored, hsame]

end

/-- A link that has been made is not forgotten. -/
theorem mem_links_after {c : Config database ι} {link : ℕ × Report} (h : link ∈ links c) (i : ι)
    (o : Statement) (χ : o.Choice) :
  link ∈ links (c.after i o χ)
  := by
  unfold links
  rw [Config.after_past, List.filterMap_cons]
  split
  · exact h
  · exact List.mem_cons_of_mem _ h

/-- What a statement does to the links and to the tables. -/
inductive Change (c c' : Config database ι) : Prop where
  | none (links : links c' = links c) (reports : c'.world.reports = c.world.reports)
      (jobs : c'.world.jobs = c.world.jobs) (drawn : c'.world.drawn = c.world.drawn)
  | created (links : links c' = links c) (world : c'.world = c.world.createJob)
  | destroyed (job : ℕ) (links : links c' = links c) (world : c'.world = c.world.destroyJob job)
  | inserted (job : ℕ) (token : String)
      (links : links c' = (job, ⟨c.world.reports.length, some job, token⟩) :: links c)
      (world : c'.world = c.world.insertReport job token) (mem : job ∈ c.world.jobs)
      (untaken : c.world.findReport job = .none)
      (unused : c.world.findReportByToken token = .none)

/-- What the INSERT of a report comes to. -/
inductive Insertion (T : Tables) (job : ℕ) (token : String) :
    Except Failure Report × Tables → Prop where
  | taken (report : Report) (h : T.findReport job = some report) :
      Insertion T job token (.error (.recordNotUnique .jobId), T)
  | used (report : Report) (h : T.findReportByToken token = some report) :
      Insertion T job token (.error (.recordNotUnique .shareToken), T)
  | unowned (h : job ∉ T.jobs) : Insertion T job token (.error .invalidForeignKey, T)
  | inserted (untaken : T.findReport job = none) (unused : T.findReportByToken token = none)
      (mem : job ∈ T.jobs) :
      Insertion T job token
        (.ok ⟨T.reports.length, some job, token⟩, T.insertReport job token)

/-- An INSERT of a report makes a new row or is refused for its job or its token. -/
theorem insertion (T : Tables) (job : ℕ) (token : String) :
  Insertion T job token (exec (.insertReport job) (none, token) T)
  := by
  simp only [exec, unlessFailed]
  cases hjob : T.findReport job with
  | some report => exact .taken report hjob
  | none =>
      cases htoken : T.findReportByToken token with
      | some report => exact .used report htoken
      | none =>
          by_cases hmem : job ∈ T.jobs
          · simp only [hmem, Option.isSome_none, Bool.false_eq_true, if_true, if_false]
            exact .inserted hjob htoken hmem
          · simp only [hmem, Option.isSome_none, Bool.false_eq_true, if_false]
            exact .unowned hmem

/-- An INSERT of a report changes the tables and the links together. -/
theorem change_insertReport (c : Config database ι) (i : ι) (job : ℕ) (token : String) :
  Change c (c.after i (.insertReport job) (none, token))
  := by
  have hexec := insertion c.world job token
  generalize hout : exec (.insertReport job) (none, token) c.world = out at hexec
  have hlinks : links (c.after i (.insertReport job) (none, token)) =
      (inserted ⟨.insertReport job, out.1⟩).toList ++ links c := by
    rw [← hout]
    simp only [links, Config.after_past, List.filterMap_cons, Config.answer]
    cases inserted ⟨.insertReport job, (exec (.insertReport job) (none, token) c.world).1⟩ <;> rfl
  have hworld : (c.after i (.insertReport job) (none, token)).world = out.2 := by
    rw [← hout, Config.after_world]
  cases hexec with
  | taken => exact .none hlinks (by rw [hworld]) (by rw [hworld]) (by rw [hworld])
  | used => exact .none hlinks (by rw [hworld]) (by rw [hworld]) (by rw [hworld])
  | unowned => exact .none hlinks (by rw [hworld]) (by rw [hworld]) (by rw [hworld])
  | inserted untaken unused mem => exact .inserted job token hlinks hworld mem untaken unused

/-- A statement makes a link, deletes a job, or leaves both as they are. -/
theorem change (c : Config database ι) (i : ι) (o : Statement) (χ : o.Choice) :
  Change c (c.after i o χ)
  := by
  cases o with
  | createJob =>
      cases χ with
      | some className => exact .none rfl rfl rfl rfl
      | none => exact .created rfl rfl
  | destroyJob job =>
      cases χ with
      | some className => exact .none rfl rfl rfl rfl
      | none => exact .destroyed job rfl rfl
  | insertMeasurement job m =>
      apply Change.none
      · rfl
      all_goals
        cases χ with
        | some className => rfl
        | none =>
            simp only [Config.after_world, exec, unlessFailed]
            split <;> rfl
  | insertReport job =>
      obtain ⟨raised, token⟩ := χ
      cases raised with
      | some className => exact .none rfl rfl rfl rfl
      | none => exact change_insertReport c i job token
  | _ => cases χ <;> exact .none rfl rfl rfl rfl

namespace Sound

variable {c : Config database ι}

/-- A report with a job is the link of the job. -/
theorem mem_links (h : Sound c) {job : ℕ} {report : Report} (hmem : report ∈ c.world.reports)
    (hjob : report.jobId = some job) :
  (job, report) ∈ links c
  := by
  rw [h.reports] at hmem
  obtain ⟨link, hlink, rfl⟩ := List.mem_map.mp hmem
  obtain ⟨rfl, hexists⟩ := (jobId_stored (h.own link hlink)).mp hjob
  rw [stored_of_mem hexists]
  exact hlink

/-- A job without a report has no link. -/
theorem untaken (h : Sound c) {job : ℕ} (hnone : c.world.findReport job = none)
    (hmem : job ∈ c.world.jobs) :
  ∀ link ∈ links c, link.1 ≠ job
  := by
  rintro link hlink rfl
  have hrow : stored c.world.jobs link ∈ c.world.reports := by
    rw [h.reports]
    exact List.mem_map_of_mem hlink
  have hno := List.find?_eq_none.mp hnone _ hrow
  rw [stored_of_mem hmem, h.own link hlink] at hno
  simp at hno

/-- A token that no report has is the token of no link. -/
theorem unused (h : Sound c) {token : String} (hnone : c.world.findReportByToken token = none) :
  ∀ link ∈ links c, link.2.shareToken ≠ token
  := by
  rintro link hlink rfl
  have hrow : stored c.world.jobs link ∈ c.world.reports := by
    rw [h.reports]
    exact List.mem_map_of_mem hlink
  have hno := List.find?_eq_none.mp hnone _ hrow
  simp at hno

/-- A change keeps the tables in accord with the links. -/
theorem change {c' : Config database ι} (h : Sound c) (hchange : Change c c') :
  Sound c'
  := by
  cases hchange with
  | none links reports jobs drawn =>
      constructor
      · rw [reports, links, jobs, h.reports]
      · rw [links]
        exact h.own
      · rw [links]
        exact h.distinct_jobs
      · rw [links]
        exact h.distinct_tokens
      · rw [links, drawn]
        exact h.link_drawn
      · rw [jobs, drawn]
        exact h.job_drawn
  | created links world =>
      have hstored : ∀ link ∈ ShareLinks.links c,
          stored c.world.jobs link = stored (c.world.drawn :: c.world.jobs) link := by
        intro link hlink
        have hne := (h.link_drawn link hlink).ne
        simp only [stored, List.mem_cons, hne, false_or]
      constructor
      · rw [world, links]
        exact h.reports.trans (List.map_congr_left hstored)
      · rw [links]
        exact h.own
      · rw [links]
        exact h.distinct_jobs
      · rw [links]
        exact h.distinct_tokens
      · rw [world, links]
        exact fun link hlink => Nat.lt_succ_of_lt (h.link_drawn link hlink)
      · rw [world]
        intro job hjob
        rcases List.mem_cons.mp hjob with rfl | hold
        · exact Nat.lt_succ_self _
        · exact Nat.lt_succ_of_lt (h.job_drawn job hold)
  | destroyed job links world =>
      constructor
      · rw [world, links]
        simp only [Tables.destroyJob, h.reports, List.map_map]
        apply List.map_congr_left
        exact fun link hlink => nullify_stored (h.own link hlink) job
      · rw [links]
        exact h.own
      · rw [links]
        exact h.distinct_jobs
      · rw [links]
        exact h.distinct_tokens
      · rw [world, links]
        exact h.link_drawn
      · rw [world]
        exact fun job hjob => h.job_drawn job (List.mem_of_mem_filter hjob)
  | inserted job token links world mem untaken unused =>
      have hnew : stored (c.world.insertReport job token).jobs
          (job, ⟨c.world.reports.length, some job, token⟩) =
            ⟨c.world.reports.length, some job, token⟩ := if_pos mem
      constructor
      · rw [world, links, List.map_cons, hnew]
        exact congrArg _ h.reports
      · rw [links]
        rintro link (_ | ⟨_, hlink⟩)
        · rfl
        · exact h.own link hlink
      · rw [links, List.map_cons, List.nodup_cons]
        refine ⟨?_, h.distinct_jobs⟩
        rintro hjob
        obtain ⟨link, hlink, hsame⟩ := List.mem_map.mp hjob
        exact h.untaken untaken mem link hlink hsame
      · rw [links, List.map_cons, List.nodup_cons]
        refine ⟨?_, h.distinct_tokens⟩
        rintro htoken
        obtain ⟨link, hlink, hsame⟩ := List.mem_map.mp htoken
        exact h.unused unused link hlink hsame
      · rw [world, links]
        rintro link (_ | ⟨_, hlink⟩)
        · exact h.job_drawn job mem
        · exact h.link_drawn link hlink
      · rw [world]
        exact h.job_drawn

/-- A statement keeps the tables in accord with the links. -/
theorem after (h : Sound c) (i : ι) (o : Statement) (χ : o.Choice) :
  Sound (c.after i o χ)
  := h.change (ShareLinks.change c i o χ)

/-- A job has one link: two links of one job are the same, by the unique index on the job. -/
theorem eq_of_job (h : Sound c) {link link' : ℕ × Report} (hlink : link ∈ links c)
    (hlink' : link' ∈ links c) (hsame : link.1 = link'.1) :
  link = link'
  := List.inj_on_of_nodup_map h.distinct_jobs hlink hlink' hsame

/-- A token has one link: two links with one token are the same, by the unique index on the token.
-/
theorem eq_of_token (h : Sound c) {link link' : ℕ × Report} (hlink : link ∈ links c)
    (hlink' : link' ∈ links c) (hsame : link.2.shareToken = link'.2.shareToken) :
  link = link'
  := List.inj_on_of_nodup_map h.distinct_tokens hlink hlink' hsame

/-- A token that belongs to a link is found in the table. -/
theorem findReportByToken (h : Sound c) {link : ℕ × Report} (hlink : link ∈ links c) :
  c.world.findReportByToken link.2.shareToken = some (stored c.world.jobs link)
  := by
  have hrow : stored c.world.jobs link ∈ c.world.reports := by
    rw [h.reports]
    exact List.mem_map_of_mem hlink
  cases hfound : c.world.findReportByToken link.2.shareToken with
  | none => exact absurd rfl (h.unused hfound link hlink)
  | some report =>
      have hmem := List.mem_of_find?_eq_some hfound
      rw [h.reports] at hmem
      obtain ⟨link', hlink', rfl⟩ := List.mem_map.mp hmem
      have htoken := List.find?_some hfound
      simp only [shareToken_stored, decide_eq_true_eq] at htoken
      rw [h.eq_of_token hlink' hlink htoken]

/-- A report that is read for a job is its link. -/
theorem mem_links_of_findReport (h : Sound c) {job : ℕ} {report : Report}
    (hfound : c.world.findReport job = some report) :
  (job, report) ∈ links c
  := by
  apply h.mem_links (List.mem_of_find?_eq_some hfound)
  simpa using List.find?_some hfound

/-- When no report is read for a job that has a link, the job does not exist. -/
theorem not_mem_jobs_of_findReport (h : Sound c) {link : ℕ × Report} (hlink : link ∈ links c)
    (hnone : c.world.findReport link.1 = none) :
  link.1 ∉ c.world.jobs
  := fun hmem => h.untaken hnone hmem link hlink rfl

end Sound

/-! ### What requests come to know -/

/-- A job that was created and is destroyed. -/
def Gone (job : ℕ) (c : Config database ι) : Prop :=
  job < c.world.drawn ∧ job ∉ c.world.jobs

/-- Whether an event is the INSERT of a report with a token that was there already. -/
def isCollision : Event statements → Bool
  | ⟨.insertReport _, .error (.recordNotUnique .shareToken)⟩ => true
  | _ => false

/-- Whether a token was drawn twice. -/
def Collided (c : Config database ι) : Prop := ∃ e ∈ c.past, isCollision e.2 = true

/-- What is not undone, whatever is performed. -/
def Lasting (p : Config database ι → Prop) : Prop :=
  ∀ c i (o : Statement) (χ : o.Choice), Sound c → p c → p (c.after i o χ)

/-- A job that has gone does not come back. -/
theorem gone_change {c c' : Config database ι} (hchange : Change c c') {job : ℕ} (h : Gone job c) :
  Gone job c'
  := by
  obtain ⟨hdrawn, hgone⟩ := h
  cases hchange with
  | none _ _ jobs drawn =>
      constructor
      · rwa [drawn]
      · rwa [jobs]
  | created _ world =>
      rw [Gone, world]
      constructor
      · exact Nat.lt_succ_of_lt hdrawn
      · simp only [Tables.createJob, List.mem_cons, not_or]
        exact ⟨hdrawn.ne, hgone⟩
  | destroyed _ _ world =>
      rw [Gone, world]
      exact ⟨hdrawn, fun hmem => hgone (List.mem_of_mem_filter hmem)⟩
  | inserted _ _ _ world =>
      rw [Gone, world]
      exact ⟨hdrawn, hgone⟩

namespace Lasting

variable {p q : Config database ι → Prop}

/-- A proposition that does not speak of the configuration lasts. -/
theorem const (p : Prop) :
  Lasting fun _ : Config database ι => p
  := fun _ _ _ _ _ h => h

/-- Two assertions that last do so together. -/
theorem and (hp : Lasting p) (hq : Lasting q) :
  Lasting fun c => p c ∧ q c
  := fun c i o χ hc h => ⟨hp c i o χ hc h.1, hq c i o χ hc h.2⟩

/-- One of two assertions that last does so too. -/
theorem or (hp : Lasting p) (hq : Lasting q) :
  Lasting fun c => p c ∨ q c
  := fun c i o χ hc h => h.imp (hp c i o χ hc) (hq c i o χ hc)

/-- An assertion that lasts for every value lasts for some. -/
theorem ex {α : Type} {p : α → Config database ι → Prop} (hp : ∀ a, Lasting (p a)) :
  Lasting fun c => ∃ a, p a c
  := by
  rintro c i o χ hc ⟨a, h⟩
  exact ⟨a, hp a c i o χ hc h⟩

/-- An assertion that lasts does so under a condition. -/
theorem imp {r : Prop} (hp : Lasting p) :
  Lasting fun c => r → p c
  := fun c i o χ hc h hr => hp c i o χ hc (h hr)

/-- Assertions that last do so for all values. -/
theorem all {α : Type} {p : α → Config database ι → Prop} (hp : ∀ a, Lasting (p a)) :
  Lasting fun c => ∀ a, p a c
  := fun c i o χ hc h a => hp a c i o χ hc (h a)

/-- A link that has been made lasts, whether its report is still in the table or not. -/
theorem link (link : ℕ × Report) :
  Lasting fun c : Config database ι => link ∈ links c
  := fun _ i o χ _ h => mem_links_after h i o χ

/-- A job that has been destroyed stays so, as its number is not drawn again. -/
theorem gone (job : ℕ) :
  Lasting (Gone (ι := ι) job)
  := fun c i o χ _ h => gone_change (change c i o χ) h

/-- That two tokens have collided lasts, since it is said of the past. -/
theorem collided :
  Lasting (Collided (ι := ι))
  := by
  rintro _ _ _ _ _ ⟨e, hmem, he⟩
  exact ⟨e, List.mem_cons_of_mem _ hmem, he⟩

/-- The other requests leave alone what lasts. -/
theorem stable (hp : Lasting p) (i : ι) :
  Protocol.free.Stable i fun c => Sound c ∧ p c
  := by
  rintro _ _ ⟨j, -, o, χ, -, -, rfl⟩ ⟨hc, h⟩
  exact ⟨hc.after j o χ, hp _ j o χ hc h⟩

end Lasting

/-- What a failure to make sure of the report of a job tells: the validation fails only when
the job has its link, and no report is found only when the job is gone or when a token was
drawn twice. -/
def Missed (job : ℕ) (c : Config database ι) : Failure → Prop
  | .recordNotUnique _ => False
  | .recordInvalid => ∃ report, (job, report) ∈ links c
  | .recordNotFound => Gone job c ∨ Collided c
  | _ => True

/-- What the report and the measurement of a page have to do with its job. -/
structure Shows (c : Config database ι) (p : Page) : Prop where
  link : ∀ report, p.report = some report → ∃ link, link ∈ links c ∧
    link.2.shareToken = report.shareToken ∧ (∀ job, p.job = some job → link.1 = job) ∧
    (p.job = none → Gone link.1 c)
  measurement : ∀ m, p.measurement = some m → p.job = some m.jobId

/-- The reason for which a job has been missed lasts. -/
theorem lasting_missed (job : ℕ) (e : Failure) :
  Lasting fun c : Config database ι => Missed job c e
  := by
  cases e with
  | recordInvalid => exact Lasting.ex fun report => Lasting.link (job, report)
  | recordNotFound => exact (Lasting.gone job).or Lasting.collided
  | _ => exact Lasting.const _

/-- What a page shows stays right while other requests go on: the link of its token lasts, and so
does that the job has gone. -/
theorem lasting_shows (p : Page) :
  Lasting fun c : Config database ι => Shows c p
  := by
  intro c i o χ hc h
  refine ⟨fun report hreport => ?_, h.measurement⟩
  obtain ⟨link, hlink, htoken, hjob, hgone⟩ := h.link report hreport
  refine ⟨link, mem_links_after hlink i o χ, htoken, hjob, fun hnone => ?_⟩
  exact Lasting.gone link.1 c i o χ hc (hgone hnone)

/-! ### Statements of requests -/

section

variable {i : ι} {p : Config database ι → Prop}

/-- A statement that reads: it changes nothing, and raises nothing of its own. -/
structure Reads (o : Statement) (read : Tables → o.Res) : Prop where
  exec : ∀ χ T, ∃ raised, exec o χ T = unlessFailed raised T (.ok (read T), T)

/-- `Job.find` tells whether the job is there. -/
theorem reads_findJob (job : ℕ) :
  Reads (.findJob job) fun T => decide (job ∈ T.jobs)
  := ⟨fun χ _ => ⟨χ, rfl⟩⟩

/-- The latest measurement of a job is read off the tables. -/
theorem reads_latestMeasurement (job : ℕ) :
  Reads (.latestMeasurement job) (·.latestMeasurement job)
  := ⟨fun χ _ => ⟨χ, rfl⟩⟩

/-- The report of a job is read off the tables. -/
theorem reads_findReport (job : ℕ) :
  Reads (.findReport job) (·.findReport job)
  := ⟨fun χ _ => ⟨χ, rfl⟩⟩

/-- Whether a job has a report is read off the tables. -/
theorem reads_jobTaken (job : ℕ) :
  Reads (.jobTaken job) fun T => (T.findReport job).isSome
  := ⟨fun χ _ => ⟨χ, rfl⟩⟩

/-- The report of a token is read off the tables. -/
theorem reads_findReportByToken (token : String) :
  Reads (.findReportByToken token) (·.findReportByToken token)
  := ⟨fun χ _ => ⟨χ, rfl⟩⟩

/-- What is known after a statement that reads. -/
theorem Reads.triple {o : Statement} {read : Tables → o.Res} (h : Reads o read) (hp : Lasting p) :
  Protocol.free.Triple i (fun _ c => Sound c ∧ p c) (perform o)
    (fun a _ c => Sound c ∧ p c ∧ a = read c.world)
    (fun e _ c => Sound c ∧ p c ∧ ∃ className, e = .standardError className)
  := by
  apply Protocol.triple_perform
  · exact fun _ => hp.stable i
  · rintro s c χ - ⟨hc, hpc⟩
    use trivial
    have hafter := hc.after i o χ
    have hpafter := hp c i o χ hc hpc
    obtain ⟨raised, hexec⟩ := h.exec χ c.world
    have hanswer : c.answer o χ = (unlessFailed raised c.world (.ok (read c.world), c.world)).1 :=
      congrArg Prod.fst hexec
    have hworld : (c.after i o χ).world =
        (unlessFailed raised c.world (.ok (read c.world), c.world)).2 := congrArg Prod.snd hexec
    rw [hanswer]
    cases raised with
    | some className => exact ⟨hafter, hpafter, className, rfl⟩
    | none =>
        refine ⟨hafter, hpafter, ?_⟩
        rw [hworld]
        rfl

/-! ### The report of a job -/

/-- What the failure of an INSERT tells besides. -/
def Refused (job : ℕ) (c : Config database ι) : Failure → Prop
  | .recordNotUnique .jobId => ∃ report, (job, report) ∈ links c
  | .recordNotUnique .shareToken => Collided c
  | e => Missed job c e

/-- What a job is missed for is also what it is refused for. -/
theorem refused_of_missed {job : ℕ} {c : Config database ι} {e : Failure} (h : Missed job c e) :
  Refused job c e
  := by
  cases e with
  | recordNotUnique index => exact h.elim
  | _ => exact h

/-- A job may be missed for any exception of the database. -/
theorem missed_standardError {job : ℕ} {c : Config database ι} {e : Failure}
    (h : ∃ className, e = .standardError className) :
  Missed job c e
  := by
  obtain ⟨className, rfl⟩ := h
  trivial

/-- An INSERT that does not raise makes the link of its job, and one that raises has been refused.
-/
theorem triple_insertReport (hp : Lasting p) (job : ℕ) :
  Protocol.free.Triple i (fun _ c => Sound c ∧ p c) (perform (.insertReport job))
    (fun report _ c => Sound c ∧ p c ∧ (job, report) ∈ links c)
    (fun e _ c => Sound c ∧ p c ∧ Refused job c e)
  := by
  apply Protocol.triple_perform
  · exact fun _ => hp.stable i
  · rintro s c ⟨raised, token⟩ - ⟨hc, hpc⟩
    use trivial
    have hafter := hc.after i (.insertReport job) (raised, token)
    have hpafter := hp c i (.insertReport job) (raised, token) hc hpc
    have hpast := Config.after_past c i (.insertReport job) (raised, token)
    cases raised with
    | some className => exact ⟨hafter, hpafter, trivial⟩
    | none =>
        have hexec := insertion c.world job token
        have hanswer : c.answer (.insertReport job) (none, token) =
            (exec (.insertReport job) (none, token) c.world).1 := rfl
        generalize exec (.insertReport job) (none, token) c.world = out at hexec hanswer
        rw [hanswer] at hpast ⊢
        cases hexec with
        | taken report h =>
            have hlink := hc.mem_links_of_findReport h
            exact ⟨hafter, hpafter, report, mem_links_after hlink i _ _⟩
        | used report h =>
            have hcollided : Collided (c.after i (.insertReport job) (none, token)) := by
              rw [Collided, hpast]
              exact ⟨_, List.mem_cons_self, rfl⟩
            exact ⟨hafter, hpafter, hcollided⟩
        | unowned h => exact ⟨hafter, hpafter, trivial⟩
        | inserted untaken unused mem =>
            refine ⟨hafter, hpafter, ?_⟩
            rw [links, hpast]
            exact List.mem_cons_self

/-- The report of a job that has a link is found, unless the job has gone. -/
theorem triple_findByJob (hp : Lasting p) (job : ℕ) :
  Protocol.free.Triple i
    (fun _ c => Sound c ∧ p c ∧ ((∃ report, (job, report) ∈ links c) ∨ Collided c))
    (Report.findByJob job)
    (fun report _ c => Sound c ∧ p c ∧ (job, report) ∈ links c)
    (fun e _ c => Sound c ∧ p c ∧ Missed job c e)
  := by
  have hknown : Lasting fun c : Config database ι =>
      p c ∧ ((∃ report, (job, report) ∈ links c) ∨ Collided c) :=
    hp.and ((Lasting.ex fun report => Lasting.link (job, report)).or Lasting.collided)
  apply Protocol.Triple.bind
  · apply ((reads_findReport job).triple hknown).post
    · exact fun _ _ _ h => h
    · rintro e _ c ⟨hc, ⟨hpc, _⟩, he⟩
      exact ⟨hc, hpc, missed_standardError he⟩
  · rintro (_ | report)
    · apply Protocol.Triple.raise
      rintro s c ⟨hc, ⟨hpc, hlinked | hcollided⟩, hnone⟩
      · obtain ⟨report, hlink⟩ := hlinked
        have hgone := hc.not_mem_jobs_of_findReport hlink hnone.symm
        exact ⟨hc, hpc, .inl ⟨hc.link_drawn _ hlink, hgone⟩⟩
      · exact ⟨hc, hpc, .inr hcollided⟩
    · apply Protocol.Triple.ret
      rintro s c ⟨hc, ⟨hpc, _⟩, hfound⟩
      exact ⟨hc, hpc, hc.mem_links_of_findReport hfound.symm⟩

/-- A creation that is refused for its job is followed by a search for the report of that job. -/
theorem triple_rescuingNotUnique (hp : Lasting p) {job : ℕ} {x : Method Report}
    (hx : Protocol.free.Triple i (fun _ c => Sound c ∧ p c) x
      (fun report _ c => Sound c ∧ p c ∧ (job, report) ∈ links c)
      (fun e _ c => Sound c ∧ p c ∧ Refused job c e)) :
  Protocol.free.Triple i (fun _ c => Sound c ∧ p c) (rescuingNotUnique x (Report.findByJob job))
    (fun report _ c => Sound c ∧ p c ∧ (job, report) ∈ links c)
    (fun e _ c => Sound c ∧ p c ∧ Missed job c e)
  := by
  apply Protocol.Triple.rescue hx
  intro e
  cases e with
  | recordNotUnique index =>
      apply (triple_findByJob hp job).pre
      rintro s c ⟨hc, hpc, hrefused⟩
      cases index with
      | jobId => exact ⟨hc, hpc, .inl hrefused⟩
      | shareToken => exact ⟨hc, hpc, .inr hrefused⟩
  | _ => exact Protocol.Triple.raise fun _ _ h => h

/-- A report that is created is the one of a link of its job. -/
theorem triple_create (hp : Lasting p) (job : ℕ) :
  Protocol.free.Triple i (fun _ c => Sound c ∧ p c) (Report.create job)
    (fun report _ c => Sound c ∧ p c ∧ (job, report) ∈ links c)
    (fun e _ c => Sound c ∧ p c ∧ Refused job c e)
  := by
  apply Protocol.Triple.bind
  · apply ((reads_jobTaken job).triple hp).post
    · exact fun _ _ _ h => h
    · rintro e _ c ⟨hc, hpc, he⟩
      exact ⟨hc, hpc, refused_of_missed (missed_standardError he)⟩
  · rintro (_ | _)
    · apply (triple_insertReport hp job).pre
      exact fun s c h => ⟨h.1, h.2.1⟩
    · apply Protocol.Triple.bind (B := fun _ _ _ => False)
      · apply Protocol.Triple.raise
        rintro s c ⟨hc, hpc, htaken⟩
        obtain ⟨report, hfound⟩ := Option.isSome_iff_exists.mp htaken.symm
        exact ⟨hc, hpc, report, hc.mem_links_of_findReport hfound⟩
      · exact fun _ _ _ h => h.elim

/-- Whoever makes sure of the report of a job gets the link of the job. -/
theorem triple_ensureReport (hp : Lasting p) (job : ℕ) :
  Protocol.free.Triple i (fun _ c => Sound c ∧ p c) (ensureReport job)
    (fun report _ c => Sound c ∧ p c ∧ (job, report) ∈ links c)
    (fun e _ c => Sound c ∧ p c ∧ Missed job c e)
  := by
  apply triple_rescuingNotUnique hp
  apply Protocol.Triple.bind
  · apply ((reads_findReport job).triple hp).post
    · exact fun _ _ _ h => h
    · rintro e _ c ⟨hc, hpc, he⟩
      exact ⟨hc, hpc, refused_of_missed (missed_standardError he)⟩
  · rintro (_ | report)
    · apply ((triple_rescuingNotUnique hp (triple_create hp job)).pre _).post
      · exact fun _ _ _ h => h
      · rintro e _ c ⟨hc, hpc, he⟩
        exact ⟨hc, hpc, refused_of_missed he⟩
      · exact fun s c h => ⟨h.1, h.2.1⟩
    · apply Protocol.Triple.ret
      rintro s c ⟨hc, hpc, hfound⟩
      exact ⟨hc, hpc, hc.mem_links_of_findReport hfound.symm⟩

/-! ### Pages -/

/-- What a page has to do with the request that it answers. -/
def Request.AnsweredBy (p : Page) : Request → Prop
  | .report job => p.job = some job ∧ p.report.isSome = true
  | .ensureReportFor job => p.job = some job ∧ p.report.isSome = true
  | .exportJob job => p.job = some job
  | .status job => p.job = some job
  | .showPublic token => p.report.map (·.shareToken) = some token
  | .exportPublic token => p.report.map (·.shareToken) = some token
  | _ => False

/-- The job whose report a request makes sure of. -/
def Request.ensured : Request → Option ℕ
  | .report job => some job
  | .ensureReportFor job => some job
  | _ => none

/-- What is known when a request has been answered. -/
def Ended (request : Request) (c : Config database ι) : Except Failure Answer → Prop
  | .ok (.page page) => Shows c page ∧ request.AnsweredBy page
  | .ok _ => True
  | .error e => ∀ job, request.ensured = some job → Missed job c e

/-- That a request has ended well lasts. -/
theorem lasting_ended (request : Request) (r : Except Failure Answer) :
  Lasting fun c : Config database ι => Ended request c r
  := by
  rcases r with e | (_ | _ | page)
  · exact Lasting.all fun job => Lasting.imp (lasting_missed job e)
  · exact Lasting.const _
  · exact Lasting.const _
  · exact (lasting_shows page).and (Lasting.const _)

/-- How a request ends. -/
abbrev Ends (i : ι) (request : Request) (x : Method Answer) (p : Config database ι → Prop) : Prop :=
  Protocol.free.Triple i (fun _ c => Sound c ∧ p c) x
    (fun a _ c => Sound c ∧ Ended request c (.ok a))
    (fun e _ c => Sound c ∧ Ended request c (.error e))

/-- A request that reads a table goes on with what it has read, of which what holds of a sound
configuration holds until the request ends. -/
theorem Reads.ends {o : Statement} {read : Tables → o.Res} (h : Reads o read) (hp : Lasting p)
    {request : Request} {f : o.Res → Method Answer} {q : o.Res → Config database ι → Prop}
    (hq : ∀ c, Sound c → p c → q (read c.world) c) (hf : ∀ a, Ends i request (f a) (q a)) :
  Ends i request (perform o >>= f) p
  := by
  apply Protocol.Triple.bind (B := fun a _ c => Sound c ∧ q a c)
  · apply (h.triple hp).post
    · rintro a s c ⟨hc, hpc, rfl⟩
      exact ⟨hc, hq c hc hpc⟩
    · rintro e s c ⟨hc, -, he⟩
      exact ⟨hc, fun job _ => missed_standardError he⟩
  · exact hf

/-- A request goes on after it has made sure of the report of its job. -/
theorem ends_ensureReport (hp : Lasting p) {request : Request} {job : ℕ}
    (hjob : request.ensured = some job) {f : Report → Method Answer}
    (hf : ∀ report, Ends i request (f report) fun c => p c ∧ (job, report) ∈ links c) :
  Ends i request (ensureReport job >>= f) p
  := by
  apply Protocol.Triple.bind
  · apply (triple_ensureReport hp job).post
    · exact fun _ _ _ h => h
    · rintro e s c ⟨hc, -, he⟩
      refine ⟨hc, fun job' hjob' => ?_⟩
      rw [hjob, Option.some.injEq] at hjob'
      exact hjob' ▸ he
  · exact hf

/-- A request may end with `404` at any time, as it then shows nothing. -/
theorem ends_notFound (request : Request) :
  Ends i request (pure .notFound) p
  := Protocol.Triple.ret fun _ _ h => ⟨h.1, trivial⟩

/-- A page of a job, with its link and with a measurement of it. -/
theorem shows_of_job {c : Config database ι} {job : ℕ} {report : Option Report}
    {measurement : Option JobMeasurement}
    (hlink : ∀ r, report = some r → (job, r) ∈ links c)
    (hmeasurement : ∀ m, measurement = some m → m.jobId = job) :
  Shows c ⟨report, some job, measurement⟩
  := by
  constructor
  · rintro r hr
    refine ⟨(job, r), hlink r hr, rfl, ?_, ?_⟩
    · rintro _ ⟨⟩
      rfl
    · rintro ⟨⟩
  · rintro m hm
    rw [hmeasurement m hm]

/-- A measurement that is read for a job is of that job. -/
theorem Tables.jobId_of_latestMeasurement {T : Tables} {job : ℕ} {m : JobMeasurement}
    (h : T.latestMeasurement job = some m) :
  m.jobId = job
  := by
  have hmem := List.argmax_mem h
  simpa using (List.mem_filter.mp hmem).2

/-- The report page ends with the link of its job. -/
theorem ends_report (job : ℕ) :
  Ends i (.report job) (JobsController.report job) fun _ => True
  := by
  apply (reads_findJob job).ends (Lasting.const _) (q := fun _ _ => True)
  · exact fun _ _ _ => trivial
  · rintro (_ | _)
    · exact ends_notFound _
    · apply (reads_latestMeasurement job).ends (Lasting.const _)
        (q := fun measurement _ => ∀ m, measurement = some m → m.jobId = job)
      · exact fun _ _ _ _ h => Tables.jobId_of_latestMeasurement h
      · intro measurement
        apply ends_ensureReport (Lasting.const _) rfl
        intro report
        apply Protocol.Triple.ret
        rintro s c ⟨hc, hmeasurement, hlink⟩
        refine ⟨hc, shows_of_job ?_ hmeasurement, rfl, rfl⟩
        rintro _ ⟨⟩
        exact hlink

/-- The orchestrator ends with the link of its job. -/
theorem ends_ensureReportFor (job : ℕ) :
  Ends i (.ensureReportFor job) (MeasurementOrchestrator.ensureReportFor job) fun _ => True
  := by
  apply ends_ensureReport (Lasting.const _) rfl
  intro report
  apply Protocol.Triple.ret
  rintro s c ⟨hc, -, hlink⟩
  refine ⟨hc, shows_of_job ?_ ?_, rfl, rfl⟩
  · rintro _ ⟨⟩
    exact hlink
  · rintro _ ⟨⟩

/-- That a report is the one of a link lasts. -/
theorem lasting_linked (job : ℕ) (report : Option Report) :
  Lasting fun c : Config database ι => ∀ r, report = some r → (job, r) ∈ links c
  := Lasting.all fun r => Lasting.imp (Lasting.link (job, r))

/-- The export of a job ends with the link of its job. -/
theorem ends_exportJob (job : ℕ) :
  Ends i (.exportJob job) (JsonExportsController.show job) fun _ => True
  := by
  apply (reads_findJob job).ends (Lasting.const _) (q := fun _ _ => True)
  · exact fun _ _ _ => trivial
  · rintro (_ | _)
    · exact ends_notFound _
    · apply (reads_findReport job).ends (Lasting.const _)
        (q := fun report c => ∀ r, report = some r → (job, r) ∈ links c)
      · exact fun c hc _ r h => hc.mem_links_of_findReport h
      · intro report
        apply (reads_latestMeasurement job).ends (lasting_linked job report)
          (q := fun measurement c => (∀ r, report = some r → (job, r) ∈ links c) ∧
            ∀ m, measurement = some m → m.jobId = job)
        · exact fun c _ h => ⟨h, fun _ => Tables.jobId_of_latestMeasurement⟩
        · intro measurement
          apply Protocol.Triple.ret
          rintro s c ⟨hc, hlink, hmeasurement⟩
          exact ⟨hc, shows_of_job hlink hmeasurement, rfl⟩

/-- The status of a job ends with the link of its job. -/
theorem ends_status (job : ℕ) :
  Ends i (.status job) (JobStatusSerializer.summary job) fun _ => True
  := by
  apply (reads_findJob job).ends (Lasting.const _) (q := fun _ _ => True)
  · exact fun _ _ _ => trivial
  · rintro (_ | _)
    · exact ends_notFound _
    · apply (reads_findReport job).ends (Lasting.const _)
        (q := fun report c => ∀ r, report = some r → (job, r) ∈ links c)
      · exact fun c hc _ r h => hc.mem_links_of_findReport h
      · intro report
        apply Protocol.Triple.ret
        rintro s c ⟨hc, hlink⟩
        refine ⟨hc, shows_of_job hlink ?_, rfl⟩
        rintro _ ⟨⟩

/-- The link whose token a report has belongs to a job, or its job is gone. -/
def BelongsTo (report : Report) (job : Option ℕ) (c : Config database ι) : Prop :=
  ∃ link, link ∈ links c ∧ link.2.shareToken = report.shareToken ∧
    (∀ j, job = some j → link.1 = j) ∧ (job = none → Gone link.1 c)

/-- That a report belongs to a job lasts. -/
theorem lasting_belongsTo (report : Report) (job : Option ℕ) :
  Lasting (BelongsTo (ι := ι) report job)
  := Lasting.ex fun link => (Lasting.link link).and ((Lasting.const _).and
      ((Lasting.const _).and (Lasting.imp (Lasting.gone link.1))))

/-- A report that is found by its token belongs to the job that it names. -/
theorem Sound.belongsTo {c : Config database ι} (hc : Sound c) {token : String} {report : Report}
    (h : c.world.findReportByToken token = some report) :
  report.shareToken = token ∧ BelongsTo report report.jobId c
  := by
  have htoken := List.find?_some h
  use of_decide_eq_true htoken
  have hmem := List.mem_of_find?_eq_some h
  rw [hc.reports] at hmem
  obtain ⟨link, hlink, rfl⟩ := List.mem_map.mp hmem
  refine ⟨link, hlink, shareToken_stored.symm, ?_, ?_⟩
  · intro j hj
    exact ((jobId_stored (hc.own link hlink)).mp hj).1
  · intro hnone
    use hc.link_drawn link hlink
    intro hexists
    rw [stored_of_mem hexists, hc.own link hlink] at hnone
    cases hnone

/-- The job of a report is the one that the report belongs to, or none. -/
theorem triple_jobOf (report : Report) :
  Protocol.free.Triple i (fun _ c => Sound c ∧ BelongsTo report report.jobId c)
    (ReportsController.jobOf report) (fun job _ c => Sound c ∧ BelongsTo report job c)
    (fun _ _ c => Sound c)
  := by
  unfold ReportsController.jobOf
  cases hjob : report.jobId with
  | none => exact Protocol.Triple.ret fun _ _ h => h
  | some job =>
      apply Protocol.Triple.bind
      · apply ((reads_findJob job).triple (lasting_belongsTo report (some job))).post
        · exact fun _ _ _ h => h
        · exact fun _ _ _ h => h.1
      · rintro (_ | _)
        · apply Protocol.Triple.ret
          rintro s c ⟨hc, ⟨link, hlink, htoken, hown, -⟩, hgone⟩
          refine ⟨hc, link, hlink, htoken, ?_, fun _ => ?_⟩
          · rintro _ ⟨⟩
          · use hc.link_drawn link hlink
            rw [hown job rfl]
            exact of_decide_eq_false hgone.symm
        · exact Protocol.Triple.ret fun _ _ h => ⟨h.1, h.2.1⟩

/-- A page shows what belongs to the job of its report. -/
theorem shows_of_belongsTo {c : Config database ι} {report : Report} {job : Option ℕ}
    {measurement : Option JobMeasurement} (h : BelongsTo report job c)
    (hmeasurement : ∀ m, measurement = some m → job = some m.jobId) :
  Shows c ⟨some report, job, measurement⟩
  := by
  refine ⟨?_, hmeasurement⟩
  rintro _ ⟨⟩
  exact h

/-- A request resolves a token, and goes on with the report and the job that it belongs to. -/
theorem ends_token {request : Request} {token : String} (hensured : request.ensured = none)
    {f : Report → Option ℕ → Method Answer}
    (hf : ∀ report job, report.shareToken = token →
      Ends i request (f report job) (BelongsTo report job)) :
  Ends i request
    (do
      match ← perform (.findReportByToken token) with
      | none => pure .notFound
      | some report => do
          let job ← ReportsController.jobOf report
          f report job) fun _ => True
  := by
  apply (reads_findReportByToken token).ends (Lasting.const _)
    (q := fun found c => ∀ report, found = some report →
      report.shareToken = token ∧ BelongsTo report report.jobId c)
  · exact fun c hc _ report h => hc.belongsTo h
  · rintro (_ | report)
    · exact ends_notFound _
    · apply Protocol.Triple.pre (A := fun _ c => report.shareToken = token ∧
        Sound c ∧ BelongsTo report report.jobId c)
      · apply Protocol.Triple.assuming
        intro htoken
        apply Protocol.Triple.bind
        · apply (triple_jobOf report).post
          · exact fun _ _ _ h => h
          · rintro e s c hc
            refine ⟨hc, fun job hjob => ?_⟩
            rw [hensured] at hjob
            cases hjob
        · exact fun job => hf report job htoken
      · rintro s c ⟨hc, hfound⟩
        obtain ⟨htoken, hbelongs⟩ := hfound report rfl
        exact ⟨htoken, hc, hbelongs⟩

/-- The page of a report, with a measurement of its job. -/
theorem ends_reportPage {request : Request} {token : String}
    (hanswered : ∀ page, page.report.map (·.shareToken) = some token → request.AnsweredBy page)
    {report : Report} (htoken : report.shareToken = token) (job : ℕ) :
  Ends i request
    (do
      let measurement ← perform (.latestMeasurement job)
      pure (.page ⟨some report, some job, measurement⟩)) (BelongsTo report (some job))
  := by
  apply (reads_latestMeasurement job).ends (lasting_belongsTo report (some job))
    (q := fun measurement c => BelongsTo report (some job) c ∧
      ∀ m, measurement = some m → some job = some m.jobId)
  · exact fun c _ h => ⟨h, fun m hm => congrArg some (Tables.jobId_of_latestMeasurement hm).symm⟩
  · intro measurement
    apply Protocol.Triple.ret
    rintro s c ⟨hc, hbelongs, hmeasurement⟩
    exact ⟨hc, shows_of_belongsTo hbelongs hmeasurement, hanswered _ (congrArg some htoken)⟩

/-- The public page shows what belongs to its token. -/
theorem ends_showPublic (token : String) :
  Ends i (.showPublic token) (ReportsController.showPublic token) fun _ => True
  := by
  apply ends_token rfl
  rintro report (_ | job) htoken
  · apply Protocol.Triple.ret
    rintro s c ⟨hc, hbelongs⟩
    refine ⟨hc, shows_of_belongsTo hbelongs ?_, congrArg some htoken⟩
    rintro _ ⟨⟩
  · apply ends_reportPage _ htoken job
    exact fun _ h => h

/-- The public export shows what belongs to its token. -/
theorem ends_exportPublic (token : String) :
  Ends i (.exportPublic token) (ReportsController.exportPublic token) fun _ => True
  := by
  apply ends_token rfl
  rintro report (_ | job) htoken
  · exact Protocol.Triple.ret fun _ _ h => ⟨h.1, trivial⟩
  · apply ends_reportPage _ htoken job
    exact fun _ h => h

/-- A request that makes no link ends with its statement. -/
theorem ends_done {request : Request} (hensured : request.ensured = none) (o : Statement) :
  Ends i request (perform o >>= fun _ => pure .done) fun _ => True
  := by
  apply Protocol.Triple.bind (B := fun _ _ c => Sound c ∧ True)
  · apply Protocol.triple_perform
    · exact fun _ => (Lasting.const True).stable i
    · rintro s c χ - ⟨hc, -⟩
      have hafter := hc.after i o χ
      use trivial
      cases c.answer o χ with
      | ok a => exact ⟨hafter, trivial⟩
      | error e =>
          refine ⟨hafter, fun job hjob => ?_⟩
          rw [hensured] at hjob
          cases hjob
  · exact fun _ => Protocol.Triple.ret fun _ _ h => h

/-- Every request ends with an answer that is right for it. By cases on the request. -/
theorem ends_method (request : Request) :
  Ends i request request.method fun _ => True
  := by
  cases request with
  | report job => exact ends_report job
  | ensureReportFor job => exact ends_ensureReportFor job
  | exportJob job => exact ends_exportJob job
  | status job => exact ends_status job
  | showPublic token => exact ends_showPublic token
  | exportPublic token => exact ends_exportPublic token
  | createJob => exact ends_done rfl .createJob
  | destroyJob job => exact ends_done rfl (.destroyJob job)
  | insertMeasurement job m => exact ends_done rfl (.insertMeasurement job m)

end

/-! ### Runs -/

variable [DecidableEq ι]

/-- Whether a request has been answered with a page. -/
def Answers (s : Pool database ι (Except Failure Answer)) (i : ι) (page : Page) : Prop :=
  (s.prog i).result? = some (.ok (.page page))

/-- Whether a request has raised. -/
def Raises (s : Pool database ι (Except Failure Answer)) (i : ι) (e : Failure) : Prop :=
  (s.prog i).result? = some (.error e)

/-- In every interleaving the tables are in accord with the links, and what has ended has done so
well. -/
theorem ended_run (work : ι → Request) (schedule : List (ι × database.Choices)) :
  let s := (requests work).run schedule
  Sound s.config ∧
    ∀ i r, (s.prog i).result? = some r → Ended (work i) s.config r
  := by
  have hsound : Sound (requests work).config := by
    constructor
    · rfl
    · exact fun _ h => absurd h List.not_mem_nil
    · exact List.nodup_nil
    · exact List.nodup_nil
    · exact fun _ h => absurd h List.not_mem_nil
    · exact fun _ h => absurd h List.not_mem_nil
  have hfree : (requests work).Meets (Protocol.free (I := database) (ι := ι)).ok schedule :=
    Pool.meets_of_forall _ fun _ _ _ _ _ => trivial
  have hstart : (requests work).Keeps Protocol.free
      fun i r c => Sound c ∧ Ended (work i) c r := by
    intro i
    apply Protocol.wp_mono _ (Protocol.wp_outcome (ends_method (work i)) ⟨hsound, trivial⟩)
    rintro (e | a) c h <;> exact h
  have hrun := Pool.run_of_keeps (fun i r => (lasting_ended (work i) r).stable i) hstart hfree
  constructor
  · apply Pool.invariant_run (P := Protocol.free) _ hfree hrun.1 hsound
    exact fun i o χ c _ _ hc => hc.after i o χ
  · exact fun i r hr => (hrun.2.done hr).2

section

variable {c : Config database ι} (hc : Sound c) {p q : Page} (hp : Shows c p) (hq : Shows c q)
  {r r' : Report} (hr : p.report = some r) (hr' : q.report = some r')

include hc hp hq hr hr'

omit [DecidableEq ι] in
/-- Two pages of one job offer one token. -/
theorem token_of_job {job : ℕ} (hjob : p.job = some job) (hjob' : q.job = some job) :
  r.shareToken = r'.shareToken
  := by
  obtain ⟨link, hlink, htoken, hown, -⟩ := hp.link r hr
  obtain ⟨link', hlink', htoken', hown', -⟩ := hq.link r' hr'
  have hsame : link = link' := by
    apply hc.eq_of_job hlink hlink'
    rw [hown job hjob, hown' job hjob']
  rw [← htoken, ← htoken', hsame]

omit [DecidableEq ι] in
/-- Two pages that offer one token are of one job, unless the job is gone. -/
theorem job_of_token (htokens : r.shareToken = r'.shareToken) {job : ℕ} (hjob : p.job = some job) :
  q.job = some job ∨ q.job = none ∧ job ∉ c.world.jobs
  := by
  obtain ⟨link, hlink, htoken, hown, -⟩ := hp.link r hr
  obtain ⟨link', hlink', htoken', hown', hgone'⟩ := hq.link r' hr'
  have hsame : link = link' := by
    apply hc.eq_of_token hlink hlink'
    rw [htoken, htoken', htokens]
  subst hsame
  cases hjob' : q.job with
  | some job' =>
      left
      rw [← hown job hjob, hown' job' hjob']
  | none =>
      right
      use rfl
      rw [← hown job hjob]
      exact (hgone' hjob').2

end

omit [DecidableEq ι] in
/-- The token that a page offers is found, and leads to the job as long as it exists. -/
theorem resolves {c : Config database ι} (hc : Sound c) {p : Page} (hp : Shows c p) {r : Report}
    (hr : p.report = some r) :
  ∃ job row, (∀ j, p.job = some j → j = job) ∧ (p.job = none → job ∉ c.world.jobs) ∧
    c.world.findReportByToken r.shareToken = some row ∧
    row.jobId = if job ∈ c.world.jobs then some job else none
  := by
  obtain ⟨link, hlink, htoken, hown, hgone⟩ := hp.link r hr
  refine ⟨link.1, stored c.world.jobs link, ?_, fun hnone => (hgone hnone).2, ?_, ?_⟩
  · exact fun j hj => (hown j hj).symm
  · rw [← htoken]
    exact hc.findReportByToken hlink
  · unfold stored
    split
    · exact hc.own link hlink
    · rfl

/-- In every run of requests, all pages of a job offer one token, no page of another job
offers it, and it goes on leading to the job and to measurements of the job alone, until the
job is destroyed. A failure to make sure of the report is no loss of a race, except that the
validation may fail when the job has its link already. -/
theorem links_one_to_one (work : ι → Request) (schedule : List (ι × database.Choices)) :
  let s := (requests work).run schedule
  (∀ i i' p q r r', Answers s i p → Answers s i' q → p.report = some r → q.report = some r' →
    ∀ job, p.job = some job →
      (q.job = some job → r.shareToken = r'.shareToken) ∧
      (r.shareToken = r'.shareToken →
        q.job = some job ∨ q.job = none ∧ job ∉ s.config.world.jobs)) ∧
  (∀ i p, Answers s i p → (work i).AnsweredBy p ∧
    (∀ m, p.measurement = some m → p.job = some m.jobId) ∧
    ∀ r, p.report = some r → ∃ job row, (∀ j, p.job = some j → j = job) ∧
      (p.job = none → job ∉ s.config.world.jobs) ∧
      s.config.world.findReportByToken r.shareToken = some row ∧
      row.jobId = if job ∈ s.config.world.jobs then some job else none) ∧
  (∀ i e, Raises s i e → ∀ job, (work i).ensured = some job → Missed job s.config e)
  := by
  intro s
  obtain ⟨hsound, hended⟩ := ended_run work schedule
  have hanswered : ∀ i p, Answers s i p → Shows s.config p ∧ (work i).AnsweredBy p :=
    fun i p h => hended i _ h
  refine ⟨?_, ?_, fun i e h => hended i _ h⟩
  · intro i i' p q r r' hi hi' hr hr' job hjob
    have hp := (hanswered i p hi).1
    have hq := (hanswered i' q hi').1
    constructor
    · exact token_of_job hsound hp hq hr hr' hjob
    · exact fun htokens => job_of_token hsound hp hq hr hr' htokens hjob
  · intro i p hi
    obtain ⟨hp, hrequest⟩ := hanswered i p hi
    exact ⟨hrequest, hp.measurement, fun r hr => resolves hsound hp hr⟩

end Rails.ShareLinks
