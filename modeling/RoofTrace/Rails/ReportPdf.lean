import RoofTrace.Rails.Database

/-!
# The report PDF of a job

`ReportPdf`: the PDF of the latest measurement of a job is rendered and stored under one key, and
a PDF that is stored already is offered again as long as it is young, not degraded and not older
than the measurement. Any number of renders are interleaved with the measurements that are
committed and updated meanwhile. A row is stamped before it is committed, and what is stored under
a key is told by the second.

The link that a render offers leads to a PDF that was stored after the latest measurement was
stamped. It shows an outdated measurement only when its own render had read the measurements
before the latest one was committed.
-/

namespace Rails.ReportPdf

open Effects

/-! ### The world -/

/-- A row of `measurements` of the job. Times are in microseconds. -/
structure Row extends Measurement where
  updatedAt : ℕ

/-- A link to an object. -/
structure SignedUrl where
  objectKey : String
deriving DecidableEq

/-- What a rendered PDF shows. -/
structure Pdf where
  measurement : Row
  mapImageUrl : Option SignedUrl
  fallbackWarning : Option String
  /-- What it shows of the capture session and the evidence photos. -/
  pages : String

structure StoredPdf where
  body : Pdf
  degraded : Bool
  storedAt : ℕ

/-- The clock, the rows of the job, the last one first, and the object at `pdf_key`. -/
structure World where
  now : ℕ
  measurements : List Row
  pdf : Option StoredPdf

def insertRow (attributes : MeasurementAttributes) (updatedAt : ℕ) (rows : List Row) : List Row :=
  ⟨⟨attributes, rows.length⟩, updatedAt⟩ :: rows

def updateRow (id : ℕ) (warnings : List (Json ℚ)) (updatedAt : ℕ) (rows : List Row) : List Row :=
  rows.map fun row =>
    if row.id = id then { row with warnings := warnings, updatedAt := updatedAt } else row

/-- `Job#latest_measurement` -/
def latest (rows : List Row) : Option Row := rows.argmax (·.generatedAt)

/-! ### Statements -/

inductive Failure where
  /-- `ReportPdf::Error` -/
  | error (message : String)
  /-- `SidecarClient::Error` -/
  | sidecar
  /-- `ArtifactUrlMinter::Error` -/
  | minter
  /-- `MapboxStaticFallback::Error` -/
  | mapbox
  /-- `ArtifactStore::Error` -/
  | store
  /-- `Aws::S3::Errors::ServiceError` -/
  | service
  | standardError (className : String)
deriving DecidableEq

structure Bbox where
  minLon : ℚ
  minLat : ℚ
  maxLon : ℚ
  maxLat : ℚ

/-- What `head` tells of an object. -/
structure Head where
  lastModified : Option ℕ
  degraded : Bool

inductive Statement where
  | currentTime
  | latestMeasurement
  /-- The commit of a transaction that has inserted a row. -/
  | insertMeasurement (attributes : MeasurementAttributes) (updatedAt : ℕ)
  | updateWarnings (id : ℕ) (warnings : List (Json ℚ)) (updatedAt : ℕ)
  | headPdf
  | renderImages (bbox : Bbox)
  | mapboxStatic (bbox : Bbox)
  | putMapFallback
  | toPdf
  | putPdf (pdf : Pdf) (degraded : Bool)
  | signPdf (key : String)

/-- What a statement answers when it does not raise. -/
abbrev Statement.Res : Statement → Type
  | .currentTime => ℕ
  | .latestMeasurement => Option Row
  | .headPdf => Head
  | .renderImages _ => String
  | .toPdf => String
  | .signPdf _ => SignedUrl
  | _ => Unit

abbrev statements : Signature := .fallible Failure Statement Statement.Res

/-- How long a statement takes, and what it raises, if it does. -/
structure Fate where
  elapsed : ℕ
  raised : Option Failure

/-- What is answered from outside, and whether an object is stored although the put raises. -/
abbrev Statement.Given : Statement → Type
  | .renderImages _ => String
  | .toPdf => String
  | .putPdf _ _ => Bool
  | _ => Unit

abbrev Statement.Choice (o : Statement) : Type := Fate × o.Given

/-- The time of an object as `last_modified` tells it, in whole seconds. -/
def wholeSeconds (t : ℕ) : ℕ := t / 1000000 * 1000000

def StoredPdf.head (pdf : StoredPdf) : Head := ⟨some (wholeSeconds pdf.storedAt), pdf.degraded⟩

def World.store (W : World) (pdf : Pdf) (degraded : Bool) : World :=
  { W with pdf := some ⟨pdf, degraded, W.now⟩ }

/-- What a statement answers and does. -/
def effect : (o : Statement) → o.Given → World → Except Failure o.Res × World
  | .currentTime, _, W => (.ok W.now, W)
  | .latestMeasurement, _, W => (.ok (latest W.measurements), W)
  | .insertMeasurement attributes updatedAt, _, W =>
      (.ok (), { W with measurements := insertRow attributes updatedAt W.measurements })
  | .updateWarnings id warnings updatedAt, _, W =>
      (.ok (), { W with measurements := updateRow id warnings updatedAt W.measurements })
  | .headPdf, _, W => (W.pdf.elim (.error .service) fun pdf => .ok pdf.head, W)
  | .renderImages _, imageRef, W => (.ok imageRef, W)
  | .mapboxStatic _, _, W => (.ok (), W)
  | .putMapFallback, _, W => (.ok (), W)
  | .toPdf, pages, W => (.ok pages, W)
  | .putPdf pdf degraded, _, W => (.ok (), W.store pdf degraded)
  | .signPdf key, _, W => (.ok ⟨key⟩, W)

/-- What is left of a statement that raises. -/
def remnant : (o : Statement) → o.Given → World → World
  | .putPdf pdf degraded, stored, W => if stored then W.store pdf degraded else W
  | _, _, W => W

def exec (o : Statement) (χ : o.Choice) (W : World) : Except Failure o.Res × World :=
  let W := { W with now := W.now + χ.1.elapsed }
  match χ.1.raised with
  | some e => (.error e, remnant o χ.2 W)
  | none => effect o χ.2 W

abbrev world : Interp statements where
  World := World
  Choice := Statement.Choice
  exec := exec

/-! ### Rendering -/

abbrev Method (α : Type) : Type := Action statements Failure Unit α

def perform (o : Statement) : Method o.Res := Action.perform o

/-- `CACHE_WINDOW` -/
def cacheWindow : ℕ := 30 * 60 * 1000000

/-- `ArtifactUrlMinter.call` -/
def mint (objectKey : String) : Method SignedUrl :=
  if "artifacts/".toList.isPrefixOf objectKey.toList then pure ⟨objectKey⟩ else throw .minter

/-- The vertices of the facets that have two coordinates. -/
def facetPoints (measurement : Row) : List (ℚ × ℚ) :=
  (measurement.facets.flatMap fun f => Ruby.array (f.get "vertices")).filterMap fun
    | .arr (lon :: lat :: _) => some (Ruby.toF lon, Ruby.toF lat)
    | _ => none

/-- The larger of a tenth of an extent and a small margin. -/
def pad (lo hi : ℚ) : ℚ := max ((hi - lo) * (1 / 10)) (5 / 100000)

/-- `bbox_from_facets` -/
def bboxFromFacets (measurement : Row) : Except Failure Bbox :=
  match facetPoints measurement with
  | [] => .error (.error "measurement has no facet vertices to compute a map bbox")
  | p :: ps =>
      let minLon := (ps.map (·.1)).foldl min p.1
      let maxLon := (ps.map (·.1)).foldl max p.1
      let minLat := (ps.map (·.2)).foldl min p.2
      let maxLat := (ps.map (·.2)).foldl max p.2
      .ok {
        minLon := minLon - pad minLon maxLon
        minLat := minLat - pad minLat maxLat
        maxLon := maxLon + pad minLon maxLon
        maxLat := maxLat + pad minLat maxLat }

/-- The key of the PDF. -/
def pdfKey (jobId : String) : String := s!"artifacts/{jobId}/report.pdf"

/-- `ArtifactStore#head` -/
def head : Method (Option Head) :=
  tryCatch (do return some (← perform .headPdf)) fun
    | .service => pure none
    | e => throw e

/-- `fresh_cached_pdf_url` -/
def freshCachedPdfUrl (jobId : String) (measurement : Row) : Method (Option SignedUrl) := do
  match ← head with
  | none => return none
  | some head =>
      match head.lastModified with
      | none => return none
      | some lastModified =>
          let now ← perform .currentTime
          if lastModified + cacheWindow < now then return none
          else if head.degraded then return none
          else if lastModified < measurement.updatedAt then return none
          else return some (← perform (.signPdf (pdfKey jobId)))

/-- `fallback_map_url` -/
def fallbackMapUrl (jobId : String) (bbox : Bbox) : Method (Option SignedUrl × Option String) :=
  tryCatch
    (do
      perform (.mapboxStatic bbox)
      perform .putMapFallback
      let url ← mint s!"artifacts/{jobId}/images/map-fallback.png"
      return (some url,
        some ("Roof diagram rendered from a static map image (degraded view): the " ++
          "interactive map renderer was unavailable when this report was generated.")))
    fun
    | .mapbox | .store | .minter | .service =>
        return (none,
          some ("Roof diagram unavailable: both the map renderer and the static-map " ++
            "fallback were unavailable when this report was generated."))
    | e => throw e

/-- `map_image_url_for` -/
def mapImageUrlFor (jobId : String) (bbox : Bbox) : Method (Option SignedUrl × Option String) :=
  tryCatch
    (do
      let imageRef ← perform (.renderImages bbox)
      let url ← mint imageRef
      return (some url, none))
    fun
    | .sidecar | .minter => fallbackMapUrl jobId bbox
    | e => throw e

/-- `render`, of a job that has not been destroyed. -/
def render (jobId : String) : Method SignedUrl := do
  match ← perform .latestMeasurement with
  | none => throw (.error s!"job {jobId} has no measurement to render")
  | some measurement =>
      match ← freshCachedPdfUrl jobId measurement with
      | some cached => return cached
      | none =>
          let bbox ← Action.ofExcept (bboxFromFacets measurement)
          let (mapImageUrl, fallbackWarning) ← mapImageUrlFor jobId bbox
          let pages ← perform .toPdf
          perform
            (.putPdf ⟨measurement, mapImageUrl, fallbackWarning, pages⟩ fallbackWarning.isSome)
          perform (.signPdf (pdfKey jobId))

/-! ### Measurements -/

/-- The end of `persist`: the row is stamped, and then committed. -/
def persist (attributes : MeasurementAttributes) : Method Unit := do
  let generatedAt ← perform .currentTime
  let updatedAt ← perform .currentTime
  perform (.insertMeasurement { attributes with generatedAt := generatedAt } updatedAt)

/-- `append_failure_warning` -/
def appendFailureWarning (message : String) : Method Unit := do
  match ← perform .latestMeasurement with
  | none => return ()
  | some measurement =>
      if measurement.warnings.contains (.str message) then return ()
      else
        let updatedAt ← perform .currentTime
        perform
          (.updateWarnings measurement.id (measurement.warnings ++ [.str message]) updatedAt)

inductive Request where
  | render
  | persist (attributes : MeasurementAttributes)
  | appendFailureWarning (message : String)

/-- What a request ends with, the link of a render. -/
def Request.method (jobId : String) : Request → Method (Option SignedUrl)
  | .render => do return some (← ReportPdf.render jobId)
  | .persist attributes => do
      ReportPdf.persist attributes
      return none
  | .appendFailureWarning message => do
      ReportPdf.appendFailureWarning message
      return none

/-- Requests that have not begun, of a job without measurements. -/
def requests {ι : Type} (jobId : String) (work : ι → Request) :
    Pool world ι (Except Failure (Option SignedUrl)) where
  config := ⟨⟨0, [], none⟩, []⟩
  prog i := ((work i).method jobId).outcome ()

/-! ### Moments -/

variable {ι : Type}

/-- What an event commits. -/
def commit : Event statements → List Row → List Row
  | ⟨.insertMeasurement attributes updatedAt, .ok _⟩ => insertRow attributes updatedAt
  | ⟨.updateWarnings id warnings updatedAt, .ok _⟩ => updateRow id warnings updatedAt
  | _ => id

/-- The rows that the events of a past have committed. -/
def rowsAt (past : List (ι × Event statements)) : List Row :=
  past.foldr (fun e => commit e.2) []

/-- The latest measurement at a moment, which is given by what has passed. -/
def latestAt (moment : List (ι × Event statements)) : Option Row := latest (rowsAt moment)

/-- At a moment, `i` has just read the latest measurement. -/
def Reads (i : ι) (m : Row) (moment past : List (ι × Event statements)) : Prop :=
  moment <:+ past ∧ ∃ before, moment = (i, ⟨.latestMeasurement, .ok (some m)⟩) :: before

/-- After a moment, `i` has put a PDF. -/
def Puts (i : ι) (pdf : StoredPdf) (moment past : List (ι × Event statements)) : Prop :=
  ∃ before answer, (i, ⟨.putPdf pdf.body pdf.degraded, answer⟩) :: before <:+ past ∧
    moment <:+ before

/-- A PDF was put by a party that had read the row which it shows. -/
def Rendered (pdf : StoredPdf) (past : List (ι × Event statements)) : Prop :=
  ∃ i moment, Reads i pdf.body.measurement moment past ∧ Puts i pdf moment past

theorem Reads.cons {i : ι} {m : Row} {moment past : List (ι × Event statements)}
    (h : Reads i m moment past) (e : ι × Event statements) :
  Reads i m moment (e :: past)
  := ⟨h.1.trans (List.suffix_cons _ _), h.2⟩

theorem Rendered.cons {pdf : StoredPdf} {past : List (ι × Event statements)}
    (h : Rendered pdf past) (e : ι × Event statements) :
  Rendered pdf (e :: past)
  := by
  obtain ⟨i, moment, hreads, before, answer, hput, hmoment⟩ := h
  exact ⟨i, moment, hreads.cons e, before, answer, hput.trans (List.suffix_cons _ _), hmoment⟩

/-! ### What a statement does -/

/-- What a statement does to the rows and to the stored PDF, as time passes. -/
inductive Change (o : Statement) (c c' : Config world ι) : Prop where
  | none (rows : rowsAt c'.past = rowsAt c.past)
      (measurements : c'.world.measurements = c.world.measurements)
      (pdf : c'.world.pdf = c.world.pdf)
  | inserted (attributes : MeasurementAttributes) (updatedAt : ℕ)
      (statement : o = .insertMeasurement attributes updatedAt)
      (rows : rowsAt c'.past = insertRow attributes updatedAt (rowsAt c.past))
      (measurements : c'.world.measurements = insertRow attributes updatedAt c.world.measurements)
      (pdf : c'.world.pdf = c.world.pdf)
  | updated (id : ℕ) (warnings : List (Json ℚ)) (updatedAt : ℕ)
      (statement : o = .updateWarnings id warnings updatedAt)
      (rows : rowsAt c'.past = updateRow id warnings updatedAt (rowsAt c.past))
      (measurements : c'.world.measurements = updateRow id warnings updatedAt c.world.measurements)
      (pdf : c'.world.pdf = c.world.pdf)
  | stored (body : Pdf) (degraded : Bool) (statement : o = .putPdf body degraded)
      (rows : rowsAt c'.past = rowsAt c.past)
      (measurements : c'.world.measurements = c.world.measurements)
      (pdf : c'.world.pdf = some ⟨body, degraded, c'.world.now⟩)

theorem change (c : Config world ι) (i : ι) (o : Statement) (χ : o.Choice) :
  Change o c (c.after i o χ) ∧ c.world.now ≤ (c.after i o χ).world.now
  := by
  obtain ⟨⟨elapsed, raised⟩, given⟩ := χ
  have hle : c.world.now ≤ c.world.now + elapsed := Nat.le_add_right _ _
  cases raised with
  | some e =>
      cases o with
      | putPdf body degraded =>
          cases given with
          | false => exact ⟨.none rfl rfl rfl, hle⟩
          | true => exact ⟨.stored body degraded rfl rfl rfl rfl, hle⟩
      | _ => exact ⟨.none rfl rfl rfl, hle⟩
  | none =>
      cases o with
      | insertMeasurement attributes updatedAt =>
          exact ⟨.inserted attributes updatedAt rfl rfl rfl rfl, hle⟩
      | updateWarnings id warnings updatedAt =>
          exact ⟨.updated id warnings updatedAt rfl rfl rfl rfl, hle⟩
      | putPdf body degraded => exact ⟨.stored body degraded rfl rfl rfl rfl, hle⟩
      | _ => exact ⟨.none rfl rfl rfl, hle⟩

/-! ### The protocol -/

/-- The rows are those that have been committed, what was read was the latest then, no stamp is
of the future, and the stored PDF shows a row that was read by the party that has put it. -/
structure Sound (c : Config world ι) : Prop where
  rows : c.world.measurements = rowsAt c.past
  reads : ∀ i m moment, Reads i m moment c.past → latestAt moment = some m
  stamped : ∀ row ∈ c.world.measurements, row.updatedAt ≤ c.world.now
  stored : ∀ pdf ∈ c.world.pdf, pdf.storedAt ≤ c.world.now ∧ Rendered pdf c.past

/-- The PDF was stored after a time. -/
def StoredSince (t : ℕ) (c : Config world ι) : Prop := ∃ pdf ∈ c.world.pdf, t ≤ pdf.storedAt

/-- A party has read a row, and the PDF was stored after the row was stamped. -/
def Leads (i : ι) (c : Config world ι) : Prop :=
  ∃ m began, Reads i m began c.past ∧ StoredSince m.updatedAt c

/-- Rows are committed under stamps of the past, a party shows only what it has read, and a link to
the PDF leads to one. -/
def guarantee : StepPred world ι
  | _, .insertMeasurement _ updatedAt, _, c => updatedAt ≤ c.world.now
  | _, .updateWarnings _ _ updatedAt, _, c => updatedAt ≤ c.world.now
  | i, .putPdf pdf _, _, c => ∃ began, Reads i pdf.measurement began c.past
  | i, .signPdf _, _, c => Leads i c
  | _, _, _, _ => True

def protocol : Protocol world ι where
  ok _ _ _ _ := True
  guar := guarantee

theorem mem_insertRow {attributes : MeasurementAttributes} {updatedAt : ℕ} {rows : List Row}
    {row : Row} (h : row ∈ insertRow attributes updatedAt rows) :
  row.updatedAt = updatedAt ∨ row ∈ rows
  := by
  rcases List.mem_cons.mp h with rfl | hmem
  · exact Or.inl rfl
  · exact Or.inr hmem

theorem mem_updateRow {id : ℕ} {warnings : List (Json ℚ)} {updatedAt : ℕ} {rows : List Row}
    {row : Row} (h : row ∈ updateRow id warnings updatedAt rows) :
  row.updatedAt = updatedAt ∨ row ∈ rows
  := by
  obtain ⟨old, hmem, rfl⟩ := List.mem_map.mp h
  split
  · exact Or.inl rfl
  · exact Or.inr hmem

/-- The rows after a statement are those before it, but for one with its stamp. -/
theorem Change.mem_measurements {i : ι} {o : Statement} {χ : o.Choice} {c c' : Config world ι}
    (h : Change o c c') (hguar : guarantee i o χ c) {row : Row}
    (hrow : row ∈ c'.world.measurements) :
  row.updatedAt ≤ c.world.now ∨ row ∈ c.world.measurements
  := by
  cases h with
  | none _ measurements _ => exact Or.inr (measurements ▸ hrow)
  | inserted attributes updatedAt statement _ measurements _ =>
      subst statement
      rw [measurements] at hrow
      rcases mem_insertRow hrow with hstamp | hmem
      · exact Or.inl (hstamp ▸ hguar)
      · exact Or.inr hmem
  | updated id warnings updatedAt statement _ measurements _ =>
      subst statement
      rw [measurements] at hrow
      rcases mem_updateRow hrow with hstamp | hmem
      · exact Or.inl (hstamp ▸ hguar)
      · exact Or.inr hmem
  | stored _ _ _ _ measurements _ => exact Or.inr (measurements ▸ hrow)

theorem Change.rows {o : Statement} {c c' : Config world ι} (h : Change o c c')
    (hrows : c.world.measurements = rowsAt c.past) :
  c'.world.measurements = rowsAt c'.past
  := by
  cases h with
  | none rows measurements _ => rw [measurements, rows, hrows]
  | inserted _ _ _ rows measurements _ => rw [measurements, rows, hrows]
  | updated _ _ _ _ rows measurements _ => rw [measurements, rows, hrows]
  | stored _ _ _ rows measurements _ => rw [measurements, rows, hrows]

/-- The PDF after a statement is the one before it, or is put by it. -/
theorem Change.pdf {o : Statement} {c c' : Config world ι} (h : Change o c c') :
  c'.world.pdf = c.world.pdf ∨ ∃ body degraded, o = .putPdf body degraded ∧
    c'.world.pdf = some ⟨body, degraded, c'.world.now⟩
  := by
  cases h with
  | none _ _ pdf => exact Or.inl pdf
  | inserted _ _ _ _ _ pdf => exact Or.inl pdf
  | updated _ _ _ _ _ _ pdf => exact Or.inl pdf
  | stored body degraded statement _ _ pdf => exact Or.inr ⟨body, degraded, statement, pdf⟩

theorem Change.rows_of_read {c c' : Config world ι} (h : Change .latestMeasurement c c') :
  rowsAt c'.past = rowsAt c.past
  := by
  cases h with
  | none rows _ _ => exact rows
  | inserted _ _ statement _ _ _ => cases statement
  | updated _ _ _ statement _ _ _ => cases statement
  | stored _ _ statement _ _ _ => cases statement

/-- What is read after a statement was read before it, or is read by it. -/
theorem reads_after {c : Config world ι} {i j : ι} {o : Statement} {χ : o.Choice} {m : Row}
    {moment : List (ι × Event statements)} (h : Reads j m moment (c.after i o χ).past) :
  Reads j m moment c.past ∨
    moment = (c.after i o χ).past ∧ rowsAt moment = rowsAt c.past ∧
      latest c.world.measurements = some m
  := by
  obtain ⟨hsuffix, before, hread⟩ := h
  rcases List.suffix_cons_iff.mp hsuffix with hnow | hpast
  · right
    refine ⟨hnow, ?_⟩
    have hevent := hnow
    rw [hread, List.cons.injEq, Prod.mk.injEq, Sigma.mk.injEq] at hevent
    obtain ⟨⟨-, rfl, hanswer⟩, -⟩ := hevent
    obtain ⟨⟨elapsed, raised⟩, given⟩ := χ
    refine ⟨?_, ?_⟩
    · rw [hnow]
      exact (change c i .latestMeasurement _).1.rows_of_read
    · cases raised with
      | some e => cases eq_of_heq hanswer
      | none => exact (Except.ok.inj (eq_of_heq hanswer)).symm
  · exact Or.inl ⟨hpast, before, hread⟩

theorem Sound.after {c : Config world ι} (h : Sound c) {i : ι} {o : Statement} {χ : o.Choice}
    (hguar : guarantee i o χ c) :
  Sound (c.after i o χ)
  := by
  obtain ⟨hchange, hnow⟩ := change c i o χ
  constructor
  · exact hchange.rows h.rows
  · intro j m moment hreads
    rcases reads_after hreads with hpast | ⟨-, hrows, hlatest⟩
    · exact h.reads j m moment hpast
    · rw [latestAt, hrows, ← h.rows, hlatest]
  · intro row hrow
    rcases hchange.mem_measurements hguar hrow with hstamp | hmem
    · exact hstamp.trans hnow
    · exact (h.stamped row hmem).trans hnow
  · intro pdf hpdf
    rcases hchange.pdf with hsame | ⟨body, degraded, rfl, hput⟩
    · rw [hsame] at hpdf
      obtain ⟨htime, hread⟩ := h.stored pdf hpdf
      exact ⟨htime.trans hnow, hread.cons _⟩
    · rw [hput] at hpdf
      obtain rfl := Option.some.inj hpdf
      obtain ⟨began, hreads⟩ := hguar
      refine ⟨le_rfl, i, began, hreads.cons _, c.past, _, List.suffix_rfl, hreads.1⟩

/-! ### What requests come to know -/

/-- What is not undone by what is guaranteed. -/
def Lasting (p : Config world ι → Prop) : Prop :=
  ∀ c i (o : Statement) (χ : o.Choice), Sound c → guarantee i o χ c → p c → p (c.after i o χ)

namespace Lasting

variable {p q : Config world ι → Prop}

theorem const (p : Prop) :
  Lasting fun _ : Config world ι => p
  := fun _ _ _ _ _ _ h => h

theorem and (hp : Lasting p) (hq : Lasting q) :
  Lasting fun c => p c ∧ q c
  := fun c i o χ hc hguar h => ⟨hp c i o χ hc hguar h.1, hq c i o χ hc hguar h.2⟩

theorem past (t : ℕ) :
  Lasting fun c : Config world ι => t ≤ c.world.now
  := fun c i o χ _ _ h => h.trans (change c i o χ).2

theorem began (i : ι) (m : Row) :
  Lasting fun c : Config world ι => ∃ began, Reads i m began c.past
  := by
  rintro c j o χ - - ⟨began, h⟩
  exact ⟨began, h.cons _⟩

theorem storedSince (t : ℕ) :
  Lasting (StoredSince (ι := ι) t)
  := by
  rintro c i o χ hc - ⟨pdf, hpdf, ht⟩
  obtain ⟨hchange, hnow⟩ := change c i o χ
  rcases hchange.pdf with hsame | ⟨body, degraded, -, hput⟩
  · exact ⟨pdf, hsame ▸ hpdf, ht⟩
  · exact ⟨_, hput, (ht.trans (hc.stored pdf hpdf).1).trans hnow⟩

theorem stable (hp : Lasting p) (i : ι) :
  protocol.Stable i fun c => Sound c ∧ p c
  := by
  rintro _ _ ⟨j, -, o, χ, -, hguar, rfl⟩ ⟨hc, h⟩
  exact ⟨hc.after hguar, hp _ j o χ hc hguar h⟩

end Lasting

section

variable {i : ι} {p : Config world ι → Prop}

/-- A statement, with what its answer tells. -/
theorem triple_perform {o : Statement} {q : o.Res → Config world ι → Prop} (hp : Lasting p)
    (hguar : ∀ c χ, Sound c → p c → guarantee i o χ c)
    (hq : ∀ c χ a, Sound c → p c → c.answer o χ = .ok a → q a (c.after i o χ)) :
  protocol.Triple i (fun _ c => Sound c ∧ p c) (perform o)
    (fun a _ c => Sound c ∧ p c ∧ q a c) (fun _ _ c => Sound c ∧ p c)
  := by
  apply Protocol.triple_perform
  · exact fun _ => hp.stable i
  · rintro s c χ - ⟨hc, h⟩
    have hstep := hguar c χ hc h
    have hafter := hc.after hstep
    have hlast := hp c i o χ hc hstep h
    refine ⟨hstep, ?_⟩
    cases hanswer : c.answer o χ with
    | error e => exact ⟨hafter, hlast⟩
    | ok a => exact ⟨hafter, hlast, hq c χ a hc h hanswer⟩

/-- A statement that needs no permission. -/
theorem keeps_perform {o : Statement} (hp : Lasting p)
    (hguar : ∀ (c : Config world ι) χ, guarantee i o χ c) :
  protocol.Keeps i (fun _ c => Sound c ∧ p c) (perform o)
  := by
  apply (triple_perform (q := fun _ _ => True) hp (fun c χ _ _ => hguar c χ)
    fun _ _ _ _ _ _ => trivial).post
  · exact fun _ _ _ h => ⟨h.1, h.2.1⟩
  · exact fun _ _ _ h => h

/-- What is known of a row that was read. -/
def Known (i : ι) (m : Row) (c : Config world ι) : Prop :=
  (∃ began, Reads i m began c.past) ∧ m.updatedAt ≤ c.world.now

theorem Lasting.known (i : ι) (m : Row) :
  Lasting (Known (ι := ι) i m)
  := (Lasting.began i m).and (Lasting.past m.updatedAt)

/-- A party that has read a row may sign the link to a PDF that was stored since. -/
theorem triple_signPdf (m : Row) (key : String) :
  protocol.Triple i (fun _ c => Sound c ∧ Known i m c ∧ StoredSince m.updatedAt c)
    (perform (.signPdf key)) (fun _ _ c => Sound c ∧ Known i m c)
    (fun _ _ c => Sound c ∧ Known i m c)
  := by
  apply (triple_perform (q := fun _ _ => True)
    ((Lasting.known i m).and (Lasting.storedSince m.updatedAt)) _
    fun _ _ _ _ _ _ => trivial).post
  · exact fun _ _ _ h => ⟨h.1, h.2.1.1⟩
  · exact fun _ _ _ h => ⟨h.1, h.2.1⟩
  · rintro c χ - ⟨⟨⟨began, hreads⟩, -⟩, hstored⟩
    exact ⟨m, began, hreads, hstored⟩

theorem keeps_mint {A : Config world ι → Prop} (key : String) :
  protocol.Keeps i (fun _ => A) (mint key)
  := by
  unfold mint
  split
  · exact Protocol.Keeps.ret _
  · exact Protocol.Keeps.raise _

theorem wholeSeconds_le (t : ℕ) :
  wholeSeconds t ≤ t
  := Nat.div_mul_le_self t 1000000

/-- What the head of the PDF tells of its age. -/
theorem triple_head (hp : Lasting p) :
  protocol.Triple i (fun _ c => Sound c ∧ p c) head
    (fun found _ c => Sound c ∧ p c ∧
      ∀ head ∈ found, ∀ t ∈ head.lastModified, StoredSince t c)
    (fun _ _ c => Sound c ∧ p c)
  := by
  have htold : protocol.Triple i (fun _ c => Sound c ∧ p c) (perform .headPdf)
      (fun (told : Head) _ c => Sound c ∧ p c ∧ ∀ t ∈ told.lastModified, StoredSince t c)
      (fun _ _ c => Sound c ∧ p c) := by
    apply triple_perform (o := .headPdf)
      (q := fun (told : Head) c => ∀ t ∈ told.lastModified, StoredSince t c) hp
      fun _ _ _ _ => trivial
    rintro c ⟨⟨elapsed, raised⟩, given⟩ told hc - hanswer t ht
    cases raised with
    | some e => cases hanswer
    | none =>
        have hhead : c.answer .headPdf (⟨elapsed, none⟩, given) =
          c.world.pdf.elim (.error .service) fun pdf => .ok pdf.head := rfl
        rw [hhead] at hanswer
        cases hpdf : c.world.pdf with
        | none =>
            rw [hpdf] at hanswer
            cases hanswer
        | some pdf =>
            rw [hpdf] at hanswer
            obtain rfl := Except.ok.inj hanswer
            obtain rfl := Option.some.inj ht
            exact ⟨pdf, hpdf, wholeSeconds_le pdf.storedAt⟩
  unfold head
  apply Protocol.Triple.rescue (F := fun _ _ c => Sound c ∧ p c)
  · apply htold.bind
    intro told
    apply Protocol.Triple.ret
    rintro _ c ⟨hc, h, hsince⟩
    refine ⟨hc, h, ?_⟩
    rintro _ ⟨⟩
    exact hsince
  · intro e
    cases e with
    | service =>
        apply Protocol.Triple.ret
        rintro _ c ⟨hc, h⟩
        refine ⟨hc, h, ?_⟩
        rintro _ ⟨⟩
    | _ => exact Protocol.Triple.raise fun _ _ h => h

/-- A PDF that is offered again was stored after the measurement was stamped. -/
theorem keeps_freshCachedPdfUrl (jobId : String) (m : Row) :
  protocol.Keeps i (fun _ c => Sound c ∧ Known i m c) (freshCachedPdfUrl jobId m)
  := by
  have hknown := Lasting.known (ι := ι) i m
  unfold freshCachedPdfUrl
  apply (triple_head hknown).bind
  intro found
  cases found with
  | none => exact Protocol.Triple.ret fun _ _ h => ⟨h.1, h.2.1⟩
  | some told =>
      cases hlast : told.lastModified with
      | none =>
          simp only [hlast]
          exact Protocol.Triple.ret fun _ _ h => ⟨h.1, h.2.1⟩
      | some t =>
          simp only [hlast]
          apply Protocol.Triple.pre (A := fun _ c => Sound c ∧ Known i m c ∧ StoredSince t c)
          · have hstored := hknown.and (Lasting.storedSince (ι := ι) t)
            apply Protocol.Triple.bind
              (B := fun _ _ c => Sound c ∧ Known i m c ∧ StoredSince t c)
            · apply (keeps_perform (o := .currentTime) hstored fun _ _ => trivial).post
              · exact fun _ _ _ h => h
              · exact fun _ _ _ h => ⟨h.1, h.2.1⟩
            · intro now
              split
              · exact Protocol.Triple.ret fun _ _ h => ⟨h.1, h.2.1⟩
              split
              · exact Protocol.Triple.ret fun _ _ h => ⟨h.1, h.2.1⟩
              split
              · exact Protocol.Triple.ret fun _ _ h => ⟨h.1, h.2.1⟩
              · next hnewer =>
                apply Protocol.Triple.bind (B := fun _ _ c => Sound c ∧ Known i m c)
                · apply (triple_signPdf m (pdfKey jobId)).pre
                  rintro _ c ⟨hc, h, pdf, hpdf, ht⟩
                  exact ⟨hc, h, pdf, hpdf, (not_lt.mp hnewer).trans ht⟩
                · exact fun _ => Protocol.Triple.ret fun _ _ h => h
          · rintro _ c ⟨hc, h, hsince⟩
            exact ⟨hc, h, hsince told rfl t hlast⟩

theorem keeps_fallbackMapUrl (hp : Lasting p) (jobId : String) (bbox : Bbox) :
  protocol.Keeps i (fun _ c => Sound c ∧ p c) (fallbackMapUrl jobId bbox)
  := by
  unfold fallbackMapUrl
  apply Protocol.Keeps.rescue
  · apply Protocol.Keeps.bind (keeps_perform (o := .mapboxStatic bbox) hp fun _ _ => trivial)
    intro _
    apply Protocol.Keeps.bind (keeps_perform (o := .putMapFallback) hp fun _ _ => trivial)
    intro _
    apply Protocol.Keeps.bind (keeps_mint _)
    exact fun _ => Protocol.Keeps.ret _
  · intro e
    cases e with
    | error _ => exact Protocol.Keeps.raise _
    | sidecar => exact Protocol.Keeps.raise _
    | standardError _ => exact Protocol.Keeps.raise _
    | _ => exact Protocol.Keeps.ret _

theorem keeps_mapImageUrlFor (hp : Lasting p) (jobId : String) (bbox : Bbox) :
  protocol.Keeps i (fun _ c => Sound c ∧ p c) (mapImageUrlFor jobId bbox)
  := by
  unfold mapImageUrlFor
  apply Protocol.Keeps.rescue
  · apply Protocol.Keeps.bind (keeps_perform (o := .renderImages bbox) hp fun _ _ => trivial)
    intro _
    apply Protocol.Keeps.bind (keeps_mint _)
    exact fun _ => Protocol.Keeps.ret _
  · intro e
    cases e with
    | sidecar => exact keeps_fallbackMapUrl hp jobId bbox
    | minter => exact keeps_fallbackMapUrl hp jobId bbox
    | _ => exact Protocol.Keeps.raise _

/-- A party that has read a row may put a PDF that shows it. -/
theorem triple_putPdf {m : Row} {body : Pdf} (hbody : body.measurement = m) (degraded : Bool) :
  protocol.Triple i (fun _ c => Sound c ∧ Known i m c) (perform (.putPdf body degraded))
    (fun _ _ c => Sound c ∧ Known i m c ∧ StoredSince m.updatedAt c)
    (fun _ _ c => Sound c ∧ Known i m c)
  := by
  apply triple_perform (q := fun _ c => StoredSince m.updatedAt c) (Lasting.known i m)
  · rintro c χ - ⟨⟨began, hreads⟩, -⟩
    exact ⟨began, hbody.symm ▸ hreads⟩
  · rintro c ⟨⟨elapsed, raised⟩, given⟩ a - ⟨-, hpast⟩ hanswer
    cases raised with
    | some e => cases hanswer
    | none => exact ⟨_, rfl, hpast.trans (Nat.le_add_right _ _)⟩

/-- Reading the latest measurement. -/
theorem triple_latestMeasurement :
  protocol.Triple i (fun _ => Sound (ι := ι)) (perform .latestMeasurement)
    (fun found _ c => Sound c ∧ ∀ m ∈ found, Known i m c) (fun _ _ => Sound)
  := by
  have hread := triple_perform (i := i) (p := fun _ : Config world ι => True)
    (o := .latestMeasurement) (q := fun (found : Option Row) c => ∀ m ∈ found, Known i m c)
    (Lasting.const True) (fun _ _ _ _ => trivial) (by
      rintro c ⟨⟨elapsed, raised⟩, given⟩ found hc - hanswer m hm
      cases raised with
      | some e => cases hanswer
      | none =>
          obtain rfl := Option.mem_def.mp hm
          have hlatest : latest c.world.measurements = some m := Except.ok.inj hanswer
          have hmem : m ∈ c.world.measurements := List.argmax_mem hlatest
          refine ⟨⟨_, List.suffix_rfl, c.past, ?_⟩, ?_⟩
          · rw [Config.after_past, hanswer]
          · exact (hc.stamped m hmem).trans (Nat.le_add_right _ _))
  apply hread.conseq
  · exact fun _ _ h => ⟨h, trivial⟩
  · exact fun _ _ _ h => ⟨h.1, h.2.2⟩
  · exact fun _ _ _ h => h.1

/-- A render signs no link but to a PDF that was stored after the measurement was stamped. -/
theorem keeps_render (jobId : String) :
  protocol.Keeps i (fun _ => Sound (ι := ι)) (render jobId)
  := by
  unfold render
  apply triple_latestMeasurement.bind
  intro found
  cases found with
  | none => exact Protocol.Triple.raise fun _ _ h => h.1
  | some m =>
      have hknown := Lasting.known (ι := ι) i m
      have hleave : ∀ (_ : Failure) (_ : Unit) (c : Config world ι), Sound c ∧ Known i m c →
          Sound c := fun _ _ _ h => h.1
      apply Protocol.Triple.pre (A := fun _ c => Sound c ∧ Known i m c)
      · apply Protocol.Triple.bind (B := fun _ _ c => Sound c ∧ Known i m c)
        · exact (keeps_freshCachedPdfUrl jobId m).post (fun _ _ _ h => h) hleave
        intro cached
        cases cached with
        | some url => exact Protocol.Triple.ret fun _ _ h => h.1
        | none =>
            apply Protocol.Triple.bind (B := fun _ _ c => Sound c ∧ Known i m c)
            · exact (Protocol.Keeps.ofExcept _).post (fun _ _ _ h => h) hleave
            intro bbox
            apply Protocol.Triple.bind (B := fun _ _ c => Sound c ∧ Known i m c)
            · exact (keeps_mapImageUrlFor hknown jobId bbox).post (fun _ _ _ h => h) hleave
            intro map
            apply Protocol.Triple.bind (B := fun _ _ c => Sound c ∧ Known i m c)
            · exact (keeps_perform (o := .toPdf) hknown fun _ _ => trivial).post
                (fun _ _ _ h => h) hleave
            intro pages
            apply Protocol.Triple.bind
              (B := fun _ _ c => Sound c ∧ Known i m c ∧ StoredSince m.updatedAt c)
            · exact (triple_putPdf (m := m) rfl _).post (fun _ _ _ h => h) hleave
            intro _
            exact (triple_signPdf m (pdfKey jobId)).post (fun _ _ _ h => h.1) hleave
      · exact fun _ _ h => ⟨h.1, h.2 m rfl⟩

/-- The time that is told has come. -/
theorem triple_currentTime :
  protocol.Triple i (fun _ => Sound (ι := ι)) (perform .currentTime)
    (fun (t : ℕ) _ c => Sound c ∧ t ≤ c.world.now) (fun _ _ => Sound)
  := by
  have htime := triple_perform (i := i) (p := fun _ : Config world ι => True)
    (o := .currentTime) (q := fun (t : ℕ) c => t ≤ c.world.now) (Lasting.const True)
    (fun _ _ _ _ => trivial) (by
      rintro c ⟨⟨elapsed, raised⟩, given⟩ t - - hanswer
      cases raised with
      | some e => cases hanswer
      | none => exact (Except.ok.inj hanswer).ge)
  apply htime.conseq
  · exact fun _ _ h => ⟨h, trivial⟩
  · exact fun _ _ _ h => ⟨h.1, h.2.2⟩
  · exact fun _ _ _ h => h.1

/-- A statement that is permitted since a time that has come. -/
theorem triple_stamped {o : Statement} {t : ℕ}
    (hguar : ∀ (c : Config world ι) χ, t ≤ c.world.now → guarantee i o χ c) :
  protocol.Triple i (fun _ c => Sound c ∧ t ≤ c.world.now) (perform o) (fun _ _ => Sound)
    (fun _ _ => Sound)
  := by
  apply (triple_perform (q := fun _ _ => True) (Lasting.past t) (fun c χ _ => hguar c χ)
    fun _ _ _ _ _ _ => trivial).post
  · exact fun _ _ _ h => h.1
  · exact fun _ _ _ h => h.1

/-- A row that is committed is stamped before. -/
theorem keeps_persist (attributes : MeasurementAttributes) :
  protocol.Keeps i (fun _ => Sound (ι := ι)) (persist attributes)
  := by
  unfold persist
  apply triple_currentTime.bind
  intro generatedAt
  apply Protocol.Triple.pre (A := fun _ => Sound) _ fun _ _ h => h.1
  apply triple_currentTime.bind
  intro updatedAt
  exact triple_stamped fun _ _ h => h

theorem keeps_appendFailureWarning (message : String) :
  protocol.Keeps i (fun _ => Sound (ι := ι)) (appendFailureWarning message)
  := by
  unfold appendFailureWarning
  apply triple_latestMeasurement.bind
  intro found
  apply Protocol.Triple.pre (A := fun _ => Sound) _ fun _ _ h => h.1
  cases found with
  | none => exact Protocol.Keeps.ret _
  | some m =>
      simp only []
      split
      · exact Protocol.Keeps.ret _
      · apply triple_currentTime.bind
        intro updatedAt
        exact triple_stamped fun _ _ h => h

theorem keeps_method (jobId : String) (request : Request) :
  protocol.Keeps i (fun _ => Sound (ι := ι)) (request.method jobId)
  := by
  cases request with
  | render => exact (keeps_render jobId).bind fun _ => Protocol.Keeps.ret _
  | persist attributes => exact (keeps_persist attributes).bind fun _ => Protocol.Keeps.ret _
  | appendFailureWarning message =>
      exact (keeps_appendFailureWarning message).bind fun _ => Protocol.Keeps.ret _

end

/-! ### Runs -/

theorem sound_requests (jobId : String) (work : ι → Request) :
  Sound (requests jobId work).config
  := by
  constructor
  · rfl
  · rintro i m moment ⟨hsuffix, before, hread⟩
    rw [hread] at hsuffix
    cases List.suffix_nil.mp hsuffix
  · rintro row ⟨⟩
  · rintro pdf ⟨⟩

/-- At every moment of every interleaving, every request is at a program that keeps the protocol. -/
theorem keeps_run [DecidableEq ι] (jobId : String) (work : ι → Request)
    (schedule : List (ι × world.Choices)) :
  ((requests jobId work).run schedule).Keeps protocol (fun _ _ => Sound) ∧
    Sound ((requests jobId work).run schedule).config
  := by
  have hstable : ∀ (i : ι) (_ : Except Failure (Option SignedUrl)),
      protocol.Stable i (Sound (ι := ι)) := by
    rintro i - _ _ ⟨j, -, o, χ, -, hguar, rfl⟩ hc
    exact hc.after hguar
  have hkeeps : (requests jobId work).Keeps protocol fun _ _ => Sound := by
    intro i
    have h := Protocol.wp_outcome (s := ()) (keeps_method (i := i) jobId (work i))
      (sound_requests jobId work)
    apply Protocol.wp_mono _ h
    rintro (_ | _) _ hc
    · exact hc
    · exact hc
  have hok : (requests jobId work).Meets protocol.ok schedule :=
    Pool.meets_of_forall _ fun _ _ _ _ _ => trivial
  obtain ⟨hguar, hrun⟩ := Pool.run_of_keeps hstable hkeeps hok
  refine ⟨hrun, ?_⟩
  apply Pool.invariant_run _ hok hguar (sound_requests jobId work)
  exact fun _ _ _ _ _ hstep hc => hc.after hstep

/-- The PDF that a render offers shows what was the latest measurement when the render began, or
later; or else the latest one has been committed since the render that has put the PDF read the
measurements, under a stamp that is not later than the time at which the PDF was stored. -/
theorem pdf_outdated_only_by_race [DecidableEq ι] (jobId : String) (work : ι → Request)
    (schedule : List (ι × world.Choices)) {i : ι} {key : String}
    {next : Except Failure SignedUrl → Prog statements (Except Failure (Option SignedUrl))}
    (h : ((requests jobId work).run schedule).prog i = .perform (.signPdf key) next) :
  ∃ pdf ∈ ((requests jobId work).run schedule).config.world.pdf, ∃ m began, ∃ j made,
    Reads i m began ((requests jobId work).run schedule).config.past ∧
      latestAt began = some m ∧
      Reads j pdf.body.measurement made ((requests jobId work).run schedule).config.past ∧
      Puts j pdf made ((requests jobId work).run schedule).config.past ∧
      latestAt made = some pdf.body.measurement ∧
      (began <:+ made ∨ pdf.body.measurement = m ∨
        (made <:+ began ∧ latestAt made ≠ latestAt began ∧ m.updatedAt ≤ pdf.storedAt))
  := by
  obtain ⟨hkeeps, hc⟩ := keeps_run jobId work schedule
  have hi := hkeeps i
  rw [h] at hi
  obtain ⟨m, began, hbegan, pdf, hpdf, hstamp⟩ := (hi _ .refl (⟨0, none⟩, ()) trivial).1
  obtain ⟨-, j, made, hmade, hput⟩ := hc.stored pdf hpdf
  have hlatest := hc.reads i m began hbegan
  have hshown := hc.reads j _ made hmade
  refine ⟨pdf, hpdf, m, began, j, made, hbegan, hlatest, hmade, hput, hshown, ?_⟩
  by_cases hsame : latestAt made = latestAt began
  · rw [hshown, hlatest] at hsame
    exact Or.inr (Or.inl (Option.some.inj hsame))
  · rcases List.suffix_or_suffix_of_suffix hbegan.1 hmade.1 with hlater | hearlier
    · exact Or.inl hlater
    · exact Or.inr (Or.inr ⟨hearlier, hsame, hstamp⟩)

/-- A measurement is committed while the first of two renders is at work. -/
inductive Party where
  | persist
  | slow
  | again
  | render
deriving DecidableEq

def Party.work : Party → Request
  | .slow => .render
  | .render => .render
  | _ => .persist {
      footprint := .null
      roofOutline := .null
      lidar := .null
      facets := [.obj [("vertices", .arr [.arr [.num (-97), .num 32]])]]
      features := []
      totalAreaSqFt := .num 100
      predominantPitchRatio := .null
      source := "lidar"
      confidence := 1
      warnings := []
      provenance := .null
      totalPerimeterFt := .null
      geocode := .null
      parcelPolygon := .null
      sourceFingerprint := none
      generatedAt := 0 }

/-- Every statement takes a second and is answered. -/
def everySecond : world.Choices
  | .renderImages _ => (⟨1000000, none⟩, "artifacts/map.png")
  | .toPdf => (⟨1000000, none⟩, "")
  | .putPdf _ _ => (⟨1000000, none⟩, true)
  | .currentTime => (⟨1000000, none⟩, ())
  | .latestMeasurement => (⟨1000000, none⟩, ())
  | .insertMeasurement _ _ => (⟨1000000, none⟩, ())
  | .updateWarnings _ _ _ => (⟨1000000, none⟩, ())
  | .headPdf => (⟨1000000, none⟩, ())
  | .mapboxStatic _ => (⟨1000000, none⟩, ())
  | .putMapFallback => (⟨1000000, none⟩, ())
  | .signPdf _ => (⟨1000000, none⟩, ())

def race : List (Party × world.Choices) :=
  [.persist, .persist, .persist, .slow, .slow, .slow, .slow, .again, .again, .again, .slow, .slow,
    .render, .render, .render].map fun party => (party, everySecond)

/-- The render at the end of the race is about to offer the PDF of the slow one. -/
theorem pdf_outdated_by_race :
  ∃ pdf ∈ ((requests "1" Party.work).run race).config.world.pdf, ∃ m began, ∃ j made,
    Reads .render m began ((requests "1" Party.work).run race).config.past ∧
      latestAt began = some m ∧
      Reads j pdf.body.measurement made ((requests "1" Party.work).run race).config.past ∧
      Puts j pdf made ((requests "1" Party.work).run race).config.past ∧
      latestAt made = some pdf.body.measurement ∧
      (began <:+ made ∨ pdf.body.measurement = m ∨
        (made <:+ began ∧ latestAt made ≠ latestAt began ∧ m.updatedAt ≤ pdf.storedAt))
  := pdf_outdated_only_by_race "1" Party.work race (i := .render) rfl

/-- It is of the first measurement, while the latest one is the second. -/
example :
  (((requests "1" Party.work).run race).config.world.pdf.map (·.body.measurement.id),
    (latest ((requests "1" Party.work).run race).config.world.measurements).map (·.id))
      = (some 0, some 1)
  := by rfl

end Rails.ReportPdf
