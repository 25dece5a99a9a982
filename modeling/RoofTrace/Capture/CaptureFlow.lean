import RoofTrace.Capture.CaptureViewModel
import Mathlib.Data.List.Basic
import Mathlib.Data.List.Perm.Basic
import Mathlib.Logic.Relation

/-!
# The capture flow

What holds of a view model after any steps: at a prompt it has the captures of the prompts before,
an upload is started with all of them and is alone, its parts are those of the session, and a
terminal state is never left.
-/

namespace Phone

/-! ### Suspensions -/

namespace Suspension

/-- The index of a capture at work. -/
def captureIndex : Suspension → Option ℕ
  | encodeDepth index _ _ | scanRange index _ _ _ => some index
  | _ => none

/-- Whether a method is a capture at work. -/
def isCapturing (s : Suspension) : Bool := s.captureIndex.isSome

/-- Whether a method is a `performUpload` at work. -/
def isUploading : Suspension → Bool
  | readMesh _ | upload _ => true
  | _ => false

/-- Whether a method is at work on the end of the session. -/
def isFinishing (s : Suspension) : Bool :=
  match s with
  | finishAndUpload | exportMesh => true
  | s => s.isUploading

/-- An upload at work is at work on the end of the session. -/
theorem countP_isUploading_le (suspended : List Suspension) :
  suspended.countP isUploading ≤ suspended.countP isFinishing
  := by
  apply List.countP_mono_left
  intro s _ hs
  cases s <;> first | rfl | nomatch hs

/-- Whether a method is before the end of the export of the mesh. -/
def isExporting : Suspension → Bool
  | finishAndUpload | exportMesh => true
  | _ => false

/-- Whether a method has been given a mesh. -/
def hasMesh : Suspension → Bool
  | readMesh _ | upload _ | readMeshToSave _ => true
  | _ => false

end Suspension

/-! ### States -/

namespace CaptureSessionState

/-- How many captures there are in a state. -/
def taken : CaptureSessionState → ℕ
  | setupCheck | lidarUnsupported => 0
  | capturePrompt i => i
  | uploading | uploadComplete | uploadFailed | bundleSaved => promptCount

/-- Whether the last capture has been made in a state. -/
def isFinished : CaptureSessionState → Bool
  | uploading | uploadComplete | uploadFailed | bundleSaved => true
  | setupCheck | lidarUnsupported | capturePrompt _ => false

/-- A legal transition. -/
def Legal (source target : CaptureSessionState) : Prop := source.canTransition target = true

/-- A state advances along legal transitions. -/
theorem advance_legal (state next : CaptureSessionState) :
  Relation.ReflTransGen Legal state (state.advance next)
  := by
  rw [advance]
  split
  · next h => exact .single h
  · exact .refl

/-- No transition leaves a terminal state. -/
theorem canTransition_of_isTerminal {state : CaptureSessionState} (h : state.isTerminal = true)
    (next : CaptureSessionState) :
  state.canTransition next = false
  := by
  cases state <;> first | rfl | cases h

/-- A terminal state is never left. -/
theorem eq_of_isTerminal {state target : CaptureSessionState} (h : state.isTerminal = true)
    (legal : Relation.ReflTransGen Legal state target) :
  target = state
  := by
  rcases Relation.ReflTransGen.cases_head legal with rfl | ⟨next, step, -⟩
  · rfl
  · rw [Legal, canTransition_of_isTerminal h] at step
    cases step

end CaptureSessionState

namespace CaptureViewModel

open CaptureSessionState Relation

/-! ### What a step does -/

/-- The state goes along legal transitions, the identifier of the session stays, as does a mesh, and
an upload is started with that identifier, and only one that may be. -/
structure Follows (mayStart : UploadRequest → Prop) (m m' : CaptureViewModel) : Prop where
  state : ReflTransGen Legal m.state m'.state
  sessionID : m'.sessionID = m.sessionID
  mesh : m.meshResult.isSome = true → m'.meshResult.isSome = true
  uploads : m'.uploads = m.uploads ∨
    ∃ request : UploadRequest, mayStart request ∧
      m'.uploads = m.uploads ++ [request] ∧ request.sessionID = m.sessionID

namespace Follows

variable {mayStart : UploadRequest → Prop} {m m' : CaptureViewModel}

/-- A step that starts no upload and leaves the mesh as it is. -/
theorem quiet (state : ReflTransGen Legal m.state m'.state) (sessionID : m'.sessionID = m.sessionID)
    (mesh : m'.meshResult = m.meshResult) (uploads : m'.uploads = m.uploads) :
  Follows mayStart m m'
  := ⟨state, sessionID, fun hm => mesh ▸ hm, .inl uploads⟩

/-- Nothing has happened. -/
theorem refl (m : CaptureViewModel) : Follows mayStart m m := quiet .refl rfl rfl rfl

end Follows

section Follows

variable (answers : Answers) (m : CaptureViewModel) {mayStart : UploadRequest → Prop}

/-- An upload that begins moves the state along legal transitions. -/
theorem performUpload_state : ReflTransGen Legal m.state (m.performUpload answers).state := by
  rw [performUpload]
  split
  · exact .refl
  · split
    · apply advance_legal
    · split
      · exact .refl
      · apply advance_legal

/-- An upload that begins keeps the identifier of the session. -/
theorem performUpload_sessionID : (m.performUpload answers).sessionID = m.sessionID := by
  rw [performUpload]
  repeat' split
  all_goals rfl

/-- An upload that begins keeps the mesh. -/
theorem performUpload_meshResult : (m.performUpload answers).meshResult = m.meshResult := by
  rw [performUpload]
  repeat' split
  all_goals rfl

/-- An upload is not started before the mesh file has been read. -/
theorem performUpload_uploads : (m.performUpload answers).uploads = m.uploads := by
  rw [performUpload]
  repeat' split
  all_goals rfl

/-- The end of the export keeps or sets the mesh, and starts no upload. -/
theorem meshExported_follows (result : Except String MeshExportResult) :
  Follows mayStart m (m.meshExported answers result)
  := by
  cases result with
  | ok mesh =>
      let m' := { m with meshResult := some mesh }
      exact
        { state := performUpload_state answers m'
          sessionID := performUpload_sessionID answers m'
          mesh := by
            intro _
            rw [meshExported, performUpload_meshResult]
            rfl
          uploads := .inl (performUpload_uploads answers m') }
  | error e => exact .quiet (advance_legal _ _) rfl rfl rfl

/-- The end of a capture starts no upload. -/
theorem rangeScanned_follows (index : ℕ) (label : String) (frame : Frame) (depthPNG : Blob)
    (depthRange : List ℚ) :
  Follows mayStart m (m.rangeScanned answers index label frame depthPNG depthRange)
  := by
  simp only [rangeScanned]
  split
  · split
    · next h => exact .quiet (.single h) rfl rfl rfl
    · exact .quiet .refl rfl rfl rfl
  · exact .quiet (advance_legal _ _) rfl rfl rfl

/-- The end of an upload starts no other one. -/
theorem uploaded_follows (result : Except UploadError Unit) :
  Follows mayStart m (m.uploaded result)
  := by
  unfold uploaded
  split <;> exact .quiet (advance_legal _ _) rfl rfl rfl

/-- The end of a bundle starts no upload. -/
theorem meshReadToSave_follows (result : Except String Blob) :
  Follows mayStart m (m.meshReadToSave answers result)
  := by
  unfold meshReadToSave
  split
  · exact .quiet .refl rfl rfl rfl
  · split
    · exact .quiet .refl rfl rfl rfl
    · exact .quiet (advance_legal _ _) rfl rfl rfl

/-- An upload is started where the mesh file has been read. -/
theorem meshRead_follows (parts : List MultipartPart) (result : Except String Blob)
    (may : ∀ request meshData, request.parts = parts ++ [meshPart meshData] → mayStart request) :
  Follows mayStart m (m.meshRead answers parts result)
  := by
  unfold meshRead
  split
  · exact .quiet (advance_legal _ _) rfl rfl rfl
  · split
    · exact .quiet (advance_legal _ _) rfl rfl rfl
    · exact ⟨.refl, rfl, id, .inr ⟨_, may _ _ rfl, rfl, rfl⟩⟩

/-- A method that goes on starts an upload only when it has waited for the mesh file. -/
theorem resume_follows (s : Suspension) (completion : Completion)
    (may : ∀ request parts meshData, s = .readMesh parts →
      request.parts = parts ++ [meshPart meshData] → mayStart request) :
  Follows mayStart m (m.resume answers s completion)
  := by
  unfold resume
  split
  case h_1 ok => cases ok <;> exact .quiet (advance_legal _ _) rfl rfl rfl
  case h_2 => exact .quiet .refl rfl rfl rfl
  case h_3 result => cases result <;> exact .quiet .refl rfl rfl rfl
  case h_4 => apply rangeScanned_follows
  case h_5 =>
    rw [finishAndUpload]
    split <;> exact .quiet .refl rfl rfl rfl
  case h_6 => apply meshExported_follows
  case h_7 =>
    apply meshRead_follows
    exact fun request meshData => may request _ meshData rfl
  case h_8 => apply uploaded_follows
  case h_9 => apply meshReadToSave_follows
  case h_10 => exact .quiet .refl rfl rfl rfl

/-- A step starts an upload only with parts that have waited for the mesh file. -/
theorem step_follows (event : Event) :
  Follows (fun request => ∃ parts meshData, .readMesh parts ∈ m.suspended ∧
      request.parts = parts ++ [meshPart meshData]) m (m.step answers event)
  := by
  cases event with
  | runSetupCheck =>
      simp only [step, runSetupCheck]
      split
      · split
        · exact .quiet .refl rfl rfl rfl
        · exact .quiet (advance_legal _ _) rfl rfl rfl
      · exact .refl m
  | capture =>
      simp only [step, capture]
      repeat' split
      all_goals exact .quiet .refl rfl rfl rfl
  | retryUpload =>
      simp only [step, retryUpload]
      split
      · let m' := { m with state := m.state.advance .uploading }
        apply Follows.quiet
        · exact .trans (advance_legal _ _) (performUpload_state answers m')
        · exact performUpload_sessionID answers m'
        · exact performUpload_meshResult answers m'
        · exact performUpload_uploads answers m'
      · exact .refl m
  | saveBundleLocally =>
      simp only [step, saveBundleLocally]
      repeat' split
      all_goals exact .quiet .refl rfl rfl rfl
  | cancelPendingWork => exact .refl m
  | complete place completion =>
      simp only [step]
      split
      · next s hs =>
        let m' := { m with suspended := m.suspended.eraseIdx place }
        have resumed : Follows (fun request => ∃ parts meshData, .readMesh parts ∈ m.suspended ∧
            request.parts = parts ++ [meshPart meshData]) m' (m'.resume answers s completion) := by
          apply resume_follows
          rintro request parts meshData rfl hparts
          exact ⟨parts, meshData, List.mem_of_getElem? hs, hparts⟩
        exact { resumed with }
      · exact .refl m

/-- A run moves the state along legal transitions. -/
theorem run_state (steps : List (Answers × Event)) :
  ReflTransGen Legal m.state (m.run steps).state
  := by
  induction steps generalizing m with
  | nil => exact .refl
  | cons step steps ih => exact .trans (step_follows step.1 m step.2).state (ih _)

/-- A run keeps the identifier of the session. -/
theorem run_sessionID (steps : List (Answers × Event)) : (m.run steps).sessionID = m.sessionID := by
  induction steps generalizing m with
  | nil => rfl
  | cons step steps ih => exact (ih _).trans (step_follows step.1 m step.2).sessionID

end Follows

/-! ### Coherence -/

/-- The captures are those of the prompts before, there is at most one capture at work, at the
prompt of its index, and at most one method at work on the end of the session; the mesh is there
once it has been exported. -/
structure Coherent (m : CaptureViewModel) : Prop where
  captures : m.captures.map (·.captureIndex) = List.range m.state.taken
  photos : m.photoData.length = m.state.taken
  depths : m.depthData.length = m.state.taken
  prompt : ∀ i, m.state = .capturePrompt i → i < promptCount
  capturing : m.suspended.countP Suspension.isCapturing ≤ m.captureInFlight.toNat
  captureIndex : ∀ s ∈ m.suspended, ∀ i, s.captureIndex = some i → m.state = .capturePrompt i
  finishing : m.suspended.countP Suspension.isFinishing ≤ (decide (m.state = .uploading)).toNat
  flight : m.uploadInFlight.toNat ≤ m.suspended.countP Suspension.isUploading
  mesh : ∀ s ∈ m.suspended, s.hasMesh = true → m.meshResult.isSome = true
  exporting : ∀ s ∈ m.suspended, s.isExporting = true → m.meshResult = none
  finished : m.meshResult.isSome = true → m.state.isFinished = true

namespace Coherent

variable {m : CaptureViewModel}

/-- A view model that has just been made is coherent: it is idle, without captures and without an
upload. -/
theorem init (hasSensors : Bool) (backendURL jobID token sessionID startedAt : String) :
  Coherent (CaptureViewModel.init hasSensors backendURL jobID token sessionID startedAt)
  where
  captures := rfl
  photos := rfl
  depths := rfl
  prompt := nofun
  capturing := Nat.zero_le _
  captureIndex := nofun
  finishing := Nat.zero_le _
  flight := Nat.zero_le _
  mesh := nofun
  exporting := nofun
  finished := nofun

/-- The order of the suspended methods does not matter. -/
theorem perm (h : Coherent m) {suspended : List Suspension} (p : m.suspended.Perm suspended) :
  Coherent { m with suspended }
  where
  captures := h.captures
  photos := h.photos
  depths := h.depths
  prompt := h.prompt
  capturing := p.countP_eq _ ▸ h.capturing
  captureIndex := fun s hs => h.captureIndex s (p.mem_iff.mpr hs)
  finishing := p.countP_eq _ ▸ h.finishing
  flight := p.countP_eq _ ▸ h.flight
  mesh := fun s hs => h.mesh s (p.mem_iff.mpr hs)
  exporting := fun s hs => h.exporting s (p.mem_iff.mpr hs)
  finished := h.finished

/-! ### A suspended method that goes on -/

variable {s : Suspension}

/-- A method ends, and uploads that are in flight are those that are suspended. -/
theorem leave (h : Coherent { m with suspended := s :: m.suspended }) (inFlight : Bool)
    (hf : inFlight.toNat ≤ m.suspended.countP Suspension.isUploading) :
  Coherent { m with uploadInFlight := inFlight }
  where
  captures := h.captures
  photos := h.photos
  depths := h.depths
  prompt := h.prompt
  capturing := Nat.le_trans (List.sublist_cons_self _ _).countP_le h.capturing
  captureIndex := fun t ht => h.captureIndex t (.tail _ ht)
  finishing := Nat.le_trans (List.sublist_cons_self _ _).countP_le h.finishing
  flight := hf
  mesh := fun t ht => h.mesh t (.tail _ ht)
  exporting := fun t ht => h.exporting t (.tail _ ht)
  finished := h.finished

/-- A method other than an upload may end. -/
theorem ended (h : Coherent { m with suspended := s :: m.suspended }) (hs : s.isUploading = false) :
  Coherent m
  := by
  have flight := h.flight
  rw [List.countP_cons_of_neg (Bool.eq_false_iff.mp hs)] at flight
  exact h.leave m.uploadInFlight flight

/-- Any method may end when no upload is in flight afterwards. -/
theorem landed (h : Coherent { m with suspended := s :: m.suspended }) :
  Coherent { m with uploadInFlight := false }
  := h.leave false (Nat.zero_le _)

/-- When a method may be suspended: a capture alone and at its prompt, a method at work on the end
of the session alone and while it is uploading. -/
structure MayWait (m : CaptureViewModel) (s : Suspension) : Prop where
  capturing : ∀ index, s.captureIndex = some index →
    m.state = .capturePrompt index ∧ m.captureInFlight = true ∧
      m.suspended.countP Suspension.isCapturing = 0
  finishing : s.isFinishing = true →
    m.state = .uploading ∧ m.suspended.countP Suspension.isFinishing = 0
  mesh : s.hasMesh = true → m.meshResult.isSome = true
  exporting : s.isExporting = true → m.meshResult = none

/-- A method may be suspended when it may wait. -/
theorem suspend (h : Coherent m) (may : MayWait m s) : Coherent (m.suspend s) where
  captures := h.captures
  photos := h.photos
  depths := h.depths
  prompt := h.prompt
  capturing := by
    change List.countP _ (m.suspended ++ [s]) ≤ m.captureInFlight.toNat
    rw [List.countP_append, List.countP_singleton]
    split
    · next hs =>
      obtain ⟨index, hi⟩ := Option.isSome_iff_exists.mp hs
      obtain ⟨-, inFlight, none⟩ := may.capturing index hi
      rw [none, inFlight, Bool.toNat_true]
    · exact h.capturing
  captureIndex := by
    intro t ht index hi
    rcases List.mem_append.mp ht with ht | ht
    · exact h.captureIndex t ht index hi
    · rw [List.mem_singleton.mp ht] at hi
      exact (may.capturing index hi).1
  finishing := by
    change List.countP _ (m.suspended ++ [s]) ≤ (decide (m.state = .uploading)).toNat
    rw [List.countP_append, List.countP_singleton]
    split
    · next hs =>
      obtain ⟨uploading, none⟩ := may.finishing hs
      rw [none, decide_eq_true uploading, Bool.toNat_true]
    · exact h.finishing
  flight := by
    change m.uploadInFlight.toNat ≤ List.countP _ (m.suspended ++ [s])
    rw [List.countP_append]
    exact Nat.le_trans h.flight (Nat.le_add_right _ _)
  mesh := by
    intro t ht
    rcases List.mem_append.mp ht with ht | ht
    · exact h.mesh t ht
    · rw [List.mem_singleton.mp ht]
      exact may.mesh
  exporting := by
    intro t ht
    rcases List.mem_append.mp ht with ht | ht
    · exact h.exporting t ht
    · rw [List.mem_singleton.mp ht]
      exact may.exporting
  finished := h.finished

/-- An upload that is suspended may be in flight. -/
theorem takeOff (h : Coherent m) (may : MayWait m s) (hs : s.isUploading = true)
    (uploadInFlight : Bool) :
  Coherent ({ m with uploadInFlight }.suspend s)
  :=
    { h.suspend may with
      flight := by
        change uploadInFlight.toNat ≤ List.countP _ (m.suspended ++ [s])
        rw [List.countP_append, List.countP_singleton, if_pos hs]
        exact Nat.le_trans (Bool.toNat_le _) (Nat.le_add_left _ _) }

/-- A method at work on the end of the session is the only one, and it is uploading. -/
theorem only (h : Coherent { m with suspended := s :: m.suspended }) (hs : s.isFinishing = true) :
  m.state = .uploading ∧ m.suspended.countP Suspension.isFinishing = 0
  := by
  have finishing := h.finishing
  rw [List.countP_cons_of_pos hs] at finishing
  by_cases hu : m.state = .uploading
  · rw [decide_eq_true hu, Bool.toNat_true] at finishing
    exact ⟨hu, by omega⟩
  · rw [decide_eq_false hu, Bool.toNat_false] at finishing
    omega

/-- A capture at work is the only one, and it is at its prompt. -/
theorem captures_alone (h : Coherent { m with suspended := s :: m.suspended }) {index : ℕ}
    (hs : s.captureIndex = some index) :
  m.state = .capturePrompt index ∧ m.captureInFlight = true ∧
    m.suspended.countP Suspension.isCapturing = 0
  := by
  have hs' : s.isCapturing = true := by rw [Suspension.isCapturing, hs, Option.isSome_some]
  have capturing := h.capturing
  rw [List.countP_cons_of_pos hs'] at capturing
  have inFlight : m.captureInFlight = true := by
    cases hm : m.captureInFlight with
    | true => rfl
    | false =>
        rw [hm, Bool.toNat_false] at capturing
        omega
  rw [inFlight, Bool.toNat_true] at capturing
  exact ⟨h.captureIndex s (.head _) index hs, inFlight, by omega⟩

/-- Nothing is at work on the end of the session unless it is uploading. -/
theorem idle (h : Coherent m) (hu : m.state ≠ .uploading) :
  m.suspended.countP Suspension.isFinishing = 0
  := by
  have finishing := h.finishing
  rw [decide_eq_false hu] at finishing
  exact Nat.le_zero.mp finishing

/-- No upload is in flight when nothing is at work on the end of the session. -/
theorem free (h : Coherent m) (idle : m.suspended.countP Suspension.isFinishing = 0) :
  m.uploadInFlight = false
  := by
  have flight := Nat.le_trans h.flight (Suspension.countP_isUploading_le _)
  rw [idle] at flight
  cases hm : m.uploadInFlight with
  | false => rfl
  | true =>
      rw [hm, Bool.toNat_true] at flight
      omega

/-! ### States -/

/-- All captures have been made in a finished state. -/
theorem taken_of_isFinished {state : CaptureSessionState} (h : state.isFinished = true) :
  state.taken = promptCount
  := by
  cases state <;> first | rfl | cases h

/-- A session whose captures have been made may go on to a state that says so, when nothing is at
work on its end. -/
theorem finish (h : Coherent m) (hf : m.state.isFinished = true)
    (idle : m.suspended.countP Suspension.isFinishing = 0) {next : CaptureSessionState}
    (hn : next.isFinished = true) :
  Coherent { m with state := next }
  := by
  have taken : next.taken = m.state.taken := by
    rw [taken_of_isFinished hf, taken_of_isFinished hn]
  exact
    { h with
      captures := h.captures.trans (by rw [taken])
      photos := h.photos.trans taken.symm
      depths := h.depths.trans taken.symm
      prompt := by
        intro i hi
        change next = _ at hi
        rw [hi] at hn
        cases hn
      captureIndex := by
        intro t ht i hi
        rw [h.captureIndex t ht i hi] at hf
        cases hf
      finishing := by
        change _ ≤ (decide (next = .uploading)).toNat
        exact idle ▸ Nat.zero_le _
      finished := fun _ => hn }

/-- A finished session advances to another finished state, or stays. -/
theorem finish_advance (h : Coherent m) (hf : m.state.isFinished = true)
    (idle : m.suspended.countP Suspension.isFinishing = 0) (next : CaptureSessionState)
    (hn : next.isFinished = true) :
  Coherent { m with state := m.state.advance next }
  := by
  rw [advance]
  split
  · exact h.finish hf idle hn
  · exact h

/-- The setup check ends at the first prompt or in an unsupported state. -/
theorem setup_advance (h : Coherent m) {next : CaptureSessionState}
    (hn : next = .capturePrompt 0 ∨ next = .lidarUnsupported) :
  Coherent { m with state := m.state.advance next }
  := by
  rw [advance]
  split
  case isFalse => exact h
  case isTrue legal =>
    have source : m.state = .setupCheck := by
      rcases hn with rfl | rfl <;> cases hs : m.state <;> simp_all [canTransition]
    have taken : next.taken = m.state.taken := by
      rw [source]
      rcases hn with rfl | rfl <;> rfl
    exact
      { h with
        captures := h.captures.trans (by rw [taken])
        photos := h.photos.trans taken.symm
        depths := h.depths.trans taken.symm
        prompt := by
          rintro i rfl
          rcases hn with hn | hn <;> cases hn
          decide
        captureIndex := by
          intro t ht i hi
          cases source.symm.trans (h.captureIndex t ht i hi)
        finishing := by
          have idle := h.idle (by rw [source]; nofun)
          exact idle ▸ Nat.zero_le _
        finished := by
          intro hm
          have := h.finished hm
          rw [source] at this
          cases this }

/-! ### Steps -/

/-- The setup check keeps a view model coherent. -/
theorem runSetupCheck (h : Coherent m) : Coherent m.runSetupCheck := by
  rw [CaptureViewModel.runSetupCheck]
  split
  · split
    · exact h.suspend ⟨nofun, nofun, nofun, nofun⟩
    · exact { h.setup_advance (.inr rfl) with }
  · exact h

/-- The end of the probe keeps a view model coherent. -/
theorem probed (h : Coherent { m with suspended := .probe :: m.suspended }) (ok : Bool) :
  Coherent (m.probed ok)
  := by
  have h := h.ended rfl
  rw [CaptureViewModel.probed]
  split
  · exact (h.setup_advance (.inl rfl)).suspend ⟨nofun, nofun, nofun, nofun⟩
  · exact { h.setup_advance (.inr rfl) with }

/-- An origin fix keeps a view model coherent. -/
theorem originAcquired (h : Coherent { m with suspended := .acquireOrigin :: m.suspended })
    (fix : Option LocationFix) :
  Coherent (m.originAcquired fix)
  := { h.ended rfl with }

/-- Without a capture at work, any value of the flag is right. -/
theorem clear (h : Coherent m) (hs : m.suspended.countP Suspension.isCapturing = 0)
    (captureInFlight : Bool) :
  Coherent { m with captureInFlight }
  := { h with capturing := hs ▸ Nat.zero_le _ }

/-- A capture that fails keeps a view model coherent. -/
theorem captureFailed (h : Coherent m) (hs : m.suspended.countP Suspension.isCapturing = 0)
    (error : String) :
  Coherent (m.captureFailed error)
  := { h.clear hs false with }

/-- A capture begins at its prompt, when no other is at work. -/
theorem capture (h : Coherent m) (answers : Answers) : Coherent (m.capture answers) := by
  rw [CaptureViewModel.capture]
  split
  case isTrue => exact h
  case isFalse free =>
    have none : m.suspended.countP Suspension.isCapturing = 0 := by
      have capturing := h.capturing
      rw [Bool.eq_false_iff.mpr free] at capturing
      exact Nat.le_zero.mp capturing
    split
    · next index at_index _ =>
      have state : m.state = .capturePrompt index := by
        rw [currentPromptIndex] at at_index
        split at at_index
        · next hs => rw [hs, Option.some.inj at_index]
        · cases at_index
      split
      · split
        · next frame _ =>
          apply (h.clear none true).suspend
          exact
            { capturing := by rintro i ⟨⟩; exact ⟨state, rfl, none⟩
              finishing := nofun
              mesh := nofun
              exporting := nofun }
        · exact h.captureFailed none _
      · exact h
    · exact h

/-- A capture goes on at its prompt when the depth map has been encoded. -/
theorem depthEncoded {index : ℕ} {label : String} {frame : Frame}
    (h : Coherent { m with suspended := .encodeDepth index label frame :: m.suspended })
    (result : Except String Blob) :
  Coherent (m.depthEncoded index label frame result)
  := by
  have alone := h.captures_alone rfl
  have h := h.ended rfl
  cases result with
  | ok depthPNG =>
      apply h.suspend
      exact
        { capturing := by rintro i ⟨⟩; exact alone
          finishing := nofun
          mesh := nofun
          exporting := nofun }
  | error e => exact h.captureFailed alone.2.2 e

/-- The capture of a prompt is added. -/
theorem captured (h : Coherent m) {index : ℕ} (state : m.state = .capturePrompt index)
    (none : m.suspended.countP Suspension.isCapturing = 0) {entry : CaptureEntry}
    (he : entry.captureIndex = index) (photo depth : Blob) {next : CaptureSessionState}
    (taken : next.taken = index + 1) (prompt : ∀ i, next = .capturePrompt i → i < promptCount) :
  Coherent { m with
    captures := m.captures ++ [entry]
    photoData := m.photoData ++ [photo]
    depthData := m.depthData ++ [depth]
    captureInFlight := false
    state := next }
  where
  captures := by
    have captures := h.captures
    rw [state] at captures
    change List.map _ (m.captures ++ [entry]) = List.range next.taken
    rw [taken, List.map_append, captures, List.range_succ]
    exact congrArg (List.range index ++ [·]) he
  photos := by
    have photos := h.photos
    rw [state] at photos
    change (m.photoData ++ [photo]).length = next.taken
    rw [taken, List.length_append, photos]
    rfl
  depths := by
    have depths := h.depths
    rw [state] at depths
    change (m.depthData ++ [depth]).length = next.taken
    rw [taken, List.length_append, depths]
    rfl
  prompt := prompt
  capturing := none ▸ Nat.zero_le _
  captureIndex := by
    intro t ht i hi
    have := List.countP_eq_zero.mp none t ht
    rw [Suspension.isCapturing, hi] at this
    contradiction
  finishing := by
    have idle := h.idle (by rw [state]; nofun)
    exact idle ▸ Nat.zero_le _
  flight := h.flight
  mesh := h.mesh
  exporting := h.exporting
  finished := by
    intro hm
    have := h.finished hm
    rw [state] at this
    cases this

/-- No mesh has been exported before the last capture has been made. -/
theorem no_mesh (h : Coherent m) (hf : m.state.isFinished = false) : m.meshResult = none := by
  cases hm : m.meshResult with
  | none => rfl
  | some mesh =>
      have := h.finished (by rw [hm]; rfl)
      rw [hf] at this
      cases this

/-- A capture ends at the next prompt, or begins the end of the session. -/
theorem rangeScanned {index : ℕ} {label : String} {frame : Frame} {depthPNG : Blob}
    (h : Coherent { m with suspended := .scanRange index label frame depthPNG :: m.suspended })
    (answers : Answers) (depthRange : List ℚ) :
  Coherent (m.rangeScanned answers index label frame depthPNG depthRange)
  := by
  obtain ⟨state, -, none⟩ := h.captures_alone rfl
  have h := h.ended rfl
  have bound := h.prompt index state
  simp only [CaptureViewModel.rangeScanned]
  split
  · next last =>
    have legal : m.state.canTransition .uploading = true := by
      rw [state, last]
      rfl
    rw [if_pos legal]
    apply Coherent.suspend
    · apply h.captured state none rfl
      · rw [last]
        rfl
      · nofun
    · exact
        { capturing := nofun
          finishing := fun _ => ⟨rfl, h.idle (by rw [state]; nofun)⟩
          mesh := nofun
          exporting := fun _ => h.no_mesh (by rw [state]; rfl) }
  · next more =>
    have : index + 1 < promptCount := by
      have : promptCount = 8 := rfl
      omega
    have legal : m.state.canTransition (.capturePrompt (index + 1)) = true := by
      rw [state]
      simp [canTransition, isValidPromptIndex, bound, this]
    rw [advance, if_pos legal]
    apply h.captured state none rfl
    · rfl
    · rintro i ⟨⟩
      exact this

/-- An upload ends in a finished state. -/
theorem uploadEnded (h : Coherent { m with uploadInFlight := false })
    (hf : m.state.isFinished = true) (idle : m.suspended.countP Suspension.isFinishing = 0)
    (errorMessage : Option String) :
  Coherent (m.uploadEnded errorMessage)
  := { h.finish_advance hf idle _ rfl with }

/-- An upload may begin while nothing is at work on the end of the session. -/
theorem performUpload (h : Coherent m) (uploading : m.state = .uploading)
    (idle : m.suspended.countP Suspension.isFinishing = 0) (answers : Answers) :
  Coherent (m.performUpload answers)
  := by
  have finished : m.state.isFinished = true := by rw [uploading]; rfl
  have free : Coherent { m with uploadInFlight := false } := { h with flight := Nat.zero_le _ }
  rw [CaptureViewModel.performUpload]
  split
  case isTrue => exact h
  case isFalse =>
    split
    · exact free.uploadEnded finished idle none
    · next mesh hm =>
      split
      · apply h.takeOff
        · exact
            { capturing := nofun
              finishing := fun _ => ⟨uploading, idle⟩
              mesh := fun _ => by rw [hm]; rfl
              exporting := nofun }
        · rfl
      · exact free.uploadEnded finished idle _

/-- An upload may be retried once it has failed. -/
theorem retryUpload (h : Coherent m) (answers : Answers) : Coherent (m.retryUpload answers) := by
  rw [CaptureViewModel.retryUpload]
  split
  · next hr =>
    have idle := h.idle (by rw [hr.1]; nofun)
    apply (h.finish_advance (by rw [hr.1]; rfl) idle .uploading rfl).performUpload
    · rw [hr.1]
      rfl
    · exact idle
  · exact h

/-- The end of the session waits for the export of the mesh. -/
theorem finishAndUpload (h : Coherent { m with suspended := .finishAndUpload :: m.suspended }) :
  Coherent m.finishAndUpload
  := by
  obtain ⟨uploading, idle⟩ := h.only rfl
  have none := h.exporting _ (.head _) rfl
  have h := h.ended rfl
  rw [CaptureViewModel.finishAndUpload]
  split
  · apply h.suspend
    exact
      { capturing := nofun
        finishing := fun _ => ⟨uploading, idle⟩
        mesh := nofun
        exporting := fun _ => none }
  · exact h

/-- A mesh is there when nothing is before the end of its export. -/
theorem exported (h : Coherent m) (hf : m.state.isFinished = true)
    (idle : m.suspended.countP Suspension.isFinishing = 0) (mesh : MeshExportResult) :
  Coherent { m with meshResult := some mesh }
  :=
    { h with
      mesh := fun _ _ _ => rfl
      exporting := by
        intro s hs he
        have busy := List.countP_eq_zero.mp idle s hs
        have finishing : s.isFinishing = true := by cases s <;> first | rfl | nomatch he
        exact absurd finishing busy
      finished := fun _ => hf }

/-- An upload begins with the mesh that has been exported. -/
theorem meshExported (h : Coherent { m with suspended := .exportMesh :: m.suspended })
    (answers : Answers) (result : Except String MeshExportResult) :
  Coherent (m.meshExported answers result)
  := by
  obtain ⟨uploading, idle⟩ := h.only rfl
  have finished : m.state.isFinished = true := by rw [uploading]; rfl
  have h := h.ended rfl
  cases result with
  | ok mesh => exact (h.exported finished idle mesh).performUpload uploading idle answers
  | error e => exact { h.finish_advance finished idle .uploadFailed rfl with }

/-- An upload may begin when nothing else is at work on the end of the session. -/
theorem sends (h : Coherent { m with uploadInFlight := false }) (uploading : m.state = .uploading)
    (idle : m.suspended.countP Suspension.isFinishing = 0) (mesh : m.meshResult.isSome = true)
    (request : UploadRequest) (uploads : List UploadRequest) :
  Coherent ({ m with uploads }.suspend (.upload request))
  := by
  have may : MayWait { m with uploadInFlight := false } (.upload request) :=
    { capturing := nofun
      finishing := fun _ => ⟨uploading, idle⟩
      mesh := fun _ => mesh
      exporting := nofun }
  exact { h.takeOff may rfl m.uploadInFlight with }

/-- An upload is sent when the mesh file has been read. -/
theorem meshRead {parts : List MultipartPart}
    (h : Coherent { m with suspended := .readMesh parts :: m.suspended }) (answers : Answers)
    (result : Except String Blob) :
  Coherent (m.meshRead answers parts result)
  := by
  obtain ⟨uploading, idle⟩ := h.only rfl
  have finished : m.state.isFinished = true := by rw [uploading]; rfl
  have mesh := h.mesh _ (.head _) rfl
  cases result with
  | error e => exact h.landed.uploadEnded finished idle _
  | ok meshData =>
      simp only [CaptureViewModel.meshRead]
      split
      · exact h.landed.uploadEnded finished idle _
      · apply h.landed.sends uploading idle mesh

/-- An upload ends, and is no longer in flight. -/
theorem uploaded {request : UploadRequest}
    (h : Coherent { m with suspended := .upload request :: m.suspended })
    (result : Except UploadError Unit) :
  Coherent (m.uploaded result)
  := by
  obtain ⟨uploading, idle⟩ := h.only rfl
  have finished : m.state.isFinished = true := by rw [uploading]; rfl
  unfold CaptureViewModel.uploaded
  split
  · exact { h.landed.finish_advance finished idle .uploadComplete rfl with }
  · exact h.landed.uploadEnded finished idle _
  · exact h.landed.uploadEnded finished idle _

/-- A bundle that fails keeps a view model coherent. -/
theorem saveFailed (h : Coherent m) (error : String) : Coherent (m.saveFailed error)
  := { h with }

/-- A bundle waits for the mesh file when it may be saved. -/
theorem saveBundleLocally (h : Coherent m) (answers : Answers) :
  Coherent (m.saveBundleLocally answers)
  := by
  rw [CaptureViewModel.saveBundleLocally]
  split
  · exact h
  · split
    · exact h
    · next mesh hm =>
      split
      · split
        · have h : Coherent { m with isSavingBundle := true } := { h with }
          apply h.suspend
          exact
            { capturing := nofun
              finishing := nofun
              mesh := fun _ => by rw [hm]; rfl
              exporting := nofun }
        · exact h.saveFailed _
      · exact h

/-- A bundle that is saved ends a session whose upload has failed. -/
theorem meshReadToSave {parts : List MultipartPart}
    (h : Coherent { m with suspended := .readMeshToSave parts :: m.suspended })
    (answers : Answers) (result : Except String Blob) :
  Coherent (m.meshReadToSave answers result)
  := by
  have mesh := h.mesh _ (.head _) rfl
  have h := h.ended rfl
  cases result with
  | error e => exact h.saveFailed e
  | ok meshData =>
      simp only [CaptureViewModel.meshReadToSave]
      split
      · exact h.saveFailed _
      · by_cases failed : m.state = .uploadFailed
        · have idle := h.idle (by rw [failed]; nofun)
          exact { h.finish_advance (h.finished mesh) idle .bundleSaved rfl with }
        · have stays : m.state.advance .bundleSaved = m.state := by
            cases hs : m.state <;> first | rfl | exact absurd hs failed
          rw [stays]
          exact { h with }

/-- A method that goes on keeps a view model coherent. -/
theorem resume (h : Coherent { m with suspended := s :: m.suspended }) (answers : Answers)
    (completion : Completion) :
  Coherent (m.resume answers s completion)
  := by
  unfold CaptureViewModel.resume
  split
  case h_1 => exact h.probed _
  case h_2 => exact h.originAcquired _
  case h_3 => exact h.depthEncoded _
  case h_4 => exact h.rangeScanned answers _
  case h_5 => exact h.finishAndUpload
  case h_6 => exact h.meshExported answers _
  case h_7 => exact h.meshRead answers _
  case h_8 => exact h.uploaded _
  case h_9 => exact h.meshReadToSave answers _
  case h_10 => exact h.perm (List.perm_append_singleton _ _).symm

/-- A suspended method may be taken to the front. -/
theorem front (h : Coherent m) {place : ℕ} (hs : m.suspended[place]? = some s) :
  Coherent { m with suspended := s :: m.suspended.eraseIdx place }
  := by
  obtain ⟨bound, rfl⟩ := List.getElem?_eq_some_iff.mp hs
  exact h.perm (List.getElem_cons_eraseIdx_perm bound).symm

/-- A step keeps a view model coherent. -/
theorem step (h : Coherent m) (answers : Answers) (event : Event) :
  Coherent (m.step answers event)
  := by
  cases event with
  | runSetupCheck => exact h.runSetupCheck
  | capture => exact h.capture answers
  | retryUpload => exact h.retryUpload answers
  | saveBundleLocally => exact h.saveBundleLocally answers
  | cancelPendingWork => exact h
  | complete place completion =>
      simp only [CaptureViewModel.step]
      split
      · next hs => exact (h.front hs).resume answers completion
      · exact h

/-- A run keeps a view model coherent. -/
theorem run (h : Coherent m) (steps : List (Answers × Event)) : Coherent (m.run steps) := by
  induction steps generalizing m with
  | nil => exact h
  | cons step steps ih => exact ih (h.step step.1 step.2)

end Coherent

/-! ### The parts of an upload -/

/-- The parts before the mesh of a session: what was `made` of a manifest with its identifier and
its captures, and its photos and depth maps. -/
def Assembled (made : CaptureSessionManifest → Blob → Prop) (m : CaptureViewModel)
    (parts : List MultipartPart) : Prop :=
  ∃ manifest sessionJSON, made manifest sessionJSON ∧ manifest.sessionID = m.sessionID ∧
    manifest.captures = m.captures ∧ parts = m.parts sessionJSON

/-- The parts that wait for the mesh are those of the session. -/
def Assembles (made : CaptureSessionManifest → Blob → Prop) (m : CaptureViewModel) : Prop :=
  ∀ parts, .readMesh parts ∈ m.suspended → Assembled made m parts

namespace Assembles

variable {made : CaptureSessionManifest → Blob → Prop} {m m' : CaptureViewModel} {s : Suspension}

/-- What has been captured stays, and no other parts wait for the mesh. -/
theorem frame (h : Assembles made m) (id : m'.sessionID = m.sessionID)
    (captures : m'.captures = m.captures) (photos : m'.photoData = m.photoData)
    (depths : m'.depthData = m.depthData)
    (waits : ∀ parts, .readMesh parts ∈ m'.suspended →
      .readMesh parts ∈ m.suspended ∨ Assembled made m' parts) :
  Assembles made m'
  := by
  intro parts hparts
  rcases waits parts hparts with before | now
  · obtain ⟨manifest, sessionJSON, hmade, hid, hcaptures, heq⟩ := h parts before
    use manifest, sessionJSON, hmade, hid.trans id.symm, hcaptures.trans captures.symm
    rw [heq, CaptureViewModel.parts, CaptureViewModel.parts, photos, depths]
  · exact now

/-- What has been captured stays, and the same methods are suspended. -/
theorem same (h : Assembles made m) (id : m'.sessionID = m.sessionID)
    (captures : m'.captures = m.captures) (photos : m'.photoData = m.photoData)
    (depths : m'.depthData = m.depthData) (suspended : m'.suspended = m.suspended) :
  Assembles made m'
  := h.frame id captures photos depths fun _ hparts => .inl (suspended ▸ hparts)

/-- A method may be suspended that does not wait for the mesh, or has the parts of the session. -/
theorem suspend (h : Assembles made m)
    (hs : ∀ parts, s = .readMesh parts → Assembled made m parts) :
  Assembles made (m.suspend s)
  := by
  refine h.frame rfl rfl rfl rfl ?_
  intro parts hparts
  rcases List.mem_append.mp hparts with before | now
  · exact .inl before
  · exact .inr (hs parts (List.mem_singleton.mp now).symm)

/-- The parts that still wait are those of the session. -/
theorem leave (h : Assembles made { m with suspended := s :: m.suspended }) : Assembles made m
  := h.frame rfl rfl rfl rfl fun _ hparts => .inl (.tail _ hparts)

/-- An upload that begins waits with the parts of the session. -/
theorem performUpload (h : Assembles made m) (answers : Answers)
    (hmade : ∀ manifest sessionJSON, answers.sessionJSON manifest = .ok sessionJSON →
      made manifest sessionJSON) :
  Assembles made (m.performUpload answers)
  := by
  rw [CaptureViewModel.performUpload]
  split
  · exact h
  · split
    · exact h.same rfl rfl rfl rfl rfl
    · split
      · next sessionJSON hencoded =>
        have h : Assembles made { m with uploadInFlight := true } := h.same rfl rfl rfl rfl rfl
        apply h.suspend
        rintro parts ⟨⟩
        exact ⟨_, sessionJSON, hmade _ _ hencoded, rfl, rfl, rfl⟩
      · exact h.same rfl rfl rfl rfl rfl

/-- When a capture is added, no parts wait for the mesh. -/
theorem rangeScanned {index : ℕ} {label : String} {frame : Frame} {depthPNG : Blob}
    (coherent : Coherent
      { m with suspended := .scanRange index label frame depthPNG :: m.suspended })
    (answers : Answers) (depthRange : List ℚ) :
  Assembles made (m.rangeScanned answers index label frame depthPNG depthRange)
  := by
  obtain ⟨state, -, -⟩ := coherent.captures_alone rfl
  have idle := (coherent.ended rfl).idle (by rw [state]; nofun)
  have none (parts : List MultipartPart) (hparts : .readMesh parts ∈ m.suspended) : False :=
    List.countP_eq_zero.mp idle _ hparts rfl
  intro parts hparts
  simp only [CaptureViewModel.rangeScanned] at hparts
  split at hparts
  · split at hparts
    · rcases List.mem_append.mp hparts with before | now
      · exact (none parts before).elim
      · cases List.mem_singleton.mp now
    · exact (none parts hparts).elim
  · exact (none parts hparts).elim

/-- A method that goes on leaves the parts of the session waiting. -/
theorem resume (h : Assembles made { m with suspended := s :: m.suspended })
    (coherent : Coherent { m with suspended := s :: m.suspended }) (answers : Answers)
    (hmade : ∀ manifest sessionJSON, answers.sessionJSON manifest = .ok sessionJSON →
      made manifest sessionJSON)
    (completion : Completion) :
  Assembles made (m.resume answers s completion)
  := by
  have hleft := h.leave
  unfold CaptureViewModel.resume
  split
  case h_1 ok =>
    rw [CaptureViewModel.probed]
    split
    · have h : Assembles made { m with state := m.state.advance (.capturePrompt 0) } :=
        hleft.same rfl rfl rfl rfl rfl
      exact h.suspend nofun
    · exact hleft.same rfl rfl rfl rfl rfl
  case h_2 => exact hleft.same rfl rfl rfl rfl rfl
  case h_3 result =>
    cases result with
    | ok depthPNG => exact hleft.suspend nofun
    | error e => exact hleft.same rfl rfl rfl rfl rfl
  case h_4 => exact rangeScanned coherent answers _
  case h_5 =>
    rw [CaptureViewModel.finishAndUpload]
    split
    · exact hleft.suspend nofun
    · exact hleft
  case h_6 result =>
    cases result with
    | ok mesh =>
        have h : Assembles made { m with meshResult := some mesh } :=
          hleft.same rfl rfl rfl rfl rfl
        exact h.performUpload answers hmade
    | error e => exact hleft.same rfl rfl rfl rfl rfl
  case h_7 parts result =>
    cases result with
    | error e => exact hleft.same rfl rfl rfl rfl rfl
    | ok meshData =>
        simp only [CaptureViewModel.meshRead]
        split
        · exact hleft.same rfl rfl rfl rfl rfl
        · apply Assembles.suspend
          · exact hleft.same rfl rfl rfl rfl rfl
          · nofun
  case h_8 =>
    unfold CaptureViewModel.uploaded
    split <;> exact hleft.same rfl rfl rfl rfl rfl
  case h_9 =>
    unfold CaptureViewModel.meshReadToSave
    split
    · exact hleft.same rfl rfl rfl rfl rfl
    · split <;> exact hleft.same rfl rfl rfl rfl rfl
  case h_10 =>
    refine h.frame rfl rfl rfl rfl ?_
    intro parts hparts
    exact .inl ((List.perm_append_singleton _ _).mem_iff.mp hparts)

/-- A step leaves the parts of the session waiting. -/
theorem step (h : Assembles made m) (coherent : Coherent m) (answers : Answers)
    (hmade : ∀ manifest sessionJSON, answers.sessionJSON manifest = .ok sessionJSON →
      made manifest sessionJSON)
    (event : Event) :
  Assembles made (m.step answers event)
  := by
  cases event with
  | runSetupCheck =>
      simp only [CaptureViewModel.step, CaptureViewModel.runSetupCheck]
      split
      · split
        · exact h.suspend nofun
        · exact h.same rfl rfl rfl rfl rfl
      · exact h
  | capture =>
      simp only [CaptureViewModel.step, CaptureViewModel.capture]
      split
      · exact h
      · split
        · split
          · split
            · apply Assembles.suspend
              · exact h.same rfl rfl rfl rfl rfl
              · nofun
            · exact h.same rfl rfl rfl rfl rfl
          · exact h
        · exact h
  | retryUpload =>
      simp only [CaptureViewModel.step, CaptureViewModel.retryUpload]
      split
      · have h : Assembles made { m with state := m.state.advance .uploading } :=
          h.same rfl rfl rfl rfl rfl
        exact h.performUpload answers hmade
      · exact h
  | saveBundleLocally =>
      simp only [CaptureViewModel.step, CaptureViewModel.saveBundleLocally]
      split
      · exact h
      · split
        · exact h
        · split
          · split
            · apply Assembles.suspend
              · exact h.same rfl rfl rfl rfl rfl
              · nofun
            · exact h.same rfl rfl rfl rfl rfl
          · exact h
  | cancelPendingWork => exact h
  | complete place completion =>
      simp only [CaptureViewModel.step]
      split
      · next s hs =>
        apply resume _ (coherent.front hs) answers hmade
        refine h.frame rfl rfl rfl rfl ?_
        intro parts hparts
        obtain ⟨bound, rfl⟩ := List.getElem?_eq_some_iff.mp hs
        exact .inl ((List.getElem_cons_eraseIdx_perm bound).mem_iff.mp hparts)
      · exact h

/-- The parts that wait after a run were made of manifests by its encoders. -/
theorem run (h : Assembles made m) (coherent : Coherent m) (steps : List (Answers × Event))
    (hmade : ∀ step ∈ steps, ∀ manifest sessionJSON,
      step.1.sessionJSON manifest = .ok sessionJSON → made manifest sessionJSON) :
  Assembles made (m.run steps)
  := by
  induction steps generalizing m with
  | nil => exact h
  | cons step steps ih =>
      have hstep := hmade step List.mem_cons_self
      apply ih (h.step coherent step.1 hstep step.2) (coherent.step step.1 step.2)
      exact fun later hlater => hmade later (List.mem_cons_of_mem step hlater)

end Assembles

/-- At a prompt there are the captures of the prompts before, an upload is started only with all of
them and with the identifier that the session was made with, in the request as in the manifest
among its parts, at most one is at work, and a terminal state is never left. -/
theorem flow_coherent (hasSensors : Bool) (backendURL jobID token sessionID startedAt : String)
    (steps : List (Answers × Event)) :
  let m := (init hasSensors backendURL jobID token sessionID startedAt).run steps
  (∀ i, m.state = .capturePrompt i →
    m.captures.map (·.captureIndex) = List.range i ∧
      m.photoData.length = i ∧ m.depthData.length = i) ∧
    (∀ answers event, (m.step answers event).uploads = m.uploads ∨
      ∃ request : UploadRequest, (m.step answers event).uploads = m.uploads ++ [request] ∧
        request.sessionID = sessionID ∧
        m.captures.map (·.captureIndex) = List.range promptCount ∧
        m.photoData.length = promptCount ∧ m.depthData.length = promptCount ∧
        ∃ step ∈ steps, ∃ manifest sessionJSON meshData,
          step.1.sessionJSON manifest = .ok sessionJSON ∧ manifest.sessionID = sessionID ∧
          manifest.captures = m.captures ∧
          request.parts = m.parts sessionJSON ++ [meshPart meshData]) ∧
    m.suspended.countP Suspension.isUploading ≤ 1 ∧
    (m.state.isTerminal = true → ∀ more, (m.run more).state = m.state)
  := by
  intro m
  have h : Coherent m := (Coherent.init _ _ _ _ _ _).run steps
  have id : m.sessionID = sessionID := run_sessionID _ steps
  have assembles : Assembles
      (fun manifest sessionJSON => ∃ step ∈ steps, step.1.sessionJSON manifest = .ok sessionJSON)
      m := by
    apply Assembles.run _ (Coherent.init _ _ _ _ _ _) steps
    · exact fun step hstep _ _ encoded => ⟨step, hstep, encoded⟩
    · exact fun _ waits => absurd waits List.not_mem_nil
  refine ⟨?_, ?_, ?_, ?_⟩
  · intro i state
    have taken : m.state.taken = i := by rw [state]; rfl
    exact ⟨taken ▸ h.captures, taken ▸ h.photos, taken ▸ h.depths⟩
  · intro answers event
    rcases (step_follows answers m event).uploads with
      same | ⟨request, ⟨parts, meshData, waits, hparts⟩, started, hr⟩
    · exact .inl same
    · have state : m.state = .uploading := by
        by_contra other
        exact List.countP_eq_zero.mp (h.idle other) _ waits rfl
      have taken : m.state.taken = promptCount := by rw [state]; rfl
      obtain ⟨manifest, sessionJSON, ⟨step, hstep, encoded⟩, hid, hcaptures, rfl⟩ :=
        assembles parts waits
      exact .inr ⟨request, started, hr.trans id,
        taken ▸ h.captures, taken ▸ h.photos, taken ▸ h.depths,
        step, hstep, manifest, sessionJSON, meshData, encoded, hid.trans id, hcaptures, hparts⟩
  · calc m.suspended.countP Suspension.isUploading
      _ ≤ m.suspended.countP Suspension.isFinishing := Suspension.countP_isUploading_le _
      _ ≤ (decide (m.state = .uploading)).toNat := h.finishing
      _ ≤ 1 := Bool.toNat_le _
  · intro terminal more
    exact eq_of_isTerminal terminal (run_state m more)

end CaptureViewModel

end Phone
