import RoofTrace.Capture.CaptureFlow

/-!
# The recovery of a failed upload

A failed upload may be retried, or its bundle saved on the phone. Both need the mesh, which is
exported once, before the first upload: when that fails, the session is stranded.
-/

namespace Phone

namespace CaptureViewModel

open CaptureSessionState

/-! ### Recovery -/

/-- A retry, whose collaborators complete in turn. -/
def retried (answers : Answers) (meshData : Blob) (m : CaptureViewModel) : CaptureViewModel :=
  m.run
    [(answers, .retryUpload),
      (answers, .complete m.suspended.length (.meshRead (.ok meshData))),
      (answers, .complete m.suspended.length (.uploaded (.ok ())))]

/-- The bundle is saved, whose collaborators complete in turn. -/
def saved (answers : Answers) (meshData : Blob) (m : CaptureViewModel) : CaptureViewModel :=
  m.run
    [(answers, .saveBundleLocally),
      (answers, .complete m.suspended.length (.meshRead (.ok meshData)))]

/-- Whether everything that collaborators answer at once is a success. -/
structure Answers.Succeed (answers : Answers) : Prop where
  sessionJSON : ∀ manifest, ∃ json, answers.sessionJSON manifest = .ok json
  bodyFileURL : ∃ url, answers.bodyFileURL = .ok url
  zipURL : ∃ url, answers.zipURL = .ok url

/-- One of the two actions reaches its end when the collaborators that it calls succeed. -/
def Recoverable (m : CaptureViewModel) : Prop :=
  (∀ answers meshData, Answers.Succeed answers →
    (m.retried answers meshData).state = .uploadComplete) ∨
  (∀ answers meshData, Answers.Succeed answers →
    (m.saved answers meshData).state = .bundleSaved)

/-- Whether an event is the failure of the export of the mesh. -/
def exportFails (m : CaptureViewModel) : Event → Bool
  | .complete place (.meshExported (.error _)) =>
      match m.suspended[place]? with
      | some .exportMesh => true
      | _ => false
  | _ => false

/-- In no step the export of the mesh fails. -/
def ExportSucceeds (m : CaptureViewModel) : List (Answers × Event) → Prop
  | [] => True
  | (answers, event) :: steps =>
      m.exportFails event = false ∧ (m.step answers event).ExportSucceeds steps

instance decidableExportSucceeds (m : CaptureViewModel) :
    (steps : List (Answers × Event)) → Decidable (m.ExportSucceeds steps)
  | [] => .isTrue trivial
  | (answers, event) :: steps =>
      have := decidableExportSucceeds (m.step answers event) steps
      inferInstanceAs (Decidable (m.exportFails event = false ∧
        (m.step answers event).ExportSucceeds steps))

/-- The method that has been suspended last goes on. -/
theorem step_last (answers : Answers) (m : CaptureViewModel) (s : Suspension)
    (completion : Completion) :
  (m.suspend s).step answers (.complete m.suspended.length completion) =
    m.resume answers s completion
  := by
  have last : (m.suspended ++ [s])[m.suspended.length]? = some s := by
    rw [List.getElem?_append_right (Nat.le_refl _), Nat.sub_self]
    rfl
  have rest : (m.suspended ++ [s]).eraseIdx m.suspended.length = m.suspended := by
    rw [List.eraseIdx_append_of_length_le (Nat.le_refl _), Nat.sub_self]
    exact List.append_nil _
  simp only [step, suspend, last, rest]

variable {answers : Answers} {m : CaptureViewModel}

/-- With a mesh, an upload begins. -/
theorem performUpload_begins (succeed : Answers.Succeed answers) (free : m.uploadInFlight = false)
    (hm : m.meshResult.isSome = true) :
  ∃ parts, m.performUpload answers = { m with uploadInFlight := true }.suspend (.readMesh parts)
  := by
  obtain ⟨mesh, hm⟩ := Option.isSome_iff_exists.mp hm
  obtain ⟨json, hj⟩ := succeed.sessionJSON (m.buildManifest answers mesh)
  use m.parts json
  rw [performUpload, if_neg (by rw [free]; exact Bool.false_ne_true)]
  simp only [hm, hj]

/-- When the mesh file has been read, an upload is started. -/
theorem meshRead_starts (succeed : Answers.Succeed answers) (parts : List MultipartPart)
    (meshData : Blob) :
  ∃ request, m.meshRead answers parts (.ok meshData) =
    { m with uploads := m.uploads ++ [request] }.suspend (.upload request)
  := by
  obtain ⟨url, hu⟩ := succeed.bodyFileURL
  simp only [meshRead, hu]
  exact ⟨_, rfl⟩

/-- With a mesh, a retry uploads. -/
theorem retried_state (succeed : Answers.Succeed answers) (meshData : Blob) (h : Coherent m)
    (failed : m.state = .uploadFailed) (hm : m.meshResult.isSome = true) :
  (m.retried answers meshData).state = .uploadComplete
  := by
  have free := h.free (h.idle (by rw [failed]; nofun))
  let m₁ := { m with state := m.state.advance .uploading }
  obtain ⟨parts, begins⟩ : ∃ parts, m₁.performUpload answers = _ :=
    performUpload_begins succeed free hm
  let m₂ := { m₁ with uploadInFlight := true }
  obtain ⟨request, starts⟩ : ∃ request, m₂.meshRead answers parts (.ok meshData) = _ :=
    meshRead_starts succeed parts meshData
  let m₃ := { m₂ with uploads := m₂.uploads ++ [request] }
  have retry : m.step answers .retryUpload = m₂.suspend (.readMesh parts) := by
    rw [step, retryUpload, if_pos ⟨failed, free⟩]
    exact begins
  have read : (m₂.suspend (.readMesh parts)).step answers
      (.complete m.suspended.length (.meshRead (.ok meshData))) = m₃.suspend (.upload request) :=
    (step_last answers m₂ _ _).trans starts
  have ends : (m₃.suspend (.upload request)).step answers
      (.complete m.suspended.length (.uploaded (.ok ()))) = m₃.uploaded (.ok ()) :=
    step_last answers m₃ _ _
  simp only [retried, run]
  rw [retry, read, ends]
  change (m.state.advance .uploading).advance .uploadComplete = .uploadComplete
  rw [failed]
  rfl

/-- Without a mesh, a failed upload stays as it is. -/
structure Stranded (m : CaptureViewModel) : Prop where
  state : m.state = .uploadFailed
  mesh : m.meshResult = none

/-- What may be suspended when an upload has failed for good. -/
theorem Stranded.suspended (stranded : Stranded m) (h : Coherent m) {s : Suspension}
    (hs : s ∈ m.suspended) :
  s = .probe ∨ s = .acquireOrigin
  := by
  have idle := List.countP_eq_zero.mp (h.idle (by rw [stranded.state]; nofun)) s hs
  have capturing := h.captureIndex s hs
  have mesh := h.mesh s hs
  rw [stranded.state] at capturing
  rw [stranded.mesh] at mesh
  cases s with
  | probe => exact .inl rfl
  | acquireOrigin => exact .inr rfl
  | encodeDepth index => cases capturing index rfl
  | scanRange index => cases capturing index rfl
  | finishAndUpload | exportMesh | readMesh | upload => exact absurd rfl idle
  | readMeshToSave => cases mesh rfl

theorem Stranded.performUpload (state : m.state.advance .uploadFailed = .uploadFailed)
    (mesh : m.meshResult = none) (free : m.uploadInFlight = false) :
  Stranded (m.performUpload answers)
  := by
  rw [CaptureViewModel.performUpload, if_neg (by rw [free]; exact Bool.false_ne_true)]
  split
  · exact ⟨state, mesh⟩
  · next hm => cases mesh.symm.trans hm

/-- A failed upload without a mesh stays so whatever is done, by a retry, by saving or by what still
goes on. -/
theorem Stranded.step (stranded : Stranded m) (h : Coherent m) (event : Event) :
  Stranded (m.step answers event)
  := by
  obtain ⟨state, mesh⟩ := id stranded
  cases event with
  | runSetupCheck =>
      have notSetup : m.state ≠ .setupCheck := by
        rw [state]
        rintro ⟨⟩
      rw [CaptureViewModel.step, runSetupCheck, if_neg notSetup]
      exact stranded
  | capture =>
      have none : m.currentPromptIndex = none := by rw [currentPromptIndex, state]
      simp only [CaptureViewModel.step, capture, none]
      split
      · exact stranded
      · exact stranded
  | retryUpload =>
      have notUploading : m.state ≠ .uploading := by
        rw [state]
        rintro ⟨⟩
      have free := h.free (h.idle notUploading)
      rw [CaptureViewModel.step, retryUpload, if_pos ⟨state, free⟩]
      apply Stranded.performUpload
      · rw [state]
        rfl
      · exact mesh
      · exact free
  | saveBundleLocally =>
      simp only [CaptureViewModel.step, saveBundleLocally, mesh]
      split
      · exact stranded
      · exact stranded
  | cancelPendingWork => exact stranded
  | complete place completion =>
      simp only [CaptureViewModel.step]
      split
      · next s hs =>
        rcases stranded.suspended h (List.mem_of_getElem? hs) with rfl | rfl
        · cases completion with
          | probed ok =>
              have stays (next : CaptureSessionState) (hn : m.state.canTransition next = false) :
                  m.state.advance next = .uploadFailed := by
                rw [advance, hn]
                exact state
              cases ok with
              | true => exact ⟨stays (.capturePrompt 0) (by rw [state]; rfl), mesh⟩
              | false => exact ⟨stays .lidarUnsupported (by rw [state]; rfl), mesh⟩
          | _ => exact ⟨state, mesh⟩
        · cases completion <;> exact ⟨state, mesh⟩
      · exact stranded

theorem advance_ne {state next failed : CaptureSessionState} (hs : state ≠ failed)
    (hn : next ≠ failed) :
  state.advance next ≠ failed
  := by
  rw [advance]
  split
  · exact hn
  · exact hs

/-- An upload that has failed has a mesh, unless the export of the mesh has failed. -/
def Exported (m : CaptureViewModel) : Prop := m.state = .uploadFailed → m.meshResult.isSome = true

theorem Exported.resume {s : Suspension} (state : m.state ≠ .uploadFailed)
    (hs : s.hasMesh = false) (completion : Completion)
    (succeeds : s = .exportMesh → ∀ e, completion ≠ .meshExported (.error e)) :
  Exported (m.resume answers s completion)
  := by
  unfold CaptureViewModel.resume
  split
  case h_1 ok =>
    cases ok <;> exact fun failed => absurd failed (advance_ne state (by rintro ⟨⟩))
  case h_2 => exact fun failed => absurd failed state
  case h_3 result => cases result <;> exact fun failed => absurd failed state
  case h_4 =>
    simp only [rangeScanned]
    split
    · split
      · rintro ⟨⟩
      · exact fun failed => absurd failed state
    · exact fun failed => absurd failed (advance_ne state (by rintro ⟨⟩))
  case h_5 =>
    rw [finishAndUpload]
    split <;> exact fun failed => absurd failed state
  case h_6 result =>
    cases result with
    | ok mesh =>
        intro _
        rw [meshExported, performUpload_meshResult]
        rfl
    | error e => exact absurd rfl (succeeds rfl e)
  case h_7 => cases hs
  case h_8 => cases hs
  case h_9 => cases hs
  case h_10 => exact fun failed => absurd failed state

theorem Exported.step (exported : Exported m) (h : Coherent m) {event : Event}
    (succeeds : m.exportFails event = false) :
  Exported (m.step answers event)
  := by
  by_cases hm : m.meshResult.isSome = true
  · exact fun _ => (step_follows answers m event).mesh hm
  have state : m.state ≠ .uploadFailed := fun failed => hm (exported failed)
  cases event with
  | runSetupCheck =>
      simp only [CaptureViewModel.step, runSetupCheck]
      split
      · split
        · exact exported
        · exact fun failed => absurd failed (advance_ne state (by rintro ⟨⟩))
      · exact exported
  | capture =>
      simp only [CaptureViewModel.step, capture]
      repeat' split
      all_goals exact exported
  | retryUpload =>
      rw [CaptureViewModel.step, retryUpload, if_neg (fun retry => state retry.1)]
      exact exported
  | saveBundleLocally =>
      simp only [CaptureViewModel.step, saveBundleLocally]
      repeat' split
      all_goals exact exported
  | cancelPendingWork => exact exported
  | complete place completion =>
      simp only [CaptureViewModel.step]
      split
      · next s hs =>
        apply Exported.resume
        · exact state
        · exact Bool.eq_false_iff.mpr fun mesh => hm (h.mesh s (List.mem_of_getElem? hs) mesh)
        · rintro rfl e rfl
          rw [exportFails, hs] at succeeds
          cases succeeds
      · exact exported

/-- When its export fails, there is no mesh. -/
theorem Stranded.of_exportFails (h : Coherent m) {event : Event}
    (fails : m.exportFails event = true) :
  Stranded (m.step answers event)
  := by
  rw [exportFails.eq_def] at fails
  split at fails
  · next place e =>
    split at fails
    · next hs =>
      let rest := { m with suspended := m.suspended.eraseIdx place }
      have front : Coherent { rest with suspended := .exportMesh :: rest.suspended } := h.front hs
      simp only [CaptureViewModel.step, hs]
      constructor
      · change m.state.advance .uploadFailed = .uploadFailed
        have uploading : m.state = .uploading := (front.only rfl).1
        rw [uploading]
        rfl
      · exact front.exporting _ (.head _) rfl
    · cases fails
  · cases fails

theorem run_stranded (stranded : Stranded m) (h : Coherent m) (steps : List (Answers × Event)) :
  Stranded (m.run steps)
  := by
  induction steps generalizing m with
  | nil => exact stranded
  | cons step steps ih => exact ih (stranded.step h step.2) (h.step step.1 step.2)

/-- After a run a failed upload has a mesh exactly when no export has failed. -/
theorem run_meshResult (exported : Exported m) (h : Coherent m) (steps : List (Answers × Event))
    (failed : (m.run steps).state = .uploadFailed) :
  (m.run steps).meshResult.isSome = true ↔ m.ExportSucceeds steps
  := by
  induction steps generalizing m with
  | nil => exact ⟨fun _ => trivial, fun _ => exported failed⟩
  | cons step steps ih =>
      obtain ⟨answers, event⟩ := step
      cases hf : m.exportFails event with
      | true =>
          have stranded := run_stranded (.of_exportFails h hf) (h.step answers event) steps
          apply iff_of_false
          · rw [run, stranded.mesh]
            nofun
          · rw [ExportSucceeds, hf]
            exact fun succeeds => nomatch succeeds.1
      | false =>
          rw [ExportSucceeds]
          have := ih (exported.step h hf) (h.step answers event) failed
          exact this.trans (and_iff_right hf).symm

/-- Collaborators that succeed. -/
def succeeding : Answers where
  frame := .ok ⟨[], [], [], [], ""⟩
  now := ""
  latestFix := none
  sessionJSON := fun _ => .ok []
  bodyFileURL := .ok ""
  zipURL := .ok ""

theorem succeeding_succeed : Answers.Succeed succeeding :=
  ⟨fun _ => ⟨_, rfl⟩, ⟨_, rfl⟩, ⟨_, rfl⟩⟩

/-- A failed upload can be recovered exactly when there is a mesh. -/
theorem recoverable_iff_meshResult (h : Coherent m) (failed : m.state = .uploadFailed) :
  m.Recoverable ↔ m.meshResult.isSome = true
  := by
  constructor
  · intro recoverable
    by_contra none
    have stranded : Stranded m := ⟨failed, Option.not_isSome_iff_eq_none.mp none⟩
    rcases recoverable with retries | saves
    · have uploaded := retries succeeding [] succeeding_succeed
      rw [retried, (run_stranded stranded h _).state] at uploaded
      cases uploaded
    · have bundled := saves succeeding [] succeeding_succeed
      rw [saved, (run_stranded stranded h _).state] at bundled
      cases bundled
  · exact fun hm => .inl fun answers meshData succeed => retried_state succeed meshData h failed hm

/-- After any run, a failed upload can be recovered, by a retry or by saving the bundle, exactly
when the export of the mesh has not failed. -/
theorem recoverable_iff (hasSensors : Bool) (backendURL jobID token sessionID startedAt : String)
    (steps : List (Answers × Event))
    (failed : ((init hasSensors backendURL jobID token sessionID startedAt).run steps).state =
      .uploadFailed) :
  ((init hasSensors backendURL jobID token sessionID startedAt).run steps).Recoverable ↔
    (init hasSensors backendURL jobID token sessionID startedAt).ExportSucceeds steps
  := by
  have h := Coherent.init hasSensors backendURL jobID token sessionID startedAt
  have exported : Exported (init hasSensors backendURL jobID token sessionID startedAt) :=
    fun failed => CaptureSessionState.noConfusion failed
  exact (recoverable_iff_meshResult (h.run steps) failed).trans (run_meshResult exported h steps failed)

/-- A session until the export of its mesh. -/
def walkAround : List (Answers × Event) :=
  [(succeeding, .runSetupCheck), (succeeding, .complete 0 (.probed true)),
    (succeeding, .complete 0 (.originAcquired none))] ++
  (List.replicate promptCount
    [(succeeding, .capture), (succeeding, .complete 0 (.depthEncoded (.ok []))),
      (succeeding, .complete 0 (.rangeScanned []))]).flatten ++
  [(succeeding, .complete 0 .begun)]

/-- An upload that is refused can be retried. -/
theorem recoverable_refused_upload :
  ((init true "" "" "" "" "").run (walkAround ++
    [(succeeding, .complete 0 (.meshExported (.ok ⟨"", 0, 0⟩))),
      (succeeding, .complete 0 (.meshRead (.ok []))),
      (succeeding, .complete 0 (.uploaded (.error .transport)))])).Recoverable
  := by
  apply (recoverable_iff true "" "" "" "" "" _ rfl).mpr
  decide

/-- When the mesh could not be exported, neither a retry nor saving the bundle goes on. -/
theorem stranded_after_export_failure :
  ¬ ∀ (hasSensors : Bool) (backendURL jobID token sessionID startedAt : String)
    (steps : List (Answers × Event)),
    ((init hasSensors backendURL jobID token sessionID startedAt).run steps).state =
      .uploadFailed →
    ((init hasSensors backendURL jobID token sessionID startedAt).run steps).Recoverable
  := by
  intro recovers
  let steps := walkAround ++ [(succeeding, .complete 0 (.meshExported (.error "")))]
  have failed : ((init true "" "" "" "" "").run steps).state = .uploadFailed := rfl
  have none : ((init true "" "" "" "" "").run steps).meshResult = none := rfl
  have h := (Coherent.init true "" "" "" "" "").run steps
  have mesh := (recoverable_iff_meshResult h failed).mp (recovers true "" "" "" "" "" steps failed)
  rw [none] at mesh
  cases mesh

end CaptureViewModel

end Phone
