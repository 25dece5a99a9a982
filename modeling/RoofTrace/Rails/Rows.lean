import RoofTrace.Rails.Database

/-!
# What operations do to the rows

Rows of `measurements` are inserted and their warnings are updated; nothing else happens to
them. Rows of `captures` are inserted, under ids of their own. A row of
`projected_overlays` is what was saved last for its capture.
-/

namespace Rails

open Effects

/-- The measurement that an operation inserts. -/
def Op.inserted : Op → Option MeasurementAttributes
  | .insertMeasurement m => some m
  | .commit m _ => some m
  | _ => none

/-- The overlay that an operation saves. -/
def Op.saved : Op → Option ProjectedOverlay
  | .saveOverlay overlay => some overlay
  | _ => none

namespace Measurement

/-- Whether rows are the same but for their warnings. -/
def SameButWarnings (m m' : Measurement) : Prop := m' = { m with warnings := m'.warnings }

theorem SameButWarnings.refl (m : Measurement) :
  SameButWarnings m m
  := rfl

theorem SameButWarnings.trans {m m' m'' : Measurement} (h : SameButWarnings m m')
    (h' : SameButWarnings m' m'') :
  SameButWarnings m m''
  := by
  rw [SameButWarnings] at h h' ⊢
  rw [h', h]

end Measurement

variable {o : Op} {χ : o.Choice} {w : World}

/-- An operation leaves the measurements alone, updates their warnings or inserts a row. -/
theorem exec_measurements (o : Op) (χ : o.Choice) (w : World) :
  (exec o χ w).2.measurements = w.measurements ∨
    (∃ id warnings, o = .updateWarnings id warnings ∧
      (exec o χ w).2.measurements = (w.updateWarnings id warnings).measurements) ∨
    ∃ m, o.inserted = some m ∧
      (exec o χ w).2.measurements = w.measurements ++ [⟨m, w.measurements.length⟩]
  := by
  cases o with
  | updateWarnings id warnings =>
      cases χ with
      | none => exact .inr (.inl ⟨id, warnings, rfl, rfl⟩)
      | some className => exact .inl rfl
  | insertMeasurement m =>
      cases χ with
      | none =>
          cases hvalid : m.valid with
          | true =>
              right; right
              refine ⟨m, rfl, ?_⟩
              simp only [exec, unlessRaised, hvalid]
              rfl
          | false =>
              left
              simp only [exec, unlessRaised, hvalid]
              rfl
      | some className => exact .inl rfl
  | commit m changes =>
      cases χ with
      | none => exact .inr (.inr ⟨m, rfl, rfl⟩)
      | some className => exact .inl rfl
  | ingestCaptureSession session captures =>
      left
      cases χ with
      | none =>
          simp only [exec, unlessRaised]
          split <;> rfl
      | some className => rfl
  | _ => left; first | rfl | (cases χ <;> rfl)

/-- A row is kept, but for its warnings. -/
theorem kept_of_mem {m : Measurement} (hm : m ∈ w.measurements) :
  ∃ m' ∈ (exec o χ w).2.measurements, m.SameButWarnings m'
  := by
  rcases exec_measurements o χ w with h | ⟨id, warnings, -, h⟩ | ⟨inserted, -, h⟩
  · rw [h]
    exact ⟨m, hm, .refl m⟩
  · rw [h]
    refine ⟨_, List.mem_map_of_mem hm, ?_⟩
    split_ifs <;> rfl
  · rw [h]
    exact ⟨m, List.mem_append_left _ hm, .refl m⟩

/-- A row was there before, but for its warnings, or it has just been inserted. -/
theorem kept_or_inserted {m' : Measurement} (hm' : m' ∈ (exec o χ w).2.measurements) :
  (∃ m ∈ w.measurements, m.SameButWarnings m') ∨
    ∃ m, o.inserted = some m ∧ m' = ⟨m, w.measurements.length⟩
  := by
  rcases exec_measurements o χ w with h | ⟨id, warnings, -, h⟩ | ⟨inserted, hinserted, h⟩
  · rw [h] at hm'
    exact .inl ⟨m', hm', .refl m'⟩
  · rw [h] at hm'
    obtain ⟨m, hm, rfl⟩ := List.mem_map.mp hm'
    left
    refine ⟨m, hm, ?_⟩
    split_ifs <;> rfl
  · rw [h] at hm'
    rcases List.mem_append.mp hm' with hm | hm
    · exact .inl ⟨m', hm, .refl m'⟩
    · rw [List.mem_singleton] at hm
      exact .inr ⟨inserted, hinserted, hm⟩

/-- Time does not go back. -/
theorem clock_le_exec (o : Op) (χ : o.Choice) (w : World) :
  w.clock ≤ (exec o χ w).2.clock
  := by
  cases o with
  | now =>
      show w.clock ≤ w.clock + χ + 1
      omega
  | insertMeasurement m =>
      cases χ with
      | none =>
          simp only [exec, unlessRaised]
          split <;> exact Nat.le_refl _
      | some className => exact Nat.le_refl _
  | ingestCaptureSession session captures =>
      cases χ with
      | none =>
          simp only [exec, unlessRaised]
          split <;> exact Nat.le_refl _
      | some className => exact Nat.le_refl _
  | _ => first | exact Nat.le_refl _ | (cases χ <;> exact Nat.le_refl _)

/-- A projection that was enqueued stays enqueued. -/
theorem projectionJob_kept {n : ℕ} (h : n ∈ w.projectionJobs) :
  n ∈ (exec o χ w).2.projectionJobs
  := by
  cases o with
  | enqueueProjectionJob =>
      cases χ with
      | none => exact List.mem_append_left _ h
      | some className => exact h
  | insertMeasurement m =>
      cases χ with
      | none =>
          simp only [exec, unlessRaised]
          split <;> exact h
      | some className => exact h
  | ingestCaptureSession session captures =>
      cases χ with
      | none =>
          simp only [exec, unlessRaised]
          split <;> exact h
      | some className => exact h
  | _ => first | exact h | (cases χ <;> exact h)

/-! ### Captures and overlays -/

/-- An operation leaves the captures alone, or inserts those of a new capture session. -/
theorem exec_captures (o : Op) (χ : o.Choice) (w : World) :
  (exec o χ w).2.captures = w.captures ∨
    ∃ session captures, w.fresh session captures = true ∧
      (exec o χ w).2.captures = (w.ingest session captures).captures
  := by
  cases o with
  | ingestCaptureSession session captures =>
      cases χ with
      | none =>
          cases hfresh : w.fresh session captures with
          | true =>
              right
              use session, captures, hfresh
              simp only [exec, unlessRaised, hfresh, if_true]
          | false =>
              left
              simp only [exec, unlessRaised, hfresh, Bool.false_eq_true, if_false]
      | some className => exact .inl rfl
  | insertMeasurement m =>
      left
      cases χ with
      | none =>
          simp only [exec, unlessRaised]
          split <;> rfl
      | some className => rfl
  | _ => left; first | rfl | (cases χ <;> rfl)

/-- A capture is kept. -/
theorem capture_kept {capture : Capture} (h : capture ∈ w.captures) :
  capture ∈ (exec o χ w).2.captures
  := by
  rcases exec_captures o χ w with hsame | ⟨session, captures, -, hafter⟩
  · rw [hsame]
    exact h
  · rw [hafter]
    exact List.mem_append_left _ h

/-- Captures keep ids of their own. -/
theorem captures_nodup (h : (w.captures.map (·.id)).Nodup) :
  ((exec o χ w).2.captures.map (·.id)).Nodup
  := by
  rcases exec_captures o χ w with hsame | ⟨session, captures, hfresh, hafter⟩
  · rw [hsame]
    exact h
  · simp only [World.fresh, Bool.and_eq_true, decide_eq_true_eq] at hfresh
    rw [hafter]
    simpa only [World.ingest, List.map_append, List.map_map, Function.comp_def] using hfresh.2

/-- An overlay was there before, or it has just been saved. -/
theorem overlay_kept_or_saved {overlay : ProjectedOverlay}
    (h : overlay ∈ (exec o χ w).2.projectedOverlays) :
  overlay ∈ w.projectedOverlays ∨ o = .saveOverlay overlay
  := by
  cases o with
  | saveOverlay saved =>
      cases χ with
      | none =>
          simp only [exec, unlessRaised, World.saveOverlay] at h
          split at h
          · obtain ⟨before, hbefore, rfl⟩ := List.mem_map.mp h
            split
            · exact .inr rfl
            · exact .inl hbefore
          · rcases List.mem_append.mp h with hbefore | hsaved
            · exact .inl hbefore
            · rw [List.mem_singleton.mp hsaved]
              exact .inr rfl
      | some className => exact .inl h
  | insertMeasurement m =>
      left
      cases χ with
      | none =>
          simp only [exec, unlessRaised] at h
          split at h <;> exact h
      | some className => exact h
  | ingestCaptureSession session captures =>
      left
      cases χ with
      | none =>
          simp only [exec, unlessRaised] at h
          split at h <;> exact h
      | some className => exact h
  | _ => left; first | exact h | (cases χ <;> exact h)

end Rails
