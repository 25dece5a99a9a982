import RoofTrace.Deliveries.OverlayTransforms

/-!
# The gate of the pose confidence

The score of a pose lies between zero and one, is zero without a residual or without the
extrinsics of a plausible camera, and falls as the residual grows. A projection asks the
sidecar only for photos whose score reaches the threshold, and what it saves as drawn reaches
the threshold too and is not above the score, whatever the sidecar answers.
-/

namespace Rails

open Effects ProjectionOrchestrator SidecarClient OverlayTransforms

namespace ProjectionPoseConfidence

variable [Platform]

/-! ### Plausible cameras -/

/-- The matrix of a plausible camera, by rows: its rotation has columns of nearly unit length
that are nearly orthogonal, and its translation is bounded. -/
structure PlausibleMatrix (m : List ℚ) : Prop where
  length : m.length = 16
  finite : ∀ x ∈ m, Ruby.finite x = true
  unit : ∀ j ∈ [0, 1, 2],
    |Platform.sqrt (m.getD j 0 * m.getD j 0 + m.getD (4 + j) 0 * m.getD (4 + j) 0 +
      m.getD (8 + j) 0 * m.getD (8 + j) 0) - 1| ≤ orthonormalTolerance
  orthogonal : ∀ p ∈ [(0, 1), (0, 2), (1, 2)],
    |m.getD p.1 0 * m.getD p.2 0 + m.getD (4 + p.1) 0 * m.getD (4 + p.2) 0 +
      m.getD (8 + p.1) 0 * m.getD (8 + p.2) 0| ≤ orthonormalTolerance
  translation : Platform.sqrt (m.getD 3 0 * m.getD 3 0 + m.getD 7 0 * m.getD 7 0 +
    m.getD 11 0 * m.getD 11 0) ≤ maxTranslationM

/-- The extrinsics of a plausible camera. -/
def Plausible (extrinsics : Json ℚ) : Prop :=
  ∃ m, PlausibleMatrix m ∧ extrinsics = .arr (m.map .num)

omit [Platform] in
/-- A list has its numbers when all of its values are numbers. -/
theorem numbers_eq_some {xs : List (Json ℚ)} {m : List ℚ} :
  numbers xs = some m ↔ xs = m.map .num
  := by
  induction xs generalizing m with
  | nil => simp [numbers, eq_comm]
  | cons x xs ih =>
      cases x with
      | num x =>
          rw [numbers, Option.map_eq_some_iff]
          constructor
          · rintro ⟨m', hm', rfl⟩
            rw [ih.mp hm', List.map_cons]
          · intro h
            cases m with
            | nil => cases h
            | cons y m =>
                obtain ⟨hhead, htail⟩ := List.cons_eq_cons.mp h
                cases hhead
                exact ⟨m, ih.mpr htail, rfl⟩
      | _ =>
          constructor
          · exact nofun
          · intro h
            cases m <;> cases h

omit [Platform] in
/-- The product of two vectors of three components. -/
theorem dot_three (a b c a' b' c' : ℚ) :
  dot [a, b, c] [a', b', c'] = a * a' + b * b' + c * c'
  := by
  simp only [dot, List.zipWith_cons_cons, List.zipWith_nil_left, List.sum_cons, List.sum_nil]
  ring

/-- What the test of a matrix says. -/
theorem plausibleMatrix_iff {m : List ℚ} :
  (m.length = 16 && m.all Ruby.finite && rotationOrthonormal m && translationPlausible m) = true ↔
    PlausibleMatrix m
  := by
  simp only [rotationOrthonormal, translationPlausible, dot_three, Bool.and_eq_true,
    decide_eq_true_eq, List.all_eq_true]
  constructor
  · rintro ⟨⟨⟨hlength, hfinite⟩, hunit, horthogonal⟩, htranslation⟩
    exact ⟨hlength, hfinite, hunit, horthogonal, htranslation⟩
  · rintro ⟨hlength, hfinite, hunit, horthogonal, htranslation⟩
    exact ⟨⟨⟨hlength, hfinite⟩, hunit, horthogonal⟩, htranslation⟩

/-- What the test of the extrinsics says. -/
theorem extrinsicsSane_iff {extrinsics : Json ℚ} :
  extrinsicsSane extrinsics = true ↔ Plausible extrinsics
  := by
  cases extrinsics with
  | arr xs =>
      rw [extrinsicsSane]
      cases hnumbers : numbers xs with
      | none =>
          constructor
          · exact nofun
          · rintro ⟨m, -, hm⟩
            cases hm
            rw [numbers_eq_some.mpr rfl] at hnumbers
            cases hnumbers
      | some m =>
          obtain rfl := numbers_eq_some.mp hnumbers
          simp only [List.length_map]
          rw [plausibleMatrix_iff]
          constructor
          · exact fun h => ⟨m, h, rfl⟩
          · rintro ⟨m', hm', hsame⟩
            have hm : m = m' := by
              apply List.map_injective_iff.mpr (fun _ _ h => Json.num.inj h)
              exact Json.arr.inj hsame
            rw [hm]
            exact hm'
  | _ =>
      constructor
      · exact nofun
      · rintro ⟨m, -, hm⟩
        cases hm

/-! ### The score -/

/-- The score is between 0 and 1. -/
theorem score_mem_unit (icpRmseM extrinsics : Json ℚ) :
  0 ≤ score icpRmseM extrinsics ∧ score icpRmseM extrinsics ≤ 1
  := by
  rw [score]
  split_ifs
  · exact ⟨le_refl 0, zero_le_one⟩
  · exact ⟨le_refl 0, zero_le_one⟩
  · constructor
    · apply Rounding.digits_nonneg
      exact Ruby.le_clamp zero_le_one
    · have hle := Rounding.digits_le_int Rounding.halfAway 4 (k := 1)
        (x := Ruby.clamp (residualTerm icpRmseM) 0 1)
        (by push_cast; exact Ruby.clamp_le zero_le_one)
      exact_mod_cast hle

/-- The score is 0 without a residual and for an implausible pose. -/
theorem score_eq_zero {icpRmseM extrinsics : Json ℚ}
    (h : icpRmseM = .null ∨ ¬ Plausible extrinsics) :
  score icpRmseM extrinsics = 0
  := by
  rw [score]
  split_ifs with hnull hsane
  · rfl
  · rfl
  · rcases h with rfl | hbad
    · exact absurd rfl hnull
    · rw [← extrinsicsSane_iff, Bool.not_eq_true] at hbad
      rw [hbad] at hsane
      exact absurd rfl hsane

omit [Platform] in
/-- The term of the residual does not grow with it. -/
theorem residualTerm_antitone {x y : ℚ} (h : x ≤ y) :
  residualTerm (.num y) ≤ residualTerm (.num x)
  := by
  have hspan : (0 : ℚ) ≤ rmseCeilingM - rmseFloorM := by
    norm_num [rmseCeilingM, rmseFloorM]
  have hclamp := Ruby.clamp_mono 0 zero_le_one
    (div_le_div_of_nonneg_right (sub_le_sub_right h rmseFloorM) hspan)
  simp only [residualTerm, Ruby.toF]
  linarith

/-- The score does not grow with the residual. -/
theorem score_antitone {x y : ℚ} (h : x ≤ y) (extrinsics : Json ℚ) :
  score (.num y) extrinsics ≤ score (.num x) extrinsics
  := by
  rw [score, score]
  simp only [Json.isNull, Bool.false_eq_true, if_false]
  split_ifs
  · exact le_refl 0
  · apply Rounding.digits_mono Rounding.halfAway_mono 4
    exact Ruby.clamp_mono 0 zero_le_one (residualTerm_antitone h)

end ProjectionPoseConfidence

namespace PoseConfidenceGate

open ProjectionPoseConfidence

variable {ι : Type} {i : ι}

/-! ### The gate -/

/-- The residual that a measurement carries. -/
def residual (m : Measurement) : Json ℚ := m.provenance.get "fusion_icp_rmse_m"

section Gate

variable [Platform] [DecidableEq ι]

/-- An overlay that is drawn passes the gate, for a capture and the measurement that has been
read. -/
def SavesGated : StepPred rails ι := fun i o _ c =>
  ∀ overlay, o = .saveOverlay overlay → overlay.lowPoseConfidence = false →
    ∃ m, Reading i m c ∧ ∃ capture ∈ c.world.captures, capture.id = overlay.captureId ∧
      Passes (residual m) capture.cameraExtrinsics overlay.poseConfidence

/-- The sidecar is asked for a capture whose score reaches the threshold. -/
def AsksGated : StepPred rails ι := fun i o _ c =>
  ∀ payload timeout, o = .post projectPhoto payload timeout →
    ∃ m, Reading i m c ∧ ∃ capture ∈ c.world.captures,
      (payload.get "camera_pose").get "extrinsics" = capture.cameraExtrinsics ∧
      payload.get "pose_confidence" = .num (score (residual m) capture.cameraExtrinsics) ∧
      acceptable (score (residual m) capture.cameraExtrinsics) = true

/-- A delivery saves what passes the gate, and a projection asks for it only. -/
def Gated (work : ι → Delivery) : StepPred rails ι := fun i o χ c =>
  SavesGated i o χ c ∧ (work i = .projection → AsksGated i o χ c)

def gateProtocol (work : ι → Delivery) : Protocol rails ι where
  ok _ _ _ _ := True
  guar := Gated work

omit [DecidableEq ι] in
/-- Every overlay that is drawn passes the gate, for a capture and a measurement. -/
def GatedOverlays (w : World) : Prop :=
  ∀ overlay ∈ w.projectedOverlays, overlay.lowPoseConfidence = false →
    ∃ m ∈ w.measurements, ∃ capture ∈ w.captures, capture.id = overlay.captureId ∧
      Passes (residual m) capture.cameraExtrinsics overlay.poseConfidence

/-! ### What is kept -/

omit [Platform] in
/-- A measurement that has been read has its residual in its row. -/
theorem residual_of_reading {m : Measurement} {c : Config rails ι} (h : Reading i m c) :
  ∃ m' ∈ c.world.measurements, residual m' = residual m
  := by
  obtain ⟨-, m', hm', hsame⟩ := h
  refine ⟨m', hm', ?_⟩
  rw [hsame]
  rfl

/-- The overlays remain gated after a gated operation. -/
theorem gatedOverlays_after {o : Op} {χ : o.Choice} {c : Config rails ι}
    (hsaves : SavesGated i o χ c) (h : GatedOverlays c.world) :
  GatedOverlays (c.after i o χ).world
  := by
  intro overlay hoverlay hdrawn
  have hgated : ∃ m ∈ c.world.measurements, ∃ capture ∈ c.world.captures,
      capture.id = overlay.captureId ∧
        Passes (residual m) capture.cameraExtrinsics overlay.poseConfidence := by
    rcases overlay_kept_or_saved hoverlay with hbefore | rfl
    · exact h overlay hbefore hdrawn
    · obtain ⟨m, hread, hcapture⟩ := hsaves overlay rfl hdrawn
      obtain ⟨m', hm', hresidual⟩ := residual_of_reading hread
      rw [← hresidual] at hcapture
      exact ⟨m', hm', hcapture⟩
  obtain ⟨m, hm, capture, hcapture, hid, hpasses⟩ := hgated
  obtain ⟨m', hm', hsame⟩ := kept_of_mem (o := o) (χ := χ) hm
  refine ⟨m', hm', capture, capture_kept hcapture, hid, ?_⟩
  rw [hsame]
  exact hpasses

omit [Platform] in
/-- A measurement that `i` has read stays the last one until `i` reads again. -/
theorem reading_after_of_not_read {j : ι} {m : Measurement} {o : Op} {χ : o.Choice}
    {c : Config rails ι} (ho : j = i → ∀ a, readForProjection ⟨o, a⟩ = none)
    (h : Reading i m c) :
  Reading i m (c.after j o χ)
  := by
  by_cases hj : j = i
  · obtain ⟨hread, m₁, hm₁, hsame₁⟩ := h
    obtain ⟨m₂, hm₂, hsame₂⟩ := kept_of_mem (o := o) (χ := χ) hm₁
    refine ⟨?_, m₂, hm₂, hsame₁.trans hsame₂⟩
    exact (last_cons_of_none (ho hj (c.answer o χ)) c.past).trans hread
  · exact reading_after hj h

/-! ### Projections -/

/-- The photos that have been gathered, with the measurement that they are drawn with. -/
def Gathered (i : ι) (drawing : Drawing) (photos : List (Capture × CaptureSession))
    (c : Config rails ι) : Prop :=
  (∃ m, Reading i m c ∧ drawing? m = some drawing) ∧ ∀ photo ∈ photos, photo.1 ∈ c.world.captures

omit [Platform] in
/-- What a projection has gathered it still has after an operation that reads nothing for it. -/
theorem gathered_after {j : ι} {drawing : Drawing} {photos : List (Capture × CaptureSession)}
    {o : Op} {χ : o.Choice} {c : Config rails ι}
    (ho : j = i → ∀ a, readForProjection ⟨o, a⟩ = none) (h : Gathered i drawing photos c) :
  Gathered i drawing photos (c.after j o χ)
  := by
  obtain ⟨⟨m, hread, hdrawing⟩, hphotos⟩ := h
  constructor
  · exact ⟨m, reading_after_of_not_read ho hread, hdrawing⟩
  · exact fun photo hphoto => capture_kept (hphotos photo hphoto)

omit [Platform] in
/-- A drawing has the residual of its measurement. -/
theorem residual_of_drawing {m : Measurement} {drawing : Drawing}
    (h : drawing? m = some drawing) :
  drawing.icpRmseM = residual m
  := by
  unfold drawing? at h
  split at h
  · cases h
  · split at h
    · cases h
    · cases h
      rfl

/-- An operation that reads no measurement, and is gated, keeps what has been gathered. -/
theorem takes_gathered {work : ι → Delivery} {drawing : Drawing}
    {photos : List (Capture × CaptureSession)} {o : Op}
    (ho : ∀ a, readForProjection ⟨o, a⟩ = none)
    (hgated : ∀ χ c, Gathered i drawing photos c → Gated work i o χ c) :
  Takes (gateProtocol work) i o (Gathered i drawing photos)
    (fun _ => Gathered i drawing photos) (Gathered i drawing photos)
  where
  stable := by
    rintro c _ ⟨j, hj, o', χ, -, -, rfl⟩ h
    exact gathered_after (fun hsame => absurd hsame hj) h
  step χ c _ h := by
    use hgated χ c h
    split <;> exact gathered_after (fun _ => ho) h

/-- An operation that saves no overlay and draws no photo passes the gate. -/
theorem gated_of_not_saved {work : ι → Delivery} {o : Op} {χ : o.Choice} {c : Config rails ι}
    (hsaved : o.saved = none)
    (hasks : work i = .projection → ∀ payload timeout, o ≠ .post projectPhoto payload timeout) :
  Gated work i o χ c
  := by
  constructor
  · rintro overlay rfl
    cases hsaved
  · intro hprojection payload timeout ho
    exact absurd ho (hasks hprojection payload timeout)

/-- What a projection saves, as the rule of the projections asks for it. -/
theorem projectionSpec (work : ι → Delivery) :
  ProjectionSpec (gateProtocol work) i (Reading i) (Gathered i)
    (fun drawing photos _ => Gathered i drawing photos)
  where
  read := by
    constructor
    · exact Protocol.stable_const True
    · intro χ c _ _
      use gated_of_not_saved rfl fun _ => nofun
      cases χ with
      | some className => trivial
      | none =>
          intro m hm
          exact reading_of_read hm
  photos m drawing hdrawing := by
    constructor
    · rintro c _ ⟨j, hj, o, χ, -, -, rfl⟩ hread
      exact reading_after hj hread
    · intro χ c _ hread
      use gated_of_not_saved rfl fun _ => nofun
      cases χ with
      | some className => trivial
      | none =>
          apply gathered_after (fun _ _ => rfl)
          exact ⟨⟨m, hread, hdrawing⟩, fun _ hphoto => capture_of_photo hphoto⟩
  status _ _ := takes_gathered (fun _ => rfl) fun _ _ _ => gated_of_not_saved rfl fun _ => nofun
  post drawing photos photo payload timeout hphoto hdrawable hasks := by
    apply takes_gathered (fun _ => rfl)
    rintro χ c ⟨⟨m, hread, hdrawing⟩, hphotos⟩
    have hresidual := residual_of_drawing hdrawing
    constructor
    · exact nofun
    · rintro - _ _ ⟨⟩
      refine ⟨m, hread, photo.1, hphotos photo hphoto, ?_, ?_, ?_⟩
      · rw [hasks.cameraPose]
        rfl
      · rw [hasks.poseConfidence, hresidual]
      · rw [← hresidual]
        exact hdrawable
  weaken _ _ _ _ h := h
  saveUndrawn drawing photos photo overlay _ _ hlow := by
    apply takes_gathered (fun _ => rfl)
    intro χ c _
    constructor
    · rintro _ ⟨rfl⟩ hdrawn
      rw [hlow] at hdrawn
      cases hdrawn
    · exact fun _ => nofun
  save drawing photos photo overlay hphoto hdraws _ := by
    apply takes_gathered (fun _ => rfl)
    rintro χ c ⟨⟨m, hread, hdrawing⟩, hphotos⟩
    constructor
    · rintro _ ⟨rfl⟩ hdrawn
      refine ⟨m, hread, photo.1, hphotos photo hphoto, hdraws.captureId.symm, ?_⟩
      rw [← residual_of_drawing hdrawing]
      exact hdraws.confident hdrawn
    · exact fun _ => nofun

/-- What is performed by a delivery that is no projection, and saves no overlay. -/
theorem permits {work : ι → Delivery} {performs : Op → Prop} (hwork : work i ≠ .projection)
    (hquiet : ∀ o, o.quiet = true → performs o) (hupdate : ∀ changes, performs (.updateJob changes))
    (hsaved : ∀ o, performs o → o.saved = none) :
  Permits (gateProtocol work) i performs
  where
  quiet := hquiet
  update := hupdate
  guar ho := gated_of_not_saved (hsaved _ ho) fun hprojection => absurd hprojection hwork

/-- What a projection job performs besides its projection. -/
def Records : Op → Prop
  | .findJob _ => True
  | .updateJob _ => True
  | _ => False

/-- UPDATEs of rows pass the gate. -/
theorem updates (work : ι → Delivery) :
  Updates (gateProtocol work) i Records
  where
  update _ := trivial
  guar {o _ _} ho := by
    apply gated_of_not_saved
    · cases o <;> first | rfl | exact ho.elim
    · rintro - _ _ rfl
      exact ho

/-- A delivery of the geometry draws no photo. -/
theorem geometry_permits {work : ι → Delivery} (hwork : work i = .geometry) :
  Permits (gateProtocol work) i GeometryJob.Performs
  := by
  apply permits
  · rw [hwork]
    exact nofun
  · intro o ho
    cases o <;> trivial
  · exact fun _ => trivial
  · intro o ho
    cases o <;> first | rfl | exact ho.elim

/-- A delivery of a fusion draws no photo. -/
theorem fusion_permits {work : ι → Delivery} {captureSessionId : String}
    (hwork : work i = .fusion captureSessionId) :
  Permits (gateProtocol work) i (FusionJob.Performs captureSessionId fun _ => True)
  := by
  apply permits
  · rw [hwork]
    exact nofun
  · intro o ho
    cases o <;> trivial
  · exact fun _ => trivial
  · intro o ho
    cases o <;> first | rfl | exact ho.elim

/-- Every delivery passes the gate. -/
theorem program_gated [FormatAssertion] (work : ι → Delivery) (c : Config rails ι) :
  (gateProtocol work).wp i (work i).program (fun _ _ => True) c
  := by
  cases hwork : work i with
  | geometry => exact wp_discarding (GeometryJob.wp_delivery (geometry_permits hwork) c)
  | fusion captureSessionId =>
      apply wp_discarding
      exact FusionJob.wp_delivery (fusion_permits hwork) (fun _ _ => trivial) c
  | projection =>
      apply wp_discarding
      exact ProjectionJob.wp_delivery (updates work) (fun _ => trivial) (projectionSpec work) c
  | ingest captureSession captures =>
      intro _ _ χ _
      exact ⟨gated_of_not_saved rfl fun _ => nofun, trivial⟩

/-- In every run the overlays remain gated. -/
theorem run_gated [FormatAssertion] (work : ι → Delivery) (w : World)
    (schedule : List (ι × rails.Choices)) (hw : GatedOverlays w) :
  (deliveries work w).Meets (Gated work) schedule ∧
    GatedOverlays ((deliveries work w).run schedule).config.world
  := by
  have hstart : (deliveries work w).Keeps (gateProtocol work) fun _ _ _ => True :=
    fun i => program_gated work _
  have hok : (deliveries work w).Meets (gateProtocol work).ok schedule :=
    Pool.meets_of_forall _ fun _ _ _ _ _ => trivial
  obtain ⟨hgated, -⟩ := Pool.run_of_keeps (fun _ _ => Protocol.stable_const True) hstart hok
  use hgated
  exact Pool.invariant_run (P := gateProtocol work) (A := fun c => GatedOverlays c.world)
    (fun _ _ _ _ _ hguar hc => gatedOverlays_after hguar.1 hc) hok hgated hw

/-- The score is a confidence that is zero for a pose that is not plausible and falls with the
residual, and in every interleaving of deliveries, whatever the sidecar answers, photos are
asked for and drawn only at or above the threshold and not above the score. -/
theorem pose_confidence_gate [FormatAssertion] :
  (∀ icpRmseM extrinsics, 0 ≤ score icpRmseM extrinsics ∧ score icpRmseM extrinsics ≤ 1) ∧
  (∀ icpRmseM extrinsics, icpRmseM = .null ∨ ¬ Plausible extrinsics →
    score icpRmseM extrinsics = 0) ∧
  (∀ extrinsics x y, x ≤ y → score (.num y) extrinsics ≤ score (.num x) extrinsics) ∧
  ∀ (work : ι → Delivery) (w : World) (schedule : List (ι × rails.Choices)), GatedOverlays w →
    (deliveries work w).Meets (Gated work) schedule ∧
      GatedOverlays ((deliveries work w).run schedule).config.world
  := by
  refine ⟨score_mem_unit, fun _ _ => score_eq_zero, ?_, run_gated⟩
  exact fun extrinsics _ _ h => score_antitone h extrinsics

end Gate

/-- The world after the photo of a session has been drawn. -/
def drawnAlone : World :=
  ((@deliveries Bool anyFormat plainPlatform fusionAndProjection
    (photographedJob ["1"] [photo "a" "1"])).run (fusedAndProjected 1)).config.world

/-- A photo of confident pose passes the gate and is drawn. -/
theorem pose_confidence_gate_photo :
  (∃ overlay ∈ drawnAlone.projectedOverlays, overlay.lowPoseConfidence = false) ∧
    @GatedOverlays plainPlatform drawnAlone
  := by
  have hgate := @pose_confidence_gate Bool plainPlatform _ anyFormat
  have hempty : @GatedOverlays plainPlatform (photographedJob ["1"] [photo "a" "1"]) :=
    fun _ hoverlay => absurd hoverlay List.not_mem_nil
  constructor
  · decide +kernel
  · exact (hgate.2.2.2 fusionAndProjection _ (fusedAndProjected 1) hempty).2

end PoseConfidenceGate

end Rails
