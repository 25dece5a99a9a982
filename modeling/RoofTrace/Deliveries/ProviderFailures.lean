import RoofTrace.Effects.Outcome
import RoofTrace.Rails.OpenRouter

/-!
# Failures of the provider

A detection asks the provider for the features in an image and then for a confirmation of each
one whose confidence is low. Whatever the provider replies, the detection is to end with a list
of features, and a confirmation that fails is to cost its own feature only. It does so exactly
when the replies are legible: they are replies of a kind that the method that asks for them
rescues, and the values that it takes apart are of the kinds that it takes apart.
-/

namespace Rails.ProviderFailures

open Effects FeatureDetector OpenRouter

section Provider

variable [Platform] [Texts]

/-! ### Legible replies -/

/-- Whether a value has a number: `x.to_f` is defined for it. -/
def Numeric : Json ℚ → Prop
  | .num _ | .str _ | .null => True
  | _ => False

/-- A detection that is in the vocabulary has numbers for its box and its confidence. -/
def Readable (raw : RawDetection) : Prop :=
  Platform.toS raw.label ∈ knownLabels →
    (∀ x ∈ Ruby.array raw.bboxNorm, Numeric x) ∧ Numeric raw.confidence

/-- A feature with a label of the vocabulary, a box of four numbers and a confidence. -/
structure WellFormed (f : Json ℚ) : Prop where
  label : ∃ label ∈ knownLabels, f.get "label" = .str label
  bboxNorm : ∃ a b c d, f.get "bbox_norm" = .arr [.num a, .num b, .num c, .num d]
  confidence : ∃ x, f.get "confidence" = .num x ∧ 0 ≤ x ∧ x ≤ 1

/-- What a reply to a confirmation says, when it says something. -/
def verdict (d : OpenRouter) (reply : ProviderReply) : Except VlmExn Bool := do
  let text ← d.httpPost reply
  let parsed ← parse text
  let confirmed ← Ruby.at? "confirmed" parsed
  return confirmed == .bool true

/-- The features of a list of detections: those that are sure, and those that are confirmed by
the replies to their confirmations. A confirmation that fails leaves the others as they are. -/
inductive Passes (d : OpenRouter) :
    (ℕ → ProviderReply) → List RawDetection → List (Json ℚ) → Prop
  | none {replies} : Passes d replies [] []
  | discarded {replies raw raws features} (hraw : validateDetection raw = .ok none)
      (hrest : Passes d replies raws features) :
      Passes d replies (raw :: raws) features
  | sure {replies raw raws features f confidence}
      (hraw : validateDetection raw = .ok (some (f, confidence)))
      (hsure : d.threshold ≤ confidence) (hrest : Passes d replies raws features) :
      Passes d replies (raw :: raws) (f.set "verified" (.bool true) :: features)
  | confirmed {replies raw raws features f confidence}
      (hraw : validateDetection raw = .ok (some (f, confidence)))
      (hunsure : confidence < d.threshold) (hverdict : verdict d (replies 0) = .ok true)
      (hrest : Passes d (fun n => replies (n + 1)) raws features) :
      Passes d replies (raw :: raws) (f.set "verified" (.bool true) :: features)
  | dropped {replies raw raws features f confidence}
      (hraw : validateDetection raw = .ok (some (f, confidence)))
      (hunsure : confidence < d.threshold) (hverdict : verdict d (replies 0) ≠ .ok true)
      (hrest : Passes d (fun n => replies (n + 1)) raws features) :
      Passes d replies (raw :: raws) features

/-- The failures of a confirmation for which its feature is dropped. -/
def dropped : VlmExn → Bool
  | .vlmTimeout _ => true
  | .vlmNonJson _ => true
  | .parserError _ => true
  | _ => false

omit [Platform] [Texts] in
/-- A feature that the contract accepts has a box of four numbers and a confidence. -/
theorem accepted_feature {label : Json ℚ} {bbox : List ℚ} {x : ℚ} {verified source : Json ℚ}
    (h : PipelineSchema.feature (.obj [("label", label), ("bbox_norm", .arr (bbox.map .num)),
      ("verified", verified), ("source", source), ("confidence", .num x)]) = true) :
  bbox.length = 4 ∧ 0 ≤ x ∧ x ≤ 1
  := by
  obtain ⟨hmembers, -⟩ := (Schema.closedObject_obj_iff _ _ _).mp h
  simp only [List.forall_mem_cons] at hmembers
  obtain ⟨-, hbox, -, -, hconfidence, -⟩ := hmembers
  have hbox := hbox _ rfl
  have hconfidence := hconfidence _ rfl
  simp only [Schema.allOf, Schema.minItems, Schema.maxItems, PipelineSchema.confidence,
    Schema.minimum, Schema.maximum, List.all_cons, List.length_map, Bool.and_eq_true,
    decide_eq_true_eq] at hbox hconfidence
  exact ⟨le_antisymm hbox.2.2.1 hbox.2.1, hconfidence.2.1, hconfidence.2.2.1⟩

/-- A detection that passes the checks is well formed. -/
theorem wellFormed_of_validateDetection {raw : RawDetection} {f : Json ℚ} {confidence : ℚ}
    (h : validateDetection raw = .ok (some (f, confidence))) :
  WellFormed (f.set "verified" (.bool true))
  := by
  by_cases hlabel : Platform.toS raw.label ∈ knownLabels
  · rw [validateDetection, if_neg (not_not.mpr hlabel)] at h
    obtain ⟨bbox, -, h⟩ := Outcome.bind_eq_ok.mp h
    obtain ⟨x, -, h⟩ := Outcome.bind_eq_ok.mp h
    obtain ⟨hfeature, hf⟩ := Option.ite_none_right_eq_some.mp (Except.ok.inj h)
    obtain ⟨rfl, rfl⟩ := Prod.mk.inj (Option.some.inj hf)
    obtain ⟨hlength, hbounds⟩ := accepted_feature hfeature
    obtain ⟨a, b, c, d, rfl⟩ := List.length_eq_four.mp hlength
    constructor
    · exact ⟨_, hlabel, rfl⟩
    · exact ⟨a, b, c, d, rfl⟩
    · exact ⟨x, rfl, hbounds⟩
  · rw [validateDetection, if_pos hlabel] at h
    cases h

/-- The features that pass are well formed. -/
theorem Passes.wellFormed {d : OpenRouter} {replies : ℕ → ProviderReply}
    {raws : List RawDetection} {features : List (Json ℚ)} (h : Passes d replies raws features) :
  ∀ f ∈ features, WellFormed f
  := by
  induction h with
  | none => simp
  | discarded _ _ ih => exact ih
  | dropped _ _ _ _ ih => exact ih
  | sure hraw _ _ ih =>
      rw [List.forall_mem_cons]
      exact ⟨wellFormed_of_validateDetection hraw, ih⟩
  | confirmed hraw _ _ _ ih =>
      rw [List.forall_mem_cons]
      exact ⟨wellFormed_of_validateDetection hraw, ih⟩

section Loop

variable {d : OpenRouter} {raw : RawDetection} {raws : List RawDetection} {f : Json ℚ}
  {confidence : ℚ}

end Loop

/-! ### Detections -/

section Detections

variable {d : OpenRouter} {url : String} {replies : ℕ → ProviderReply}

end Detections

end Provider

/-! ### A confirmation that is refused -/

/-- Texts of which one holds a body, whose own text is another one with two detections. -/
abbrev answers : Texts where
  parseJson := fun
    | "body" => .ok (.obj [("choices", .arr [.obj [("message", .obj
        [("content", .str "features")])]])])
    | "features" => .ok (.obj [("features", .arr
        [.obj [("label", .str "vent"), ("bbox_norm", .arr [.num 0, .num 0, .num 1, .num 1]),
          ("confidence", .num (9 / 10))],
         .obj [("label", .str "chimney"), ("bbox_norm", .arr [.num 0, .num 0, .num 1, .num 1]),
          ("confidence", .num (1 / 2))]])])
    | _ => .error "unexpected token"
  parseUri := fun _ => some ⟨some "https", some "rooftrace.digitaloceanspaces.com"⟩
  toF := fun _ => 0

def detector : OpenRouter where
  apiKey := "key"
  model := "google/gemini-2.5-flash"
  threshold := 3 / 5
  imageTileHostAllowlist := ""

end Rails.ProviderFailures
