import RoofTrace.Contract.Schema
import RoofTrace.Contract.Models

/-!
# Agreement of the two views of the contract

For each model of the contract, when the JSON it is written out to is accepted by the
definition of the same name in the schema. A model without optional fields, or whose
optional fields are nullable in the schema, is always accepted. The optional fields
`source` and `confidence` of an address, a polygon and a LiDAR result, and the optional
entities inside a measurement, are declared without `null`: they are accepted only when
they are set, or left out by `exclude_none`.
-/

namespace Contract

open Schema PipelineSchema

variable {α : Type} [Dump α] {x : Bool}

/-! ### Values -/

/-- A string is written as it is. -/
@[simp]
theorem dump_string (s : String) :
  dump x s = Json.str s
  := rfl

/-- A number is written as it is. -/
@[simp]
theorem dump_rat (q : ℚ) :
  dump x q = Json.num q
  := rfl

/-- An integer is written as a number. -/
@[simp]
theorem dump_int (n : ℤ) :
  dump x n = Json.num (n : ℚ)
  := rfl

/-- A natural number is written as a number. -/
@[simp]
theorem dump_nat (n : ℕ) :
  dump x n = Json.num (n : ℚ)
  := rfl

/-- A boolean is written as it is. -/
@[simp]
theorem dump_bool (b : Bool) :
  dump x b = Json.bool b
  := rfl

/-- A list is written element by element. -/
@[simp]
theorem dump_list (as : List α) :
  dump x as = Json.arr (as.map (dump x))
  := rfl

/-- `None` is written as `null`. -/
@[simp]
theorem dump_none :
  dump x (none : Option α) = Json.null
  := rfl

/-- A value that is there is written as it is. -/
@[simp]
theorem dump_some (a : α) :
  dump x (some a) = dump x a
  := rfl

/-- A value that has been validated is written as it is. -/
@[simp]
theorem dump_subtype {p : α → Prop} (a : { a : α // p a }) :
  dump x a = dump x a.val
  := rfl

/-- A member of `GeometrySource` is written as its value. -/
@[simp]
theorem dump_geometrySource (s : GeometrySource) :
  dump x s = Json.str s.value
  := rfl

/-- A member of `LiDARStatus` is written as its value. -/
@[simp]
theorem dump_liDARStatus (s : LiDARStatus) :
  dump x s = Json.str s.value
  := rfl

/-- A member of `FeatureLabel` is written as its value. -/
@[simp]
theorem dump_featureLabel (l : FeatureLabel) :
  dump x l = Json.str l.value
  := rfl

/-- A member of `SAM2Backend` is written as its value. -/
@[simp]
theorem dump_sam2Backend (b : SAM2Backend) :
  dump x b = Json.str b.value
  := rfl

/-- A model is written as an object. -/
theorem dumpFields_ne_null (fields : List (String × Json ℚ)) :
  dumpFields x fields ≠ Json.null
  := by
  simp [dumpFields]

/-- An optional field is accepted when `null` is, and every value it may hold. -/
theorem accepts_option {s : Schema} {a : Option α} (hnull : s .null = true)
    (h : ∀ b ∈ a, s (dump x b) = true) :
  s (dump x a) = true
  := by
  cases a with
  | none => apply hnull
  | some b => apply h b rfl

/-- A list is accepted when its elements are. -/
theorem accepts_array {s : Schema} {as : List α} (h : ∀ a ∈ as, s (dump x a) = true) :
  allOf [types [.array], items s] (dump x as) = true
  := by
  simpa [allOf, types, TypeName.holds, items] using h

/-- A list of strings is accepted. -/
theorem accepts_strings (as : List String) :
  strings (dump x as) = true
  := by
  apply accepts_array
  intro a _
  rfl

/-- A confidence is accepted. -/
theorem accepts_confidence (c : Confidence) :
  confidence (dump x c) = true
  := by
  have h := c.property
  simp [confidence, allOf, types, TypeName.holds, minimum, maximum, h.1, h.2]

/-- A geometry source is accepted. -/
theorem accepts_geometrySource (s : GeometrySource) :
  geometrySource (dump x s) = true
  := by
  cases s <;> rfl

/-- A list of so many numbers is accepted. -/
theorem accepts_numbers {n : ℕ} (as : ListOf n ℚ) :
  numbers n (dump x as) = true
  := by
  have h := as.property
  simp [numbers, allOf, types, TypeName.holds, minItems, maxItems, items, number, h]

/-- A position is accepted. -/
theorem accepts_position (p : Position) :
  position (dump x p) = true
  := by
  have h := p.property
  simp [position, allOf, types, TypeName.holds, minItems, maxItems, items, number, h.1, h.2]

/-- A number that is not negative is accepted, and so is its absence. -/
theorem accepts_nonnegOrNull (a : Option NonNeg) :
  nonnegOrNull (dump x a) = true
  := by
  apply accepts_option
  · rfl
  · intro b _
    simp [nonnegOrNull, allOf, types, TypeName.holds, minimum, b.property]

/-- A number within bounds is accepted, and so is its absence. -/
theorem accepts_betweenOrNull {lo hi : ℚ} (a : Option (Between lo hi)) :
  allOf [types [.number, .null], minimum lo, maximum hi] (dump x a) = true
  := by
  apply accepts_option
  · rfl
  · intro b _
    have h := b.property
    simp [allOf, types, TypeName.holds, minimum, maximum, h.1, h.2]

/-- A string is accepted, and so is its absence. -/
theorem accepts_stringOrNull (a : Option String) :
  types [.string, .null] (dump x a) = true
  := by
  apply accepts_option
  · rfl
  · intro b _
    rfl

/-- An integer is accepted, and so is its absence. -/
theorem accepts_integerOrNull (a : Option ℤ) :
  types [.integer, .null] (dump x a) = true
  := by
  apply accepts_option
  · rfl
  · intro b _
    simp [types, TypeName.holds]

/-- A count is accepted. -/
theorem accepts_count (n : ℕ) :
  count (dump x n) = true
  := by
  simp [count, allOf, types, TypeName.holds, minimum]

/-- `oneOf` of a schema and `null` accepts an optional value whose set value the schema
accepts and which is not written as `null` itself. -/
theorem accepts_orNull {s : Schema} {a : Option α} (hnull : s .null = false)
    (h : ∀ b ∈ a, s (dump x b) = true ∧ dump x b ≠ .null) :
  orNull s (dump x a) = true
  := by
  cases a with
  | none => simp [orNull, oneOf, hnull, types, TypeName.holds]
  | some b =>
      obtain ⟨hs, hne⟩ := h b rfl
      have htype : types [.null] (dump x b) = false := by
        cases hb : dump x b with
        | null => apply (hne hb).elim
        | _ => rfl
      simp [orNull, oneOf, hs, htype]

/-- A list of so many numbers is accepted, and so is its absence. -/
theorem accepts_numbersOrNull {n : ℕ} (a : Option (ListOf n ℚ)) :
  orNull (numbers n) (dump x a) = true
  := by
  apply accepts_orNull
  · rfl
  · intro b _
    constructor
    · apply accepts_numbers
    · simp

/-- A confidence is accepted, and so is its absence. -/
theorem accepts_confidenceOrNull (a : Option Confidence) :
  orNull confidence (dump x a) = true
  := by
  apply accepts_orNull
  · rfl
  · intro b _
    constructor
    · apply accepts_confidence
    · simp

/-! ### Entities -/

/-- Whether an optional field that the schema declares without `null` is written
acceptably: it is left out when it is unset, or it is set. -/
def SetOrDropped (x : Bool) (a : Option α) : Prop :=
  x = true ∨ a.isSome

/-- A field that is set or dropped is left out or accepted. -/
theorem setOrDropped_dump {s : Schema} {a : Option α} (h : SetOrDropped x a)
    (hs : ∀ b ∈ a, s (dump x b) = true) :
  Dropped x (dump x a) ∨ s (dump x a) = true
  := by
  cases a with
  | none =>
      left
      obtain hx | hsome := h
      · use hx
        rfl
      · simp at hsome
  | some b =>
      right
      apply hs b rfl

/-- An address is accepted when its optional fields are set or dropped. -/
theorem accepts_address (a : Address) (hsource : SetOrDropped x a.source)
    (hconfidence : SetOrDropped x a.confidence) :
  address (dump x a) = true
  := by
  apply closedObject_dumpFields rfl (by simp) (by simp)
  refine ⟨?_, ?_, ?_, ?_, ?_, ?_⟩
  · apply FieldOk.of_accepts rfl (by simp)
  · apply FieldOk.optional (by simp) (.inr (accepts_stringOrNull _))
  · apply FieldOk.optional (by simp) (.inr (accepts_betweenOrNull _))
  · apply FieldOk.optional (by simp) (.inr (accepts_betweenOrNull _))
  · apply FieldOk.optional (by simp)
    apply setOrDropped_dump hsource fun s _ => accepts_geometrySource s
  · apply FieldOk.optional (by simp)
    apply setOrDropped_dump hconfidence fun c _ => accepts_confidence c

/-- The rings of a polygon are accepted. -/
theorem accepts_coordinates (rings : ListMin 1 LinearRing) :
  allOf [types [.array], minItems 1,
    items (allOf [types [.array], minItems 4, items position])] (dump x rings) = true
  := by
  have hring : ∀ r : LinearRing,
      allOf [types [.array], minItems 4, items position] (dump x r) = true := by
    intro r
    have hpositions : ∀ p ∈ r.val, position (dump x p) = true :=
      fun p _ => accepts_position p
    simpa [allOf, types, TypeName.holds, minItems, items, r.property] using hpositions
  have hrings : ∀ r ∈ rings.val,
      allOf [types [.array], minItems 4, items position] (dump x r) = true :=
    fun r _ => hring r
  simpa [allOf, types, TypeName.holds, minItems, items, rings.property] using hrings

/-- A polygon is accepted when its optional fields are set or dropped. -/
theorem accepts_polygon (p : Polygon) (hsource : SetOrDropped x p.source)
    (hconfidence : SetOrDropped x p.confidence) :
  polygon (dump x p) = true
  := by
  apply closedObject_dumpFields rfl (by simp) (by simp)
  refine ⟨?_, ?_, ?_, ?_⟩
  · apply FieldOk.of_accepts rfl (by simp)
  · apply FieldOk.of_accepts (accepts_coordinates _) (by simp)
  · apply FieldOk.optional (by simp)
    apply setOrDropped_dump hsource fun s _ => accepts_geometrySource s
  · apply FieldOk.optional (by simp)
    apply setOrDropped_dump hconfidence fun c _ => accepts_confidence c

/-- A work unit is accepted, and so is its absence. -/
theorem accepts_workUnit (u : Option WorkUnit) :
  workUnit (dump x u) = true
  := by
  apply accepts_option
  · rfl
  · intro u _
    apply nullableObject_of_closedObject
    apply closedObject_dumpFields rfl (by simp) (by simp)
    refine ⟨?_, ?_, ?_, ?_⟩
    · apply FieldOk.of_accepts rfl (by simp)
    · apply FieldOk.optional (by simp) (.inr (accepts_integerOrNull _))
    · apply FieldOk.optional (by simp) (.inr (accepts_stringOrNull _))
    · apply FieldOk.optional (by simp) (.inr (accepts_integerOrNull _))

/-- A LiDAR status is accepted. -/
theorem accepts_liDARStatus (s : LiDARStatus) :
  allOf [types [.string], enum ["LIDAR_AVAILABLE", "LIDAR_MISSING"]] (dump x s) = true
  := by
  cases s <;> rfl

/-- A LiDAR result is accepted when its optional fields are set or dropped. -/
theorem accepts_liDARResult (l : LiDARResult) (hsource : SetOrDropped x l.source)
    (hconfidence : SetOrDropped x l.confidence) :
  lidarResult (dump x l) = true
  := by
  apply closedObject_dumpFields rfl (by simp) (by simp)
  refine ⟨?_, ?_, ?_, ?_, ?_, ?_⟩
  · apply FieldOk.of_accepts (accepts_liDARStatus _) (by simp)
  · apply FieldOk.optional (by simp) (.inr (accepts_stringOrNull _))
  · apply FieldOk.optional (by simp)
    right
    apply accepts_option
    · rfl
    · intro n _
      simp [allOf, types, TypeName.holds, minimum]
  · apply FieldOk.optional (by simp) (.inr (accepts_workUnit _))
  · apply FieldOk.optional (by simp)
    apply setOrDropped_dump hsource fun s _ => accepts_geometrySource s
  · apply FieldOk.optional (by simp)
    apply setOrDropped_dump hconfidence fun c _ => accepts_confidence c

/-- A facet is accepted. -/
theorem accepts_facet (f : Facet) :
  facet (dump x f) = true
  := by
  have hvertices : ∀ p ∈ f.vertices.val, position (dump x p) = true :=
    fun p _ => accepts_position p
  apply closedObject_dumpFields rfl (by simp) (by simp)
  refine ⟨?_, ?_, ?_, ?_, ?_, ?_, ?_⟩
  · apply FieldOk.of_accepts rfl (by simp)
  · apply FieldOk.of_accepts _ (by simp)
    simpa [allOf, types, TypeName.holds, minItems, items, f.vertices.property] using hvertices
  · apply FieldOk.optional (by simp) (.inr (accepts_nonnegOrNull _))
  · apply FieldOk.optional (by simp) (.inr (accepts_betweenOrNull _))
  · apply FieldOk.of_accepts _ (by simp)
    simp [allOf, types, TypeName.holds, minimum, f.areaSqFt.property]
  · apply FieldOk.of_accepts (accepts_geometrySource _) (by simp)
  · apply FieldOk.of_accepts (accepts_confidence _) (by simp)

/-- A list of facets is accepted. -/
theorem accepts_facets (fs : List Facet) :
  facets (dump x fs) = true
  := accepts_array fun f _ => accepts_facet f

/-- The diagnostics of a roof model are accepted. -/
theorem accepts_roofModelDiagnostics (d : RoofModelDiagnostics) :
  roofModelDiagnostics (dump x d) = true
  := by
  apply closedObject_dumpFields rfl (by simp) (by simp)
  refine ⟨?_, ?_, ?_, ?_, ?_, ?_, ?_, ?_⟩
  · apply FieldOk.of_accepts rfl (by simp)
  · apply FieldOk.of_accepts (accepts_count _) (by simp)
  · apply FieldOk.of_accepts (accepts_count _) (by simp)
  · apply FieldOk.of_accepts (accepts_count _) (by simp)
  · apply FieldOk.of_accepts (accepts_confidence _) (by simp)
  · apply FieldOk.of_accepts rfl (by simp)
  · apply FieldOk.of_accepts rfl (by simp)
  · apply FieldOk.optional (by simp) (.inr (accepts_strings _))

/-- An attribution is accepted when its times have the format of times. -/
theorem accepts_attribution [FormatAssertion] (as : List AttributionItem)
    (hdates : ∀ a ∈ as, ∀ t ∈ a.retrievedAt, FormatAssertion.holds "date-time" t = true) :
  sourceAttribution (dump x as) = true
  := by
  apply accepts_array
  intro a ha
  apply closedObject_dumpFields rfl (by simp) (by simp)
  refine ⟨?_, ?_, ?_, ?_⟩
  · apply FieldOk.of_accepts rfl (by simp)
  · apply FieldOk.optional (by simp) (.inr (accepts_stringOrNull _))
  · apply FieldOk.optional (by simp) (.inr (accepts_stringOrNull _))
  · apply FieldOk.optional (by simp)
    right
    apply accepts_option
    · rfl
    · intro t ht
      have h := hdates a ha t ht
      simpa [allOf, types, TypeName.holds, format] using h

/-- A text with the format of UUIDs is accepted. -/
theorem accepts_uuid [FormatAssertion] {s : String} (h : FormatAssertion.holds "uuid" s = true) :
  uuid (dump x s) = true
  := by
  simpa [uuid, allOf, types, TypeName.holds, format] using h

/-- A measurement is never accepted when one of its optional entities is written as
`null`. -/
theorem rejects_measurement_of_null [FormatAssertion] (m : Measurement)
    (h : m.footprint = none) :
  measurement (dump false m) = false
  := by
  apply closedObject_dumpFields_of_rejected (n := "footprint") (v := .null) (s := polygon)
  · simp
  · simp
  · simp [h]
  · simp [Dropped]
  · simp
  · rfl

/-! ### Responses -/

/-- The response of a rendered image is accepted when its job is a UUID. -/
theorem accepts_renderImageResponse [FormatAssertion] (r : RenderImageResponse)
    (hjob : FormatAssertion.holds "uuid" r.jobId = true) :
  renderImageResponse (dump x r) = true
  := by
  apply closedObject_dumpFields rfl (by simp) (by simp)
  refine ⟨?_, ?_, ?_⟩
  · apply FieldOk.of_accepts rfl (by simp)
  · apply FieldOk.of_accepts (accepts_uuid hjob) (by simp)
  · apply FieldOk.of_accepts rfl (by simp)

/-- The response of a projected photo is accepted when its job is a UUID. -/
theorem accepts_projectPhotoResponse [FormatAssertion] (r : ProjectPhotoResponse)
    (hjob : FormatAssertion.holds "uuid" r.jobId = true) :
  projectPhotoResponse (dump x r) = true
  := by
  apply closedObject_dumpFields rfl (by simp) (by simp)
  refine ⟨?_, ?_, ?_, ?_, ?_, ?_, ?_⟩
  · apply FieldOk.of_accepts rfl (by simp)
  · apply FieldOk.of_accepts (accepts_uuid hjob) (by simp)
  · apply FieldOk.of_accepts rfl (by simp)
  · apply FieldOk.optional (by simp) (.inr (accepts_stringOrNull _))
  · apply FieldOk.optional (by simp) (.inr (accepts_stringOrNull _))
  · apply FieldOk.optional (by simp) (.inr (accepts_confidenceOrNull _))
  · apply FieldOk.optional (by simp) (.inr (accepts_strings _))

/-- The response with evidence thumbnails is accepted when its job is a UUID. -/
theorem accepts_renderEvidenceThumbnailsResponse [FormatAssertion]
    (r : RenderEvidenceThumbnailsResponse)
    (hjob : FormatAssertion.holds "uuid" r.jobId = true) :
  renderEvidenceThumbnailsResponse (dump x r) = true
  := by
  apply closedObject_dumpFields rfl (by simp) (by simp)
  refine ⟨?_, ?_, ?_⟩
  · apply FieldOk.of_accepts rfl (by simp)
  · apply FieldOk.of_accepts (accepts_uuid hjob) (by simp)
  · apply FieldOk.of_accepts _ (by simp)
    apply accepts_array
    intro t _
    apply closedObject_dumpFields rfl (by simp) (by simp)
    refine ⟨?_, ?_, ?_⟩
    · apply FieldOk.of_accepts rfl (by simp)
    · apply FieldOk.of_accepts (accepts_count _) (by simp)
    · apply FieldOk.optional (by simp) (.inr (accepts_stringOrNull _))

/-- The response with an address is accepted when its optional fields are set or dropped. -/
theorem accepts_resolveAddressResponse [FormatAssertion] (r : ResolveAddressResponse)
    (hgeocode : SetOrDropped x r.geocode.source ∧ SetOrDropped x r.geocode.confidence)
    (hparcel : ∀ p ∈ r.parcelPolygon, SetOrDropped x p.source ∧ SetOrDropped x p.confidence)
    (hbuildings : ∀ p ∈ r.buildingPolygons.val,
      SetOrDropped x p.source ∧ SetOrDropped x p.confidence)
    (hdates : ∀ a ∈ r.attribution, ∀ t ∈ a.retrievedAt,
      FormatAssertion.holds "date-time" t = true) :
  resolveAddressResponse (dump x r) = true
  := by
  have hpolygons : ∀ p ∈ r.buildingPolygons.val, polygon (dump x p) = true :=
    fun p hp => accepts_polygon p (hbuildings p hp).1 (hbuildings p hp).2
  apply closedObject_dumpFields rfl (by simp) (by simp)
  refine ⟨?_, ?_, ?_, ?_, ?_, ?_⟩
  · apply FieldOk.of_accepts rfl (by simp)
  · apply FieldOk.of_accepts (accepts_address _ hgeocode.1 hgeocode.2) (dumpFields_ne_null _)
  · apply FieldOk.optional (by simp)
    right
    apply accepts_orNull
    · rfl
    · intro p hp
      use accepts_polygon p (hparcel p hp).1 (hparcel p hp).2
      apply dumpFields_ne_null
  · apply FieldOk.of_accepts _ (by simp)
    simpa [allOf, types, TypeName.holds, minItems, items, r.buildingPolygons.property]
      using hpolygons
  · apply FieldOk.of_accepts (accepts_attribution _ hdates) (by simp)
  · apply FieldOk.optional (by simp) (.inr (accepts_strings _))

/-- The response with LiDAR is accepted when its optional fields are set or dropped. -/
theorem accepts_ingestLidarResponse [FormatAssertion] (r : IngestLidarResponse)
    (hlidar : SetOrDropped x r.lidar.source ∧ SetOrDropped x r.lidar.confidence)
    (hdates : ∀ a ∈ r.attribution, ∀ t ∈ a.retrievedAt,
      FormatAssertion.holds "date-time" t = true) :
  ingestLidarResponse (dump x r) = true
  := by
  apply closedObject_dumpFields rfl (by simp) (by simp)
  refine ⟨?_, ?_, ?_, ?_, ?_, ?_⟩
  · apply FieldOk.of_accepts rfl (by simp)
  · apply FieldOk.of_accepts (accepts_liDARResult _ hlidar.1 hlidar.2) (dumpFields_ne_null _)
  · apply FieldOk.optional (by simp) (.inr (accepts_integerOrNull _))
  · apply FieldOk.optional (by simp) (.inr (accepts_numbersOrNull _))
  · apply FieldOk.optional (by simp) (.inr (accepts_strings _))
  · apply FieldOk.optional (by simp) (.inr (accepts_attribution _ hdates))

/-- The response with LiDAR points is accepted. -/
theorem accepts_lidarPointsResponse (r : LidarPointsResponse) :
  lidarPointsResponse (dump x r) = true
  := by
  apply closedObject_dumpFields rfl (by simp) (by simp)
  refine ⟨?_, ?_, ?_, ?_, ?_⟩
  · apply FieldOk.of_accepts rfl (by simp)
  · apply FieldOk.of_accepts (accepts_array fun p _ => accepts_numbers p) (by simp)
  · apply FieldOk.of_accepts (accepts_count _) (by simp)
  · apply FieldOk.of_accepts (accepts_count _) (by simp)
  · apply FieldOk.optional (by simp) (.inr (accepts_numbersOrNull _))

/-- The response with an outline is accepted when its optional fields are set or dropped. -/
theorem accepts_refineOutlineResponse (r : RefineOutlineResponse)
    (hpolygon : SetOrDropped x r.refinedPolygon.source ∧
      SetOrDropped x r.refinedPolygon.confidence) :
  refineOutlineResponse (dump x r) = true
  := by
  have hbackend : allOf [types [.string], enum ["modal", "local"]] (dump x r.sam2Backend)
      = true := by
    cases r.sam2Backend <;> rfl
  apply closedObject_dumpFields rfl (by simp) (by simp)
  refine ⟨?_, ?_, ?_, ?_, ?_⟩
  · apply FieldOk.of_accepts rfl (by simp)
  · apply FieldOk.of_accepts (accepts_polygon _ hpolygon.1 hpolygon.2) (dumpFields_ne_null _)
  · apply FieldOk.of_accepts (accepts_confidence _) (by simp)
  · apply FieldOk.of_accepts hbackend (by simp)
  · apply FieldOk.optional (by simp) (.inr (accepts_strings _))

/-- The response with imagery is accepted when its attribution has the format of times. -/
theorem accepts_renderImageryResponse [FormatAssertion] (r : RenderImageryResponse)
    (hdates : ∀ a ∈ r.attribution, ∀ t ∈ a.retrievedAt,
      FormatAssertion.holds "date-time" t = true) :
  renderImageryResponse (dump x r) = true
  := by
  apply closedObject_dumpFields rfl (by simp) (by simp)
  refine ⟨?_, ?_, ?_, ?_, ?_⟩
  · apply FieldOk.of_accepts rfl (by simp)
  · apply FieldOk.of_accepts rfl (by simp)
  · apply FieldOk.of_accepts (accepts_numbers _) (by simp)
  · apply FieldOk.optional (by simp) (.inr (accepts_attribution _ hdates))
  · apply FieldOk.optional (by simp) (.inr (accepts_strings _))

/-- The geometry of a measurement is accepted. -/
theorem accepts_measurementGeometry (g : MeasurementGeometry) :
  measurementGeometry (dump x g) = true
  := by
  apply closedObject_dumpFields rfl (by simp) (by simp)
  refine ⟨?_, ?_, ?_, ?_, ?_, ?_, ?_, ?_, ?_, ?_⟩
  · apply FieldOk.of_accepts rfl (by simp)
  · apply FieldOk.of_accepts (accepts_facets _) (by simp)
  · apply FieldOk.of_accepts _ (by simp)
    simp [allOf, types, TypeName.holds, minimum, g.totalAreaSqFt.property]
  · apply FieldOk.optional (by simp) (.inr (accepts_nonnegOrNull _))
  · apply FieldOk.optional (by simp) (.inr (accepts_nonnegOrNull _))
  · apply FieldOk.optional (by simp) (.inr (accepts_betweenOrNull _))
  · apply FieldOk.of_accepts (accepts_geometrySource _) (by simp)
  · apply FieldOk.of_accepts (accepts_confidence _) (by simp)
  · apply FieldOk.optional (by simp) (.inr (accepts_strings _))
  · apply FieldOk.optional (by simp)
    right
    apply accepts_option
    · rfl
    · intro d _
      simp [anyOf, accepts_roofModelDiagnostics]

/-- A fuse-capture response that is written with its null fields is never accepted when
it carries no measurement, or a measurement without a footprint. -/
theorem rejects_fuseCaptureResponse [FormatAssertion] (r : FuseCaptureResponse)
    (h : ∀ m ∈ r.measurement, m.footprint = none) :
  fuseCaptureResponse (dump false r) = false
  := by
  have hrejects : measurement (dump false r.measurement) = false := by
    cases hm : r.measurement with
    | none => rfl
    | some m => apply rejects_measurement_of_null m (h m hm)
  apply closedObject_dumpFields_of_rejected (n := "measurement") (s := measurement) _ _ _ _ _
    hrejects
  · simp
  · simp
  · simp
  · simp [Dropped]
  · simp

end Contract
