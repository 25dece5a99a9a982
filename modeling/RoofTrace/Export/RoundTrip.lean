import RoofTrace.Contract.Schema
import RoofTrace.Export.RoofExport
import RoofTrace.Export.Serializer

/-!
# What the phone reads of an export

The export of a measurement whose documents are as the pipeline contract has them is accepted
by the export contract, and the phone decodes it. What it reads are the members of the stored
documents: facets in their order, with the vertices that were stored, longitude and latitude
exchanged once more.
-/

namespace Rails

open Decoding Schema JobExportSerializer Phone

namespace ExportRoundTrip

/-! ### Values -/

/-- A number, or `null` when there is none. -/
def numberOr (x : Option ℚ) : Json ℚ := (x.map Json.num).getD .null

/-- A text, or `null` when there is none. -/
def textOr (t : Option String) : Json ℚ := (t.map Json.str).getD .null

/-- A position as it is stored, of a vertex that begins with the latitude. -/
def storedVertex : List ℚ → Json ℚ
  | latitude :: longitude :: rest => .arr ((longitude :: latitude :: rest).map .num)
  | vertex => .arr (vertex.map .num)

theorem accepts_of_allOf {ss : List Schema} {j : Json ℚ} (h : allOf ss j = true) {s : Schema}
    (hs : s ∈ ss) :
  s j = true
  := List.all_eq_true.mp h s hs

theorem exists_str {j : Json ℚ} (h : types [.string] j = true) :
  ∃ t, j = .str t
  := by
  cases j with
  | str t => exact ⟨t, rfl⟩
  | _ => cases h

theorem optional_number {j : Json ℚ} (h : JsonExportSchema.numberOrNull j = true) :
  ∃ x, Optional number j x ∧ j = numberOr x
  := by
  cases j with
  | null => exact ⟨none, .inl ⟨rfl, rfl⟩, rfl⟩
  | num x =>
      refine ⟨some x, .inr ⟨?_, x, rfl, rfl⟩, rfl⟩
      rintro ⟨⟩
  | _ => cases h

theorem optional_string {j : Json ℚ} (h : JsonExportSchema.stringOrNull j = true) :
  ∃ t, Optional string j t ∧ j = textOr t
  := by
  cases j with
  | null => exact ⟨none, .inl ⟨rfl, rfl⟩, rfl⟩
  | str t =>
      refine ⟨some t, .inr ⟨?_, t, rfl, rfl⟩, rfl⟩
      rintro ⟨⟩
  | _ => cases h

theorem numberOrNull_numeric (j : Json ℚ) :
  JsonExportSchema.numberOrNull (numeric j) = true
  := by
  unfold numeric
  split <;> rfl

theorem numeric_of_numberOrNull {j : Json ℚ} (h : JsonExportSchema.numberOrNull j = true) :
  numeric j = j
  := by
  cases j with
  | null => rfl
  | num x => rfl
  | _ => cases h

theorem numberOrNull_of_number {j : Json ℚ} (h : types [.number] j = true) :
  JsonExportSchema.numberOrNull j = true
  := by
  cases j with
  | num x => rfl
  | _ => cases h

theorem stringOrNull_of_string {j : Json ℚ} (h : types [.string] j = true) :
  JsonExportSchema.stringOrNull j = true
  := by
  obtain ⟨t, rfl⟩ := exists_str h
  rfl

/-- An array is decoded when its elements are. -/
theorem optional_array {α γ : Type} {d : Decoder ℚ α} {f : γ → Json ℚ} {R : γ → α → Prop}
    {xs : List γ} (h : ∀ x ∈ xs, ∃ a, d (f x) = .ok a ∧ R x a) :
  ∃ as, Optional (array d) (.arr (xs.map f)) (some as) ∧ List.Forall₂ R xs as
  := by
  obtain ⟨as, has, hR⟩ := array_exists h
  refine ⟨as, .inr ⟨?_, as, has, rfl⟩, hR⟩
  rintro ⟨⟩

theorem accepts_array {γ : Type} {s : Schema} {f : γ → Json ℚ} {xs : List γ}
    (h : ∀ x ∈ xs, s (f x) = true) :
  allOf [types [.array], items s] (.arr (xs.map f)) = true
  := by
  simp only [allOf, types, items, TypeName.holds, List.all_cons, List.all_nil, List.any_cons,
    List.any_nil, Bool.and_true, Bool.or_false, Bool.true_and, List.all_map, List.all_eq_true]
  exact h

theorem array_number (xs : List ℚ) :
  array number (.arr (xs.map .num)) = .ok xs
  := by
  have hread : ∀ x ∈ xs, ∃ a, number (.num x) = .ok a ∧ x = a := fun x _ => ⟨x, rfl, rfl⟩
  obtain ⟨as, has, hR⟩ := array_exists hread
  rw [List.forall₂_eq_eq_eq] at hR
  rw [has, hR]

/-! ### Facets and features -/

/-- A stored facet and the one that is read have the same members, and the vertices on the map
are those that are stored. -/
structure ReadsFacet (stored : Json ℚ) (facet : RoofExport.Facet) : Prop where
  facetID : stored.get "facet_id" = .str facet.facetID
  vertices : stored.get "vertices" = .arr (facet.vertices.map storedVertex)
  pitchRatio : stored.get "pitch_ratio" = numberOr facet.pitchRatio
  pitchDegrees : stored.get "pitch_degrees" = numberOr facet.pitchDegrees
  areaSqFt : stored.get "area_sq_ft" = numberOr facet.areaSqFt
  source : stored.get "source" = textOr facet.source
  confidence : stored.get "confidence" = numberOr facet.confidence

/-- A stored feature and the one that is read have the same members. -/
structure ReadsFeature (stored : Json ℚ) (feature : RoofExport.Feature) : Prop where
  label : stored.get "label" = .str feature.label
  bboxNorm : stored.get "bbox_norm" = .arr (feature.bboxNorm.map .num)
  verified : stored.get "verified" = .bool feature.verified
  source : stored.get "source" = textOr feature.source
  confidence : stored.get "confidence" = numberOr feature.confidence

theorem exists_numbers {elements : List (Json ℚ)}
    (h : items (types [.number]) (.arr elements) = true) :
  ∃ xs : List ℚ, elements = xs.map .num
  := by
  induction elements with
  | nil => exact ⟨[], rfl⟩
  | cons element elements ih =>
      simp only [items, List.all_cons, Bool.and_eq_true] at h ih
      obtain ⟨xs, rfl⟩ := ih h.2
      cases element with
      | num x => exact ⟨x :: xs, rfl⟩
      | _ => cases h.1

/-- A position is turned around, and decoded. -/
theorem lossyVertex_flipVertex {position : Json ℚ}
    (h : PipelineSchema.position position = true) :
  JsonExportSchema.vertex (flipVertex position) = true ∧
    ∃ vertex, RoofExport.lossyVertex (flipVertex position) = .ok vertex ∧
      position = storedVertex vertex
  := by
  simp only [PipelineSchema.position, allOf, List.all_cons, List.all_nil, Bool.and_eq_true] at h
  obtain ⟨harray, hmin, hmax, hnumbers, -⟩ := h
  cases position with
  | arr elements =>
      obtain ⟨xs, rfl⟩ := exists_numbers hnumbers
      simp only [minItems, maxItems, List.length_map, decide_eq_true_eq] at hmin hmax
      have hread : ∀ vertex : List ℚ,
          RoofExport.lossyVertex (.arr (vertex.map .num)) = .ok vertex := by
        intro vertex
        rw [RoofExport.lossyVertex, orElse, array_number]
      rcases xs with _ | ⟨lon, _ | ⟨lat, _ | ⟨elevation, _ | ⟨extra, rest⟩⟩⟩⟩
      · simp at hmin
      · simp at hmin
      · exact ⟨rfl, [lat, lon], hread [lat, lon], rfl⟩
      · exact ⟨rfl, [lat, lon, elevation], hread [lat, lon, elevation], rfl⟩
      · simp only [List.length_cons] at hmax
        omega
  | _ => cases harray

theorem container_mapFacet (facet : Json ℚ) :
  container (mapFacet facet) = .ok
    [("facetId", facet.get "facet_id"),
     ("vertices", .arr ((Ruby.array (facet.get "vertices")).map flipVertex)),
     ("pitchRatio", numeric (facet.get "pitch_ratio")),
     ("pitchDegrees", numeric (facet.get "pitch_degrees")),
     ("areaSqFt", numeric (facet.get "area_sq_ft")),
     ("source", facet.get "source"),
     ("confidence", numeric (facet.get "confidence"))]
  := by
  have hkeys : ["facet_id", "vertices", "pitch_ratio", "pitch_degrees", "area_sq_ft", "source",
      "confidence"].map convertFromSnakeCase =
      ["facetId", "vertices", "pitchRatio", "pitchDegrees", "areaSqFt", "source", "confidence"] := by
    decide +kernel
  simp only [List.map_cons, List.map_nil, List.cons.injEq, and_true] at hkeys
  simp only [mapFacet, container, List.map_cons, List.map_nil, hkeys]

theorem numberOrNull_of_allOf {ss : List Schema} {j : Json ℚ}
    (hss : JsonExportSchema.numberOrNull ∈ ss) (h : allOf ss j = true ∨ j = .null) :
  JsonExportSchema.numberOrNull j = true
  := by
  rcases h with h | rfl
  · exact accepts_of_allOf h hss
  · rfl

theorem source_read [FormatAssertion] {j : Json ℚ} (h : PipelineSchema.geometrySource j = true) :
  JsonExportSchema.stringOrNull j = true
  := stringOrNull_of_string (accepts_of_allOf h List.mem_cons_self)

theorem confidence_read [FormatAssertion] {j : Json ℚ} (h : PipelineSchema.confidence j = true) :
  JsonExportSchema.numberOrNull j = true
  := numberOrNull_of_number (accepts_of_allOf h List.mem_cons_self)

/-- A facet of the pipeline contract is exported, and read as it is stored. -/
theorem decodeFacet_mapFacet [FormatAssertion] {facet : Json ℚ}
    (h : PipelineSchema.facet facet = true) :
  JsonExportSchema.facet (mapFacet facet) = true ∧
    ∃ read, RoofExport.decodeFacet (mapFacet facet) = .ok read ∧ ReadsFacet facet read
  := by
  have hid : PipelineSchema.string (facet.get "facet_id") = true :=
    accepts_get_of_required h (by simp) (by simp)
  have hvertices : allOf [types [.array], minItems 3, items PipelineSchema.position]
      (facet.get "vertices") = true := accepts_get_of_required h (by simp) (by simp)
  have hratio : JsonExportSchema.numberOrNull (facet.get "pitch_ratio") = true :=
    numberOrNull_of_allOf List.mem_cons_self (accepts_get h (by simp; rfl))
  have hdegrees : JsonExportSchema.numberOrNull (facet.get "pitch_degrees") = true :=
    numberOrNull_of_allOf List.mem_cons_self (accepts_get h (by simp; rfl))
  have harea : JsonExportSchema.numberOrNull (facet.get "area_sq_ft") = true :=
    numberOrNull_of_number (accepts_of_allOf
      (accepts_get_of_required h (by simp; rfl) (by simp)) List.mem_cons_self)
  have hsource : JsonExportSchema.stringOrNull (facet.get "source") = true :=
    source_read (accepts_get_of_required h (by simp) (by simp))
  have hconfidence : JsonExportSchema.numberOrNull (facet.get "confidence") = true :=
    confidence_read (accepts_get_of_required h (by simp) (by simp))
  obtain ⟨positions, hpositions⟩ : ∃ positions, facet.get "vertices" = .arr positions := by
    cases hget : facet.get "vertices" with
    | arr positions => exact ⟨positions, rfl⟩
    | _ =>
        rw [hget] at hvertices
        cases hvertices
  rw [hpositions] at hvertices
  have hread : ∀ position ∈ positions, JsonExportSchema.vertex (flipVertex position) = true ∧
      ∃ vertex, RoofExport.lossyVertex (flipVertex position) = .ok vertex ∧
        position = storedVertex vertex := by
    have hitems := accepts_of_allOf hvertices (s := items PipelineSchema.position) (by simp)
    intro position hposition
    exact lossyVertex_flipVertex (List.all_eq_true.mp hitems position hposition)
  obtain ⟨id, hid⟩ := exists_str hid
  obtain ⟨vertices, hdecoded, hstored⟩ := optional_array fun p hp => (hread p hp).2
  obtain ⟨ratio, hratio', hratioRead⟩ := optional_number hratio
  obtain ⟨degrees, hdegrees', hdegreesRead⟩ := optional_number hdegrees
  obtain ⟨area, harea', hareaRead⟩ := optional_number harea
  obtain ⟨source, hsource', hsourceRead⟩ := optional_string hsource
  obtain ⟨confidence, hconfidence', hconfidenceRead⟩ := optional_number hconfidence
  rw [← List.forall₂_map_right_iff, List.forall₂_eq_eq_eq] at hstored
  rw [← numeric_of_numberOrNull hratio] at hratio'
  rw [← numeric_of_numberOrNull hdegrees] at hdegrees'
  rw [← numeric_of_numberOrNull harea] at harea'
  rw [← numeric_of_numberOrNull hconfidence] at hconfidence'
  constructor
  · apply closedObject_of_forall
    · rfl
    · decide
    · decide
    · have hexported : allOf [types [.array], items JsonExportSchema.vertex]
          (.arr ((Ruby.array (facet.get "vertices")).map flipVertex)) = true := by
        rw [hpositions]
        exact accepts_array fun p hp => (hread p hp).1
      exact ⟨by rw [hid]; rfl, hexported, numberOrNull_numeric _, numberOrNull_numeric _,
        numberOrNull_numeric _, hsource, numberOrNull_numeric _⟩
  · refine ⟨⟨id, vertices, ratio, degrees, area, source, confidence⟩, ?_, ?_⟩
    · rw [RoofExport.decodeFacet, container_mapFacet, hpositions]
      simp only [bind, Except.bind]
      rw [decode_of_lookup rfl (by rw [hid]; rfl), decodeIfPresent_of_lookup rfl hdecoded,
        decodeIfPresent_of_lookup rfl hratio', decodeIfPresent_of_lookup rfl hdegrees',
        decodeIfPresent_of_lookup rfl harea', decodeIfPresent_of_lookup rfl hsource',
        decodeIfPresent_of_lookup rfl hconfidence']
      rfl
    · constructor
      · exact hid
      · rw [hpositions, hstored]
      · exact hratioRead
      · exact hdegreesRead
      · exact hareaRead
      · exact hsourceRead
      · exact hconfidenceRead

theorem container_mapFeature (feature : Json ℚ) :
  container (mapFeature feature) = .ok
    [("label", feature.get "label"),
     ("bboxNorm", .arr (Ruby.array (feature.get "bbox_norm"))),
     ("verified", feature.get "verified"),
     ("source", feature.get "source"),
     ("confidence", numeric (feature.get "confidence"))]
  := by
  have hkeys : ["label", "bbox_norm", "verified", "source", "confidence"].map
      convertFromSnakeCase = ["label", "bboxNorm", "verified", "source", "confidence"] := by
    decide +kernel
  simp only [List.map_cons, List.map_nil, List.cons.injEq, and_true] at hkeys
  simp only [mapFeature, container, List.map_cons, List.map_nil, hkeys]

/-- A feature of the pipeline contract is exported, and read as it is stored. -/
theorem decodeFeature_mapFeature [FormatAssertion] {feature : Json ℚ}
    (h : PipelineSchema.feature feature = true) :
  JsonExportSchema.feature (mapFeature feature) = true ∧
    ∃ read, RoofExport.decodeFeature (mapFeature feature) = .ok read ∧ ReadsFeature feature read
  := by
  have hlabel : types [.string] (feature.get "label") = true :=
    accepts_of_allOf (accepts_get_of_required h (by simp; rfl) (by simp)) List.mem_cons_self
  have hbbox : allOf [types [.array], minItems 4, maxItems 4,
      items (allOf [types [.number], minimum 0, maximum 1])] (feature.get "bbox_norm") = true :=
    accepts_get_of_required h (by simp) (by simp)
  have hverified : types [.boolean] (feature.get "verified") = true :=
    accepts_get_of_required h (by simp) (by simp)
  have hsource : JsonExportSchema.stringOrNull (feature.get "source") = true :=
    source_read (accepts_get_of_required h (by simp) (by simp))
  have hconfidence : JsonExportSchema.numberOrNull (feature.get "confidence") = true :=
    confidence_read (accepts_get_of_required h (by simp) (by simp))
  obtain ⟨label, hlabel'⟩ := exists_str hlabel
  obtain ⟨verified, hverified'⟩ : ∃ b, feature.get "verified" = .bool b := by
    cases hget : feature.get "verified" with
    | bool b => exact ⟨b, rfl⟩
    | _ =>
        rw [hget] at hverified
        cases hverified
  obtain ⟨bbox, hbbox'⟩ : ∃ bbox : List ℚ, feature.get "bbox_norm" = .arr (bbox.map .num) := by
    have hnumbers := accepts_of_allOf hbbox
      (s := items (allOf [types [.number], minimum 0, maximum 1])) (by simp)
    cases hget : feature.get "bbox_norm" with
    | arr elements =>
        rw [hget] at hnumbers
        have hitems : items (types [.number]) (.arr elements) = true :=
          List.all_eq_true.mpr fun element helement => accepts_of_allOf
            (List.all_eq_true.mp hnumbers element helement) List.mem_cons_self
        obtain ⟨bbox, rfl⟩ := exists_numbers hitems
        exact ⟨bbox, rfl⟩
    | _ =>
        rw [hget] at hbbox
        cases hbbox
  obtain ⟨source, hsource', hsourceRead⟩ := optional_string hsource
  obtain ⟨confidence, hconfidence', hconfidenceRead⟩ := optional_number hconfidence
  rw [← numeric_of_numberOrNull hconfidence] at hconfidence'
  constructor
  · apply closedObject_of_forall
    · rfl
    · decide
    · decide
    · have hexported : allOf [types [.array], minItems 4, maxItems 4,
          items JsonExportSchema.number] (.arr (Ruby.array (feature.get "bbox_norm"))) = true := by
        rw [hbbox'] at hbbox ⊢
        simp only [Ruby.array, allOf, List.all_cons, List.all_nil, Bool.and_eq_true] at hbbox ⊢
        refine ⟨hbbox.1, hbbox.2.1, hbbox.2.2.1, ?_, trivial⟩
        exact accepts_of_allOf (accepts_array (s := JsonExportSchema.number) (f := Json.num)
          fun _ _ => rfl) (by simp)
      exact ⟨hlabel, hexported, hverified, hsource, numberOrNull_numeric _⟩
  · refine ⟨⟨label, bbox, verified, source, confidence⟩, ?_, ?_⟩
    · have hbboxRead : array number (.arr (Ruby.array (feature.get "bbox_norm"))) = .ok bbox := by
        rw [hbbox']
        exact array_number bbox
      rw [RoofExport.decodeFeature, container_mapFeature]
      simp only [bind, Except.bind]
      rw [decode_of_lookup rfl (by rw [hlabel']; rfl), decode_of_lookup rfl hbboxRead,
        decode_of_lookup rfl (by rw [hverified']; rfl), decodeIfPresent_of_lookup rfl hsource',
        decodeIfPresent_of_lookup rfl hconfidence']
      rfl
    · constructor
      · exact hlabel'
      · exact hbbox'
      · exact hverified'
      · exact hsourceRead
      · exact hconfidenceRead

/-! ### The geocode -/

/-- The geocode is that of the row, or there is none. -/
def ReadsGeocode (stored : Json ℚ) : Option RoofExport.Geocode → Prop
  | none => stored = .null
  | some geocode =>
      stored.get "lat" = numberOr geocode.lat ∧ stored.get "lon" = numberOr geocode.lng ∧
        stored.get "confidence" = numberOr geocode.confidence

theorem accepts_nullableObject {ps : List (String × Schema)} {req : List String}
    {j : Json ℚ} (h : closedObject ps req j = true) :
  JsonExportSchema.nullableObject ps req j = true
  := by
  obtain ⟨members, rfl⟩ := eq_obj_of_closedObject h
  exact h

/-- An address of the pipeline contract is exported, and read as it is stored. -/
theorem decodeGeocode_mapGeocode [FormatAssertion] {geocode : Json ℚ}
    (h : geocode = .null ∨ PipelineSchema.address geocode = true) :
  JsonExportSchema.geocode (mapGeocode geocode) = true ∧
    ∃ read, Optional RoofExport.decodeGeocode (mapGeocode geocode) read ∧
      ReadsGeocode geocode read
  := by
  rcases h with rfl | h
  · exact ⟨rfl, none, .inl ⟨rfl, rfl⟩, rfl⟩
  · have hlat : JsonExportSchema.numberOrNull (geocode.get "lat") = true :=
      numberOrNull_of_allOf List.mem_cons_self (accepts_get h (by simp; rfl))
    have hlon : JsonExportSchema.numberOrNull (geocode.get "lon") = true :=
      numberOrNull_of_allOf List.mem_cons_self (accepts_get h (by simp; rfl))
    have hconfidence : JsonExportSchema.numberOrNull (geocode.get "confidence") = true := by
      have hdeclared : PipelineSchema.confidence (geocode.get "confidence") = true ∨
          geocode.get "confidence" = .null := accepts_get h (by simp)
      rcases hdeclared with hread | hnull
      · exact confidence_read hread
      · rw [hnull]
        rfl
    have hmapped : mapGeocode geocode = .obj
        [("lat", numeric (geocode.get "lat")), ("lng", numeric (geocode.get "lon")),
         ("confidence", numeric (geocode.get "confidence"))] := by
      obtain ⟨members, rfl⟩ := eq_obj_of_closedObject h
      cases members with
      | nil => cases h
      | cons => rfl
    obtain ⟨lat, hlat', hlatRead⟩ := optional_number hlat
    obtain ⟨lng, hlng', hlngRead⟩ := optional_number hlon
    obtain ⟨confidence, hconfidence', hconfidenceRead⟩ := optional_number hconfidence
    rw [hmapped, numeric_of_numberOrNull hlat, numeric_of_numberOrNull hlon,
      numeric_of_numberOrNull hconfidence]
    constructor
    · apply accepts_nullableObject
      apply closedObject_of_forall
      · rfl
      · decide
      · decide
      · exact ⟨hlat, hlon, hconfidence⟩
    · refine ⟨some ⟨lat, lng, confidence⟩, .inr ⟨?_, _, ?_, rfl⟩,
        hlatRead, hlngRead, hconfidenceRead⟩
      · rintro ⟨⟩
      · have hkeys : ["lat", "lng", "confidence"].map convertFromSnakeCase =
            ["lat", "lng", "confidence"] := by
          decide +kernel
        simp only [List.map_cons, List.map_nil, List.cons.injEq, and_true] at hkeys
        simp only [RoofExport.decodeGeocode, container, List.map_cons, List.map_nil, hkeys, bind,
          Except.bind]
        rw [decodeIfPresent_of_lookup rfl hlat', decodeIfPresent_of_lookup rfl hlng',
          decodeIfPresent_of_lookup rfl hconfidence']
        rfl

/-! ### Links and dates -/

section Phones

variable [Foundation]

/-- A link that the phone can open, or none. -/
def Link (j : Json ℚ) : Prop :=
  JsonExportSchema.stringOrNull j = true ∧ ∀ t, j = .str t → Foundation.isURL t = true

theorem optional_url {j : Json ℚ} (h : Link j) :
  ∃ t, Optional RoofExport.url j t ∧ j = textOr t
  := by
  obtain ⟨hstring, hurl⟩ := h
  cases j with
  | null => exact ⟨none, .inl ⟨rfl, rfl⟩, rfl⟩
  | str t =>
      refine ⟨some t, .inr ⟨?_, t, ?_, rfl⟩, rfl⟩
      · rintro ⟨⟩
      · simp only [RoofExport.url, string, bind, Except.bind, hurl t rfl, if_true]
        rfl
  | _ => cases hstring

/-- A text that the second of the formatters can read is a date. -/
theorem date_str {t : String} (h : (Foundation.wholeSecondsDate t).isSome = true) :
  ∃ time, RoofExport.date (.str t) = .ok time
  := by
  obtain ⟨whole, hwhole⟩ := Option.isSome_iff_exists.mp h
  cases hfractional : Foundation.fractionalDate t with
  | some time =>
      use time
      simp only [RoofExport.date, string, bind, Except.bind, hfractional]
      rfl
  | none =>
      use whole
      simp only [RoofExport.date, string, bind, Except.bind, hfractional, hwhole]
      rfl

/-- The links of a visualization. -/
structure Linked (viz : Json ℚ) : Prop where
  photo : Link (viz.get "photo_url")
  composite : Link (viz.get "composite_url")
  overlaySvg : Link (viz.get "overlay_svg_url")

structure ReadsVisualization (viz : Json ℚ) (read : RoofExport.OnSiteVisualization) : Prop where
  photoURL : viz.get "photo_url" = textOr read.photoURL
  compositeURL : viz.get "composite_url" = textOr read.compositeURL
  overlaySVGURL : viz.get "overlay_svg_url" = textOr read.overlaySVGURL
  poseConfidence : numeric (viz.get "pose_confidence") = numberOr read.poseConfidence

/-- A visualization with links is exported, and read. -/
theorem decode_mapVisualization {viz : Json ℚ} (h : Linked viz) :
  JsonExportSchema.onSiteVisualization (mapVisualization viz) = true ∧
    ∃ read, RoofExport.decodeOnSiteVisualization (mapVisualization viz) = .ok read ∧
      ReadsVisualization viz read
  := by
  obtain ⟨photo, hphoto, hphotoRead⟩ := optional_url h.photo
  obtain ⟨composite, hcomposite, hcompositeRead⟩ := optional_url h.composite
  obtain ⟨overlay, hoverlay, hoverlayRead⟩ := optional_url h.overlaySvg
  obtain ⟨confidence, hconfidence, hconfidenceRead⟩ :=
    optional_number (numberOrNull_numeric (viz.get "pose_confidence"))
  constructor
  · apply closedObject_of_forall
    · rfl
    · decide
    · decide
    · exact ⟨h.photo.1, h.composite.1, h.overlaySvg.1, numberOrNull_numeric _⟩
  · refine ⟨⟨photo, composite, overlay, confidence⟩, ?_, hphotoRead, hcompositeRead, hoverlayRead,
      hconfidenceRead⟩
    have hkeys : ["photo_url", "composite_url", "overlay_svg_url", "pose_confidence"].map
        convertFromSnakeCase = ["photoUrl", "compositeUrl", "overlaySvgUrl", "poseConfidence"] := by
      decide +kernel
    simp only [List.map_cons, List.map_nil, List.cons.injEq, and_true] at hkeys
    simp only [RoofExport.decodeOnSiteVisualization, mapVisualization, container, List.map_cons,
      List.map_nil, hkeys, bind, Except.bind]
    rw [decodeIfPresent_of_lookup rfl hphoto, decodeIfPresent_of_lookup rfl hcomposite,
      decodeIfPresent_of_lookup rfl hoverlay, decodeIfPresent_of_lookup rfl hconfidence]
    rfl

end Phones

/-! ### The provenance -/

/-- What is found in a slice whose keys are renamed. -/
theorem lookup_slice (f : String → String) (key : String) (j : Json ℚ) :
    ∀ keys : List String, (∀ k ∈ keys, f k = f key → k = key) →
      ((slice j keys).map fun m => (f m.1, m.2)).lookup (f key)
        = if key ∈ keys then j.member? key else none
  | [], _ => rfl
  | k :: keys, hinjective => by
      have ih := lookup_slice f key j keys
        fun k' hk' => hinjective k' (List.mem_cons_of_mem _ hk')
      simp only [slice] at ih ⊢
      by_cases hk : k = key
      · subst hk
        cases hmember : j.member? k with
        | none => simp [hmember, ih]
        | some v => simp [hmember]
      · have hne : (f key == f k) = false := by
          rw [beq_eq_false_iff_ne]
          exact fun heq => hk (hinjective k List.mem_cons_self heq.symm)
        have hmem : key ∈ k :: keys ↔ key ∈ keys := by
          rw [List.mem_cons, or_iff_right (Ne.symm hk)]
        cases hmember : j.member? k with
        | none => simp [hmember, ih, Ne.symm hk]
        | some v => simp [hmember, List.lookup_cons, hne, ih, Ne.symm hk]

theorem getD_member? (j : Json ℚ) (key : String) :
  (j.member? key).getD .null = j.get key
  := by
  cases j <;> rfl

/-- A member that is sliced is found under its key. -/
theorem getD_lookup_slice {key : String} (j : Json ℚ) (hkey : key ∈ provenanceKeys) :
  ((slice j provenanceKeys).lookup key).getD .null = j.get key
  := by
  have hslice := lookup_slice id key j provenanceKeys fun _ _ heq => heq
  rw [show (fun m : String × Json ℚ => (id m.1, m.2)) = id from rfl, List.map_id,
    if_pos hkey] at hslice
  exact (congrArg (·.getD .null) hslice).trans (getD_member? j key)

/-- A member that is sliced is found under its converted key. -/
theorem getD_lookup_converted {key name : String} (j : Json ℚ) (hkey : key ∈ provenanceKeys)
    (hname : convertFromSnakeCase key = name) :
  ((((slice j provenanceKeys).map fun m => (convertFromSnakeCase m.1, m.2)).lookup name).getD .null)
    = j.get key
  := by
  have hinjective : ∀ k ∈ provenanceKeys, ∀ k' ∈ provenanceKeys,
      convertFromSnakeCase k = convertFromSnakeCase k' → k = k' := by
    decide +kernel
  rw [← hname, lookup_slice _ key j _ fun k hk => hinjective k hk key hkey, if_pos hkey,
    getD_member?]

/-- What is read of a provenance, or of none, is what is stored. -/
structure ReadsProvenance (stored : Json ℚ) (read : Option RoofExport.Provenance) : Prop where
  attributions : stored.get "attributions" = (read.bind (·.attributions)).getD .null
  retrievedAt : stored.get "retrieved_at" = (read.bind (·.retrievedAt)).getD .null
  detector : stored.get "detector" = textOr (read.bind (·.detector))
  sam2Backend : stored.get "sam2_backend" = textOr (read.bind (·.sam2Backend))
  lidarWorkUnit : stored.get "lidar_work_unit" = (read.bind (·.lidarWorkUnit)).getD .null
  pipelineSchemaVersion : stored.get "pipeline_schema_version"
    = textOr (read.bind (·.pipelineSchemaVersion))
  generatedAt : stored.get "generated_at" = (read.bind (·.generatedAt)).getD .null

/-- A provenance whose members are as the export contract has them. -/
structure Documented (provenance : Json ℚ) : Prop where
  hash : provenance = .null ∨ Ruby.isHash provenance = true
  detector : JsonExportSchema.stringOrNull (provenance.get "detector") = true
  sam2Backend : JsonExportSchema.stringOrNull (provenance.get "sam2_backend") = true
  pipelineSchemaVersion :
    JsonExportSchema.stringOrNull (provenance.get "pipeline_schema_version") = true
  generatedAt : JsonExportSchema.stringOrNull (provenance.get "generated_at") = true

theorem optional_jsonValue (j : Json ℚ) :
  ∃ v, Optional RoofExport.jsonValue j v ∧ j = v.getD .null
  := by
  by_cases hj : j = .null
  · exact ⟨none, .inl ⟨hj, rfl⟩, hj⟩
  · exact ⟨some j, .inr ⟨hj, j, rfl, rfl⟩, rfl⟩

/-- The slice of a provenance is accepted, and read as it is stored. -/
theorem decodeProvenance_slice {provenance : Json ℚ} (h : Documented provenance) :
  JsonExportSchema.provenance (.obj (slice provenance provenanceKeys)) = true ∧
    ∃ read, RoofExport.decodeProvenance (.obj (slice provenance provenanceKeys)) = .ok read ∧
      ReadsProvenance provenance (some read)
  := by
  constructor
  · have hmember : ∀ key ∈ provenanceKeys,
        JsonExportSchema.stringOrNull (provenance.get key) = true →
        (((slice provenance provenanceKeys).lookup key).map JsonExportSchema.stringOrNull).getD true
          = true := by
      intro key hkey hstring
      rw [← getD_lookup_slice provenance hkey] at hstring
      cases hlookup : (slice provenance provenanceKeys).lookup key with
      | none => rfl
      | some v =>
          rw [hlookup] at hstring
          exact hstring
    simp only [JsonExportSchema.provenance, allOf, properties, List.all_cons, List.all_nil,
      Bool.and_true, Bool.and_eq_true]
    exact ⟨rfl, hmember _ (by decide) h.detector, hmember _ (by decide) h.sam2Backend,
      hmember _ (by decide) h.pipelineSchemaVersion, hmember _ (by decide) h.generatedAt⟩
  · obtain ⟨attributions, hattributions, hattributionsRead⟩ :=
      optional_jsonValue (provenance.get "attributions")
    obtain ⟨retrievedAt, hretrievedAt, hretrievedAtRead⟩ :=
      optional_jsonValue (provenance.get "retrieved_at")
    obtain ⟨detector, hdetector, hdetectorRead⟩ := optional_string h.detector
    obtain ⟨backend, hbackend, hbackendRead⟩ := optional_string h.sam2Backend
    obtain ⟨workUnit, hworkUnit, hworkUnitRead⟩ :=
      optional_jsonValue (provenance.get "lidar_work_unit")
    obtain ⟨version, hversion, hversionRead⟩ := optional_string h.pipelineSchemaVersion
    obtain ⟨generatedAt, hgeneratedAt, hgeneratedAtRead⟩ :=
      optional_jsonValue (provenance.get "generated_at")
    refine ⟨⟨attributions, retrievedAt, detector, backend, workUnit, version, generatedAt⟩, ?_,
      hattributionsRead, hretrievedAtRead, hdetectorRead, hbackendRead, hworkUnitRead, hversionRead,
      hgeneratedAtRead⟩
    have hkey : ∀ {key name : String}, key ∈ provenanceKeys → convertFromSnakeCase key = name →
        ((((slice provenance provenanceKeys).map
          fun m => (convertFromSnakeCase m.1, m.2)).lookup name).getD .null) = provenance.get key :=
      fun hkey hname => getD_lookup_converted provenance hkey hname
    simp only [RoofExport.decodeProvenance, container, bind, Except.bind]
    rw [decodeIfPresent_of_getD (hkey (by decide) (by decide +kernel)) hattributions,
      decodeIfPresent_of_getD (hkey (by decide) (by decide +kernel)) hretrievedAt,
      decodeIfPresent_of_getD (hkey (by decide) (by decide +kernel)) hdetector,
      decodeIfPresent_of_getD (hkey (by decide) (by decide +kernel)) hbackend,
      decodeIfPresent_of_getD (hkey (by decide) (by decide +kernel)) hworkUnit,
      decodeIfPresent_of_getD (hkey (by decide) (by decide +kernel)) hversion,
      decodeIfPresent_of_getD (hkey (by decide) (by decide +kernel)) hgeneratedAt]
    rfl

/-- A provenance of which nothing is exported has nothing that is read. -/
theorem readsProvenance_none {provenance : Json ℚ}
    (h : ∀ key ∈ provenanceKeys, provenance.get key = .null) :
  ReadsProvenance provenance none
  := by
  constructor
  · exact h _ (by decide)
  · exact h _ (by decide)
  · exact h _ (by decide)
  · exact h _ (by decide)
  · exact h _ (by decide)
  · exact h _ (by decide)
  · exact h _ (by decide)

/-- A provenance is exported, and read as it is stored. -/
theorem decodeProvenance_mapProvenance {provenance : Json ℚ} (h : Documented provenance) :
  JsonExportSchema.provenance (mapProvenance provenance) = true ∧
    ∃ read, Optional RoofExport.decodeProvenance (mapProvenance provenance) read ∧
      ReadsProvenance provenance read
  := by
  have hnone : mapProvenance provenance = .null →
      (∀ key ∈ provenanceKeys, provenance.get key = .null) →
      JsonExportSchema.provenance (mapProvenance provenance) = true ∧
        ∃ read, Optional RoofExport.decodeProvenance (mapProvenance provenance) read ∧
          ReadsProvenance provenance read := by
    intro hmapped hnull
    rw [hmapped]
    exact ⟨rfl, none, .inl ⟨rfl, rfl⟩, readsProvenance_none hnull⟩
  cases hblank : blank provenance with
  | true =>
      apply hnone
      · rw [mapProvenance, if_pos hblank]
      · intro key _
        rcases h.hash with rfl | hhash
        · rfl
        · cases provenance with
          | obj members =>
              rw [List.isEmpty_iff.mp hblank]
              rfl
          | _ => cases hhash
  | false =>
      cases hempty : (slice provenance provenanceKeys).isEmpty with
      | true =>
          apply hnone
          · simp only [mapProvenance, hblank, Bool.false_eq_true, if_false, Ruby.presence, hempty,
              if_true]
          · intro key hkey
            rw [← getD_lookup_slice provenance hkey, List.isEmpty_iff.mp hempty]
            rfl
      | false =>
          obtain ⟨haccepted, read, hdecoded, hread⟩ := decodeProvenance_slice h
          simp only [mapProvenance, hblank, Bool.false_eq_true, if_false, Ruby.presence, hempty]
          refine ⟨haccepted, some read, .inr ⟨?_, read, hdecoded, rfl⟩, hread⟩
          rintro ⟨⟩

/-! ### The document -/

/-- The documents of a measurement are as the pipeline contract has them. -/
structure Stored [FormatAssertion] (m : MeasurementAttributes) : Prop where
  facets : ∀ facet ∈ m.facets, PipelineSchema.facet facet = true
  features : ∀ feature ∈ m.features, PipelineSchema.feature feature = true
  warnings : ∀ warning ∈ m.warnings, ∃ t, warning = .str t
  geocode : m.geocode = .null ∨ PipelineSchema.address m.geocode = true
  provenance : Documented m.provenance

section Documents

variable [Platform] [Foundation]

/-- What is read of a measurement is what is stored. -/
structure ReadsMeasurement (visualizations : List (Json ℚ)) (m : MeasurementAttributes)
    (read : RoofExport.Measurement) : Prop where
  generatedAt : ∃ time, RoofExport.date (.str (Platform.iso8601 m.generatedAt)) = .ok time ∧
    read.generatedAt = some time
  source : read.source = some m.source
  confidence : read.confidence = some m.confidence
  totalAreaSqFt : numeric m.totalAreaSqFt = numberOr read.totalAreaSqFt
  totalPerimeterFt : numeric m.totalPerimeterFt = numberOr read.totalPerimeterFt
  predominantPitchRatio : numeric m.predominantPitchRatio = numberOr read.predominantPitchRatio
  warnings : m.warnings = read.warnings.map .str
  facets : List.Forall₂ ReadsFacet m.facets read.facets
  features : List.Forall₂ ReadsFeature m.features read.features
  geocode : ReadsGeocode m.geocode read.geocode
  onSiteVisualizations : List.Forall₂ ReadsVisualization visualizations read.onSiteVisualizations

variable {s : JobExportSerializer} (angle : ℚ → ℚ)

/-- The block of a measurement is accepted, and read as it is stored. -/
theorem decodeMeasurement_block [FormatAssertion] {m : Rails.Measurement}
    (hm : s.measurement = some m) (hstored : Stored m.toMeasurementAttributes)
    (hdate : (Foundation.wholeSecondsDate (Platform.iso8601 m.generatedAt)).isSome = true)
    (hlinked : ∀ viz ∈ s.visualizations, Linked viz) :
  JsonExportSchema.measurement (s.measurementBlock angle) = true ∧
    ∃ read, Optional RoofExport.decodeMeasurement (s.measurementBlock angle) (some read) ∧
      ReadsMeasurement s.visualizations m.toMeasurementAttributes read
  := by
  obtain ⟨time, htime⟩ := date_str hdate
  obtain ⟨area, harea, hareaRead⟩ := optional_number (numberOrNull_numeric m.totalAreaSqFt)
  obtain ⟨perimeter, hperimeter, hperimeterRead⟩ :=
    optional_number (numberOrNull_numeric m.totalPerimeterFt)
  obtain ⟨ratio, hratio, hratioRead⟩ :=
    optional_number (numberOrNull_numeric m.predominantPitchRatio)
  have hangle : JsonExportSchema.numberOrNull
      (degreesFromRatio angle (numeric m.predominantPitchRatio)) = true := by
    unfold degreesFromRatio
    split <;> rfl
  obtain ⟨degrees, hdegrees, -⟩ := optional_number hangle
  have hwarning : ∀ warning ∈ m.warnings, ∃ t, string (id warning) = .ok t ∧ warning = .str t := by
    intro warning hwarning
    obtain ⟨t, rfl⟩ := hstored.warnings warning hwarning
    exact ⟨t, rfl, rfl⟩
  obtain ⟨warnings, hwarnings, hwarningsRead⟩ := optional_array hwarning
  have hfacet := fun facet hfacet => decodeFacet_mapFacet (hstored.facets facet hfacet)
  obtain ⟨facets, hfacets, hfacetsRead⟩ := optional_array fun facet h => (hfacet facet h).2
  have hfeature := fun feature hfeature =>
    decodeFeature_mapFeature (hstored.features feature hfeature)
  obtain ⟨features, hfeatures, hfeaturesRead⟩ :=
    optional_array fun feature h => (hfeature feature h).2
  obtain ⟨hgeocode, geocode, hgeocode', hgeocodeRead⟩ := decodeGeocode_mapGeocode hstored.geocode
  have hviz := fun viz hviz => decode_mapVisualization (hlinked viz hviz)
  obtain ⟨visualizations, hvisualizations, hvisualizationsRead⟩ :=
    optional_array fun viz h => (hviz viz h).2
  rw [List.map_id] at hwarnings
  constructor
  · simp only [measurementBlock, hm]
    apply accepts_nullableObject
    apply closedObject_of_forall
    · rfl
    · decide
    · decide
    · have hwarningsAccepted : allOf [types [.array], items JsonExportSchema.string]
          (.arr m.warnings) = true := by
        rw [← List.map_id m.warnings]
        apply accepts_array
        intro warning hwarning
        obtain ⟨t, rfl⟩ := hstored.warnings warning hwarning
        rfl
      exact ⟨rfl, rfl, rfl, numberOrNull_numeric _, numberOrNull_numeric _, numberOrNull_numeric _,
        hangle, hwarningsAccepted, accepts_array fun facet h => (hfacet facet h).1,
        accepts_array fun feature h => (hfeature feature h).1, hgeocode,
        accepts_array fun viz h => (hviz viz h).1⟩
  · refine ⟨⟨some time, some m.source, some m.confidence, area, perimeter, ratio, degrees, warnings,
      facets, features, geocode, visualizations, none, none⟩, .inr ⟨?_, _, ?_, rfl⟩, ?_⟩
    · simp only [measurementBlock, hm]
      rintro ⟨⟩
    · have hkeys : ["generated_at", "source", "confidence", "total_area_sq_ft",
          "total_perimeter_ft", "predominant_pitch_ratio", "predominant_pitch_degrees", "warnings",
          "facets", "features", "geocode", "on_site_visualizations"].map convertFromSnakeCase =
          ["generatedAt", "source", "confidence", "totalAreaSqFt", "totalPerimeterFt",
            "predominantPitchRatio", "predominantPitchDegrees", "warnings", "facets", "features",
            "geocode", "onSiteVisualizations"] := by
        decide +kernel
      simp only [List.map_cons, List.map_nil, List.cons.injEq, and_true] at hkeys
      simp only [RoofExport.decodeMeasurement, measurementBlock, hm, container, List.map_cons,
        List.map_nil, hkeys, bind, Except.bind]
      rw [decodeIfPresent_of_lookup rfl (optional_of_ok (by rintro ⟨⟩) htime),
        decodeIfPresent_of_lookup rfl (optional_of_ok (a := m.source) (by rintro ⟨⟩) rfl),
        decodeIfPresent_of_lookup rfl (optional_of_ok (a := m.confidence) (by rintro ⟨⟩) rfl),
        decodeIfPresent_of_lookup rfl harea, decodeIfPresent_of_lookup rfl hperimeter,
        decodeIfPresent_of_lookup rfl hratio, decodeIfPresent_of_lookup rfl hdegrees,
        decodeIfPresent_of_lookup rfl hwarnings, decodeIfPresent_of_lookup rfl hfacets,
        decodeIfPresent_of_lookup rfl hfeatures, decodeIfPresent_of_lookup rfl hgeocode',
        decodeIfPresent_of_lookup rfl hvisualizations]
      rfl
    · constructor
      · exact ⟨time, htime, rfl⟩
      · rfl
      · rfl
      · exact hareaRead
      · exact hperimeterRead
      · exact hratioRead
      · rw [← List.forall₂_eq_eq_eq, List.forall₂_map_right_iff]
        exact hwarningsRead
      · exact hfacetsRead
      · exact hfeaturesRead
      · exact hgeocodeRead
      · exact hvisualizationsRead

/-- What is read of an export is what has been put into it. -/
structure Reads (s : JobExportSerializer) (job : JobRow) (read : RoofExport) : Prop where
  job : read.job = ⟨job.id, some job.address, job.status.rawValue⟩
  measurement : Option.Rel (fun m => ReadsMeasurement s.visualizations m.toMeasurementAttributes)
    s.measurement read.measurement
  provenance : ∀ m ∈ s.measurement, ReadsProvenance m.provenance read.provenance
  pdfURL : s.pdfUrl = textOr read.artifacts.pdfURL
  shareURL : s.shareUrl = textOr read.artifacts.shareURL
  lidarPointsURL : s.lidarPointsUrl = textOr read.artifacts.lidarPointsURL

/-- The links that the controller injects. -/
structure LinksOf (s : JobExportSerializer) : Prop where
  pdf : Link s.pdfUrl
  share : Link s.shareUrl
  lidarPoints : Link s.lidarPointsUrl
  visualizations : ∀ viz ∈ s.visualizations, Linked viz

theorem optional_measurementBlock [FormatAssertion]
    (hstored : ∀ m ∈ s.measurement, Stored m.toMeasurementAttributes)
    (hdate : ∀ m ∈ s.measurement,
      (Foundation.wholeSecondsDate (Platform.iso8601 m.generatedAt)).isSome = true)
    (hlinks : LinksOf s) :
  JsonExportSchema.measurement (s.measurementBlock angle) = true ∧
    ∃ read, Optional RoofExport.decodeMeasurement (s.measurementBlock angle) read ∧
      Option.Rel (fun m => ReadsMeasurement s.visualizations m.toMeasurementAttributes)
        s.measurement read
  := by
  cases hm : s.measurement with
  | none =>
      simp only [measurementBlock, hm]
      exact ⟨rfl, none, .inl ⟨rfl, rfl⟩, .none⟩
  | some m =>
      obtain ⟨haccepted, read, hdecoded, hread⟩ := decodeMeasurement_block angle hm
        (hstored m hm) (hdate m hm) hlinks.visualizations
      exact ⟨haccepted, some read, hdecoded, .some hread⟩

omit [Platform] [Foundation] in
theorem optional_provenanceBlock [FormatAssertion]
    (hstored : ∀ m ∈ s.measurement, Stored m.toMeasurementAttributes) :
  JsonExportSchema.provenance s.provenanceBlock = true ∧
    ∃ read, Optional RoofExport.decodeProvenance s.provenanceBlock read ∧
      ∀ m ∈ s.measurement, ReadsProvenance m.provenance read
  := by
  cases hm : s.measurement with
  | none =>
      simp only [provenanceBlock, hm]
      refine ⟨rfl, none, .inl ⟨rfl, rfl⟩, ?_⟩
      rintro m ⟨⟩
  | some m =>
      obtain ⟨haccepted, read, hdecoded, hread⟩ :=
        decodeProvenance_mapProvenance (hstored m hm).provenance
      simp only [provenanceBlock, hm]
      refine ⟨haccepted, read, hdecoded, ?_⟩
      rintro _ ⟨⟩
      exact hread

omit [Platform] in
/-- The block of the artifacts is accepted, and read. -/
theorem decodeArtifacts_block (hlinks : LinksOf s) :
  JsonExportSchema.artifacts s.artifactsBlock = true ∧
    ∃ read, RoofExport.decodeArtifacts s.artifactsBlock = .ok read ∧
      s.pdfUrl = textOr read.pdfURL ∧ s.shareUrl = textOr read.shareURL ∧
        s.lidarPointsUrl = textOr read.lidarPointsURL
  := by
  obtain ⟨pdf, hpdf, hpdfRead⟩ := optional_url hlinks.pdf
  obtain ⟨share, hshare, hshareRead⟩ := optional_url hlinks.share
  obtain ⟨lidarPoints, hlidarPoints, hlidarPointsRead⟩ := optional_url hlinks.lidarPoints
  constructor
  · apply closedObject_of_forall
    · rfl
    · decide
    · decide
    · exact ⟨hlinks.pdf.1, hlinks.share.1, hlinks.lidarPoints.1, rfl⟩
  · refine ⟨⟨pdf, share, lidarPoints, none⟩, ?_, hpdfRead, hshareRead, hlidarPointsRead⟩
    have hkeys : ["pdf_url", "share_url", "lidar_points_url", "model_3d_url"].map
        convertFromSnakeCase = ["pdfUrl", "shareUrl", "lidarPointsUrl", "model3DUrl"] := by
      decide +kernel
    simp only [List.map_cons, List.map_nil, List.cons.injEq, and_true] at hkeys
    simp only [RoofExport.decodeArtifacts, artifactsBlock, container, List.map_cons, List.map_nil,
      hkeys, bind, Except.bind]
    rw [decodeIfPresent_of_lookup rfl hpdf, decodeIfPresent_of_lookup rfl hshare,
      decodeIfPresent_of_lookup rfl hlidarPoints]
    rfl

omit [Platform] [Foundation] in
/-- The block of a job is accepted, and read as the row of the job. -/
theorem decodeJob_block {job : JobRow} (hjob : s.job = some job) :
  JsonExportSchema.job s.jobBlock = true ∧
    RoofExport.decodeJob s.jobBlock = .ok ⟨job.id, some job.address, job.status.rawValue⟩
  := by
  have hblock : s.jobBlock = .obj [("id", .str job.id), ("address", .str job.address),
      ("status", .str job.status.rawValue)] := by
    simp only [jobBlock, hjob]
    rfl
  rw [hblock]
  constructor
  · apply closedObject_of_forall
    · rfl
    · decide
    · decide
    · exact ⟨rfl, rfl, rfl⟩
  · have hkeys : ["id", "address", "status"].map convertFromSnakeCase =
        ["id", "address", "status"] := by
      decide +kernel
    simp only [List.map_cons, List.map_nil, List.cons.injEq, and_true] at hkeys
    simp only [RoofExport.decodeJob, container, List.map_cons, List.map_nil, hkeys, bind,
      Except.bind]
    rfl

/-- The export of a measurement that is stored as the pipeline contract has it is accepted by the
export contract, and the phone reads what has been put into it. -/
theorem decode_toH [FormatAssertion] {job : JobRow} (hjob : s.job = some job)
    (hstored : ∀ m ∈ s.measurement, Stored m.toMeasurementAttributes)
    (hdate : ∀ m ∈ s.measurement,
      (Foundation.wholeSecondsDate (Platform.iso8601 m.generatedAt)).isSome = true)
    (hlinks : LinksOf s) :
  JsonExportSchema.document (s.toH angle) = true ∧
    ∃ read, RoofExport.decode (s.toH angle) = .ok read ∧ Reads s job read
  := by
  obtain ⟨hjobAccepted, hjobDecoded⟩ := decodeJob_block hjob
  obtain ⟨hmeasurement, measurement, hmeasurementDecoded, hmeasurementRead⟩ :=
    optional_measurementBlock angle hstored hdate hlinks
  obtain ⟨hprovenance, provenance, hprovenanceDecoded, hprovenanceRead⟩ :=
    optional_provenanceBlock hstored
  obtain ⟨hartifacts, artifacts, hartifactsDecoded, hpdf, hshare, hlidarPoints⟩ :=
    decodeArtifacts_block hlinks
  constructor
  · apply closedObject_of_forall
    · rfl
    · decide
    · decide
    · exact ⟨rfl, hjobAccepted, hmeasurement, hprovenance, hartifacts⟩
  · refine ⟨⟨JsonExportSchema.version, _, measurement, provenance, artifacts⟩, ?_, rfl,
      hmeasurementRead, hprovenanceRead, hpdf, hshare, hlidarPoints⟩
    have hkeys : ["schema_version", "job", "measurement", "provenance", "artifacts"].map
        convertFromSnakeCase = ["schemaVersion", "job", "measurement", "provenance", "artifacts"] := by
      decide +kernel
    simp only [List.map_cons, List.map_nil, List.cons.injEq, and_true] at hkeys
    simp only [RoofExport.decode, toH, container, List.map_cons, List.map_nil, hkeys, bind,
      Except.bind]
    rw [decode_of_lookup rfl (a := JsonExportSchema.version) rfl,
      decode_of_lookup rfl hjobDecoded, decodeIfPresent_of_lookup rfl hmeasurementDecoded,
      decodeIfPresent_of_lookup rfl hprovenanceDecoded, decode_of_lookup rfl hartifactsDecoded]
    rfl

end Documents

end ExportRoundTrip

end Rails
