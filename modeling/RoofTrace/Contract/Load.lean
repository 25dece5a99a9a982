import RoofTrace.Contract.Models

/-!
# Validation of JSON by the Pydantic models

`Load.load` reads a value of a model from JSON, and is `none` when the validation fails.
The models forbid undeclared fields, and an optional field that is absent is `None`.
Numbers are read strictly: the coercions from strings that Pydantic also performs never
come into play, since every body has passed the schema first.

What has been written out, with or without its null fields, loads to what it was.
-/

/-- Values that are read from JSON. -/
class Load (α : Type) where
  load : Json ℚ → Option α

export Load (load)

namespace Contract

open Schema

variable {α : Type} [Load α]

instance : Load String where
  load
    | .str s => some s
    | _ => none

instance : Load ℚ where
  load
    | .num q => some q
    | _ => none

instance : Load ℤ where
  load
    | .num q => if q.den = 1 then some q.num else none
    | _ => none

instance : Load ℕ where
  load j := (load j : Option ℤ).bind fun n => if 0 ≤ n then some n.toNat else none

instance : Load (List α) where
  load
    | .arr js => js.mapM load
    | _ => none

instance : Load (Option α) where
  load
    | .null => some none
    | j => (load j).map some

instance {p : α → Prop} [DecidablePred p] : Load { a : α // p a } where
  load j := (load j).bind fun a => if h : p a then some ⟨a, h⟩ else none

/-- A field without a default. -/
def loadField (j : Json ℚ) (name : String) : Option α :=
  (j.member? name).bind load

/-- A field whose default is `None`. -/
def loadOptional (j : Json ℚ) (name : String) : Option (Option α) :=
  match j.member? name with
  | none => some none
  | some v => load v

/-- Whether a value is an object without fields other than those named, as
`extra="forbid"` asks. -/
def onlyFields (j : Json ℚ) (names : List String) : Bool :=
  match j with
  | .obj members => members.all fun m => names.contains m.1
  | _ => false

instance : Load GeometrySource where
  load
    | .str "lidar" => some .lidar
    | .str "imagery" => some .imagery
    | .str "fusion" => some .fusion
    | .str "capture" => some .capture
    | .str "manual" => some .manual
    | _ => none

instance : Load LiDARStatus where
  load
    | .str "LIDAR_AVAILABLE" => some .available
    | .str "LIDAR_MISSING" => some .missing
    | _ => none

def Polygon.load (j : Json ℚ) : Option Polygon := do
  guard (onlyFields j ["type", "coordinates", "source", "confidence"])
  let type : String ← loadField j "type"
  guard (type = "Polygon")
  let coordinates ← loadField j "coordinates"
  let source ← loadOptional j "source"
  let confidence ← loadOptional j "confidence"
  return { coordinates, source, confidence }

instance : Load Polygon := ⟨Polygon.load⟩

def WorkUnit.load (j : Json ℚ) : Option WorkUnit := do
  guard (onlyFields j ["name", "year", "quality_level", "epsg"])
  let name ← loadField j "name"
  let year ← loadOptional j "year"
  let qualityLevel ← loadOptional j "quality_level"
  let epsg ← loadOptional j "epsg"
  return { name, year, qualityLevel, epsg }

instance : Load WorkUnit := ⟨WorkUnit.load⟩

def LiDARResult.load (j : Json ℚ) : Option LiDARResult := do
  guard (onlyFields j
    ["status", "point_array_ref", "point_count", "work_unit", "source", "confidence"])
  let status ← loadField j "status"
  let pointArrayRef ← loadOptional j "point_array_ref"
  let pointCount ← loadOptional j "point_count"
  let workUnit ← loadOptional j "work_unit"
  let source ← loadOptional j "source"
  let confidence ← loadOptional j "confidence"
  return { status, pointArrayRef, pointCount, workUnit, source, confidence }

instance : Load LiDARResult := ⟨LiDARResult.load⟩

/-- A schema version is not empty, `Field(min_length=1)`. -/
def loadVersion (j : Json ℚ) : Option String :=
  (loadField j "pipelineSchemaVersion").bind fun v => if v = "" then none else some v

def FuseCaptureRequest.load (j : Json ℚ) : Option FuseCaptureRequest := do
  guard (onlyFields j
    ["pipelineSchemaVersion", "job_id", "capture_mesh_ref", "lidar", "refined_polygon"])
  let pipelineSchemaVersion ← loadVersion j
  let jobId ← loadField j "job_id"
  let captureMeshRef ← loadField j "capture_mesh_ref"
  let lidar ← loadOptional j "lidar"
  let refinedPolygon ← loadOptional j "refined_polygon"
  return { pipelineSchemaVersion, jobId, captureMeshRef, lidar, refinedPolygon }

instance : Load FuseCaptureRequest := ⟨FuseCaptureRequest.load⟩

/-! ### Round trips -/

/-- Values that are never written as `null`, and are read back as they were written. -/
class Reloads (α : Type) [Dump α] [Load α] : Prop where
  dump_ne_null : ∀ (x : Bool) (a : α), dump x a ≠ .null
  load_dump : ∀ (x : Bool) (a : α), load (dump x a) = some a

export Reloads (dump_ne_null load_dump)

instance : Reloads String where
  dump_ne_null _ _ := by rintro ⟨⟩
  load_dump _ _ := rfl

instance : Reloads ℚ where
  dump_ne_null _ _ := by rintro ⟨⟩
  load_dump _ _ := rfl

instance : Reloads ℤ where
  dump_ne_null _ _ := by rintro ⟨⟩
  load_dump _ n := by simp [dump, load]

instance : Reloads ℕ where
  dump_ne_null _ _ := by rintro ⟨⟩
  load_dump _ n := by simp [dump, load]

variable [Dump α] [Reloads α]

instance : Reloads (List α) where
  dump_ne_null _ _ := by rintro ⟨⟩
  load_dump x as := by
    change (as.map (dump x)).mapM load = some as
    induction as with
    | nil => rfl
    | cons a as ih => simp [load_dump, ih]

instance {p : α → Prop} [DecidablePred p] : Reloads { a : α // p a } where
  dump_ne_null x a := dump_ne_null x a.val
  load_dump x a := by
    change (load (dump x a.val)).bind _ = some a
    simp [load_dump, a.property]

instance : Reloads GeometrySource where
  dump_ne_null _ _ := by rintro ⟨⟩
  load_dump _ s := by cases s <;> rfl

instance : Reloads LiDARStatus where
  dump_ne_null _ _ := by rintro ⟨⟩
  load_dump _ s := by cases s <;> rfl

/-- An optional value is read back as it was written. -/
theorem load_dump_option (x : Bool) (a : Option α) :
  load (dump x a) = some a
  := by
  cases a with
  | none => rfl
  | some a =>
      have hload := load_dump x a
      have hne := dump_ne_null x a
      change load (dump x a) = some (some a)
      cases h : dump x a with
      | null => apply (hne h).elim
      | _ =>
          rw [h] at hload
          change (load _).map some = some (some a)
          rw [hload]
          rfl

variable {x : Bool} {fields : List (String × Json ℚ)} {name : String}

theorem member?_dumpFields (hnodup : (fields.map Prod.fst).Nodup) {v : Json ℚ}
    (hmem : (name, v) ∈ fields) (hd : ¬ Dropped x v) :
  (dumpFields x fields).member? name = some v
  := by
  apply Json.lookup_of_mem
  · cases x with
    | false => simpa using hnodup
    | true => apply hnodup.sublist (List.filter_sublist.map _)
  · apply mem_dumpFields.mpr ⟨hmem, hd⟩

theorem member?_dumpFields_of_dropped (hnodup : (fields.map Prod.fst).Nodup) {v : Json ℚ}
    (hmem : (name, v) ∈ fields) (hd : Dropped x v) :
  (dumpFields x fields).member? name = none
  := by
  cases h : (dumpFields x fields).member? name with
  | none => rfl
  | some w =>
      obtain ⟨hmem', hd'⟩ := mem_dumpFields.mp (Json.mem_of_lookup h)
      have heq : v = w := by
        apply Option.some.inj
        rw [← Json.lookup_of_mem hnodup hmem, ← Json.lookup_of_mem hnodup hmem']
      apply (hd' (heq ▸ hd)).elim

theorem loadField_dumpFields (hnodup : (fields.map Prod.fst).Nodup) {a : α}
    (hmem : (name, dump x a) ∈ fields) :
  loadField (dumpFields x fields) name = some a
  := by
  have hd : ¬ Dropped x (dump x a) := fun h => dump_ne_null x a h.2
  rw [loadField, member?_dumpFields hnodup hmem hd]
  apply load_dump

theorem loadOptional_dumpFields (hnodup : (fields.map Prod.fst).Nodup) {a : Option α}
    (hmem : (name, dump x a) ∈ fields) :
  loadOptional (dumpFields x fields) name = some a
  := by
  by_cases hd : Dropped x (dump x a)
  · rw [loadOptional, member?_dumpFields_of_dropped hnodup hmem hd]
    cases a with
    | none => rfl
    | some a => apply (dump_ne_null x a hd.2).elim
  · rw [loadOptional, member?_dumpFields hnodup hmem hd]
    apply load_dump_option

theorem onlyFields_dumpFields {names : List String} (h : fields.map Prod.fst ⊆ names) :
  onlyFields (dumpFields x fields) names = true
  := by
  rw [dumpFields, onlyFields, List.all_eq_true]
  intro m hm
  rw [List.contains_iff_mem]
  apply h (List.mem_map_of_mem (mem_dumpFields.mp hm).1)

instance : Reloads Polygon where
  dump_ne_null _ _ := by rintro ⟨⟩
  load_dump x p := by
    have honly : onlyFields (dump x p) ["type", "coordinates", "source", "confidence"] = true :=
      onlyFields_dumpFields (by simp)
    have htype : loadField (dump x p) "type" = some "Polygon" :=
      loadField_dumpFields (by simp) (by simp [dump])
    have hcoordinates : loadField (dump x p) "coordinates" = some p.coordinates :=
      loadField_dumpFields (by simp) (by simp)
    have hsource : loadOptional (dump x p) "source" = some p.source :=
      loadOptional_dumpFields (by simp) (by simp)
    have hconfidence : loadOptional (dump x p) "confidence" = some p.confidence :=
      loadOptional_dumpFields (by simp) (by simp)
    change Polygon.load (dump x p) = some p
    simp [Polygon.load, honly, htype, hcoordinates, hsource, hconfidence]

instance : Reloads WorkUnit where
  dump_ne_null _ _ := by rintro ⟨⟩
  load_dump x u := by
    have honly : onlyFields (dump x u) ["name", "year", "quality_level", "epsg"] = true :=
      onlyFields_dumpFields (by simp)
    have hname : loadField (dump x u) "name" = some u.name :=
      loadField_dumpFields (by simp) (by simp)
    have hyear : loadOptional (dump x u) "year" = some u.year :=
      loadOptional_dumpFields (by simp) (by simp)
    have hquality : loadOptional (dump x u) "quality_level" = some u.qualityLevel :=
      loadOptional_dumpFields (by simp) (by simp)
    have hepsg : loadOptional (dump x u) "epsg" = some u.epsg :=
      loadOptional_dumpFields (by simp) (by simp)
    change WorkUnit.load (dump x u) = some u
    simp [WorkUnit.load, honly, hname, hyear, hquality, hepsg]

instance : Reloads LiDARResult where
  dump_ne_null _ _ := by rintro ⟨⟩
  load_dump x l := by
    have honly : onlyFields (dump x l)
        ["status", "point_array_ref", "point_count", "work_unit", "source", "confidence"]
          = true :=
      onlyFields_dumpFields (by simp)
    have hstatus : loadField (dump x l) "status" = some l.status :=
      loadField_dumpFields (by simp) (by simp)
    have hpoints : loadOptional (dump x l) "point_array_ref" = some l.pointArrayRef :=
      loadOptional_dumpFields (by simp) (by simp)
    have hcount : loadOptional (dump x l) "point_count" = some l.pointCount :=
      loadOptional_dumpFields (by simp) (by simp)
    have hunit : loadOptional (dump x l) "work_unit" = some l.workUnit :=
      loadOptional_dumpFields (by simp) (by simp)
    have hsource : loadOptional (dump x l) "source" = some l.source :=
      loadOptional_dumpFields (by simp) (by simp)
    have hconfidence : loadOptional (dump x l) "confidence" = some l.confidence :=
      loadOptional_dumpFields (by simp) (by simp)
    change LiDARResult.load (dump x l) = some l
    simp [LiDARResult.load, honly, hstatus, hpoints, hcount, hunit, hsource, hconfidence]

end Contract
