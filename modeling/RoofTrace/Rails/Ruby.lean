import RoofTrace.Numbers.Double
import RoofTrace.Numbers.Rounding
import RoofTrace.Rails.SidecarClient

/-!
# Ruby

What the application uses of Ruby: the classes and messages of exceptions, and the methods
of the values that JSON is parsed to. A `nil` is the JSON `null`, a Hash an object.
-/

namespace Rails

/-- The platform that the application runs on, with its configuration. -/
class Platform where
  /-- `Digest::SHA256.hexdigest` -/
  hexdigest : String → String
  /-- `Time#iso8601`, of a time in microseconds. -/
  iso8601 : ℕ → String
  /-- `to_s` -/
  toS : Json ℚ → String
  toS_str (s : String) : toS (.str s) = s
  sqrt : ℚ → ℚ
  /-- `FeatureDetector.detector_name` -/
  detectorName : String
  /-- The number in `PROJECTION_POSE_CONFIDENCE_MIN`, when there is one. -/
  poseConfidenceMin : Option Double

/-- A platform on which digests are the texts themselves, and no threshold is configured. -/
abbrev plainPlatform : Platform where
  hexdigest := id
  iso8601 := fun _ => "2026-01-01T00:00:00Z"
  toS := fun
    | .str s => s
    | _ => ""
  toS_str := fun _ => rfl
  sqrt := id
  detectorName := "openrouter:google/gemini-2.5-flash"
  poseConfidenceMin := none

/-- `e.class` -/
def SidecarErrorClass.name : SidecarErrorClass → String
  | .error => "SidecarClient::Error"
  | .authError => "SidecarClient::AuthError"
  | .timeoutError => "SidecarClient::TimeoutError"
  | .schemaError => "SidecarClient::SchemaError"
  | .schemaVersionMismatchError => "SidecarClient::SchemaVersionMismatchError"

namespace Exn

/-- `e.class` -/
def className : Exn → String
  | .sidecar c _ => c.name
  | .unknownEntity _ => "PipelineSchema::UnknownEntity"
  | .geometricFailure _ => "MeasurementOrchestrator::GeometricFailure"
  | .recordNotFound => "ActiveRecord::RecordNotFound"
  | .runtimeError _ => "RuntimeError"
  | .standardError c => c

/-- The exceptions that the orchestrator of a measurement expects. -/
def expected : Exn → Bool
  | .sidecar _ _ => true
  | .geometricFailure _ => true
  | _ => false

end Exn

namespace Ruby

/-- `Array(x)` -/
def array {K : Type} : Json K → List (Json K)
  | .null => []
  | .arr xs => xs
  | .obj members => members.map fun (name, v) => .arr [.str name, v]
  | x => [x]

/-- Whether a value counts as true. -/
def truthy {K : Type} : Json K → Bool
  | .null => false
  | .bool b => b
  | _ => true

/-- `x || y` -/
def or (x y : Json ℚ) : Json ℚ := if truthy x then x else y

/-- `list.first` -/
def first (xs : List (Json ℚ)) : Json ℚ := xs.headD .null

/-- `hash.fetch(key)` -/
def fetch (j : Json ℚ) (key : String) : Except Exn (Json ℚ) :=
  match j.member? key with
  | some v => .ok v
  | none => .error (.standardError "KeyError")

/-- `x.is_a?(Hash)` -/
def isHash {K : Type} : Json K → Bool
  | .obj _ => true
  | _ => false

/-- `x.to_f` -/
def toF : Json ℚ → ℚ
  | .num x => x
  | _ => 0

/-- `x.to_f.finite?`: an integer that is too large for a float becomes infinite. -/
def finite (x : ℚ) : Bool := |x| < 2 ^ 1024 - 2 ^ 970

/-- The text of a string. -/
def text : Json ℚ → String
  | .str s => s
  | _ => ""

/-- `hash.merge(other)` -/
def merge (j : Json ℚ) (members : List (String × Json ℚ)) : Json ℚ :=
  members.foldl (fun j m => j.set m.1 m.2) j

/-- `hash.compact` -/
def compact (members : List (String × Json ℚ)) : List (String × Json ℚ) :=
  members.filter fun m => !m.2.isNull

/-- `hash.presence` -/
def presence (members : List (String × Json ℚ)) : Json ℚ :=
  if members.isEmpty then .null else .obj members

/-- `x.clamp(lo, hi)` -/
def clamp (x lo hi : ℚ) : ℚ := if x < lo then lo else if hi < x then hi else x

/-- `x.round(4)` -/
def round4 (x : ℚ) : ℚ := Rounding.halfAway.digits 4 x

theorem le_clamp {x lo hi : ℚ} (h : lo ≤ hi) :
  lo ≤ clamp x lo hi
  := by
  rw [clamp]
  split_ifs with hlo hhi
  · exact le_refl lo
  · exact h
  · exact not_lt.mp hlo

theorem clamp_le {x lo hi : ℚ} (h : lo ≤ hi) :
  clamp x lo hi ≤ hi
  := by
  rw [clamp]
  split_ifs with hlo hhi
  · exact h
  · exact le_refl hi
  · exact not_lt.mp hhi

theorem clamp_mono {x y : ℚ} (lo : ℚ) {hi : ℚ} (h : lo ≤ hi) (hxy : x ≤ y) :
  clamp x lo hi ≤ clamp y lo hi
  := by
  simp only [clamp]
  split_ifs with hxlo hylo hyhi hylo hxhi hyhi hylo hyhi <;> linarith

/-- What an object is merged with leaves an object. -/
theorem merge_eq_obj (members rest : List (String × Json ℚ)) :
  ∃ members', merge (.obj members) rest = .obj members'
  := by
  induction rest generalizing members with
  | nil => exact ⟨members, rfl⟩
  | cons m rest ih =>
      have hset : ∃ members', (Json.obj members).set m.1 m.2 = .obj members' := by
        rw [Json.set]
        split_ifs
        · exact ⟨_, rfl⟩
        · exact ⟨_, rfl⟩
      obtain ⟨members', hmembers'⟩ := hset
      rw [merge, List.foldl_cons, hmembers']
      exact ih members'

/-- A member is kept that nothing is merged for. -/
theorem get_merge_of_not_mem {name : String} {members rest : List (String × Json ℚ)}
    (h : ∀ m ∈ rest, m.1 ≠ name) :
  (merge (.obj members) rest).get name = (Json.obj members).get name
  := by
  induction rest using List.reverseRecOn with
  | nil => rfl
  | append_singleton rest m ih =>
      obtain ⟨members', hmembers'⟩ := merge_eq_obj members rest
      rw [← ih fun n hn => h n (List.mem_append_left _ hn), merge, List.foldl_append]
      change ((merge (.obj members) rest).set m.1 m.2).get name = _
      rw [hmembers']
      apply Json.get_set_of_ne
      exact (h m (List.mem_append_right _ (List.mem_singleton_self m))).symm

/-- A member that is merged is found with its new value, when no later one replaces it. -/
theorem get_merge {name : String} {v : Json ℚ} (members first : List (String × Json ℚ))
    {rest : List (String × Json ℚ)} (h : ∀ m ∈ rest, m.1 ≠ name) :
  (merge (.obj members) (first ++ (name, v) :: rest)).get name = v
  := by
  obtain ⟨members', hmembers'⟩ := merge_eq_obj members first
  rw [merge, List.foldl_append, List.foldl_cons]
  change (merge ((merge (.obj members) first).set name v) rest).get name = v
  rw [hmembers']
  obtain ⟨members'', hmembers''⟩ := merge_eq_obj members' [(name, v)]
  change (Json.obj members').set name v = .obj members'' at hmembers''
  rw [hmembers'', get_merge_of_not_mem h, ← hmembers'', Json.get_set_self]

end Ruby

end Rails
