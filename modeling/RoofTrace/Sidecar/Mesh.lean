import RoofTrace.Rigid.Transform

/-!
# Reading the capture mesh

`fuse_capture/mesh_io.py`: the vertices of a Wavefront OBJ file, given by its lines.
`float` is the reading of a number from a string; a line whose numbers it does not read is
skipped. `parseObj_eq` says what the loop returns: the vertices of the lines that hold one,
in their order.
-/

namespace Sidecar

variable {K : Type}

/-- The characters that `str.split` splits at. -/
def isSpace (c : Char) : Bool :=
  let n := c.toNat
  (0x09 ≤ n && n ≤ 0x0D) || (0x1C ≤ n && n ≤ 0x20) || n == 0x85 || n == 0xA0 || n == 0x1680 ||
    (0x2000 ≤ n && n ≤ 0x200A) || n == 0x2028 || n == 0x2029 || n == 0x202F || n == 0x205F ||
    n == 0x3000

/-- `line.split()` -/
def splitWords (line : String) : List String :=
  ((line.toList.splitOnP isSpace).filter (· ≠ [])).map String.ofList

/-- The vertex of a line `v x y z`, where there is one. -/
def parseVertex (float : String → Option K) (line : String) : Option (Vec3 K) :=
  if ['v', ' '].isPrefixOf line.toList then
    match splitWords line with
    | _ :: x :: y :: z :: _ => do
        let x ← float x
        let y ← float y
        let z ← float z
        return ![x, y, z]
    | _ => none
  else
    none

def maxVertices : ℕ := 5000000

/-- The loop of `parse_obj` over the lines that are left, with the vertices so far. -/
def parseLines (float : String → Option K) (vertices : List (Vec3 K)) :
    List String → Except String (List (Vec3 K))
  | [] => return vertices
  | line :: lines =>
      match parseVertex float line with
      | none => parseLines float vertices lines
      | some v =>
          let vertices := vertices ++ [v]
          if vertices.length > maxVertices then
            throw s!"OBJ exceeds the maximum of {maxVertices} vertices"
          else
            parseLines float vertices lines

/-- `parse_obj` -/
def parseObj (float : String → Option K) (lines : List String) :
    Except String (List (Vec3 K)) :=
  parseLines float [] lines

/-- The vertices that the lines of a file hold. -/
def objVertices (float : String → Option K) (lines : List String) : List (Vec3 K) :=
  lines.filterMap (parseVertex float)

theorem parseLines_eq (float : String → Option K) (lines : List String)
    (vertices : List (Vec3 K))
    (h : vertices.length + (objVertices float lines).length ≤ maxVertices) :
  parseLines float vertices lines = .ok (vertices ++ objVertices float lines)
  := by
  induction lines generalizing vertices with
  | nil => simp [parseLines, objVertices, pure, Except.pure]
  | cons line lines ih =>
      cases hv : parseVertex float line with
      | none =>
          have hrest : objVertices float (line :: lines) = objVertices float lines := by
            simp [objVertices, hv]
          rw [hrest] at h ⊢
          rw [parseLines, hv]
          apply ih vertices h
      | some v =>
          have hrest : objVertices float (line :: lines) = v :: objVertices float lines := by
            simp [objVertices, hv]
          rw [hrest] at h ⊢
          have hle : (vertices ++ [v]).length + (objVertices float lines).length
              ≤ maxVertices := by
            simp only [List.length_append, List.length_cons, List.length_nil] at h ⊢
            omega
          have hfit : ¬ (vertices ++ [v]).length > maxVertices := by omega
          simp only [parseLines, hv, hfit, if_false]
          rw [ih (vertices ++ [v]) hle, List.append_assoc]
          rfl

/-- A file within the limit is read to the vertices it holds. -/
theorem parseObj_eq (float : String → Option K) (lines : List String)
    (h : (objVertices float lines).length ≤ maxVertices) :
  parseObj float lines = .ok (objVertices float lines)
  := by
  rw [parseObj, parseLines_eq]
  · simp
  · simpa using h

end Sidecar
