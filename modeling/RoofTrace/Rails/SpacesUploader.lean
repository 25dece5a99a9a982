import RoofTrace.Rails.CaptureBundle
import RoofTrace.Text.Paths

/-!
# Uploads to a local root

`SpacesUploader#put` with a local root: the prefix of the key is tested as it stands, the path is
cleaned below the root and has to stay there. The file is below the uploads directory, with the
name of the object, exactly when no name of a key that is written is empty or made of dots.
-/

namespace Rails

namespace CaptureBundle

namespace SpacesUploader

open Paths

/-- The names of a directory that `realpath` has resolved. -/
abbrev Directory : Type := { names : List Name // ∀ name ∈ names, Proper name ∧ '/' ∉ name }

/-- The file system: what a root resolves to, the directories that can be made, and the files that
can be opened for writing in them. -/
structure FileSystem where
  realpath : String → Option Directory
  mkdirs : List Name → Bool
  opens : List Name → Bool

/-- The source of a blob. -/
structure Body where
  bytes : List UInt8
  position : ℕ
  respondsToRewind : Bool
deriving DecidableEq

/-- What `IO.copy_stream` copies. -/
def Body.copied (body : Body) : List UInt8 :=
  if body.respondsToRewind then body.bytes else body.bytes.drop body.position

/-- What a put does. -/
inductive Effect where
  | mkdirP (directory : List Name)
  | write (path : List Name) (content : List UInt8)
  | putObject (bucket key : String) (body : Body) (contentType : String)
deriving DecidableEq

/-- `SpacesUploader`; `clientFailure` is what the client raises, when it does. -/
structure Uploader where
  localRoot : Option String
  bucket : String
  clientFailure : Option UploadExn

/-- Whether a path is the root or below it. -/
def staysUnder (root path : List Name) : Bool :=
  absolute path = absolute root || (absolute root ++ ['/']).isPrefixOf (absolute path)

/-- `write_local` -/
def writeLocal (fs : FileSystem) (localRoot key : String) (body : Body) :
    Except UploadExn Unit × List Effect :=
  match fs.realpath localRoot with
  | none => (.error (.other "Errno::ENOENT"), [])
  | some root =>
      if Char.ofNat 0 ∈ key.toList then (.error (.other "ArgumentError"), [])
      else
        let path := clean (below root.1 key.toList)
        if staysUnder root.1 path = false then
          (.error (.spacesUploader s!"object key escapes storage root: {key.quote}"), [])
        else if fs.mkdirs path.dropLast = false then (.error (.other "SystemCallError"), [])
        else if fs.opens path = false then
          (.error (.other "SystemCallError"), [.mkdirP path.dropLast])
        else (.ok (), [.mkdirP path.dropLast, .write path body.copied])

/-- `put` -/
def put (fs : FileSystem) (uploader : Uploader) (key : String) (body : Body)
    (contentType : String) : Except UploadExn String × List Effect :=
  match assertPrefix key with
  | some e => (.error e, [])
  | none =>
      match uploader.localRoot with
      | some localRoot =>
          let (result, effects) := writeLocal fs localRoot key body
          (result.map fun _ => key, effects)
      | none =>
          match uploader.clientFailure with
          | some e => (.error e, [])
          | none => (.ok key, [.putObject uploader.bucket key body contentType])

/-! ### The lock -/

/-- The name that a path below the root has as an object. -/
def objectName (root path : List Name) : Option (List Char) :=
  if root.isPrefixOf path then some (join (path.drop root.length)) else none

/-- What the lock promises of a put to a root: files are written below the uploads directory only, a
key that is accepted names its file, and nothing is written for a key that is rejected. -/
structure Locked (root : List Name) (key : String) (outcome : Except UploadExn String × List Effect) :
    Prop where
  inside : ∀ path content, .write path content ∈ outcome.2 →
    ∃ rest, rest ≠ [] ∧ path = root ++ "uploads".toList :: rest
  sameObject : outcome.1 = .ok key →
    ∃ path content, .write path content ∈ outcome.2 ∧ objectName root path = some key.toList
  notWritten : ∀ e, outcome.1 = .error e → ∀ path content, .write path content ∉ outcome.2
  rejected : ∀ message, outcome.1 = .error (.spacesUploader message) → outcome.2 = []

/-- A key that passes the tests of the uploader, and whose file can be opened. -/
structure Writable (fs : FileSystem) (root : Directory) (key : String) : Prop where
  allowed : assertPrefix key = none
  noNul : Char.ofNat 0 ∉ key.toList
  stays : staysUnder root.1 (clean (below root.1 key.toList)) = true
  mkdirs : fs.mkdirs (clean (below root.1 key.toList)).dropLast = true
  opens : fs.opens (clean (below root.1 key.toList)) = true

variable {fs : FileSystem} {uploader : Uploader} {localRoot : String} {root : Directory}

/-- A put to a root of a key with the prefix is the local write. -/
theorem put_eq_writeLocal {key : String} (hroot : uploader.localRoot = some localRoot)
    (hallowed : assertPrefix key = none) (body : Body) (contentType : String) :
  put fs uploader key body contentType =
    ((writeLocal fs localRoot key body).1.map fun _ => key, (writeLocal fs localRoot key body).2)
  := by
  simp only [put, hallowed, hroot]

/-- A key that is writable is written at its clean path. -/
theorem put_of_writable {key : String} (hroot : uploader.localRoot = some localRoot)
    (hresolved : fs.realpath localRoot = some root) (h : Writable fs root key) (body : Body)
    (contentType : String) :
  put fs uploader key body contentType =
    (.ok key, [.mkdirP (clean (below root.1 key.toList)).dropLast,
      .write (clean (below root.1 key.toList)) body.copied])
  := by
  rw [put_eq_writeLocal hroot h.allowed]
  simp only [writeLocal, hresolved, h.noNul, h.stays, h.mkdirs, h.opens, if_false, Bool.true_eq_false,
    Except.map]

/-- A key that is not writable is not written, and nothing is done for one that is rejected. -/
theorem put_of_not_writable {key : String} (hroot : uploader.localRoot = some localRoot)
    (hresolved : fs.realpath localRoot = some root) (h : ¬ Writable fs root key) (body : Body)
    (contentType : String) :
  ∃ e effects, put fs uploader key body contentType = (.error e, effects) ∧
    (∀ path content, .write path content ∉ effects) ∧
      ∀ message, e = .spacesUploader message → effects = []
  := by
  cases hallowed : assertPrefix key with
  | some e =>
      refine ⟨e, [], ?_, by simp, fun _ _ => rfl⟩
      simp only [put, hallowed]
  | none =>
      rw [put_eq_writeLocal hroot hallowed]
      simp only [writeLocal, hresolved]
      split_ifs with hnul hstays hmkdirs hopens
      · exact ⟨_, [], rfl, by simp, fun _ _ => rfl⟩
      · exact ⟨_, [], rfl, by simp, fun _ _ => rfl⟩
      · exact ⟨_, [], rfl, by simp, fun _ _ => rfl⟩
      · refine ⟨_, _, rfl, by simp, ?_⟩
        rintro message ⟨⟩
      · exact absurd ⟨hallowed, hnul, by simpa using hstays, by simpa using hmkdirs,
          by simpa using hopens⟩ h

/-! ### Names -/

/-- A key with the prefix has the uploads directory for its first name. -/
theorem split_of_allowed {key : String} (h : assertPrefix key = none) :
  ∃ rest, rest ≠ [] ∧ split key.toList = "uploads".toList :: rest
  := by
  unfold assertPrefix at h
  split_ifs at h with hblank hallowed
  obtain ⟨s, hs⟩ := List.isPrefixOf_iff_prefix.mp hallowed
  have hkey : key.toList = "uploads".toList ++ '/' :: s := hs.symm
  refine ⟨split s, split_ne_nil s, ?_⟩
  rw [hkey, split_append_cons]
  rfl

/-- The names of a path are those of the object that it is named after. -/
theorem proper_of_objectName {root path : List Name} {key : List Char}
    (hpath : ∀ name ∈ path, Proper name ∧ '/' ∉ name) (hkey : key ≠ [])
    (h : objectName root path = some key) :
  ∀ name ∈ split key, Proper name
  := by
  unfold objectName at h
  split_ifs at h
  have hjoin := Option.some.inj h
  have hmem : ∀ name ∈ path.drop root.length, Proper name ∧ '/' ∉ name :=
    fun name hname => hpath name (List.mem_of_mem_drop hname)
  have hne : path.drop root.length ≠ [] := by
    intro hnil
    rw [hnil] at hjoin
    exact hkey hjoin.symm
  rw [← hjoin, split_join hne fun name hname => (hmem name hname).2]
  exact fun name hname => (hmem name hname).1

theorem mem_clean {s : List Char} :
  ∀ name ∈ clean s, Proper name ∧ '/' ∉ name
  := by
  intro name hname
  exact ⟨proper_of_mem_clean name hname,
    not_mem_of_mem_split name (mem_split_of_mem_clean hname)⟩

/-- The uploads of a key are locked exactly when the key is not written, or each of its names stands
for itself: the prefix is looked for in the key as it is given, and the path that is written is the
cleaned one. -/
theorem locked_iff (hroot : uploader.localRoot = some localRoot)
    (hresolved : fs.realpath localRoot = some root) (key : String) (body : Body)
    (contentType : String) :
  Locked root.1 key (put fs uploader key body contentType) ↔
    (Writable fs root key → ∀ name ∈ split key.toList, Proper name)
  := by
  by_cases hwritable : Writable fs root key
  · rw [put_of_writable hroot hresolved hwritable]
    obtain ⟨rest, hrest, hsplit⟩ := split_of_allowed hwritable.allowed
    constructor
    · intro h _
      obtain ⟨path, content, hwrite, hname⟩ := h.sameObject rfl
      have hkey : key.toList ≠ [] := by
        intro hnil
        rw [hnil] at hsplit
        cases hsplit
      have hpath : path = clean (below root.1 key.toList) ∧ content = body.copied := by
        simpa using hwrite
      rw [hpath.1] at hname
      exact proper_of_objectName mem_clean hkey hname
    · intro h
      have hproper := h hwritable
      have hclean := clean_below root.2 hproper
      constructor
      · intro path content hwrite
        have hpath : path = clean (below root.1 key.toList) ∧ content = body.copied := by
          simpa using hwrite
        exact ⟨rest, hrest, by rw [hpath.1, hclean, hsplit]⟩
      · intro _
        refine ⟨_, _, List.mem_cons_of_mem _ List.mem_cons_self, ?_⟩
        have hbegins := List.isPrefixOf_iff_prefix.mpr
          (List.prefix_append root.1 (split key.toList))
        rw [objectName, hclean, if_pos hbegins, List.drop_left, join_split]
      · rintro e ⟨⟩
      · rintro message ⟨⟩
  · obtain ⟨e, effects, hput, hnone, hnothing⟩ :=
      put_of_not_writable hroot hresolved hwritable body contentType
    rw [hput]
    refine iff_of_true ⟨?_, ?_, fun _ _ => hnone, ?_⟩ fun h => absurd h hwritable
    · exact fun path content hwrite => absurd hwrite (hnone path content)
    · rintro ⟨⟩
    · rintro message ⟨⟩
      exact hnothing message rfl

/-! ### Keys -/

def dataDirectory : Directory := ⟨["data".toList, "rooftrace".toList], by decide⟩

/-- A file system where everything can be made and opened. -/
def dataRoot : FileSystem where
  realpath _ := some dataDirectory
  mkdirs _ := true
  opens _ := true

def localUploader : Uploader where
  localRoot := some "/data/rooftrace"
  bucket := "rooftrace"
  clientFailure := none

/-- A key of proper names. -/
theorem locked_proper_key :
  Locked dataDirectory.1 "uploads/7/photo.jpg"
    (put dataRoot localUploader "uploads/7/photo.jpg" ⟨[1], 0, true⟩ "image/jpeg")
  := by
  apply (locked_iff rfl rfl _ _ _).mpr
  intro _
  decide +kernel

/-- A key with two dots: it is accepted, and the file is below the cache. -/
theorem not_locked_dots :
  (put dataRoot localUploader "uploads/../cache/tile" ⟨[1], 0, true⟩ "image/jpeg").2 =
      [.mkdirP ["data".toList, "rooftrace".toList, "cache".toList],
        .write ["data".toList, "rooftrace".toList, "cache".toList, "tile".toList] [1]] ∧
    ¬ Locked dataDirectory.1 "uploads/../cache/tile"
      (put dataRoot localUploader "uploads/../cache/tile" ⟨[1], 0, true⟩ "image/jpeg")
  := by
  have hput : (put dataRoot localUploader "uploads/../cache/tile" ⟨[1], 0, true⟩ "image/jpeg").2 =
      [.mkdirP ["data".toList, "rooftrace".toList, "cache".toList],
        .write ["data".toList, "rooftrace".toList, "cache".toList, "tile".toList] [1]] := by
    decide +kernel
  refine ⟨hput, ?_⟩
  intro h
  obtain ⟨rest, -, hpath⟩ := h.inside
    ["data".toList, "rooftrace".toList, "cache".toList, "tile".toList] [1] (by rw [hput]; simp)
  have hname : some "cache".toList = some "uploads".toList := congrArg (·[2]?) hpath
  exact absurd hname (by decide)

end SpacesUploader

end CaptureBundle

end Rails
