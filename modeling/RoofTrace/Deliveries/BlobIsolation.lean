import Mathlib.Data.Fintype.Sum
import Mathlib.Tactic.DeriveFintype
import RoofTrace.Rails.CaptureBundle

/-!
# Uploaded blobs

The objects of a capture session are stored under keys of its job, so that the sessions of a
job share them. `Isolated` says that everything the rows refer to is what was uploaded with
their session, and `Separates` that a request leaves it so.

A bundle is a partial function from the blobs that a manifest may name to objects, which
`uploadAll` puts under their keys. A request leaves the sessions apart exactly when it is
`Harmless`: what it stores for a job that has a session is what that session stored, and a
session it creates comes with every file that its manifest names.
-/

namespace Rails.CaptureBundle

open CaptureSessionsController Store

variable {Bytes : Type} [Documents Bytes]

/-! ### Isolation -/

/-- The keys that the rows of a session refer to. -/
def SessionRow.refs (session : SessionRow) : List String :=
  session.worldMeshRef ::
    session.captures.flatMap fun capture => capture.photoRef.toList ++ capture.depthRef.toList

/-- Whether an upload is one of the request that a session was persisted for. -/
def Ingested.Sent (held : Ingested Bytes) (upload : Upload Bytes) : Prop :=
  .ok upload ∈ Uploader.uploadAll held.session.jobId held.manifest held.params

/-- The manifest that a fusion of a job reads. -/
def World.sessionManifest (w : World Bytes) (jobId : String) : Option Document :=
  (w.objects s!"uploads/{jobId}/session.json").bind fun object => Documents.parse object.body

/-- The rows of a session refer to objects that were uploaded with it, and a fusion of the
session reads its manifest. -/
structure Ingested.Intact (held : Ingested Bytes) (w : World Bytes) : Prop where
  refs : ∀ ref ∈ held.session.refs,
    ∃ upload, held.Sent upload ∧ upload.key = ref ∧ w.objects ref = some upload.value
  manifest : w.sessionManifest held.session.jobId = some held.manifest.document

def Isolated (w : World Bytes) : Prop := ∀ held ∈ w.ingested, held.Intact w

/-- A request leaves the sessions isolated, and a rejected one leaves every object alone that
a session refers to. -/
structure Separates (w : World Bytes) (post : Post Bytes) : Prop where
  isolated : Isolated (create w post).1
  untouched : (create w post).2.Rejected → ∀ held ∈ w.ingested, ∀ ref ∈ held.session.refs,
    (create w post).1.objects ref = w.objects ref

/-- Whether `P` holds of every request of a sequence, in the world it meets. -/
def EachRequest (P : World Bytes → Post Bytes → Prop) : World Bytes → List (Post Bytes) → Prop
  | _, [] => True
  | w, post :: posts => P w post ∧ EachRequest P (create w post).1 posts

/-! ### Harmless requests -/

/-- The part that a file name of a manifest stands for. -/
def fileOf (params : Params Bytes) (filename : Document) : Option (Part Bytes) :=
  if blank filename then none
  else
    match basename filename with
    | .error _ => none
    | .ok partName => params partName

/-- Whether a request has a file for each that its manifest names. -/
structure Complete (manifest : Manifest Bytes) (params : Params Bytes) : Prop where
  worldMesh : (params "world_mesh").isSome
  file : ∀ capture ∈ manifest.captures, ∀ field ∈ ["photo_filename", "depth_filename"],
    Ruby.truthy (capture.get field) → (fileOf params (capture.get field)).isSome

/-- Whether a request that has passed its checks inserts a session: storage takes all of its
bundle, and its session is valid, new and saved. -/
def Creates (w : World Bytes) (post : Post Bytes) (manifest : Manifest Bytes) : Prop :=
  (uploaded post manifest).2 = none ∧
    ∃ session, CaptureSessionIngester.insertSession (World.sessions w) post.databaseFailure
      post.newId post.jobId manifest = .ok session

/-- What the request stores for a job with a session is what was stored for that session, and
a session it creates comes with all of its files. -/
structure Harmless (w : World Bytes) (post : Post Bytes) : Prop where
  resends : ∀ manifest, checked post = .ok manifest →
    ∀ held ∈ w.ingested, held.session.jobId = post.jobId →
      ∀ upload ∈ (uploaded post manifest).1, held.Sent upload
  complete : ∀ manifest, checked post = .ok manifest → Creates w post manifest →
    Complete manifest post.params

/-! ### Bundles -/

/-- What a valid manifest may name. -/
inductive Blob where
  | sessionJson
  | worldMesh
  | photo (i : Fin 8)
  | depth (i : Fin 8)
deriving DecidableEq, Fintype

namespace Blob

def basename : Blob → String
  | sessionJson => "session.json"
  | worldMesh => "arkit_mesh.obj"
  | photo i => s!"photo_{Ruby.format02d i}.jpg"
  | depth i => s!"depth_{Ruby.format02d i}.png"

/-- Different blobs have different names. -/
theorem basename_injective :
  Function.Injective basename
  := by
  have h : ∀ blob blob' : Blob, blob.basename = blob'.basename → blob = blob' := by
    decide +kernel
  exact fun blob blob' => h blob blob'

/-- The name of a blob has no slash. -/
theorem slash_notMem_basename (blob : Blob) :
  '/' ∉ blob.basename.toList
  := by
  have h : ∀ blob : Blob, '/' ∉ blob.basename.toList := by
    decide +kernel
  exact h blob

/-- What follows the last `a` of a list is told by the list. -/
theorem append_cons_inj_of_notMem {α : Type} {a : α} {xs xs' ys ys' : List α} (hys : a ∉ ys)
    (hys' : a ∉ ys') (h : xs ++ a :: ys = xs' ++ a :: ys') :
  xs = xs' ∧ ys = ys'
  := by
  obtain ⟨zs, rfl, hzs⟩ | ⟨zs, rfl, hzs⟩ := List.append_eq_append_iff.mp h
  · cases zs with
    | nil => exact ⟨(List.append_nil xs).symm, (List.cons.inj hzs).2⟩
    | cons z zs =>
        apply absurd _ hys
        rw [(List.cons.inj hzs).2]
        exact List.mem_append_right zs List.mem_cons_self
  · cases zs with
    | nil => exact ⟨List.append_nil xs', (List.cons.inj hzs).2.symm⟩
    | cons z zs =>
        apply absurd _ hys'
        rw [(List.cons.inj hzs).2]
        exact List.mem_append_right zs List.mem_cons_self

def key (jobId : String) (blob : Blob) : String := uploadKey jobId blob.basename

/-- The characters of a key: the job, a slash and the name of the blob. -/
theorem toList_key (jobId : String) (blob : Blob) :
  (blob.key jobId).toList =
    ("uploads/".toList ++ jobId.toList) ++ '/' :: blob.basename.toList
  := by
  simp only [key, uploadKey, toString, String.toList_append, List.append_assoc]
  rfl

/-- A key belongs to one job and to one of its blobs. -/
theorem key_inj {jobId jobId' : String} {blob blob' : Blob} :
  blob.key jobId = blob'.key jobId' ↔ jobId = jobId' ∧ blob = blob'
  := by
  constructor
  · intro h
    have hparts := congrArg String.toList h
    rw [toList_key, toList_key, List.append_assoc, List.append_assoc] at hparts
    replace hparts := List.append_cancel_left hparts
    obtain ⟨hjob, hblob⟩ :=
      append_cons_inj_of_notMem (slash_notMem_basename blob) (slash_notMem_basename blob') hparts
    exact ⟨String.toList_inj.mp hjob, basename_injective (String.toList_inj.mp hblob)⟩
  · rintro ⟨rfl, rfl⟩
    rfl

end Blob

/-- The capture with a number. -/
def Manifest.captureAt (manifest : Manifest Bytes) (i : Fin 8) : Option Document :=
  manifest.captures.find? fun capture => captureIndex capture = i

/-- What a bundle has for each blob. -/
def content (manifest : Manifest Bytes) (params : Params Bytes) :
    Blob → Option (StoredObject Bytes)
  | .sessionJson => some ⟨Documents.generate manifest.document, "application/json"⟩
  | .worldMesh => (params "world_mesh").map fun mesh => ⟨mesh.content, "model/obj"⟩
  | .photo i =>
      ((manifest.captureAt i).bind fun capture => fileOf params (capture.get "photo_filename")).map
        fun file => ⟨file.content, "image/jpeg"⟩
  | .depth i =>
      ((manifest.captureAt i).bind fun capture => fileOf params (capture.get "depth_filename")).map
        fun file => ⟨file.content, "image/png"⟩

/-- The capture with an index is the one in the manifest. -/
theorem Manifest.captureAt_eq_some {manifest : Manifest Bytes} {i : Fin 8} {capture : Document} :
  manifest.captureAt i = some capture ↔
    capture ∈ manifest.captures ∧ captureIndex capture = i
  := by
  constructor
  · intro h
    unfold captureAt at h
    exact ⟨List.mem_of_find?_eq_some h, by simpa using List.find?_some h⟩
  · rintro ⟨hcapture, hindex⟩
    cases hfound : manifest.captureAt i with
    | none =>
        apply absurd hindex
        exact of_decide_eq_false (Bool.eq_false_iff.mpr (List.find?_eq_none.mp hfound _ hcapture))
    | some other =>
        unfold captureAt at hfound
        have hother : captureIndex other = i := by simpa using List.find?_some hfound
        congr 1
        apply List.inj_on_of_nodup_map manifest.nodup_captures (List.mem_of_find?_eq_some hfound)
          hcapture
        rw [hindex, hother]

/-- Every capture of a manifest has an index. -/
theorem Manifest.exists_index {manifest : Manifest Bytes} {capture : Document}
    (h : capture ∈ manifest.captures) :
  ∃ i : Fin 8, captureIndex capture = i
  := by
  obtain ⟨hlo, hhi⟩ := manifest.captureIndex_mem h
  use ⟨(captureIndex capture).toNat, by omega⟩
  simp only
  omega

omit [Documents Bytes] in
/-- A file is uploaded exactly when there is a part for it, under the key of its name. -/
theorem mem_uploadOptionalFile {jobId : String} {params : Params Bytes} {filename : Document}
    {keyBasename contentType : String} {upload : Upload Bytes} :
  .ok upload ∈ Uploader.uploadOptionalFile jobId params filename keyBasename contentType ↔
    ∃ file, fileOf params filename = some file ∧
      upload = ⟨uploadKey jobId keyBasename, file.content, contentType⟩
  := by
  unfold Uploader.uploadOptionalFile fileOf
  by_cases hblank : blank filename
  · simp [hblank]
  · cases hbase : basename filename with
    | error className => simp [hblank]
    | ok partName =>
        cases hfile : params partName with
        | none => simp [hblank, hfile]
        | some file => simp [hblank, hfile]

/-- The mesh is uploaded under its key with its content. -/
theorem mem_uploadWorldMesh {jobId : String} {manifest : Manifest Bytes} {params : Params Bytes}
    {upload : Upload Bytes} :
  .ok upload ∈ Uploader.uploadWorldMesh jobId manifest params ↔
    upload.key = Blob.worldMesh.key jobId ∧
      content manifest params .worldMesh = some upload.value
  := by
  obtain ⟨key, value⟩ := upload
  rw [Uploader.uploadWorldMesh, manifest.worldMeshFilename_eq, content]
  cases params "world_mesh" with
  | none => simp
  | some mesh => simp [Blob.key, Blob.basename, eq_comm]

/-- The files of a capture are uploaded under their keys with their contents. -/
theorem mem_uploadCapture {jobId : String} {manifest : Manifest Bytes} {params : Params Bytes}
    {upload : Upload Bytes} {capture : Document} {i : Fin 8}
    (h : manifest.captureAt i = some capture) :
  .ok upload ∈ Uploader.uploadCapture jobId params capture ↔
    (upload.key = (Blob.photo i).key jobId ∧
        content manifest params (.photo i) = some upload.value) ∨
      upload.key = (Blob.depth i).key jobId ∧
        content manifest params (.depth i) = some upload.value
  := by
  obtain ⟨key, value⟩ := upload
  have hindex := (Manifest.captureAt_eq_some.mp h).2
  rw [Uploader.uploadCapture, List.mem_append, mem_uploadOptionalFile, mem_uploadOptionalFile,
    content, content, h, Option.bind_some, Option.bind_some, photoBasename, depthBasename, hindex]
  apply or_congr
  · cases fileOf params (capture.get "photo_filename") with
    | none => simp
    | some file => simp [Blob.key, Blob.basename, eq_comm]
  · cases fileOf params (capture.get "depth_filename") with
    | none => simp
    | some file => simp [Blob.key, Blob.basename, eq_comm]

/-- The uploader puts what a bundle has for each blob, under the key of the blob. -/
theorem mem_uploadAll {jobId : String} {manifest : Manifest Bytes} {params : Params Bytes}
    {upload : Upload Bytes} :
  .ok upload ∈ Uploader.uploadAll jobId manifest params ↔
    ∃ blob : Blob, upload.key = blob.key jobId ∧ content manifest params blob = some upload.value
  := by
  rw [Uploader.uploadAll, List.mem_append, List.mem_append, mem_uploadWorldMesh,
    Uploader.uploadCaptureBlobs, List.mem_flatMap]
  constructor
  · rintro ((hsession | hmesh) | ⟨capture, hcapture, h⟩)
    · obtain rfl := Except.ok.inj (List.mem_singleton.mp hsession)
      exact ⟨.sessionJson, rfl, rfl⟩
    · exact ⟨.worldMesh, hmesh⟩
    · obtain ⟨i, hindex⟩ := Manifest.exists_index hcapture
      have hat := Manifest.captureAt_eq_some.mpr ⟨hcapture, hindex⟩
      obtain hphoto | hdepth := (mem_uploadCapture hat).mp h
      · exact ⟨.photo i, hphoto⟩
      · exact ⟨.depth i, hdepth⟩
  · rintro ⟨blob, hkey, hcontent⟩
    -- A photo or a depth map is the one of the capture with its number.
    have hcapture (i : Fin 8) (h : content manifest params (.photo i) = some upload.value ∨
        content manifest params (.depth i) = some upload.value) :
        ∃ capture, manifest.captureAt i = some capture := by
      apply Option.ne_none_iff_exists'.mp
      intro hnone
      simp [content, hnone] at h
    cases blob with
    | sessionJson =>
        left; left
        obtain ⟨key, value⟩ := upload
        obtain rfl := Option.some.inj hcontent
        obtain rfl := hkey
        apply List.mem_singleton_self
    | worldMesh => exact .inl (.inr ⟨hkey, hcontent⟩)
    | photo i =>
        right
        obtain ⟨capture, hat⟩ := hcapture i (.inl hcontent)
        use capture, (Manifest.captureAt_eq_some.mp hat).1
        exact (mem_uploadCapture hat).mpr (.inl ⟨hkey, hcontent⟩)
    | depth i =>
        right
        obtain ⟨capture, hat⟩ := hcapture i (.inr hcontent)
        use capture, (Manifest.captureAt_eq_some.mp hat).1
        exact (mem_uploadCapture hat).mpr (.inr ⟨hkey, hcontent⟩)

/-- No two uploads of a session have the same key, as its indices are distinct. -/
theorem eq_of_key_eq {jobId : String} {manifest : Manifest Bytes} {params : Params Bytes}
    {upload upload' : Upload Bytes}
    (h : .ok upload ∈ Uploader.uploadAll jobId manifest params)
    (h' : .ok upload' ∈ Uploader.uploadAll jobId manifest params)
    (hkey : upload.key = upload'.key) :
  upload = upload'
  := by
  obtain ⟨blob, hblob, hcontent⟩ := mem_uploadAll.mp h
  obtain ⟨blob', hblob', hcontent'⟩ := mem_uploadAll.mp h'
  obtain ⟨-, rfl⟩ := Blob.key_inj.mp (hblob.symm.trans (hkey.trans hblob'))
  obtain ⟨key, value⟩ := upload
  obtain ⟨key', value'⟩ := upload'
  obtain rfl : key = key' := hkey
  obtain rfl := Option.some.inj (hcontent.symm.trans hcontent')
  rfl

/-! ### What the rows name -/

/-- Whether the rows of a session refer to a blob. -/
def Manifest.Names (manifest : Manifest Bytes) : Blob → Prop
  | .sessionJson => False
  | .worldMesh => True
  | .photo i => ∃ capture, manifest.captureAt i = some capture ∧
      Ruby.truthy (capture.get "photo_filename")
  | .depth i => ∃ capture, manifest.captureAt i = some capture ∧
      Ruby.truthy (capture.get "depth_filename")

/-- The references of a row are the keys of the files that its capture names. -/
theorem buildCapture_refs {jobId : String} {capture : Document} {row : CaptureRow}
    (h : CaptureSessionIngester.buildCapture Bytes jobId capture = .ok row) :
  row.sequenceIndex = captureIndex capture ∧
    (row.photoRef = if Ruby.truthy (capture.get "photo_filename") then
      some (uploadKey jobId (photoBasename capture)) else none) ∧
    row.depthRef = if Ruby.truthy (capture.get "depth_filename") then
      some (uploadKey jobId (depthBasename capture)) else none
  := by
  obtain ⟨intrinsics, -, h⟩ := Outcome.bind_eq_ok.mp h
  obtain ⟨extrinsics, -, h⟩ := Outcome.bind_eq_ok.mp h
  cases h
  exact ⟨rfl, rfl, rfl⟩

/-- The references of a row are the keys of the blobs that its capture names. -/
theorem mem_refs_of_buildCapture {jobId ref : String} {manifest : Manifest Bytes} {i : Fin 8}
    {capture : Document} {row : CaptureRow} (hat : manifest.captureAt i = some capture)
    (h : CaptureSessionIngester.buildCapture Bytes jobId capture = .ok row) :
  ref ∈ row.photoRef.toList ++ row.depthRef.toList ↔
    (manifest.Names (.photo i) ∧ ref = (Blob.photo i).key jobId) ∨
      manifest.Names (.depth i) ∧ ref = (Blob.depth i).key jobId
  := by
  have hindex := (Manifest.captureAt_eq_some.mp hat).2
  obtain ⟨-, hphoto, hdepth⟩ := buildCapture_refs h
  rw [photoBasename, hindex] at hphoto
  rw [depthBasename, hindex] at hdepth
  rw [List.mem_append, hphoto, hdepth, Manifest.Names, Manifest.Names, hat]
  apply or_congr
  · split <;> simp_all [Blob.key, Blob.basename]
  · split <;> simp_all [Blob.key, Blob.basename]

/-- The rows of an ingested session are built from the captures of its manifest. -/
theorem Ingested.captures_eq (held : Ingested Bytes) :
  held.manifest.captures.mapM (CaptureSessionIngester.buildCapture Bytes held.session.jobId) =
    .ok held.session.captures
  := by
  obtain ⟨captures, hcaptures, hsession⟩ := Outcome.bind_eq_ok.mp held.built
  rw [hcaptures, ← Except.ok.inj hsession]

/-- The mesh of a session is referred to by its key. -/
theorem Ingested.worldMeshRef_eq (held : Ingested Bytes) :
  held.session.worldMeshRef = Blob.worldMesh.key held.session.jobId
  := by
  obtain ⟨captures, -, hsession⟩ := Outcome.bind_eq_ok.mp held.built
  rw [← Except.ok.inj hsession, held.manifest.worldMeshFilename_eq]
  rfl

/-- A session refers to the blobs that its manifest names, and to no others. -/
theorem Ingested.mem_refs {held : Ingested Bytes} {ref : String} :
  ref ∈ held.session.refs ↔
    ∃ blob, held.manifest.Names blob ∧ ref = blob.key held.session.jobId
  := by
  obtain ⟨hleft, hright⟩ := Outcome.mapM_eq_ok held.captures_eq
  rw [SessionRow.refs, List.mem_cons, held.worldMeshRef_eq, List.mem_flatMap]
  constructor
  · rintro (rfl | ⟨row, hrow, href⟩)
    · exact ⟨.worldMesh, trivial, rfl⟩
    · obtain ⟨capture, hcapture, hbuilt⟩ := hright row hrow
      obtain ⟨i, hindex⟩ := Manifest.exists_index hcapture
      have hat := Manifest.captureAt_eq_some.mpr ⟨hcapture, hindex⟩
      obtain hphoto | hdepth := (mem_refs_of_buildCapture hat hbuilt).mp href
      · exact ⟨.photo i, hphoto⟩
      · exact ⟨.depth i, hdepth⟩
  · rintro ⟨blob, hnames, rfl⟩
    cases blob with
    | sessionJson => exact hnames.elim
    | worldMesh => exact .inl rfl
    | photo i =>
        obtain ⟨capture, hat, -⟩ := id hnames
        obtain ⟨row, hrow, hbuilt⟩ := hleft capture (Manifest.captureAt_eq_some.mp hat).1
        exact .inr ⟨row, hrow, (mem_refs_of_buildCapture hat hbuilt).mpr (.inl ⟨hnames, rfl⟩)⟩
    | depth i =>
        obtain ⟨capture, hat, -⟩ := id hnames
        obtain ⟨row, hrow, hbuilt⟩ := hleft capture (Manifest.captureAt_eq_some.mp hat).1
        exact .inr ⟨row, hrow, (mem_refs_of_buildCapture hat hbuilt).mpr (.inr ⟨hnames, rfl⟩)⟩

omit [Documents Bytes] in
/-- A part is found for a name only. -/
theorem truthy_of_fileOf {params : Params Bytes} {filename : Document} {file : Part Bytes}
    (h : fileOf params filename = some file) :
  Ruby.truthy filename
  := by
  rw [fileOf] at h
  split at h
  · nomatch h
  · next hblank =>
      cases filename with
      | null => exact absurd rfl hblank
      | bool b => cases b <;> simp_all [blank, Ruby.truthy]
      | _ => rfl

/-- What a bundle has is its manifest, or is named by the rows. -/
theorem names_of_content {manifest : Manifest Bytes} {params : Params Bytes} {blob : Blob}
    {object : StoredObject Bytes} (h : content manifest params blob = some object) :
  blob = .sessionJson ∨ manifest.Names blob
  := by
  cases blob with
  | sessionJson => exact .inl rfl
  | worldMesh => exact .inr trivial
  | photo i =>
      obtain ⟨file, hfile, -⟩ := Option.map_eq_some_iff.mp h
      obtain ⟨capture, hat, hfile⟩ := Option.bind_eq_some_iff.mp hfile
      exact .inr ⟨capture, hat, truthy_of_fileOf hfile⟩
  | depth i =>
      obtain ⟨file, hfile, -⟩ := Option.map_eq_some_iff.mp h
      obtain ⟨capture, hat, hfile⟩ := Option.bind_eq_some_iff.mp hfile
      exact .inr ⟨capture, hat, truthy_of_fileOf hfile⟩

/-- A bundle is complete when it has every blob that the rows name. -/
theorem complete_iff {manifest : Manifest Bytes} {params : Params Bytes} :
  Complete manifest params ↔
    ∀ blob, manifest.Names blob → ∃ object, content manifest params blob = some object
  := by
  constructor
  · rintro ⟨hmesh, hfile⟩ blob hnames
    cases blob with
    | sessionJson => exact hnames.elim
    | worldMesh =>
        obtain ⟨mesh, hmesh⟩ := Option.isSome_iff_exists.mp hmesh
        exact ⟨_, Option.map_eq_some_iff.mpr ⟨mesh, hmesh, rfl⟩⟩
    | photo i =>
        obtain ⟨capture, hat, htruthy⟩ := hnames
        obtain ⟨file, hfile⟩ := Option.isSome_iff_exists.mp
          (hfile capture (Manifest.captureAt_eq_some.mp hat).1 "photo_filename" (by simp) htruthy)
        exact ⟨_, by rw [content, hat, Option.bind_some, hfile]; rfl⟩
    | depth i =>
        obtain ⟨capture, hat, htruthy⟩ := hnames
        obtain ⟨file, hfile⟩ := Option.isSome_iff_exists.mp
          (hfile capture (Manifest.captureAt_eq_some.mp hat).1 "depth_filename" (by simp) htruthy)
        exact ⟨_, by rw [content, hat, Option.bind_some, hfile]; rfl⟩
  · intro h
    constructor
    · obtain ⟨object, hobject⟩ := h .worldMesh trivial
      obtain ⟨mesh, hmesh, -⟩ := Option.map_eq_some_iff.mp hobject
      exact Option.isSome_of_eq_some hmesh
    · intro capture hcapture field hfield htruthy
      obtain ⟨i, hindex⟩ := Manifest.exists_index hcapture
      have hat := Manifest.captureAt_eq_some.mpr ⟨hcapture, hindex⟩
      have hfile (blob : Blob) (contentType : String) (hnames : manifest.Names blob)
          (hcontent : content manifest params blob =
            (fileOf params (capture.get field)).map fun file => ⟨file.content, contentType⟩) :
          (fileOf params (capture.get field)).isSome := by
        obtain ⟨object, hobject⟩ := h blob hnames
        rw [hcontent] at hobject
        obtain ⟨file, hfile, -⟩ := Option.map_eq_some_iff.mp hobject
        exact Option.isSome_of_eq_some hfile
      obtain rfl | hfield := List.mem_cons.mp hfield
      · apply hfile (.photo i) "image/jpeg" ⟨capture, hat, htruthy⟩
        rw [content, hat, Option.bind_some]
      · obtain rfl := List.mem_singleton.mp hfield
        apply hfile (.depth i) "image/png" ⟨capture, hat, htruthy⟩
        rw [content, hat, Option.bind_some]

/-! ### What a request stores -/

omit [Documents Bytes] in
/-- What has been put was among the attempts. -/
theorem mem_of_mem_putEach {storageFailure : String → Option UploadExn}
    {attempts : List (Except UploadExn (Upload Bytes))} {upload : Upload Bytes}
    (h : upload ∈ (SpacesUploader.putEach storageFailure attempts).1) :
  .ok upload ∈ attempts
  := by
  induction attempts with
  | nil => nomatch h
  | cons attempt attempts ih =>
      cases attempt with
      | error e => nomatch h
      | ok first =>
          unfold SpacesUploader.putEach at h
          split at h
          · nomatch h
          · obtain rfl | h := List.mem_cons.mp h
            · apply List.mem_cons_self
            · exact List.mem_cons_of_mem _ (ih h)

omit [Documents Bytes] in
/-- When nothing fails, everything is put. -/
theorem mem_putEach_of_none {storageFailure : String → Option UploadExn}
    {attempts : List (Except UploadExn (Upload Bytes))} {upload : Upload Bytes}
    (h : (SpacesUploader.putEach storageFailure attempts).2 = none) (hmem : .ok upload ∈ attempts) :
  upload ∈ (SpacesUploader.putEach storageFailure attempts).1
  := by
  induction attempts with
  | nil => nomatch hmem
  | cons attempt attempts ih =>
      cases attempt with
      | error e => nomatch h
      | ok first =>
          unfold SpacesUploader.putEach at h ⊢
          split at h
          · nomatch h
          · obtain heq | hmem := List.mem_cons.mp hmem
            · obtain rfl := Except.ok.inj heq
              apply List.mem_cons_self
            · exact List.mem_cons_of_mem _ (ih h hmem)

omit [Documents Bytes] in
/-- When anything is put, the first one is. -/
theorem head_mem_putEach {storageFailure : String → Option UploadExn}
    {attempts : List (Except UploadExn (Upload Bytes))} {first upload : Upload Bytes}
    (h : upload ∈ (SpacesUploader.putEach storageFailure (.ok first :: attempts)).1) :
  first ∈ (SpacesUploader.putEach storageFailure (.ok first :: attempts)).1
  := by
  unfold SpacesUploader.putEach at h ⊢
  split at h
  · nomatch h
  · apply List.mem_cons_self

variable {w : World Bytes} {post : Post Bytes} {manifest : Manifest Bytes}

/-- The upload of the manifest. -/
def sessionJson (jobId : String) (manifest : Manifest Bytes) : Upload Bytes where
  key := Blob.sessionJson.key jobId
  value := ⟨Documents.generate manifest.document, "application/json"⟩

/-- The manifest is uploaded with every session. -/
theorem sessionJson_mem_uploadAll (jobId : String) (params : Params Bytes) :
  .ok (sessionJson jobId manifest) ∈ Uploader.uploadAll jobId manifest params
  := mem_uploadAll.mpr ⟨.sessionJson, rfl, rfl⟩

/-- What has been uploaded was among the uploads of the session. -/
theorem mem_uploadAll_of_mem_uploaded {upload : Upload Bytes}
    (h : upload ∈ (uploaded post manifest).1) :
  .ok upload ∈ Uploader.uploadAll post.jobId manifest post.params
  := mem_of_mem_putEach h

/-- When something has been uploaded, the manifest has been before it. -/
theorem sessionJson_mem_uploaded {upload : Upload Bytes}
    (h : upload ∈ (uploaded post manifest).1) :
  sessionJson post.jobId manifest ∈ (uploaded post manifest).1
  := head_mem_putEach h

/-- The objects after a request that has passed its checks. -/
def stored (w : World Bytes) (post : Post Bytes) (manifest : Manifest Bytes) :
    Objects String (StoredObject Bytes) :=
  putAll w.objects (uploaded post manifest).1

/-- What has been uploaded is in the store. -/
theorem stored_of_mem {upload : Upload Bytes} (h : upload ∈ (uploaded post manifest).1) :
  stored w post manifest upload.key = some upload.value
  := by
  apply putAll_of_mem h
  intro other hother hkey
  rw [eq_of_key_eq (mem_uploadAll_of_mem_uploaded hother) (mem_uploadAll_of_mem_uploaded h) hkey]

/-- The key of the manifest holds the job and nothing of the session. -/
theorem key_sessionJson (jobId : String) :
  Blob.sessionJson.key jobId = s!"uploads/{jobId}/session.json"
  := by
  apply String.toList_inj.mp
  simp [Blob.key, uploadKey, Blob.basename, toString, String.toList_append]

/-- What a document says is read back from its text. -/
theorem sessionManifest_eq {jobId : String}
    (h : w.objects (Blob.sessionJson.key jobId) = some (sessionJson jobId manifest).value) :
  w.sessionManifest jobId = some manifest.document
  := by
  obtain ⟨raw, hraw⟩ := manifest.read
  rw [World.sessionManifest, ← key_sessionJson, h, Option.bind_some]
  exact Documents.parse_generate hraw

/-- The rows that a request leaves: those that there were, and one of its own when it creates
a session. -/
theorem persist_cases (w : World Bytes) (post : Post Bytes) (manifest : Manifest Bytes) :
  (persist w post manifest).1.objects = w.objects ∧
    (((¬ ∃ session, CaptureSessionIngester.insertSession (World.sessions w) post.databaseFailure
          post.newId post.jobId manifest = .ok session) ∧
        (persist w post manifest).1.ingested = w.ingested) ∨
      (∃ session, CaptureSessionIngester.insertSession (World.sessions w) post.databaseFailure
          post.newId post.jobId manifest = .ok session) ∧
        ¬ (persist w post manifest).2.Rejected ∧
        ∃ held, (persist w post manifest).1.ingested = w.ingested ++ [held] ∧
          held.session.jobId = post.jobId ∧ held.manifest = manifest ∧
            held.params = post.params)
  := by
  unfold persist
  split
  · next session hinsert =>
      use rfl
      right
      use ⟨session, hinsert⟩, fun h => h rfl
      exact ⟨_, rfl, (CaptureSessionIngester.insertSession_eq_ok hinsert).2.1, rfl, rfl⟩
  · next e hinsert =>
      have hnot : ¬ ∃ session, CaptureSessionIngester.insertSession (World.sessions w)
          post.databaseFailure post.newId post.jobId manifest = .ok session := by
        rintro ⟨session, hsession⟩
        nomatch hinsert.symm.trans hsession
      split <;> exact ⟨rfl, .inl ⟨hnot, rfl⟩⟩

/-- What a request leaves: nothing new, or what it has stored and the rows. -/
theorem create_cases (w : World Bytes) (post : Post Bytes) :
  (∃ outcome, checked post = .error outcome ∧ create w post = (w, outcome)) ∨
    ∃ manifest, checked post = .ok manifest ∧
      (create w post).1.objects = stored w post manifest ∧
        ((¬ Creates w post manifest ∧ (create w post).1.ingested = w.ingested) ∨
          Creates w post manifest ∧ ¬ (create w post).2.Rejected ∧
            ∃ held, (create w post).1.ingested = w.ingested ++ [held] ∧
              held.session.jobId = post.jobId ∧ held.manifest = manifest ∧
                held.params = post.params)
  := by
  cases hchecked : checked post with
  | error outcome =>
      left
      exact ⟨outcome, rfl, by rw [create, hchecked]⟩
  | ok manifest =>
      right
      use manifest, rfl
      rw [create, hchecked]
      dsimp only
      split
      · next hfailure =>
          exact ⟨rfl, .inl ⟨fun h => (nomatch hfailure.symm.trans h.1), rfl⟩⟩
      · next hfailure =>
          exact ⟨rfl, .inl ⟨fun h => (nomatch hfailure.symm.trans h.1), rfl⟩⟩
      · next hfailure =>
          obtain ⟨hobjects, ⟨hnot, hingested⟩ | ⟨hinsert, hheld⟩⟩ :=
            persist_cases { w with objects := stored w post manifest } post manifest
          · exact ⟨hobjects, .inl ⟨fun h => hnot h.2, hingested⟩⟩
          · exact ⟨hobjects, .inr ⟨⟨hfailure, hinsert⟩, hheld⟩⟩

/-! ### A request -/

/-- An upload of a harmless request, under a key of a session, has been sent with the session. -/
theorem Harmless.sent (h : Harmless w post) (hchecked : checked post = .ok manifest)
    {held : Ingested Bytes} (hheld : held ∈ w.ingested) {blob : Blob} {upload : Upload Bytes}
    (hupload : upload ∈ (uploaded post manifest).1)
    (hkey : upload.key = blob.key held.session.jobId) :
  held.Sent upload
  := by
  obtain ⟨blob', hblob', -⟩ := mem_uploadAll.mp (mem_uploadAll_of_mem_uploaded hupload)
  obtain ⟨hjob, -⟩ := Blob.key_inj.mp (hkey.symm.trans hblob')
  exact h.resends manifest hchecked held hheld hjob upload hupload

/-- What is uploaded with a session stays. -/
theorem Harmless.kept (h : Harmless w post) {held : Ingested Bytes} (hheld : held ∈ w.ingested)
    {upload : Upload Bytes} (hsent : held.Sent upload)
    (hstored : w.objects upload.key = some upload.value) :
  (create w post).1.objects upload.key = some upload.value
  := by
  obtain ⟨outcome, -, heq⟩ | ⟨manifest, hchecked, hobjects, -⟩ := create_cases w post
  · rw [heq]
    exact hstored
  · rw [hobjects]
    obtain ⟨-, hkept⟩ | ⟨other, hother, hkey, hnew⟩ :=
      putAll_cases w.objects (uploaded post manifest).1 upload.key
    · exact hkept.trans hstored
    · obtain ⟨blob, hblob, -⟩ := mem_uploadAll.mp hsent
      have hresent := h.sent hchecked hheld hother (hkey.trans hblob)
      rw [eq_of_key_eq hresent hsent hkey] at hnew
      exact hnew

/-- The manifest of a session stays. -/
theorem Harmless.kept_manifest (h : Harmless w post) {held : Ingested Bytes}
    (hheld : held ∈ w.ingested)
    (hmanifest : w.sessionManifest held.session.jobId = some held.manifest.document) :
  (create w post).1.sessionManifest held.session.jobId = some held.manifest.document
  := by
  obtain ⟨outcome, -, heq⟩ | ⟨manifest, hchecked, hobjects, -⟩ := create_cases w post
  · rw [heq]
    exact hmanifest
  · obtain ⟨-, hkept⟩ | ⟨other, hother, hkey, hnew⟩ :=
      putAll_cases w.objects (uploaded post manifest).1
        (Blob.sessionJson.key held.session.jobId)
    · rw [← hmanifest, World.sessionManifest, World.sessionManifest, ← key_sessionJson, hobjects,
        stored, hkept]
    · have hresent := h.sent hchecked hheld hother hkey
      rw [eq_of_key_eq hresent (sessionJson_mem_uploadAll _ _) hkey] at hnew
      apply sessionManifest_eq
      rw [hobjects]
      exact hnew

/-- A harmless request leaves intact what was intact. -/
theorem Harmless.intact (h : Harmless w post) {held : Ingested Bytes} (hheld : held ∈ w.ingested)
    (hintact : held.Intact w) :
  held.Intact (create w post).1
  := by
  constructor
  · intro ref href
    obtain ⟨upload, hsent, rfl, hstored⟩ := hintact.refs ref href
    exact ⟨upload, hsent, rfl, h.kept hheld hsent hstored⟩
  · exact h.kept_manifest hheld hintact.manifest

/-- A session that has been created with all of its files is intact. -/
theorem intact_of_complete {held : Ingested Bytes}
    (hobjects : (create w post).1.objects = stored w post manifest)
    (hjob : held.session.jobId = post.jobId) (hmanifest : held.manifest = manifest)
    (hparams : held.params = post.params) (hcreates : Creates w post manifest)
    (hcomplete : Complete manifest post.params) :
  held.Intact (create w post).1
  := by
  constructor
  · intro ref href
    obtain ⟨blob, hnames, rfl⟩ := Ingested.mem_refs.mp href
    rw [hmanifest] at hnames
    obtain ⟨object, hobject⟩ := complete_iff.mp hcomplete blob hnames
    have hmem : .ok ⟨blob.key post.jobId, object⟩ ∈
        Uploader.uploadAll post.jobId manifest post.params :=
      mem_uploadAll.mpr ⟨blob, rfl, hobject⟩
    use ⟨blob.key post.jobId, object⟩
    rw [Ingested.Sent, hjob, hmanifest, hparams, hobjects]
    exact ⟨hmem, rfl, stored_of_mem (mem_putEach_of_none hcreates.1 hmem)⟩
  · apply sessionManifest_eq
    rw [hobjects, hjob, hmanifest]
    exact stored_of_mem
      (mem_putEach_of_none hcreates.1 (sessionJson_mem_uploadAll post.jobId post.params))

/-- A harmless request leaves the sessions isolated. -/
theorem isolated_of_harmless (hw : Isolated w) (h : Harmless w post) :
  Isolated (create w post).1
  := by
  intro held hheld
  obtain ⟨outcome, -, heq⟩ | ⟨manifest, hchecked, hobjects,
      ⟨-, hingested⟩ | ⟨hcreates, -, new, hingested, hjob, hmanifest, hparams⟩⟩ :=
    create_cases w post
  · rw [heq] at hheld
    exact h.intact hheld (hw held hheld)
  · rw [hingested] at hheld
    exact h.intact hheld (hw held hheld)
  · rw [hingested, List.mem_append, List.mem_singleton] at hheld
    obtain hheld | rfl := hheld
    · exact h.intact hheld (hw held hheld)
    · exact intact_of_complete hobjects hjob hmanifest hparams hcreates
        (h.complete manifest hchecked hcreates)

/-- After a harmless request the sessions are separate. -/
theorem separates_of_harmless (hw : Isolated w) (h : Harmless w post) :
  Separates w post
  := by
  constructor
  · exact isolated_of_harmless hw h
  · intro _ held hheld ref href
    obtain ⟨upload, hsent, rfl, hstored⟩ := (hw held hheld).refs ref href
    rw [hstored, h.kept hheld hsent hstored]

/-- A session whose manifest is read after a request has stored anything has the manifest of
the request. -/
theorem manifest_eq_of_intact (hobjects : (create w post).1.objects = stored w post manifest)
    {held : Ingested Bytes} (hjob : held.session.jobId = post.jobId)
    (hintact : held.Intact (create w post).1) {upload : Upload Bytes}
    (hupload : upload ∈ (uploaded post manifest).1) :
  held.manifest = manifest
  := by
  have hread : (create w post).1.sessionManifest post.jobId = some manifest.document := by
    apply sessionManifest_eq
    rw [hobjects]
    exact stored_of_mem (sessionJson_mem_uploaded hupload)
  rw [← hjob, hintact.manifest] at hread
  exact Manifest.ext (Option.some.inj hread)

/-- A request that leaves the sessions isolated is harmless. -/
theorem harmless_of_isolated (h : Isolated (create w post).1) :
  Harmless w post
  := by
  constructor
  · intro manifest hchecked held hheld hjob upload hupload
    obtain ⟨outcome, herror, -⟩ | ⟨manifest', hchecked', hobjects, hcases⟩ := create_cases w post
    · nomatch hchecked.symm.trans herror
    obtain rfl := Except.ok.inj (hchecked.symm.trans hchecked')
    have hintact : held.Intact (create w post).1 := by
      apply h
      obtain ⟨-, hingested⟩ | ⟨-, -, new, hingested, -⟩ := hcases
      · rw [hingested]
        exact hheld
      · rw [hingested]
        exact List.mem_append_left [new] hheld
    have hmanifest := manifest_eq_of_intact hobjects hjob hintact hupload
    have hmem := mem_uploadAll_of_mem_uploaded hupload
    obtain ⟨blob, hkey, hcontent⟩ := mem_uploadAll.mp hmem
    obtain rfl | hnames := names_of_content hcontent
    · rw [eq_of_key_eq hmem (sessionJson_mem_uploadAll _ _) hkey, ← hjob, ← hmanifest]
      apply sessionJson_mem_uploadAll
    · have href : upload.key ∈ held.session.refs := by
        apply Ingested.mem_refs.mpr
        use blob
        rw [hmanifest, hjob]
        exact ⟨hnames, hkey⟩
      obtain ⟨upload', hsent, hkey', hstored⟩ := hintact.refs upload.key href
      rw [hobjects, stored_of_mem hupload] at hstored
      obtain ⟨key, value⟩ := upload
      obtain ⟨key', value'⟩ := upload'
      obtain rfl : key' = key := hkey'
      obtain rfl := Option.some.inj hstored
      exact hsent
  · intro manifest hchecked hcreates
    obtain ⟨outcome, herror, -⟩ | ⟨manifest', hchecked', -,
        ⟨hnot, -⟩ | ⟨-, -, held, hingested, hjob, hmanifest, hparams⟩⟩ := create_cases w post
    · nomatch hchecked.symm.trans herror
    · obtain rfl := Except.ok.inj (hchecked.symm.trans hchecked')
      exact absurd hcreates hnot
    · obtain rfl := Except.ok.inj (hchecked.symm.trans hchecked')
      have hintact : held.Intact (create w post).1 := by
        apply h
        rw [hingested]
        exact List.mem_append_right _ (List.mem_singleton_self held)
      apply complete_iff.mpr
      intro blob hnames
      have href : blob.key held.session.jobId ∈ held.session.refs := by
        apply Ingested.mem_refs.mpr
        use blob
        rw [hmanifest]
        exact ⟨hnames, rfl⟩
      obtain ⟨upload, hsent, hkey, -⟩ := hintact.refs _ href
      rw [Ingested.Sent, hmanifest, hparams] at hsent
      obtain ⟨blob', hkey', hcontent⟩ := mem_uploadAll.mp hsent
      obtain ⟨-, rfl⟩ := Blob.key_inj.mp (hkey.symm.trans hkey')
      exact ⟨upload.value, hcontent⟩

/-! ### A sequence of requests -/

/-- The sessions stay isolated exactly as long as every request is harmless. -/
theorem eachRequest_separates_iff (hw : Isolated w) (posts : List (Post Bytes)) :
  EachRequest Separates w posts ↔ EachRequest Harmless w posts
  := by
  induction posts generalizing w with
  | nil => exact Iff.rfl
  | cons post posts ih =>
      constructor
      · rintro ⟨hpost, hposts⟩
        exact ⟨harmless_of_isolated hpost.isolated, (ih hpost.isolated).mp hposts⟩
      · rintro ⟨hpost, hposts⟩
        have hseparates := separates_of_harmless hw hpost
        exact ⟨hseparates, (ih hseparates.isolated).mpr hposts⟩

/-- Before any session. -/
def World.start (objects : Objects String (StoredObject Bytes)) : World Bytes where
  objects := objects
  ingested := []
  fusionJobs := []

/-- In a sequence of requests, whatever the store held before them, every request leaves the
sessions isolated, and the objects they refer to alone when it is rejected, exactly when
every request is harmless. -/
theorem blobs_isolated_iff (objects : Objects String (StoredObject Bytes))
    (posts : List (Post Bytes)) :
  EachRequest Separates (World.start objects) posts ↔
    EachRequest Harmless (World.start objects) posts
  := eachRequest_separates_iff (fun _ h => absurd h List.not_mem_nil) posts

/-! ### Two sessions of a job -/

namespace TwoWalks

/-- The manifest of a session with one capture. -/
def walk (sessionId : String) : Document :=
  .obj
    [("session_id", .str sessionId), ("manifest_version", .str "1.0"), ("job_id", .str "job"),
      ("captures", .arr [.obj
        [("capture_index", .num (.integer 0)), ("prompt_label", .str "front"),
          ("timestamp", .str "2026-01-01T00:00:00Z"), ("photo_filename", .str "photo_00.jpg")]]),
      ("world_mesh", .obj [("filename", .str "arkit_mesh.obj"), ("format", .str "obj")])]

def walkText (sessionId : String) : String :=
  "\x7b\"session_id\":\"" ++ sessionId ++ "\",\"manifest_version\":\"1.0\",\"job_id\":\"job\"," ++
    "\"captures\":[\x7b\"capture_index\":0,\"prompt_label\":\"front\"," ++
    "\"timestamp\":\"2026-01-01T00:00:00Z\",\"photo_filename\":\"photo_00.jpg\"\x7d]," ++
    "\"world_mesh\":\x7b\"filename\":\"arkit_mesh.obj\",\"format\":\"obj\"\x7d\x7d"

/-- Reading and writing the manifests of two sessions. -/
scoped instance walks : Documents String where
  parse raw :=
    if raw = walkText "monday" then some (walk "monday")
    else if raw = walkText "tuesday" then some (walk "tuesday")
    else none
  generate document :=
    if document = walk "monday" then walkText "monday"
    else if document = walk "tuesday" then walkText "tuesday"
    else ""
  inspect _ := ""
  isBlank text := text.toList.all Ruby.space
  parse_generate h := by
    split at h
    · obtain rfl := Option.some.inj h
      decide +kernel
    · split at h
      · obtain rfl := Option.some.inj h
        decide +kernel
      · nomatch h

/-- A request with the bundle of a session, which storage and the database take. -/
def upload (sessionId : String) : Post String where
  jobId := "job"
  tokenJobId := some "job"
  contentLength := some 1000
  params := fun name =>
    if name = "session_json" then some (.uploadedFile (walkText sessionId))
    else if name = "world_mesh" then some (.uploadedFile ("mesh of " ++ sessionId))
    else if name = "photo_00" then some (.uploadedFile ("photo of " ++ sessionId))
    else none
  storageFailure := fun _ => none
  databaseFailure := none
  newId := sessionId

/-- The world after two sessions of a job. -/
def afterTuesday : World String :=
  (create (create (World.start fun _ => none) (upload "monday")).1 (upload "tuesday")).1

/-- Both sessions have been ingested. -/
theorem ingested_afterTuesday :
  afterTuesday.ingested.map (fun held => (held.session.jobId, held.manifest.document)) =
    [("job", walk "monday"), ("job", walk "tuesday")]
  := by
  decide +kernel

/-- The manifest in the store is that of the second session. -/
theorem sessionManifest_afterTuesday :
  afterTuesday.sessionManifest "job" = some (walk "tuesday")
  := by
  decide +kernel

/-- After a second session, a fusion of the first one reads the manifest of the second one. -/
theorem second_session_read :
  ¬ EachRequest Separates (World.start fun _ => none) [upload "monday", upload "tuesday"]
  := by
  rintro ⟨-, htuesday, -⟩
  have hmonday : ("job", walk "monday") ∈
      afterTuesday.ingested.map fun held => (held.session.jobId, held.manifest.document) := by
    rw [ingested_afterTuesday]
    apply List.mem_cons_self
  obtain ⟨held, hheld, heq⟩ := List.mem_map.mp hmonday
  obtain ⟨hjob, hdocument⟩ := Prod.mk.inj heq
  have hisolated : Isolated afterTuesday := htuesday.isolated
  have hread := (hisolated held hheld).manifest
  rw [hjob, hdocument, sessionManifest_afterTuesday] at hread
  revert hread
  decide +kernel

end TwoWalks

end Rails.CaptureBundle
