import Mathlib.Data.List.TakeWhile
import RoofTrace.Deliveries.BlobIsolation
import RoofTrace.Rails.EvidencePhotos

/-!
# The artifacts of captures

What is rendered for a capture is put under a key of its job: a composite and an overlay under
a token of the photo, a thumbnail under the number of the capture. `OwnArtifacts` says that
the captures of a job have keys of their own, so that every overlay and every thumbnail shows
its capture, in whichever order they are rendered. It holds exactly when no two captures of
the job have one number.
-/

namespace Rails.ArtifactKeys

open CaptureBundle Outcome Sidecar Store

variable {Bytes : Type} [Documents Bytes]

/-! ### The captures of a job -/

/-- The captures of a job that have a photo, with their sessions. -/
def photoCaptures (w : CaptureBundle.World Bytes) (jobId : String) : List (CaptureRow × SessionRow) :=
  (w.ingested.filter fun held => held.session.jobId = jobId).flatMap fun held =>
    (held.session.captures.filter fun capture => capture.photoRef.isSome).map
      fun capture => (capture, held.session)

/-- What the facets and the features of a measurement are drawn with. -/
structure Drawing (Scene : Type) where
  scene : CaptureRow → Scene
  arkitToUtm : List ℚ
  utmEpsg : ℤ
  poseConfidence : CaptureRow → ℚ

variable {Scene Mesh Image : Type}

/-- The request for a capture. -/
def projectPhotoRequest (jobId : String) (drawing : Drawing Scene)
    (photo : CaptureRow × SessionRow) : ProjectPhotoRequest Scene where
  pipelineSchemaVersion := Contract.pipelineSchemaVersion
  jobId := jobId
  photoRef := photo.1.photoRef.getD ""
  worldMeshRef := some photo.2.worldMeshRef
  arkitToUtm := some drawing.arkitToUtm
  utmEpsg := some drawing.utmEpsg
  poseConfidence := some (drawing.poseConfidence photo.1)
  scene := drawing.scene photo.1

/-- The objects after photos have been drawn, one after the other. -/
def projectAll (s : PhotoRenderer Image Scene Mesh) (jobId : String) (drawing : Drawing Scene)
    (objects : Objects String Image) (photos : List (CaptureRow × SessionRow)) :
    Objects String Image :=
  photos.foldl
    (fun objects photo =>
      (projectPhotoEndpoint s objects (projectPhotoRequest jobId drawing photo)).1)
    objects

/-- After photos have been drawn in an order, the references of every response still show
what was drawn for its photo. -/
def OverlaysShown (s : PhotoRenderer Image Scene Mesh) (jobId : String) (drawing : Drawing Scene)
    (objects : Objects String Image) (order : List (CaptureRow × SessionRow)) : Prop :=
  ∀ front photo back, order = front ++ photo :: back →
    let before := projectAll s jobId drawing objects front
    let request := projectPhotoRequest jobId drawing photo
    ∀ response drawn, (projectPhotoEndpoint s before request).2 = .ok response →
      picture s before request = .ok drawn →
        projectAll s jobId drawing objects order response.compositeRef = some drawn.composite ∧
          projectAll s jobId drawing objects order response.overlaySvgRef = some drawn.overlaySvg

/-- The photos of a report, when there are any, show the photos of the first captures, each
with its caption. -/
def ThumbnailsShown (mint : String → Except String String) (storage : Storage Image)
    (jobId : String) (objects : Objects String Image) (order : List (CaptureRow × SessionRow)) :
    Prop :=
  let report := EvidencePhotos.build mint storage objects jobId (order.map Prod.fst)
  let shown := (order.map Prod.fst).insertionSort fun a b => a.sequenceIndex ≤ b.sequenceIndex
  report.2 = [] ∨
    List.Forall₂
      (fun capture photo =>
        ∃ key, mint key = .ok photo.imageUrl ∧
          report.1 key = objects (capture.photoRef.getD "") ∧
            photo.caption = EvidencePhotos.presence capture.promptLabel)
      (shown.take EvidencePhotos.cap) report.2

/-- The reference of a photo, as it is sent. -/
def photoRef (photo : CaptureRow × SessionRow) : String := photo.1.photoRef.getD ""

/-- The captures of a job have artifacts of their own. -/
structure OwnArtifacts (w : CaptureBundle.World Bytes) (jobId : String) : Prop where
  composite : ((photoCaptures w jobId).map fun photo =>
    s!"artifacts/{jobId}/projected/{seqToken (photoRef photo)}.png").Nodup
  overlaySvg : ((photoCaptures w jobId).map fun photo =>
    s!"artifacts/{jobId}/projected/{seqToken (photoRef photo)}.svg").Nodup
  thumbnail : ((photoCaptures w jobId).map fun photo =>
    thumbnailKey jobId photo.1.sequenceIndex).Nodup
  overlaysShown : ∀ {Image Scene Mesh : Type} (s : PhotoRenderer Image Scene Mesh)
    (drawing : Drawing Scene) (objects : Objects String Image) (order),
    order.Subperm (photoCaptures w jobId) → OverlaysShown s jobId drawing objects order
  thumbnailsShown : ∀ {Image : Type} (mint : String → Except String String)
    (storage : Storage Image) (objects : Objects String Image) (order),
    order.Perm (photoCaptures w jobId) → ThumbnailsShown mint storage jobId objects order

/-! ### Keys -/

variable {w : CaptureBundle.World Bytes} {jobId : String}

/-- A capture of a job has a number, and its photo is under the key of the number. -/
theorem exists_number {photo : CaptureRow × SessionRow} (h : photo ∈ photoCaptures w jobId) :
  ∃ i : Fin 8, photo.1.sequenceIndex = i ∧ photo.1.photoRef = some ((Blob.photo i).key jobId)
  := by
  obtain ⟨held, hheld, hphoto⟩ := List.mem_flatMap.mp h
  have hjob : held.session.jobId = jobId := of_decide_eq_true (List.mem_filter.mp hheld).2
  obtain ⟨row, hrow, rfl⟩ := List.mem_map.mp hphoto
  obtain ⟨hrow, hsome⟩ := List.mem_filter.mp hrow
  obtain ⟨capture, hcapture, hbuilt⟩ := (mapM_eq_ok held.captures_eq).2 row hrow
  obtain ⟨hnumber, hphotoRef, -⟩ := buildCapture_refs hbuilt
  obtain ⟨i, hindex⟩ := Manifest.exists_index hcapture
  use i, hnumber.trans hindex
  rw [hphotoRef] at hsome ⊢
  by_cases hnamed : Ruby.truthy (capture.get "photo_filename")
  · rw [if_pos hnamed, photoBasename, hindex, hjob]
    rfl
  · rw [if_neg hnamed] at hsome
    cases hsome

/-- The token of a photo, by its number. -/
def token (i : Fin 8) : String := seqToken (Blob.photo i).basename

theorem token_injective :
  Function.Injective token
  := by
  have h : ∀ i j : Fin 8, token i = token j → i = j := by
    decide +kernel
  exact fun i j => h i j

/-- The token of a photo is told by what follows the last slash of its key. -/
theorem seqToken_key (jobId : String) (i : Fin 8) :
  seqToken ((Blob.photo i).key jobId) = token i
  := by
  have hbasename : ∀ c ∈ (Blob.photo i).basename.toList.reverse, (decide (c ≠ '/')) = true := by
    intro c hc
    apply decide_eq_true
    rintro rfl
    exact Blob.slash_notMem_basename (.photo i) (List.mem_reverse.mp hc)
  have hbase : ((Blob.photo i).key jobId).toList.reverse.takeWhile (fun c => decide (c ≠ '/')) =
      (Blob.photo i).basename.toList.reverse.takeWhile (fun c => decide (c ≠ '/')) := by
    rw [Blob.toList_key, List.reverse_append, List.reverse_cons, List.append_assoc,
      List.takeWhile_append_of_pos hbasename, List.takeWhile_eq_self_iff.mpr hbasename]
    simp
  rw [token, seqToken, seqToken, hbase]

/-- The key of a composite or of an overlay, by the number of the capture. -/
theorem projectedKey_inj {i j : Fin 8} {extension : String} :
  s!"artifacts/{jobId}/projected/{token i}{extension}" =
      s!"artifacts/{jobId}/projected/{token j}{extension}" ↔ i = j
  := by
  constructor
  · intro h
    have hlist := congrArg String.toList h
    simp only [toString, String.toList_append, List.append_cancel_left_eq,
      List.append_cancel_right_eq] at hlist
    exact token_injective (String.toList_inj.mp hlist)
  · rintro rfl
    rfl

theorem thumbnailKey_inj {i j : Fin 8} :
  thumbnailKey jobId i = thumbnailKey jobId j ↔ i = j
  := by
  constructor
  · intro h
    have hlist := congrArg String.toList h
    rw [thumbnailKey, thumbnailKey] at hlist
    simp only [toString, String.toList_append, List.append_cancel_left_eq,
      List.append_cancel_right_eq] at hlist
    have hrepr : ∀ i j : Fin 8, Int.repr i = Int.repr j → i = j := by
      decide +kernel
    exact hrepr i j (String.toList_inj.mp hlist)
  · rintro rfl
    rfl

/-- No key of a composite is one of an overlay. -/
theorem png_ne_svg (i j : Fin 8) :
  s!"artifacts/{jobId}/projected/{token i}.png" ≠ s!"artifacts/{jobId}/projected/{token j}.svg"
  := by
  intro h
  have hlist := congrArg String.toList h
  simp only [toString, String.toList_append, List.append_assoc,
    List.append_cancel_left_eq] at hlist
  have htokens : ∀ i j : Fin 8,
      (token i).toList ++ ".png".toList ≠ (token j).toList ++ ".svg".toList := by
    decide +kernel
  exact htokens i j hlist

theorem nodup_map_congr {α β γ : Type} {f : α → β} {g : α → γ} {as : List α}
    (h : ∀ a ∈ as, ∀ a' ∈ as, f a = f a' ↔ g a = g a') :
  (as.map f).Nodup ↔ (as.map g).Nodup
  := by
  rw [List.Nodup, List.Nodup, List.pairwise_map, List.pairwise_map]
  apply List.Pairwise.iff_of_mem
  intro a a' ha ha'
  exact not_congr (h a ha a' ha')

/-! ### Overlays -/

section

variable {s : PhotoRenderer Image Scene Mesh} {objects : Objects String Image}

/-- A request puts nothing under other keys than its own two. -/
theorem projectPhotoEndpoint_of_ne {req : ProjectPhotoRequest Scene} {key : String}
    (hpng : req.pngKey ≠ key) (hsvg : req.svgKey ≠ key) :
  (projectPhotoEndpoint s objects req).1 key = objects key
  := by
  unfold projectPhotoEndpoint
  split
  · rfl
  · unfold putPicture
    split
    · rfl
    · split
      · exact Function.update_of_ne hpng.symm _ _
      · exact (Function.update_of_ne hsvg.symm _ _).trans (Function.update_of_ne hpng.symm _ _)

/-- What a request that succeeds refers to is what has been drawn for it. -/
theorem projectPhotoEndpoint_eq_ok {req : ProjectPhotoRequest Scene}
    {response : ProjectPhotoResponse} {drawn : Picture Image}
    (h : (projectPhotoEndpoint s objects req).2 = .ok response)
    (hdrawn : picture s objects req = .ok drawn) (hne : req.pngKey ≠ req.svgKey) :
  response.compositeRef = req.pngKey ∧ response.overlaySvgRef = req.svgKey ∧
    (projectPhotoEndpoint s objects req).1 req.pngKey = some drawn.composite ∧
      (projectPhotoEndpoint s objects req).1 req.svgKey = some drawn.overlaySvg
  := by
  unfold projectPhotoEndpoint putPicture at h ⊢
  rw [hdrawn] at h ⊢
  cases hpng : s.putFailure req.pngKey with
  | some e =>
      simp only [hpng] at h
      nomatch h
  | none =>
      cases hsvg : s.putFailure req.svgKey with
      | some e =>
          simp only [hpng, hsvg] at h
          nomatch h
      | none =>
          simp only [hpng, hsvg] at h ⊢
          obtain rfl := Except.ok.inj h
          refine ⟨rfl, rfl, ?_, ?_⟩
          · exact (Function.update_of_ne hne _ _).trans (Function.update_self _ _ _)
          · apply Function.update_self

theorem projectAll_of_forall_ne {drawing : Drawing Scene} {key : String}
    {photos : List (CaptureRow × SessionRow)}
    (h : ∀ photo ∈ photos, (projectPhotoRequest jobId drawing photo).pngKey ≠ key ∧
      (projectPhotoRequest jobId drawing photo).svgKey ≠ key) :
  projectAll s jobId drawing objects photos key = objects key
  := by
  induction photos generalizing objects with
  | nil => rfl
  | cons photo photos ih =>
      obtain ⟨hpng, hsvg⟩ := h photo List.mem_cons_self
      rw [projectAll, List.foldl_cons]
      exact (ih fun other hother => h other (List.mem_cons_of_mem _ hother)).trans
        (projectPhotoEndpoint_of_ne hpng hsvg)

/-- The keys of a request, by the number of its capture. -/
theorem keys_of_number (drawing : Drawing Scene) {photo : CaptureRow × SessionRow} {i : Fin 8}
    (h : photo.1.photoRef = some ((Blob.photo i).key jobId)) :
  (projectPhotoRequest jobId drawing photo).pngKey =
      s!"artifacts/{jobId}/projected/{token i}.png" ∧
    (projectPhotoRequest jobId drawing photo).svgKey =
      s!"artifacts/{jobId}/projected/{token i}.svg"
  := by
  rw [ProjectPhotoRequest.pngKey, ProjectPhotoRequest.svgKey, projectPhotoRequest]
  dsimp only
  rw [h, Option.getD_some, seqToken_key]
  exact ⟨rfl, rfl⟩

/-- The overlays of captures with numbers of their own are all shown. -/
theorem overlaysShown_of_nodup {drawing : Drawing Scene} {order : List (CaptureRow × SessionRow)}
    (horder : order.Subperm (photoCaptures w jobId))
    (hnodup : ((photoCaptures w jobId).map fun photo => photo.1.sequenceIndex).Nodup) :
  OverlaysShown s jobId drawing objects order
  := by
  intro front photo back hsplit before request response drawn hresponse hdrawn
  have hmem (other : CaptureRow × SessionRow) (hother : other ∈ order) :
      other ∈ photoCaptures w jobId := horder.subset hother
  have hown : ∀ other ∈ back, other.1.sequenceIndex ≠ photo.1.sequenceIndex := by
    obtain ⟨sublist, hperm, hsublist⟩ := id horder
    have horderNodup := (hperm.map fun photo => photo.1.sequenceIndex).nodup_iff.mp
      (hnodup.sublist (hsublist.map _))
    rw [hsplit, List.map_append, List.nodup_append, List.map_cons, List.nodup_cons] at horderNodup
    intro other hother heq
    apply horderNodup.2.1.1
    rw [← heq]
    exact List.mem_map.mpr ⟨other, hother, rfl⟩
  obtain ⟨i, hnumber, hphoto⟩ := exists_number (hmem photo (by simp [hsplit]))
  obtain ⟨hpng, hsvg⟩ := keys_of_number drawing hphoto
  have hne : request.pngKey ≠ request.svgKey := by
    rw [hpng, hsvg]
    apply png_ne_svg
  obtain ⟨hcomposite, hoverlay, hheld, hheld'⟩ := projectPhotoEndpoint_eq_ok hresponse hdrawn hne
  -- The captures that come later put under other keys.
  have hlater : ∀ other ∈ back, ∃ j : Fin 8, j ≠ i ∧
      other.1.photoRef = some ((Blob.photo j).key jobId) := by
    intro other hother
    obtain ⟨j, hnumber', hphoto'⟩ := exists_number (hmem other (by simp [hsplit, hother]))
    use j
    constructor
    · rintro rfl
      exact hown other hother (hnumber'.trans hnumber.symm)
    · exact hphoto'
  have hafter (key : String) (hkey : key = request.pngKey ∨ key = request.svgKey) :
      projectAll s jobId drawing objects order key =
        (projectPhotoEndpoint s before request).1 key := by
    rw [hsplit, projectAll, List.foldl_append, List.foldl_cons]
    apply projectAll_of_forall_ne
    intro other hother
    obtain ⟨j, hj, hphoto'⟩ := hlater other hother
    obtain ⟨hpng', hsvg'⟩ := keys_of_number drawing hphoto'
    rw [hpng', hsvg']
    obtain rfl | rfl := hkey
    · rw [hpng]
      exact ⟨fun h => hj (projectedKey_inj.mp h), (png_ne_svg i j).symm⟩
    · rw [hsvg]
      exact ⟨png_ne_svg j i, fun h => hj (projectedKey_inj.mp h)⟩
  rw [hcomposite, hoverlay, hafter _ (.inl rfl), hafter _ (.inr rfl)]
  exact ⟨hheld, hheld'⟩

end

/-! ### Thumbnails -/

/-- What the sidecar is told of a capture with a photo. -/
def specOf (capture : CaptureRow) : EvidencePhotoSpec :=
  ⟨capture.photoRef.getD "", capture.sequenceIndex, capture.promptLabel⟩

theorem filterMap_photoSpec {captures : List CaptureRow}
    (h : ∀ capture ∈ captures, capture.photoRef.isSome) :
  captures.filterMap EvidencePhotos.photoSpec = captures.map specOf
  := by
  induction captures with
  | nil => rfl
  | cons capture captures ih =>
      obtain ⟨ref, href⟩ := Option.isSome_iff_exists.mp (h capture List.mem_cons_self)
      have hspec : EvidencePhotos.photoSpec capture = some (specOf capture) := by
        rw [EvidencePhotos.photoSpec, specOf, href]
        rfl
      rw [List.filterMap_cons_some hspec, List.map_cons,
        ih fun other hother => h other (List.mem_cons_of_mem _ hother)]

section

variable {storage : Storage Image} {objects : Objects String Image}

/-- What is rendered leaves every key alone that is not the key of a thumbnail. -/
theorem renderThumbnails_of_forall_ne {photos : List EvidencePhotoSpec} {key : String}
    (h : ∀ photo ∈ photos, thumbnailKey jobId photo.sequenceIndex ≠ key) :
  (renderThumbnails storage jobId objects photos).1 key = objects key
  := by
  induction photos generalizing objects with
  | nil => rfl
  | cons photo photos ih =>
      unfold renderThumbnails
      dsimp only
      split
      · rfl
      · rfl
      · rw [ih fun other hother => h other (List.mem_cons_of_mem _ hother)]
        exact Function.update_of_ne (h photo List.mem_cons_self).symm _ _

/-- The thumbnails of photos with numbers of their own are copies of the photos. -/
theorem renderThumbnails_eq_ok {photos : List EvidencePhotoSpec}
    {thumbnails : List EvidenceThumbnail}
    (hnodup : (photos.map fun photo => thumbnailKey jobId photo.sequenceIndex).Nodup)
    (hphotos : ∀ photo ∈ photos, ∀ other ∈ photos,
      thumbnailKey jobId other.sequenceIndex ≠ photo.photoRef)
    (h : (renderThumbnails storage jobId objects photos).2 = .ok thumbnails) :
  thumbnails = photos.map (fun photo =>
      ⟨thumbnailKey jobId photo.sequenceIndex, photo.sequenceIndex, photo.caption⟩) ∧
    ∀ photo ∈ photos,
      (renderThumbnails storage jobId objects photos).1
        (thumbnailKey jobId photo.sequenceIndex) = objects photo.photoRef
  := by
  induction photos generalizing objects thumbnails with
  | nil =>
      obtain rfl := Except.ok.inj h
      exact ⟨rfl, fun photo h => absurd h List.not_mem_nil⟩
  | cons photo photos ih =>
      obtain ⟨hfresh, hnodup⟩ := List.nodup_cons.mp hnodup
      cases hget : getBytes storage objects photo.photoRef with
      | error e =>
          simp only [renderThumbnails, hget] at h
          nomatch h
      | ok raw =>
          cases hput : storage.putFailure (thumbnailKey jobId photo.sequenceIndex) with
          | some e =>
              simp only [renderThumbnails, hget, hput] at h
              nomatch h
          | none =>
              simp only [renderThumbnails, hget, hput] at h ⊢
              obtain ⟨rest, hrest, rfl⟩ := map_eq_ok.mp h
              obtain ⟨rfl, hshown⟩ := ih hnodup
                (fun p hp q hq =>
                  hphotos p (List.mem_cons_of_mem _ hp) q (List.mem_cons_of_mem _ hq)) hrest
              use rfl
              intro other hother
              obtain rfl | hother := List.mem_cons.mp hother
              · rw [renderThumbnails_of_forall_ne, eq_some_of_getBytes hget]
                · apply Function.update_self
                · intro later hlater heq
                  apply hfresh
                  exact List.mem_map.mpr ⟨later, hlater, heq⟩
              · rw [hshown other hother]
                exact Function.update_of_ne
                  (hphotos other (List.mem_cons_of_mem _ hother) photo List.mem_cons_self).symm _ _

/-- The caption that is found for a number of its own is that of its capture. -/
theorem captionForSequence_eq {captures : List CaptureRow} {capture : CaptureRow}
    (hnodup : (captures.map fun capture => capture.sequenceIndex).Nodup)
    (hcapture : capture ∈ captures) :
  EvidencePhotos.captionForSequence (captures.map specOf) capture.sequenceIndex =
    EvidencePhotos.presence capture.promptLabel
  := by
  have hfound : (captures.map specOf).find?
      (fun spec => spec.sequenceIndex = capture.sequenceIndex) = some (specOf capture) := by
    rw [List.find?_map]
    have hcaptures : captures.find?
        (fun other => other.sequenceIndex = capture.sequenceIndex) = some capture := by
      obtain ⟨front, back, rfl⟩ := List.append_of_mem hcapture
      rw [List.map_append, List.nodup_append] at hnodup
      apply List.find?_eq_some_iff_append.mpr
      use decide_eq_true rfl, front, back, rfl
      intro other hother
      have hne := hnodup.2.2 _ (List.mem_map.mpr ⟨other, hother, rfl⟩) _
        (List.mem_map.mpr ⟨capture, List.mem_cons_self, rfl⟩)
      simpa using hne
    exact (congrArg (Option.map specOf) hcaptures)
  rw [EvidencePhotos.captionForSequence, hfound]
  rfl

/-- The photos of a report, when there are any, are made from the thumbnails of the captures in
the order of their numbers. -/
theorem build_cases (mint : String → Except String String) (storage : Storage Image)
    (objects : Objects String Image) (jobId : String) {captures : List CaptureRow}
    (h : ∀ capture ∈ captures, capture.photoRef.isSome) :
  (EvidencePhotos.build mint storage objects jobId captures).2 = [] ∨
    ∃ thumbnails photos,
      (renderThumbnails storage jobId objects
          ((captures.insertionSort fun a b => a.sequenceIndex ≤ b.sequenceIndex).map specOf)).2 =
        .ok thumbnails ∧
      thumbnails.mapM (EvidencePhotos.evidencePhoto mint (captures.map specOf)) = .ok photos ∧
      EvidencePhotos.build mint storage objects jobId captures =
        ((renderThumbnails storage jobId objects
          ((captures.insertionSort fun a b => a.sequenceIndex ≤ b.sequenceIndex).map specOf)).1,
          photos.take EvidencePhotos.cap)
  := by
  have hsorted : (captures.map specOf).insertionSort
      (fun p q => p.sequenceIndex ≤ q.sequenceIndex) =
        (captures.insertionSort fun a b => a.sequenceIndex ≤ b.sequenceIndex).map specOf := by
    symm
    apply List.map_insertionSort
    intro a _ b _
    exact Iff.rfl
  have hresponse : renderEvidenceThumbnailsEndpoint storage objects
      ⟨Contract.pipelineSchemaVersion, jobId, captures.map specOf⟩ =
        renderThumbnails storage jobId objects
          ((captures.insertionSort fun a b => a.sequenceIndex ≤ b.sequenceIndex).map specOf) := by
    have hversion : checkPipelineVersion Contract.pipelineSchemaVersion = .ok () :=
      if_neg fun h => h rfl
    rw [← hsorted, renderEvidenceThumbnailsEndpoint, hversion]
  rw [EvidencePhotos.build, filterMap_photoSpec h]
  dsimp only
  rw [hresponse]
  split
  · exact .inl rfl
  · split
    · exact .inl rfl
    · next thumbnails hthumbnails =>
        split
        · exact .inl rfl
        · next photos hphotos => exact .inr ⟨thumbnails, photos, hthumbnails, hphotos, rfl⟩

/-- The thumbnails of captures with numbers of their own are all shown. -/
theorem thumbnailsShown_of_nodup {mint : String → Except String String}
    {order : List (CaptureRow × SessionRow)} (horder : order.Perm (photoCaptures w jobId))
    (hnodup : ((photoCaptures w jobId).map fun photo => photo.1.sequenceIndex).Nodup) :
  ThumbnailsShown mint storage jobId objects order
  := by
  unfold ThumbnailsShown
  intro report shown
  have hcaptures (capture : CaptureRow) (h : capture ∈ order.map Prod.fst) :
      ∃ i : Fin 8, capture.sequenceIndex = i ∧
        capture.photoRef = some ((Blob.photo i).key jobId) := by
    obtain ⟨photo, hphoto, rfl⟩ := List.mem_map.mp h
    exact exists_number (horder.mem_iff.mp hphoto)
  have hnumbers : ((order.map Prod.fst).map fun capture => capture.sequenceIndex).Nodup := by
    rw [List.map_map]
    exact (horder.map fun photo => photo.1.sequenceIndex).nodup_iff.mpr hnodup
  have hshown : shown.Perm (order.map Prod.fst) := List.perm_insertionSort _ _
  have hsome (capture : CaptureRow) (h : capture ∈ order.map Prod.fst) :
      capture.photoRef.isSome := by
    obtain ⟨i, -, hphoto⟩ := hcaptures capture h
    exact Option.isSome_of_eq_some hphoto
  obtain hnone | ⟨thumbnails, photos, hthumbnails, hphotos, hreport⟩ :=
    build_cases mint storage objects jobId hsome
  · exact .inl hnone
  right
  have hkeys : ((shown.map specOf).map fun photo => thumbnailKey jobId photo.sequenceIndex).Nodup := by
    rw [List.map_map]
    apply (nodup_map_congr _).mpr ((hshown.map fun capture => capture.sequenceIndex).nodup_iff.mpr
      hnumbers)
    intro a ha b hb
    obtain ⟨i, hi, -⟩ := hcaptures a (hshown.mem_iff.mp ha)
    obtain ⟨j, hj, -⟩ := hcaptures b (hshown.mem_iff.mp hb)
    change thumbnailKey jobId a.sequenceIndex = thumbnailKey jobId b.sequenceIndex ↔ _
    rw [hi, hj, thumbnailKey_inj]
    simp [Fin.ext_iff]
  have hsources : ∀ photo ∈ shown.map specOf, ∀ other ∈ shown.map specOf,
      thumbnailKey jobId other.sequenceIndex ≠ photo.photoRef := by
    intro photo hphoto other _
    obtain ⟨capture, hcapture, rfl⟩ := List.mem_map.mp hphoto
    obtain ⟨i, -, href⟩ := hcaptures capture (hshown.mem_iff.mp hcapture)
    rw [specOf, href, Option.getD_some]
    intro h
    have hhead := congrArg (fun key => key.toList.head?) h
    simp [thumbnailKey, Blob.toList_key, toString, String.toList_append] at hhead
  obtain ⟨rfl, hheld⟩ := renderThumbnails_eq_ok hkeys hsources hthumbnails
  have hrelated := forall₂_of_mapM_eq_ok hphotos
  rw [List.forall₂_map_left_iff, List.forall₂_map_left_iff] at hrelated
  have hreport' : report = ((renderThumbnails storage jobId objects (shown.map specOf)).1,
      photos.take EvidencePhotos.cap) := hreport
  rw [hreport']
  apply List.forall₂_take
  apply List.Forall₂.imp _ ((List.forall₂_and_left _ _).mpr ⟨fun capture h => h, hrelated⟩)
  rintro capture photo ⟨hcapture, hphoto⟩
  obtain ⟨imageUrl, hminted, hphoto⟩ := bind_eq_ok.mp hphoto
  obtain rfl := Except.ok.inj hphoto
  use thumbnailKey jobId capture.sequenceIndex, hminted
  constructor
  · exact hheld (specOf capture) (List.mem_map.mpr ⟨capture, hcapture, rfl⟩)
  · exact captionForSequence_eq hnumbers (hshown.mem_iff.mp hcapture)

end

/-! ### Artifacts of their own -/

theorem numbers_nodup_iff {β : Type} {f : CaptureRow × SessionRow → β}
    (h : ∀ photo ∈ photoCaptures w jobId, ∀ other ∈ photoCaptures w jobId, ∀ i j : Fin 8,
      photo.1.photoRef = some ((Blob.photo i).key jobId) → photo.1.sequenceIndex = i →
      other.1.photoRef = some ((Blob.photo j).key jobId) → other.1.sequenceIndex = j →
      (f photo = f other ↔ i = j)) :
  ((photoCaptures w jobId).map f).Nodup ↔
    ((photoCaptures w jobId).map fun photo => photo.1.sequenceIndex).Nodup
  := by
  apply nodup_map_congr
  intro photo hphoto other hother
  obtain ⟨i, hi, href⟩ := exists_number hphoto
  obtain ⟨j, hj, href'⟩ := exists_number hother
  rw [h photo hphoto other hother i j href hi href' hj, hi, hj]
  simp [Fin.ext_iff]

/-- The captures of a job have artifacts of their own exactly when they have numbers of their own,
as the numbers are unique within a session and the keys have nothing of the session. -/
theorem ownArtifacts_iff (w : CaptureBundle.World Bytes) (jobId : String) :
  OwnArtifacts w jobId ↔
    ((photoCaptures w jobId).map fun photo => photo.1.sequenceIndex).Nodup
  := by
  have hprojected (extension : String) :
      ((photoCaptures w jobId).map fun photo =>
        s!"artifacts/{jobId}/projected/{seqToken (photoRef photo)}{extension}").Nodup ↔
          ((photoCaptures w jobId).map fun photo => photo.1.sequenceIndex).Nodup := by
    apply numbers_nodup_iff
    intro photo _ other _ i j hi _ hj _
    rw [photoRef, photoRef, hi, hj, Option.getD_some, Option.getD_some, seqToken_key, seqToken_key]
    exact projectedKey_inj
  constructor
  · intro h
    exact (hprojected ".png").mp h.composite
  · intro hnodup
    constructor
    · exact (hprojected ".png").mpr hnodup
    · exact (hprojected ".svg").mpr hnodup
    · apply (numbers_nodup_iff _).mpr hnodup
      intro photo _ other _ i j _ hi _ hj
      rw [hi, hj]
      exact thumbnailKey_inj
    · intro Image Scene Mesh s drawing objects order horder
      exact overlaysShown_of_nodup horder hnodup
    · intro Image mint storage objects order horder
      exact thumbnailsShown_of_nodup horder hnodup

/-- The captures of two sessions of a job share their artifacts. -/
theorem second_session_shares_keys :
  ¬ @OwnArtifacts String TwoWalks.walks TwoWalks.afterTuesday "job"
  := by
  intro h
  apply absurd (@OwnArtifacts.thumbnail String TwoWalks.walks _ _ h)
  decide +kernel

end Rails.ArtifactKeys
