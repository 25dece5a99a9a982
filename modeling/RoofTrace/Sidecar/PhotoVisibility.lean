import RoofTrace.Sidecar.OverlayPrimitives
import RoofTrace.Sidecar.PhotoRender
import Mathlib.Algebra.BigOperators.Fin
import Mathlib.Data.Rat.Sqrt

/-!
# What is visible on a photo

The layer that is drawn over a photo against what the camera sees. A vertex is covered when the
world mesh has a point at its pixel that is less deep, by more than the slack: this is the depth
test of a picture, while the renderer casts rays in space. A facet is drawn when its vertices are
in front of the camera and some of them is not covered, it is dashed when some of them is, and
every facet that is not drawn is listed.
-/

namespace Sidecar

namespace PhotoRender

open Contract Transform Capture PhotoOverlay Sight Outcome

/-! ### The world mesh as a surface -/

def Mesh.vertex (mesh : Mesh) (face : Fin 3 → Fin mesh.vertices.length) (i : Fin 3) : Vec3 ℚ :=
  mesh.vertices.get (face i)

/-- A point is a convex combination of the vertices of a face. -/
def Mesh.OnFace (mesh : Mesh) (face : Fin 3 → Fin mesh.vertices.length) (s : Vec3 ℚ) : Prop :=
  ∃ w : Fin 3 → ℚ, (∀ i, 0 ≤ w i) ∧ ∑ i, w i = 1 ∧ s = ∑ i, w i • mesh.vertex face i

/-- How far a direction is from the plane of a face. -/
def Mesh.slant (mesh : Mesh) (face : Fin 3 → Fin mesh.vertices.length) (d : Vec3 ℚ) : ℚ :=
  (Matrix.of ![mesh.vertex face 1 - mesh.vertex face 0, mesh.vertex face 2 - mesh.vertex face 0,
    d]).det

/-- The points of the mesh that a ray meets. It meets no face that it sees edge-on. -/
def Mesh.Meets (mesh : Mesh) (d s : Vec3 ℚ) : Prop :=
  ∃ face ∈ mesh.faces, mesh.slant face d ≠ 0 ∧ mesh.OnFace face s

theorem Mesh.scales_meets (mesh : Mesh) :
  Scales mesh.Meets
  := by
  intro t d s ht
  have hslant : ∀ face, mesh.slant face (t • d) = t * mesh.slant face d := by
    intro face
    simp only [slant, Matrix.det_fin_three, Matrix.of_apply, Matrix.cons_val, Pi.smul_apply,
      smul_eq_mul]
    ring
  simp only [Meets, hslant, mul_ne_zero_iff, ne_eq, ht.ne', not_false_eq_true, true_and]

theorem Mesh.not_meets_of_faces {mesh : Mesh} (h : mesh.faces = []) (d s : Vec3 ℚ) :
  ¬ mesh.Meets d s
  := by
  rintro ⟨face, hface, -⟩
  rw [h] at hface
  exact List.not_mem_nil hface

/-! ### The samples of a facet -/

section Samples

variable {g : Geometry} {mesh : Mesh} {origin : Vec3 ℚ}

/-- A sample is hidden by the world mesh. -/
abbrev HiddenBy (g : Geometry) (mesh : Mesh) (origin : Vec3 ℚ) : Vec3 ℚ → Prop :=
  Hidden g.norm mesh.Meets depthSlackM origin

theorem isOccluded_iff (hnorm : IsLength g.norm)
    (hhit : IsFirstHit mesh.Meets origin (g.firstHit mesh origin)) (p : Vec3 ℚ) :
  isOccluded g mesh origin p = true ↔ HiddenBy g mesh origin p
  := by
  unfold isOccluded
  simp only []
  split
  · next hfar =>
    have hpos : 0 < g.norm (p - origin) := lt_trans (by norm_num) hfar
    rw [HiddenBy, hidden_iff hnorm mesh.scales_meets hhit hpos]
    cases g.firstHit mesh origin ((g.norm (p - origin))⁻¹ • (p - origin)) with
    | none => simp
    | some location => simp
  · next hnear =>
    have hle : g.norm (p - origin) ≤ depthSlackM :=
      le_trans (not_lt.mp hnear) (by norm_num [depthSlackM])
    exact iff_of_false Bool.false_ne_true (not_hidden_of_near hnorm hle)

/-- The state in which a facet is drawn. -/
def stateOf (g : Geometry) (mesh : Mesh) (origin : Vec3 ℚ) (samples : List (Vec3 ℚ)) :
    OcclusionState :=
  if samples ≠ [] ∧ mesh.faces ≠ [] then (classifyFacetOcclusion g origin samples mesh).1
  else .visible

/-- The state of a facet that has samples, by the samples that are hidden. -/
theorem stateOf_eq (hnorm : IsLength g.norm)
    (hhit : IsFirstHit mesh.Meets origin (g.firstHit mesh origin)) {samples : List (Vec3 ℚ)}
    (hsamples : samples ≠ []) :
  (stateOf g mesh origin samples = .visible ↔ ∀ p ∈ samples, ¬ HiddenBy g mesh origin p) ∧
    (stateOf g mesh origin samples = .occluded ↔ ∀ p ∈ samples, HiddenBy g mesh origin p)
  := by
  obtain ⟨first, hfirst⟩ := List.exists_mem_of_ne_nil _ hsamples
  have hlength : (0 : ℚ) < samples.length := by
    exact_mod_cast List.length_pos_iff.mpr hsamples
  by_cases hfaces : mesh.faces = []
  · have hclear : ∀ p, ¬ HiddenBy g mesh origin p := by
      rintro p ⟨t, -, hmeets, -⟩
      exact Mesh.not_meets_of_faces hfaces _ _ hmeets
    rw [stateOf, if_neg fun h => h.2 hfaces]
    exact ⟨iff_of_true rfl fun p _ => hclear p,
      iff_of_false (by rintro ⟨⟩) fun h => hclear first (h first hfirst)⟩
  · have hvertices : mesh.vertices ≠ [] := by
      intro hnil
      obtain ⟨face, -⟩ := List.exists_mem_of_ne_nil _ hfaces
      exact absurd (face 0).isLt (by simp [hnil])
    have hcount := List.countP_le_length (p := isOccluded g mesh origin) (l := samples)
    rw [stateOf, if_pos ⟨hsamples, hfaces⟩, classifyFacetOcclusion, if_neg hsamples,
      if_neg (not_or.mpr ⟨hfaces, hvertices⟩)]
    simp only [← isOccluded_iff hnorm hhit, div_eq_zero_iff, Nat.cast_eq_zero,
      List.length_eq_zero_iff, hsamples, or_false, one_le_div hlength, Nat.cast_le]
    have hnone := List.countP_eq_zero (p := isOccluded g mesh origin) (l := samples)
    have hall := List.countP_eq_length (p := isOccluded g mesh origin) (l := samples)
    by_cases h0 : samples.countP (isOccluded g mesh origin) = 0
    · rw [if_pos h0]
      exact ⟨iff_of_true rfl (hnone.mp h0), iff_of_false (by rintro ⟨⟩) fun h =>
        hnone.mp h0 first hfirst (h first hfirst)⟩
    · rw [if_neg h0]
      by_cases h1 : samples.length ≤ samples.countP (isOccluded g mesh origin)
      · rw [if_pos h1]
        exact ⟨iff_of_false (by rintro ⟨⟩) fun h => h0 (hnone.mpr h),
          iff_of_true rfl (hall.mp (le_antisymm hcount h1))⟩
      · rw [if_neg h1]
        exact ⟨iff_of_false (by rintro ⟨⟩) fun h => h0 (hnone.mpr h),
          iff_of_false (by rintro ⟨⟩) fun h => h1 (hall.mpr h).ge⟩

end Samples

/-! ### The camera -/

/-- The matrix of a transform given by rows. -/
def matrix4 (flat : ListOf 16 ℚ) : Transform ℚ := Matrix.of fun i j => flat.val.getD (4 * i + j) 0

/-- The matrix of the intrinsics. -/
def matrix3 (flat : ListOf 9 ℚ) : Matrix (Fin 3) (Fin 3) ℚ :=
  Matrix.of fun i j => flat.val.getD (3 * i + j) 0

theorem as4x4_eq (flat : ListOf 16 ℚ) :
  as4x4 flat.val = .ok (matrix4 flat)
  := if_neg (not_not.mpr flat.property)

theorem as3x3_eq (flat : ListOf 9 ℚ) :
  as3x3 flat.val = .ok (matrix3 flat)
  := if_neg (not_not.mpr flat.property)

theorem camOrigin_eq (E : Transform ℚ) :
  camOrigin E = center E
  := by
  ext i
  rw [camOrigin, center, point_apply]
  simp only [Pi.neg_apply, Matrix.mulVec, dotProduct, Fin.sum_univ_three, Matrix.transpose_apply,
    linear, Matrix.of_apply, rigidInverse, ofParts]
  fin_cases i <;> simp

/-- The inverse that is computed of an affine transform undoes it. -/
theorem point_inv {M : Transform ℚ} (haffine : IsAffine M) (hdet : M.det ≠ 0) (u : Vec3 ℚ) :
  M.point ((inverse M).point u) = u
  := by
  have hmul : M * inverse M = 1 := by
    rw [inverse, Matrix.mul_smul, Matrix.mul_adjugate, smul_smul, inv_mul_cancel₀ hdet, one_smul]
  have hlast : IsAffine (inverse M) := by
    have hM : M 3 = ![0, 0, 0, 1] := haffine
    have hrow := congrFun hmul 3
    ext j
    have hj := congrFun hrow j
    rw [Matrix.mul_apply, Fin.sum_univ_four, hM] at hj
    simp only [Matrix.cons_val, zero_mul, one_mul, zero_add] at hj
    rw [hj]
    fin_cases j <;> rfl
  rw [← mul_point _ hlast, hmul, one_point]

/-! ### What is drawn -/

section Drawn

variable (g : Geometry) (mesh : Mesh) (E : Transform ℚ)

/-- A vertex is covered in the picture by the world mesh. -/
abbrev CoveredBy : Vec3 ℚ → Prop := Covered g.norm mesh.Meets depthSlackM E

/-- How a facet of a scene is pictured, with the places of its vertices in the frame of the ARKit
session. -/
structure Pictures (scene : Scene) (facet : Facet) (proj : ProjectedFacet)
    (places : List (Vec3 ℚ)) : Prop where
  facetId : proj.facetId = some facet.facetId
  placed : List.Forall₂
    (fun v p => vertexUtm g scene.utmEpsg v.val = some ((matrix4 scene.arkitToUtm).point p))
    facet.vertices.val places
  pixels : proj.pointsPx = places.map fun p => (projectPoint (matrix3 scene.intrinsics) E p).1
  drawn : drawable proj = true ↔
    (∀ p ∈ places, minDepthM < E.point p 2) ∧ ∃ p ∈ places, ¬ CoveredBy g mesh E p
  dashed : drawable proj = true →
    (proj.occlusionState = some "partial" ↔ ∃ p ∈ places, CoveredBy g mesh E p)

end Drawn

section

variable {g : Geometry} {mesh : Mesh} {scene : Scene}

/-- Where a facet is placed. -/
def placesOf (g : Geometry) (scene : Scene) (facet : Facet) : List (Vec3 ℚ) :=
  facet.vertices.val.filterMap fun v =>
    (vertexUtm g scene.utmEpsg v.val).map (inverse (matrix4 scene.arkitToUtm)).point

/-- Every vertex of a validated facet is placed. -/
theorem placed_placesOf (haffine : IsAffine (matrix4 scene.arkitToUtm))
    (hdet : (matrix4 scene.arkitToUtm).det ≠ 0) (facet : Facet) :
  List.Forall₂
    (fun v p => vertexUtm g scene.utmEpsg v.val = some ((matrix4 scene.arkitToUtm).point p))
    facet.vertices.val (placesOf g scene facet)
  := by
  have hsome : ∀ v : Position, ∃ u, vertexUtm g scene.utmEpsg v.val = some u := by
    intro v
    rw [vertexUtm, if_neg (not_lt.mpr v.property.1)]
    exact ⟨_, rfl⟩
  unfold placesOf
  induction facet.vertices.val with
  | nil => exact .nil
  | cons v vs ih =>
      obtain ⟨u, hu⟩ := hsome v
      rw [List.filterMap_cons, hu]
      refine .cons ?_ ih
      rw [hu, point_inv haffine hdet]

/-- What the renderer makes of a facet. -/
def projected (g : Geometry) (scene : Scene) (mesh : Mesh) (facet : Facet) : ProjectedFacet :=
  let places := placesOf g scene facet
  let uv := places.map (projectPoint (matrix3 scene.intrinsics) (matrix4 scene.extrinsics))
  occlude g mesh (center (matrix4 scene.extrinsics))
    ((uv.map (·.1), uv.all (·.2)), facet, places)

theorem projectScene_eq (g : Geometry) (mesh : Mesh) {scene : Scene}
    (hdet : (matrix4 scene.arkitToUtm).det ≠ 0) :
  projectScene g scene mesh = .ok (scene.facets.map (projected g scene mesh))
  := by
  have hinv : inv (matrix4 scene.arkitToUtm) = .ok (inverse (matrix4 scene.arkitToUtm)) :=
    if_neg hdet
  have hproject : ∀ places : List (Vec3 ℚ),
      projectPoints places scene.intrinsics.val scene.extrinsics.val =
        .ok (places.map (projectPoint (matrix3 scene.intrinsics) (matrix4 scene.extrinsics))) := by
    intro places
    rw [projectPoints, as3x3_eq, as4x4_eq]
    rfl
  have hfacets : ∀ facets : List (Facet × List (Vec3 ℚ)),
      projectFacets facets scene.intrinsics.val scene.extrinsics.val =
        .ok (facets.map fun facet =>
          let uv := facet.2.map
            (projectPoint (matrix3 scene.intrinsics) (matrix4 scene.extrinsics))
          (uv.map (·.1), uv.all (·.2))) := by
    intro facets
    apply mapM_ok
    intro facet _
    rw [hproject]
    rfl
  rw [projectScene, facetsWgs84ToArkit, as4x4_eq, as4x4_eq]
  change (inv _ >>= _) >>= _ = _
  rw [hinv]
  change projectFacets _ _ _ >>= _ = _
  rw [hfacets]
  change Except.ok _ = _
  rw [camOrigin_eq, List.map_map, List.zip_map', List.map_map]
  rfl

/-- A facet is pictured by what is projected of it: its vertices are placed in the frame of the
phone, its pixels are those of a pinhole camera, and it is covered just when the mesh meets the
segment to each vertex. -/
theorem pictures_projected (haffine : IsAffine (matrix4 scene.arkitToUtm))
    (hdet : (matrix4 scene.arkitToUtm).det ≠ 0) (hrigid : IsRigid (matrix4 scene.extrinsics))
    (hnorm : IsLength g.norm)
    (hhit : IsFirstHit mesh.Meets (center (matrix4 scene.extrinsics))
      (g.firstHit mesh (center (matrix4 scene.extrinsics)))) (facet : Facet) :
  Pictures g mesh (matrix4 scene.extrinsics) scene facet (projected g scene mesh facet)
    (placesOf g scene facet)
  := by
  have hplaced := placed_placesOf (g := g) haffine hdet facet
  have hlength : 3 ≤ (placesOf g scene facet).length :=
    hplaced.length_eq ▸ facet.vertices.property
  have hne : placesOf g scene facet ≠ [] := by
    intro hnil
    rw [hnil] at hlength
    exact absurd hlength (by decide)
  obtain ⟨hvisible, hoccluded⟩ := stateOf_eq (g := g) hnorm hhit hne
  have hfront : ((placesOf g scene facet).map
      (projectPoint (matrix3 scene.intrinsics) (matrix4 scene.extrinsics))).all (·.2) = true ↔
        ∀ p ∈ placesOf g scene facet, minDepthM < (matrix4 scene.extrinsics).point p 2 := by
    simp [projectPoint]
  have hdrawable : drawable (projected g scene mesh facet) = true ↔
      (∀ p ∈ placesOf g scene facet, minDepthM < (matrix4 scene.extrinsics).point p 2) ∧
        stateOf g mesh (center (matrix4 scene.extrinsics)) (placesOf g scene facet)
          ≠ .occluded := by
    rw [drawable, projected, occlude, Bool.and_eq_true, Bool.and_eq_true, List.length_map,
      List.length_map, decide_eq_true hlength, and_iff_left rfl, ← hfront]
    change _ ∧ ((some (OcclusionState.value (stateOf _ _ _ _))) != _) = true ↔ _
    cases stateOf g mesh (center (matrix4 scene.extrinsics)) (placesOf g scene facet) <;>
      simp [OcclusionState.value]
  have hdashed : (projected g scene mesh facet).occlusionState = some "partial" ↔
      stateOf g mesh (center (matrix4 scene.extrinsics)) (placesOf g scene facet)
          = .partially := by
    change some (OcclusionState.value (stateOf _ _ _ _)) = _ ↔ _
    cases stateOf g mesh (center (matrix4 scene.extrinsics)) (placesOf g scene facet) <;>
      simp [OcclusionState.value]
  have hcovered : (∀ p ∈ placesOf g scene facet,
      minDepthM < (matrix4 scene.extrinsics).point p 2) → ∀ p ∈ placesOf g scene facet,
        (HiddenBy g mesh (center (matrix4 scene.extrinsics)) p ↔
          CoveredBy g mesh (matrix4 scene.extrinsics) p) := by
    intro hdeep p hp
    have hdepth : 0 < (matrix4 scene.extrinsics).point p 2 :=
      lt_trans (by norm_num [minDepthM]) (hdeep p hp)
    exact hidden_iff_covered hnorm (by norm_num [depthSlackM]) hrigid hdepth
  constructor
  · rfl
  · exact hplaced
  · rw [projected, occlude, List.map_map]
    rfl
  · rw [hdrawable]
    apply and_congr_right
    intro hdeep
    rw [ne_eq, hoccluded, not_forall]
    apply exists_congr
    intro p
    rw [Classical.not_imp]
    apply and_congr_right
    intro hp
    rw [hcovered hdeep p hp]
  · intro hdrawn
    obtain ⟨hdeep, hstate⟩ := hdrawable.mp hdrawn
    have hnot_visible : stateOf g mesh (center (matrix4 scene.extrinsics))
        (placesOf g scene facet) = .partially ↔ stateOf g mesh (center (matrix4 scene.extrinsics))
          (placesOf g scene facet) ≠ .visible := by
      cases h : stateOf g mesh (center (matrix4 scene.extrinsics)) (placesOf g scene facet) with
      | visible => simp
      | partially => simp
      | occluded => exact absurd h hstate
    rw [hdashed, hnot_visible, ne_eq, hvisible, not_forall]
    apply exists_congr
    intro p
    rw [Classical.not_imp, not_not]
    apply and_congr_right
    intro hp
    rw [hcovered hdeep p hp]

/-- With at least three points, a facet that is not drawn is listed. -/
theorem occludedIds_eq {facets : List ProjectedFacet}
    (hpoints : ∀ facet ∈ facets, 3 ≤ facet.pointsPx.length) :
  occludedIds facets = (facets.filter fun facet => !drawable facet).map (·.facetId)
  := by
  induction facets with
  | nil => rfl
  | cons facet facets ih =>
      have hlisted : (facet.occlusionState = some "occluded" ∨ facet.inFront = some false) ↔
          (!drawable facet) = true := by
        rw [drawable, decide_eq_true (hpoints facet List.mem_cons_self), Bool.and_true,
          Bool.not_and, Bool.or_eq_true, Bool.not_eq_true', Bool.not_eq_true',
          bne_eq_false_iff_eq, bne_eq_false_iff_eq]
        exact or_comm
      have htail := ih fun other hother => hpoints other (List.mem_cons_of_mem _ hother)
      rw [occludedIds, List.filterMap_cons, List.filter_cons, ← occludedIds, htail]
      by_cases h : facet.occlusionState = some "occluded" ∨ facet.inFront = some false
      · rw [if_pos h, if_pos (hlisted.mp h), List.map_cons]
      · rw [if_neg h, if_neg fun hnot => h (hlisted.mpr hnot)]

end

/-- Every facet of a scene is drawn or listed, and it is drawn when all its vertices are in front of
the camera and the world mesh does not cover all of them. -/
theorem overlay_shows_uncovered (g : Geometry) (mean : List ℚ → Double) (scene : Scene)
    (mesh : Mesh) (widthPx heightPx : ℕ) (haffine : IsAffine (matrix4 scene.arkitToUtm))
    (hdet : (matrix4 scene.arkitToUtm).det ≠ 0) (hrigid : IsRigid (matrix4 scene.extrinsics))
    (hnorm : IsLength g.norm)
    (hhit : IsFirstHit mesh.Meets (center (matrix4 scene.extrinsics))
      (g.firstHit mesh (center (matrix4 scene.extrinsics)))) :
  ∃ facets, renderLive g mean scene mesh widthPx heightPx =
      .ok (layer mean (facets.filter drawable) widthPx heightPx,
        (facets.filter fun facet => !drawable facet).map (·.facetId)) ∧
    List.Forall₂
      (fun facet proj =>
        ∃ places, Pictures g mesh (matrix4 scene.extrinsics) scene facet proj places)
      scene.facets facets
  := by
  have hpictures := pictures_projected haffine hdet hrigid hnorm hhit
  refine ⟨scene.facets.map (projected g scene mesh), ?_, ?_⟩
  · have hpoints : ∀ proj ∈ scene.facets.map (projected g scene mesh),
        3 ≤ proj.pointsPx.length := by
      rintro _ hproj
      obtain ⟨facet, -, rfl⟩ := List.mem_map.mp hproj
      rw [(hpictures facet).pixels, List.length_map, ← (hpictures facet).placed.length_eq]
      exact facet.vertices.property
    have hlabels : ∀ proj ∈ (scene.facets.map (projected g scene mesh)).filter drawable,
        labelText proj = .ok (labelOf proj) := by
      intro _ hproj
      obtain ⟨facet, -, rfl⟩ := List.mem_map.mp (List.mem_filter.mp hproj).1
      rfl
    rw [renderLive, projectScene_eq g mesh hdet, ← occludedIds_eq hpoints]
    change buildOverlaySvg _ _ _ _ >>= _ = _
    rw [buildOverlaySvg_eq mean hlabels]
    rfl
  · rw [List.forall₂_map_right_iff, List.forall₂_same]
    exact fun facet _ => ⟨_, hpictures facet⟩

/-! ### A wall before a facet

A facet that stands upright is seen from the side, over a wall that covers the middle of it. -/

/-- A length that is the Euclidean one where that is rational. -/
def rationalLength (v : Vec3 ℚ) : ℚ :=
  let square := v 0 * v 0 + v 1 * v 1 + v 2 * v 2
  if Rat.sqrt square * Rat.sqrt square = square then Rat.sqrt square
  else max |v 0| (max |v 1| |v 2|)

theorem isLength_rationalLength :
  IsLength rationalLength
  := by
  constructor
  · intro v
    unfold rationalLength
    simp only []
    split
    · apply Rat.sqrt_nonneg
    · exact le_trans (abs_nonneg _) (le_max_left _ _)
  · intro t v ht
    have hsquare : (t • v) 0 * (t • v) 0 + (t • v) 1 * (t • v) 1 + (t • v) 2 * (t • v) 2 =
        t * t * (v 0 * v 0 + v 1 * v 1 + v 2 * v 2) := by
      simp only [Pi.smul_apply, smul_eq_mul]
      ring
    unfold rationalLength
    simp only [hsquare]
    generalize v 0 * v 0 + v 1 * v 1 + v 2 * v 2 = q
    obtain rfl | hpos := ht.eq_or_lt
    · have hzero : Rat.sqrt 0 = 0 := by simp
      rw [mul_zero, zero_mul, zero_mul, hzero, mul_zero, if_pos rfl]
    by_cases hq : Rat.sqrt q * Rat.sqrt q = q
    · have hroot : Rat.sqrt (t * t * q) = t * Rat.sqrt q := by
        calc Rat.sqrt (t * t * q)
            = Rat.sqrt ((t * Rat.sqrt q) * (t * Rat.sqrt q)) := by
              rw [mul_mul_mul_comm, hq]
          _ = t * Rat.sqrt q := by
              rw [Rat.sqrt_eq, abs_of_nonneg (mul_nonneg ht (Rat.sqrt_nonneg q))]
      rw [if_pos hq, hroot, mul_mul_mul_comm, hq, if_pos rfl]
    · have hscaled : ¬ Rat.sqrt (t * t * q) * Rat.sqrt (t * t * q) = t * t * q := by
        intro hsquare
        apply hq
        have hroot : q = (Rat.sqrt (t * t * q) / t) * (Rat.sqrt (t * t * q) / t) := by
          rw [div_mul_div_comm, hsquare, mul_div_cancel_left₀ _ (mul_pos hpos hpos).ne']
        rw [hroot, Rat.sqrt_eq, abs_mul_abs_self]
      rw [if_neg hq, if_neg hscaled, mul_max_of_nonneg _ _ ht, mul_max_of_nonneg _ _ ht]
      simp only [Pi.smul_apply, smul_eq_mul, abs_mul, abs_of_nonneg ht]

def wall : Mesh where
  vertices := [![-1, -2, -1], ![2, -2, -1], ![-1, -2, 2]]
  faces := [fun i => i]

/-- Where a ray meets the wall. -/
def wallHit (origin direction : Vec3 ℚ) : Option (Vec3 ℚ) :=
  let h := origin + ((-2 - origin 1) / direction 1) • direction
  if 0 < direction 1 ∧ -1 ≤ h 0 ∧ -1 ≤ h 2 ∧ h 0 + h 2 ≤ 1 then some h else none

theorem wall_meets_iff (d s : Vec3 ℚ) :
  wall.Meets d s ↔ d 1 ≠ 0 ∧ s 1 = -2 ∧ -1 ≤ s 0 ∧ -1 ≤ s 2 ∧ s 0 + s 2 ≤ 1
  := by
  have hslant : wall.slant (fun i => i) d = -9 * d 1 := by
    simp [Mesh.slant, Mesh.vertex, wall, Matrix.det_fin_three]
    norm_num
  have hface : wall.OnFace (fun i => i) s ↔ s 1 = -2 ∧ -1 ≤ s 0 ∧ -1 ≤ s 2 ∧ s 0 + s 2 ≤ 1 := by
    constructor
    · rintro ⟨w, hw, hsum, rfl⟩
      have h0 := hw 0
      have h1 := hw 1
      have h2 := hw 2
      rw [Fin.sum_univ_three] at hsum
      simp [Mesh.vertex, wall, Fin.sum_univ_three]
      refine ⟨?_, ?_, ?_, ?_⟩ <;> linarith
    · rintro ⟨hy, hx, hz, hxz⟩
      refine ⟨![(1 - s 0 - s 2) / 3, (s 0 + 1) / 3, (s 2 + 1) / 3], ?_, ?_, ?_⟩
      · intro i
        fin_cases i <;> simp <;> linarith
      · simp [Fin.sum_univ_three]
        ring
      · ext i
        fin_cases i <;> simp [Mesh.vertex, wall, Fin.sum_univ_three] <;> linarith
  unfold Mesh.Meets
  constructor
  · rintro ⟨face, hmem, hne, hon⟩
    obtain rfl := List.mem_singleton.mp hmem
    rw [hslant] at hne
    exact ⟨right_ne_zero_of_mul hne, hface.mp hon⟩
  · rintro ⟨hne, hon⟩
    refine ⟨fun i => i, List.mem_singleton_self _, ?_, hface.mpr hon⟩
    rw [hslant]
    exact mul_ne_zero (by norm_num) hne

/-- The camera is four metres from the facet and two metres from the wall. -/
theorem isFirstHit_wallHit {o : Vec3 ℚ} (ho : o = ![0, -4, 0]) :
  IsFirstHit wall.Meets o (wallHit o)
  := by
  have hy : ∀ (t : ℚ) (d : Vec3 ℚ), (o + t • d) 1 = -4 + t * d 1 := by
    intro t d
    simp [ho]
  have ho1 : -2 - o 1 = 2 := by
    norm_num [ho]
  intro d _
  unfold wallHit
  rw [ho1]
  simp only []
  split_ifs with h
  · obtain ⟨hpos, hx, hz, hxz⟩ := h
    refine ⟨2 / d 1, by positivity, rfl, ?_, ?_⟩
    · rw [wall_meets_iff]
      refine ⟨hpos.ne', ?_, hx, hz, hxz⟩
      rw [hy, div_mul_cancel₀ _ hpos.ne']
      norm_num
    · intro r hr hlt hmeets
      have hwall := ((wall_meets_iff _ _).mp hmeets).2.1
      rw [hy] at hwall
      rw [lt_div_iff₀ hpos] at hlt
      linarith
  · intro t ht hmeets
    obtain ⟨hne, hwall, hx, hz, hxz⟩ := (wall_meets_iff _ _).mp hmeets
    rw [hy] at hwall
    have htwo : t * d 1 = 2 := by linarith
    have hpos : 0 < d 1 := by
      by_contra hle
      have := mul_nonpos_of_nonneg_of_nonpos ht (not_lt.mp hle)
      linarith
    apply h
    rw [← htwo, mul_div_cancel_right₀ _ hne]
    exact ⟨hpos, hx, hz, hxz⟩

theorem one_confident :
  (0 : ℚ) ≤ 1 ∧ (1 : ℚ) ≤ 1
  :=
  ⟨zero_le_one, le_rfl⟩

theorem no_area :
  (0 : ℚ) ≤ 0
  := le_rfl

/-- A facet of three vertices on one vertical line, at the equator. -/
def upright : Facet where
  facetId := "f1"
  vertices := ⟨[⟨[-99, 0, 0], by decide⟩, ⟨[-99, 0, 3], by decide⟩, ⟨[-99, 0, -3], by decide⟩],
    by decide⟩
  pitchRatio := none
  pitchDegrees := none
  areaSqFt := ⟨0, no_area⟩
  source := .fusion
  confidence := ⟨1, one_confident⟩

/-- The camera looks north at the facet. -/
def fromTheSide : Scene where
  arkitToUtm := ⟨[1, 0, 0, 500000, 0, 1, 0, 0, 0, 0, 1, 0, 0, 0, 0, 1], rfl⟩
  utmEpsg := 32614
  intrinsics := ⟨[1000, 0, 960, 0, 1000, 720, 0, 0, 1], rfl⟩
  extrinsics := ⟨[0, 0, 1, 0, 1, 0, 0, 0, 0, 1, 0, 4, 0, 0, 0, 1], rfl⟩
  facets := [upright]

/-- The zone is taken to be flat around its central meridian at the equator. -/
def flatEarth : Geometry where
  norm := rationalLength
  toUtm _ lonLat := (500000 + 111320 * (lonLat.1 + 99), 110574 * lonLat.2)
  firstHit _ := wallHit

def mean (xs : List ℚ) : Double := .finite (xs.sum / xs.length)

/-- The overlay of a photo that is taken from the side of an upright facet. -/
theorem overlay_shows_uncovered_upright :
  ∃ facets, renderLive flatEarth mean fromTheSide wall 1920 1440 =
      .ok (layer mean (facets.filter drawable) 1920 1440,
        (facets.filter fun facet => !drawable facet).map (·.facetId)) ∧
    List.Forall₂
      (fun facet proj => ∃ places,
        Pictures flatEarth wall (matrix4 fromTheSide.extrinsics) fromTheSide facet proj places)
      fromTheSide.facets facets
  := by
  have haffine : IsAffine (matrix4 fromTheSide.arkitToUtm) := by
    ext j
    fin_cases j <;> rfl
  have hregular : (matrix4 fromTheSide.arkitToUtm).det ≠ 0 := by
    simp [matrix4, fromTheSide, Matrix.det_succ_row_zero, Fin.sum_univ_succ]
  have hrigid : IsRigid (matrix4 fromTheSide.extrinsics) := by
    constructor
    · ext j
      fin_cases j <;> rfl
    · ext i j
      fin_cases i <;> fin_cases j <;>
        simp [matrix4, fromTheSide, linear, Matrix.mul_apply, Fin.sum_univ_three]
    · simp [matrix4, fromTheSide, linear, Matrix.det_fin_three]
  have hcenter : center (matrix4 fromTheSide.extrinsics) = ![0, -4, 0] := by
    ext i
    rw [← camOrigin_eq]
    fin_cases i <;>
      simp [camOrigin, matrix4, fromTheSide, linear, Matrix.mulVec, dotProduct, Fin.sum_univ_three]
  exact overlay_shows_uncovered flatEarth mean fromTheSide wall 1920 1440 haffine hregular hrigid
    isLength_rationalLength (isFirstHit_wallHit hcenter)

end PhotoRender

end Sidecar
