import RoofTrace.Capture.CameraPose
import RoofTrace.Rigid.Sight
import RoofTrace.Sidecar.PhotoOverlay

/-!
# Rendering a photo

`render/photo_projection.py`, `render/photo_occlusion.py` and the part of `_render_live` of
`project_photo/router.py` between reading the photo and writing the artifacts: the facets of a
request are brought into the frame of the ARKit session, projected to pixels, classified by rays
cast at the world mesh, and drawn as an SVG layer. The numbers are exact; the length of a vector,
the projection to UTM and the casting of a ray are those of a `Geometry`.
-/

namespace Sidecar

namespace PhotoRender

open Contract Transform Capture PhotoOverlay

/-- The vertices and the triangular faces of a world mesh. -/
structure Mesh where
  vertices : List (Vec3 ℚ)
  faces : List (Fin 3 → Fin vertices.length)

/-- A mesh without faces. -/
def Mesh.empty : Mesh := ⟨[], []⟩

/-- What is called of numpy, pyproj and trimesh. -/
structure Geometry where
  /-- `np.linalg.norm` -/
  norm : Vec3 ℚ → ℚ
  /-- `Transformer.transform` from EPSG:4326 to the EPSG of a UTM zone -/
  toUtm : ℤ → ℚ × ℚ → ℚ × ℚ
  /-- `intersects_location` of one ray, given by its origin and direction -/
  firstHit : Mesh → Vec3 ℚ → Vec3 ℚ → Option (Vec3 ℚ)

/-- What a validated `ProjectPhotoRequest` says of the facets and the camera. -/
structure Scene where
  arkitToUtm : ListOf 16 ℚ
  utmEpsg : ℤ
  intrinsics : ListOf 9 ℚ
  extrinsics : ListOf 16 ℚ
  facets : List Facet

section

variable (g : Geometry)

/-! ### Projection -/

/-- The inverse of a regular matrix, by its cofactors. -/
def inverse (M : Transform ℚ) : Transform ℚ := M.det⁻¹ • M.adjugate

/-- `np.linalg.inv` -/
def inv (M : Transform ℚ) : Except Exception (Transform ℚ) :=
  if M.det = 0 then throw (.other "LinAlgError") else return inverse M

/-- The easting, the northing and the elevation of a vertex, unless it is too short. -/
def vertexUtm (utmEpsg : ℤ) (v : List ℚ) : Option (Vec3 ℚ) :=
  if v.length < 2 then none
  else
    let elev := if 3 ≤ v.length then v.getD 2 0 else 0
    let (easting, northing) := g.toUtm utmEpsg (v.getD 0 0, v.getD 1 0)
    some ![easting, northing, elev]

/-- `facets_wgs84_to_arkit`: each facet with its `vertices_arkit`. -/
def facetsWgs84ToArkit (facets : List Facet) (arkitToUtm : List ℚ) (utmEpsg : ℤ) :
    Except Exception (List (Facet × List (Vec3 ℚ))) := do
  let M ← as4x4 arkitToUtm
  let inv ← inv M
  return facets.map fun facet =>
    (facet, facet.vertices.val.filterMap fun v => (vertexUtm g utmEpsg v.val).map inv.point)

/-- `project_facets`: the `points_px` and `in_front` of each facet. -/
def projectFacets (facets : List (Facet × List (Vec3 ℚ))) (intrinsics extrinsics : List ℚ) :
    Except Exception (List (List (ℚ × ℚ) × Bool)) :=
  facets.mapM fun facet => do
    let projected ← projectPoints facet.2 intrinsics extrinsics
    return (projected.map (·.1), projected.all (·.2))

/-! ### Occlusion -/

inductive OcclusionState where
  | visible
  | partially
  | occluded
deriving DecidableEq

def OcclusionState.value : OcclusionState → String
  | .visible => "visible"
  | .partially => "partial"
  | .occluded => "occluded"

/-- `_DEPTH_SLACK_M` -/
def depthSlackM : ℚ := 5 / 100

/-- Whether the first hit of the ray from the camera to a sample is nearer than the sample. -/
def isOccluded (mesh : Mesh) (origin sample : Vec3 ℚ) : Bool :=
  let direction := sample - origin
  let distance := g.norm direction
  if 1 / 10 ^ 9 < distance then
    match g.firstHit mesh origin (distance⁻¹ • direction) with
    | some location => g.norm (location - origin) < distance - depthSlackM
    | none => false
  else false

/-- `classify_facet_occlusion`: the state and the fraction that is occluded. -/
def classifyFacetOcclusion (origin : Vec3 ℚ) (samples : List (Vec3 ℚ)) (mesh : Mesh) :
    OcclusionState × ℚ :=
  if samples = [] then (.visible, 0)
  else if mesh.faces = [] ∨ mesh.vertices = [] then (.visible, 0)
  else
    let fraction : ℚ := samples.countP (isOccluded g mesh origin) / samples.length
    if fraction = 0 then (.visible, 0)
    else if 1 ≤ fraction then (.occluded, 1)
    else (.partially, fraction)

/-! ### The layer -/

/-- `-M[:3, :3].T @ M[:3, 3]` -/
def camOrigin (M : Transform ℚ) : Vec3 ℚ :=
  -(M.linear.transpose.mulVec fun i => M i.castSucc 3)

/-- A projected facet with its occlusion state. -/
def occlude (mesh : Mesh) (origin : Vec3 ℚ)
    (proj : (List (ℚ × ℚ) × Bool) × Facet × List (Vec3 ℚ)) : ProjectedFacet :=
  let ((pointsPx, inFront), facet, samples) := proj
  let state :=
    if samples ≠ [] ∧ mesh.faces ≠ [] then (classifyFacetOcclusion g origin samples mesh).1
    else .visible
  { facetId := some facet.facetId
    pointsPx := pointsPx
    inFront := some inFront
    occlusionState := some state.value
    pitchRatio := facet.pitchRatio.map fun ratio => .finite ratio.val
    areaSqFt := some (.finite facet.areaSqFt.val) }

/-- The facets of a request, projected and classified. -/
def projectScene (scene : Scene) (mesh : Mesh) : Except Exception (List ProjectedFacet) := do
  let bridged ← facetsWgs84ToArkit g scene.facets scene.arkitToUtm.val scene.utmEpsg
  let projected ← projectFacets bridged scene.intrinsics.val scene.extrinsics.val
  let M ← as4x4 scene.extrinsics.val
  return (projected.zip bridged).map (occlude g mesh (camOrigin M))

/-- `_render_live`: the overlay and the ids that are listed as occluded. -/
def renderLive (mean : List ℚ → Double) (scene : Scene) (mesh : Mesh) (widthPx heightPx : ℕ) :
    Except Exception (List Char × List (Option String)) := do
  let projected ← projectScene g scene mesh
  let overlaySvg ← buildOverlaySvg mean projected widthPx heightPx
  return (overlaySvg, occludedIds projected)

end

end PhotoRender

end Sidecar
