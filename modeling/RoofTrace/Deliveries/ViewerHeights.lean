import RoofTrace.Deliveries.StoredRows
import RoofTrace.Export.RoofProjection
import RoofTrace.Viewer.Elevation
import Mathlib.Data.List.ReduceOption

/-!
# Heights in the viewers

The web viewer and the phone show the same measurement in two programs of their own: the one is
given the stored facets, the other one decodes the export. While LiDAR points are shown, or have
not been loaded, what the phone shows is the projection of what the web viewer shows, point for
point, and every height over the ground is the same.
-/

namespace Rails

open Effects ExportRoundTrip Phone Phone.RoofProjection

namespace ViewerHeights

/-! ### The lowest of many -/

theorem lower_some (a z : ℚ) :
  Viewer.lower (some a) (some z) = some (min a z)
  := by
  rw [Viewer.lower]
  split
  · next h => rw [min_eq_right h.le]
  · next h => rw [min_eq_left (not_lt.mp h)]

/-- A loop that takes the lower elevation finds the lowest one. -/
theorem foldl_lower (xs : List (Option ℚ)) (least : Option ℚ) :
  xs.foldl Viewer.lower least = (least.toList ++ xs.reduceOption).min?
  := by
  induction xs generalizing least with
  | nil => cases least <;> rfl
  | cons x xs ih =>
      rw [List.foldl_cons, ih]
      cases x with
      | none =>
          have hleast : Viewer.lower least none = least := by cases least <;> rfl
          rw [hleast, List.reduceOption_cons_of_none]
      | some z =>
          rw [List.reduceOption_cons_of_some]
          cases least with
          | none => rfl
          | some a =>
              rw [lower_some]
              rfl

/-- The loop over what has an elevation or not. -/
theorem foldl_lower_map {α : Type} (f : α → Option ℚ) (xs : List α) :
  xs.foldl (fun least x => Viewer.lower least (f x)) none = (xs.filterMap f).min?
  := by
  have h := foldl_lower (xs.map f) none
  rw [List.foldl_map, Option.toList_none, List.nil_append, List.reduceOption,
    List.filterMap_map] at h
  exact h

/-- The lowest of two lists is the lower one of their lowest. -/
theorem min?_append (xs ys : List ℚ) :
  (xs.min?.toList ++ ys.min?.toList).min? = (xs ++ ys).min?
  := by
  cases xs with
  | nil => cases ys <;> rfl
  | cons x xs =>
      cases ys with
      | nil => rw [List.append_nil]; rfl
      | cons y ys =>
          rw [List.cons_append, List.min?_cons', List.min?_cons', List.min?_cons',
            List.foldl_append, List.foldl_cons, List.foldl_assoc]
          rfl

theorem min?_map_div (xs : List ℚ) {c : ℚ} (hc : 0 ≤ c) :
  (xs.map (· / c)).min? = xs.min?.map (· / c)
  := by
  cases xs with
  | nil => rfl
  | cons x xs =>
      rw [List.map_cons, List.min?_cons', List.min?_cons', List.foldl_map, Option.map_some]
      rw [List.foldl_hom (· / c) fun a b => min_div_div_right hc a b]

/-! ### Places -/

/-- A place on the earth, with an elevation or not. -/
structure Place where
  longitude : ℚ
  latitude : ℚ
  elevation : Option ℚ
  inRange : -180 ≤ longitude ∧ longitude ≤ 180 ∧ -90 ≤ latitude ∧ latitude ≤ 90

namespace Place

/-- The vertex that is stored, and that the web viewer is given. -/
def stored (p : Place) : List ℚ := p.longitude :: p.latitude :: p.elevation.toList

/-- The vertex that the phone reads. -/
def read (p : Place) : List ℚ := p.latitude :: p.longitude :: p.elevation.toList

def coordinate (p : Place) : Coordinate := ⟨p.latitude, p.longitude⟩

theorem getElem?_stored (p : Place) :
  p.stored[2]? = p.elevation
  := by
  rw [stored]
  cases p.elevation <;> rfl

theorem getElem?_read (p : Place) :
  p.read[2]? = p.elevation
  := by
  rw [read]
  cases p.elevation <;> rfl

theorem coordFromFacetVertex_read (p : Place) :
  coordFromFacetVertex p.read = some p.coordinate
  := by
  obtain ⟨hwest, heast, hsouth, hnorth⟩ := p.inRange
  exact if_pos ⟨hsouth, hnorth, hwest, heast⟩

end Place

/-- The vertices on the phone, when they are of places. -/
theorem vertices3D_of_places {facet : RoofExport.Facet} {places : List Place}
    (h : facet.vertices = places.map Place.read) :
  facet.vertices3D = places.map fun p => (p.coordinate, p.elevation)
  := by
  rw [RoofExport.Facet.vertices3D, h, List.filterMap_map, ← List.filterMap_eq_map]
  congr 1
  funext p
  simp [Place.coordFromFacetVertex_read, Place.getElem?_read]

/-- The longitude and the latitude of a stored vertex are in their ranges. -/
def InRange (v : List ℚ) : Prop :=
  -180 ≤ v.getD 0 0 ∧ v.getD 0 0 ≤ 180 ∧ -90 ≤ v.getD 1 0 ∧ v.getD 1 0 ≤ 90

instance (v : List ℚ) : Decidable (InRange v) := inferInstanceAs (Decidable (_ ∧ _))

/-- A stored vertex in range is of a place. -/
theorem exists_place {v : List ℚ} (hmin : 2 ≤ v.length) (hmax : v.length ≤ 3) (h : InRange v) :
  ∃ p : Place, v = p.stored
  := by
  rcases v with _ | ⟨lon, _ | ⟨lat, _ | ⟨elevation, _ | ⟨extra, rest⟩⟩⟩⟩
  · cases hmin
  · simp at hmin
  · exact ⟨⟨lon, lat, none, h⟩, rfl⟩
  · exact ⟨⟨lon, lat, some elevation, h⟩, rfl⟩
  · simp only [List.length_cons] at hmax
    omega

/-! ### Facets -/

theorem numbers_num (xs : List ℚ) :
  Viewer.numbers (.arr (xs.map .num)) = xs
  := by
  rw [Viewer.numbers, List.filterMap_map]
  exact List.filterMap_some

/-- The web viewer is given the stored vertices. -/
theorem get_facet (f : Json ℚ) :
  (Json.obj (JobExportSerializer.slice f Viewer.facetKeys)).get "vertices" = f.get "vertices"
  := by
  have hslice := lookup_slice id "vertices" f Viewer.facetKeys fun _ _ heq => heq
  rw [show (fun m : String × Json ℚ => (id m.1, m.2)) = id from rfl, List.map_id,
    if_pos (by decide)] at hslice
  rw [Json.get_obj, ← getD_member?]
  exact congrArg (·.getD .null) hslice

/-- A position that is stored as the contract has it, in range, is of a place. -/
theorem exists_place_of_position {v : List ℚ}
    (h : PipelineSchema.position (storedVertex v) = true)
    (hrange : InRange (Viewer.numbers (storedVertex v))) :
  ∃ p : Place, Viewer.numbers (storedVertex v) = p.stored ∧ v = p.read
  := by
  rcases v with _ | ⟨lat, _ | ⟨lon, rest⟩⟩
  · cases h
  · cases h
  · have hnumbers : Viewer.numbers (storedVertex (lat :: lon :: rest)) = lon :: lat :: rest :=
      numbers_num _
    have hmax : Schema.maxItems 3 (storedVertex (lat :: lon :: rest)) = true :=
      accepts_of_allOf h (by simp)
    have hlength : (lon :: lat :: rest).length ≤ 3 := by
      simpa [storedVertex, Schema.maxItems] using hmax
    rw [hnumbers] at hrange ⊢
    obtain ⟨p, hp⟩ := exists_place (by simp) hlength hrange
    obtain ⟨hlon, hlat, hrest⟩ : lon = p.longitude ∧ lat = p.latitude ∧
        rest = p.elevation.toList := by
      simpa [Place.stored] using hp
    exact ⟨p, hp, by rw [Place.read, hlon, hlat, hrest]⟩

/-- A facet that is stored as the contract has it, with its vertices in range, has places, which
the web viewer is given and the phone reads. -/
theorem exists_places [FormatAssertion] {f : Json ℚ} (h : PipelineSchema.facet f = true)
    {facet : RoofExport.Facet} (hread : ReadsFacet f facet)
    (hrange : ∀ v ∈ Viewer.vertices (.obj (JobExportSerializer.slice f Viewer.facetKeys)),
      InRange v) :
  ∃ places : List Place,
    Viewer.vertices (.obj (JobExportSerializer.slice f Viewer.facetKeys)) =
      places.map Place.stored ∧
    facet.vertices = places.map Place.read
  := by
  have hvertices : Schema.allOf [Schema.types [.array], Schema.minItems 3,
      Schema.items PipelineSchema.position] (f.get "vertices") = true :=
    Schema.accepts_get_of_required h (by simp) (by simp)
  rw [hread.vertices] at hvertices
  have hpositions : ∀ v ∈ facet.vertices, PipelineSchema.position (storedVertex v) = true := by
    have hitems := accepts_of_allOf hvertices (s := Schema.items PipelineSchema.position) (by simp)
    intro v hv
    exact List.all_eq_true.mp hitems _ (List.mem_map_of_mem hv)
  have hweb : Viewer.vertices (.obj (JobExportSerializer.slice f Viewer.facetKeys)) =
      facet.vertices.map fun v => Viewer.numbers (storedVertex v) := by
    rw [Viewer.vertices, get_facet, hread.vertices]
    exact List.map_map
  rw [hweb] at hrange ⊢
  clear hweb hread h hvertices
  generalize facet.vertices = vs at hpositions hrange ⊢
  induction vs with
  | nil => exact ⟨[], rfl, rfl⟩
  | cons v vs ih =>
      obtain ⟨places, hstored, hplaces⟩ :=
        ih (fun u hu => hpositions u (List.mem_cons_of_mem _ hu))
          fun u hu => hrange u (List.mem_cons_of_mem _ hu)
      obtain ⟨p, hp, hv⟩ := exists_place_of_position (hpositions v List.mem_cons_self)
        (hrange _ List.mem_cons_self)
      exact ⟨p :: places, congrArg₂ List.cons hp hstored, congrArg₂ List.cons hv hplaces⟩

/-- The places of all facets: the vertices that are stored are written from them, and the phone has
read them. -/
theorem exists_facetPlaces [FormatAssertion] {stored : List (Json ℚ)}
    {facets : List RoofExport.Facet} (hread : List.Forall₂ ReadsFacet stored facets)
    (h : ∀ f ∈ stored, PipelineSchema.facet f = true)
    (hrange : ∀ f ∈ stored,
      ∀ v ∈ Viewer.vertices (.obj (JobExportSerializer.slice f Viewer.facetKeys)), InRange v) :
  ∃ facetPlaces : List (List Place),
    (stored.map fun f => Viewer.vertices (.obj (JobExportSerializer.slice f Viewer.facetKeys))) =
      facetPlaces.map (·.map Place.stored) ∧
    facets.map (·.vertices3D) =
      facetPlaces.map (·.map fun p => (p.coordinate, p.elevation))
  := by
  induction hread with
  | nil => exact ⟨[], rfl, rfl⟩
  | cons hfacet _ ih =>
      obtain ⟨facetPlaces, hstored, hread⟩ :=
        ih (fun f hf => h f (List.mem_cons_of_mem _ hf))
          fun f hf => hrange f (List.mem_cons_of_mem _ hf)
      obtain ⟨places, hplaces, hvertices⟩ := exists_places (h _ List.mem_cons_self) hfacet
        (hrange _ List.mem_cons_self)
      exact ⟨places :: facetPlaces, congrArg₂ List.cons hplaces hstored,
        congrArg₂ List.cons (vertices3D_of_places hvertices) hread⟩

/-! ### Points -/

/-- A LiDAR point of the sidecar: a longitude, a latitude and an elevation in feet. -/
structure OverlayPoint where
  longitude : ℚ
  latitude : ℚ
  elevationFt : ℚ
  inRange : -180 ≤ longitude ∧ longitude ≤ 180 ∧ -90 ≤ latitude ∧ latitude ≤ 90

namespace OverlayPoint

def wire (p : OverlayPoint) : List ℚ := [p.longitude, p.latitude, p.elevationFt]

def coordinate (p : OverlayPoint) : Coordinate := ⟨p.latitude, p.longitude⟩

end OverlayPoint

/-- The phone reads every point, at its coordinate and with its elevation in metres. -/
theorem parseLidar_wire (points : List OverlayPoint) :
  parseLidar (LidarPoints.points (points.map OverlayPoint.wire)) =
    points.map fun p => ⟨p.coordinate, p.elevationFt / feetPerMetre⟩
  := by
  have hall : LidarPoints.points (points.map OverlayPoint.wire) =
      points.map OverlayPoint.wire := by
    apply List.filter_eq_self.mpr
    intro p hp
    obtain ⟨point, -, rfl⟩ := List.mem_map.mp hp
    rfl
  rw [hall, parseLidar, List.filterMap_map, ← List.filterMap_eq_map]
  congr 1
  funext p
  obtain ⟨hwest, heast, hsouth, hnorth⟩ := p.inRange
  have hcoordinate : Phone.coordinate p.latitude p.longitude = some p.coordinate :=
    if_pos ⟨hsouth, hnorth, hwest, heast⟩
  simp [OverlayPoint.wire, hcoordinate]

/-! ### The ground -/

/-- The elevations of facets and points, in metres. -/
def elevations (facetPlaces : List (List Place)) (points : List OverlayPoint) : List ℚ :=
  facetPlaces.flatten.filterMap Place.elevation ++
    points.map fun p => p.elevationFt / feetPerMetre

/-- The ground in the web viewer is the least elevation of a vertex or a point, if there is any. -/
theorem groundBaselineMeters_eq {facets : List (Json ℚ)} {facetPlaces : List (List Place)}
    (hfacets : facets.map Viewer.vertices = facetPlaces.map (·.map Place.stored))
    (points : Option (List OverlayPoint)) :
  Viewer.groundBaselineMeters facets (points.map (·.map OverlayPoint.wire)) =
    (elevations facetPlaces (points.getD [])).min?
  := by
  have hvertices : facets.flatMap Viewer.vertices = facetPlaces.flatten.map Place.stored := by
    rw [List.flatMap_def, hfacets, List.map_flatten]
  have hfacetMin : Viewer.facetElevationBaseline facets =
      (facetPlaces.flatten.filterMap Place.elevation).min? := by
    rw [Viewer.facetElevationBaseline, hvertices, List.foldl_map]
    simp only [Place.getElem?_stored]
    exact foldl_lower_map Place.elevation _
  have hwire : (points.map (·.map OverlayPoint.wire)).getD [] =
      (points.getD []).map OverlayPoint.wire := by
    cases points <;> rfl
  have hlidarMin : ((points.getD []).map OverlayPoint.wire).foldl
      (fun least p => Viewer.lower least p[2]?) none =
      ((points.getD []).map OverlayPoint.elevationFt).min? := by
    rw [List.foldl_map]
    refine (foldl_lower_map (some ∘ OverlayPoint.elevationFt) _).trans ?_
    rw [List.filterMap_eq_map]
  have hmetres : ((points.getD []).map OverlayPoint.elevationFt).min?.map Viewer.feetToMeters =
      ((points.getD []).map fun p => p.elevationFt / feetPerMetre).min? := by
    refine (min?_map_div _ (c := feetPerMetre) (by norm_num [feetPerMetre])).symm.trans ?_
    rw [List.map_map]
    rfl
  rw [Viewer.groundBaselineMeters, hwire, hlidarMin, hmetres, hfacetMin, min?_append]
  rfl

/-- The ground on the phone is the least elevation of a vertex or a point, or 0 if there is none. -/
theorem groundBaseline_eq (facetPlaces : List (List Place)) (points : List OverlayPoint) :
  groundBaseline (facetPlaces.flatten.map fun p => (p.coordinate, p.elevation))
      (points.map fun p => ⟨p.coordinate, p.elevationFt / feetPerMetre⟩) =
    (elevations facetPlaces points).min?.getD 0
  := by
  rw [groundBaseline, elevations, List.filterMap_map, List.map_map]
  rfl

theorem point_mem_elevations {facetPlaces : List (List Place)} {points : List OverlayPoint}
    {p : OverlayPoint} (hp : p ∈ points) :
  p.elevationFt / feetPerMetre ∈ elevations facetPlaces points
  := List.mem_append_right _ (List.mem_map_of_mem hp)

/-- No elevation of a vertex or a point is below the ground, in either viewer. -/
theorem ground_le {facetPlaces : List (List Place)} {points : List OverlayPoint} {z : ℚ}
    (hz : z ∈ elevations facetPlaces points) :
  (elevations facetPlaces points).min?.getD 0 ≤ z
  := by
  cases hmin : (elevations facetPlaces points).min? with
  | none =>
      rw [List.min?_eq_none_iff.mp hmin] at hz
      cases hz
  | some ground => exact (List.min?_eq_some_iff.mp hmin).2 z hz

/-! ### The scenes -/

/-- Where the phone shows a position of the web viewer. -/
def shownAt (cosine : ℚ → ℚ) (origin : Coordinate) (position : ℚ × ℚ × ℚ) : ℚ × ℚ × ℚ :=
  ((position.1 - origin.longitude) * (111320 * cosine origin.latitude), position.2.2,
    -((position.2.1 - origin.latitude) * 111320))

/-- A scene on the phone shows the polygons and the points of the web viewer, over the ground. -/
structure Agrees (cosine : ℚ → ℚ) (scene : Scene) (polygons : List (List (ℚ × ℚ × ℚ)))
    (positions : List (ℚ × ℚ × ℚ)) : Prop where
  facets : scene.facets.map (·.points) =
    polygons.map (·.map (shownAt cosine scene.origin))
  points : scene.points = positions.map (shownAt cosine scene.origin)
  polygons_nonneg : ∀ polygon ∈ polygons, ∀ p ∈ polygon, 0 ≤ p.2.2
  positions_nonneg : ∀ p ∈ positions, 0 ≤ p.2.2

/-- The polygons of the web viewer have the places of the facets, with their elevations above the
ground. -/
theorem facetPolygons_eq {facets : List (Json ℚ)} {facetPlaces : List (List Place)}
    (hfacets : facets.map Viewer.vertices = facetPlaces.map (·.map Place.stored))
    (points : Option (List OverlayPoint)) :
  Viewer.facetPolygons facets (points.map (·.map OverlayPoint.wire)) =
    facetPlaces.map (·.map fun p =>
      (p.longitude, p.latitude,
        p.elevation.elim 0 (· - (elevations facetPlaces (points.getD [])).min?.getD 0)))
  := by
  have htilted : ∀ (ground : ℚ) (p : Place), Viewer.toTilted ground p.stored =
      (p.longitude, p.latitude, p.elevation.elim 0 (· - ground)) := by
    intro ground p
    rw [Viewer.toTilted, Place.getElem?_stored]
    cases p.elevation <;> rfl
  rw [Viewer.facetPolygons, groundBaselineMeters_eq hfacets]
  refine (List.map_map (f := Viewer.vertices) (l := facets)).symm.trans ?_
  rw [hfacets, List.map_map]
  apply List.map_congr_left
  intro places _
  refine List.map_map.trans (List.map_congr_left fun p _ => ?_)
  exact htilted _ p

/-- The points of the web viewer have their elevations above the ground, in metres. -/
theorem lidarPositions_eq {facets : List (Json ℚ)} {facetPlaces : List (List Place)}
    (hfacets : facets.map Viewer.vertices = facetPlaces.map (·.map Place.stored))
    (points : Option (List OverlayPoint)) :
  Viewer.lidarPositions facets (points.map (·.map OverlayPoint.wire)) =
    (points.getD []).map fun p =>
      (p.longitude, p.latitude,
        p.elevationFt / feetPerMetre - (elevations facetPlaces (points.getD [])).min?.getD 0)
  := by
  have hwire : (points.map (·.map OverlayPoint.wire)).getD [] =
      (points.getD []).map OverlayPoint.wire := by
    cases points <;> rfl
  rw [Viewer.lidarPositions, groundBaselineMeters_eq hfacets, hwire]
  refine List.map_map.trans (List.map_congr_left fun p hp => ?_)
  have hmem : p.elevationFt / feetPerMetre ∈ elevations facetPlaces (points.getD []) :=
    point_mem_elevations hp
  cases hmin : (elevations facetPlaces (points.getD [])).min? with
  | none =>
      rw [List.min?_eq_none_iff.mp hmin] at hmem
      cases hmem
  | some ground => rfl

/-- What the phone shows of places and points is what the web viewer shows of them. -/
theorem agrees_of_places (cosine : ℚ → ℚ) {facets : List (Json ℚ)}
    {read : List RoofExport.Facet} {facetPlaces : List (List Place)}
    (hfacets : facets.map Viewer.vertices = facetPlaces.map (·.map Place.stored))
    (hread : read.map (·.vertices3D) =
      facetPlaces.map (·.map fun p => (p.coordinate, p.elevation)))
    (points : Option (List OverlayPoint)) :
  Agrees cosine
    (scene cosine read (LidarPoints.points ((points.getD []).map OverlayPoint.wire)))
    (Viewer.facetPolygons facets (points.map (·.map OverlayPoint.wire)))
    (Viewer.lidarPositions facets (points.map (·.map OverlayPoint.wire)))
  := by
  have hvertices : read.flatMap (·.vertices3D) =
      facetPlaces.flatten.map fun p => (p.coordinate, p.elevation) := by
    rw [List.flatMap_def, hread, List.map_flatten]
  rw [facetPolygons_eq hfacets, lidarPositions_eq hfacets, scene, parseLidar_wire, hvertices,
    groundBaseline_eq]
  have habove : ∀ z ∈ elevations facetPlaces (points.getD []),
      0 ≤ z - (elevations facetPlaces (points.getD [])).min?.getD 0 :=
    fun z hz => sub_nonneg.mpr (ground_le hz)
  generalize (elevations facetPlaces (points.getD [])).min?.getD 0 = ground at habove ⊢
  constructor
  · -- A vertex without an elevation is on the ground in both.
    have hproject : ∀ (origin : Coordinate) (p : Place),
        project cosine p.coordinate (p.elevation.getD ground) origin ground =
          shownAt cosine origin (p.longitude, p.latitude, p.elevation.elim 0 (· - ground)) := by
      intro origin p
      cases h : p.elevation <;> simp [project, shownAt, Place.coordinate]
    refine List.map_map.trans ?_
    refine (List.map_map (f := fun facet : RoofExport.Facet => facet.vertices3D)
      (l := read)).symm.trans ?_
    rw [hread, List.map_map, List.map_map]
    apply List.map_congr_left
    intro places _
    refine List.map_map.trans (Eq.trans ?_ List.map_map.symm)
    exact List.map_congr_left fun p _ => hproject _ p
  · refine List.map_map.trans (Eq.trans ?_ List.map_map.symm)
    exact List.map_congr_left fun p _ => rfl
  · intro polygon hpolygon position hposition
    obtain ⟨places, hplaces, rfl⟩ := List.mem_map.mp hpolygon
    obtain ⟨p, hp, rfl⟩ := List.mem_map.mp hposition
    cases helevation : p.elevation with
    | none => simp
    | some z =>
        have hz : z ∈ elevations facetPlaces (points.getD []) := by
          refine List.mem_append_left _ (List.mem_filterMap.mpr ⟨p, ?_, helevation⟩)
          exact List.mem_flatten.mpr ⟨places, hplaces, hp⟩
        exact habove z hz
  · intro position hposition
    obtain ⟨p, hp, rfl⟩ := List.mem_map.mp hposition
    exact habove _ (point_mem_elevations hp)

section Runs

variable [FormatAssertion] [Platform] [Foundation] {ι : Type} [DecidableEq ι]

/-- At every moment of every interleaving of deliveries, the phone decodes the export of the job to
a measurement, of which it shows what the web viewer shows of the latest row, with the LiDAR points
that are shown, or none while they have not been loaded. -/
theorem viewers_agree (work : ι → Delivery) (w : World)
    (hw : ∀ m ∈ w.measurements, Stored m.toMeasurementAttributes)
    (schedule : List (ι × rails.Choices)) (angle : ℚ → ℚ) (s : JobExportSerializer)
    (hjob : s.job = some ((deliveries work w).run schedule).config.world.job)
    (hmeasurement :
      s.measurement = ((deliveries work w).run schedule).config.world.latestMeasurement)
    (hlinks : LinksOf s) (m : Measurement)
    (hm : ((deliveries work w).run schedule).config.world.latestMeasurement = some m)
    (hdate : (Foundation.wholeSecondsDate (Platform.iso8601 m.generatedAt)).isSome = true)
    (hrange : ∀ f ∈ Viewer.facets m.toMeasurementAttributes, ∀ v ∈ Viewer.vertices f, InRange v)
    (points : Option (List OverlayPoint)) (cosine : ℚ → ℚ) :
  ∃ read measurement, RoofExport.decode (s.toH angle) = .ok read ∧
    read.measurement = some measurement ∧
    Agrees cosine
      (scene cosine measurement.facets
        (LidarPoints.points ((points.getD []).map OverlayPoint.wire)))
      (Viewer.facetPolygons (Viewer.facets m.toMeasurementAttributes)
        (points.map (·.map OverlayPoint.wire)))
      (Viewer.lidarPositions (Viewer.facets m.toMeasurementAttributes)
        (points.map (·.map OverlayPoint.wire)))
  := by
  have hstored := (StoredRows.allStored_run work hw schedule).rows m (List.argmax_mem hm)
  obtain ⟨-, read, hdecoded, hreads⟩ := decode_toH angle hjob
    (fun m' hm' => by
      rw [hmeasurement, hm] at hm'
      cases hm'
      exact hstored)
    (fun m' hm' => by
      rw [hmeasurement, hm] at hm'
      cases hm'
      exact hdate) hlinks
  have hmeasurementRead := hreads.measurement
  rw [hmeasurement, hm] at hmeasurementRead
  obtain ⟨measurement, hread, hmeasurement⟩ : ∃ measurement,
      read.measurement = some measurement ∧
        ReadsMeasurement s.visualizations m.toMeasurementAttributes measurement := by
    cases hmeasurementRead' : read.measurement with
    | none =>
        rw [hmeasurementRead'] at hmeasurementRead
        cases hmeasurementRead
    | some measurement =>
        rw [hmeasurementRead'] at hmeasurementRead
        cases hmeasurementRead with
        | some h => exact ⟨measurement, rfl, h⟩
  obtain ⟨facetPlaces, hplaces, hvertices⟩ := exists_facetPlaces hmeasurement.facets
    hstored.facets fun f hf v hv => hrange _ (List.mem_map_of_mem hf) v hv
  refine ⟨read, measurement, hdecoded, hread, ?_⟩
  exact agrees_of_places cosine (List.map_map.trans hplaces) hvertices points

end Runs

/-! ### A sloped facet over two points -/

/-- A facet whose ridge is 2 m above its eave. -/
def slopedFacet : Json ℚ :=
  .obj
    [("facet_id", .str "facet-1"),
     ("vertices", .arr [.arr [.num (-97), .num 30, .num 152], .arr [.num (-96), .num 30, .num 152],
       .arr [.num (-96), .num 31, .num 154]]),
     ("area_sq_ft", .num 1200),
     ("source", .str "imagery"),
     ("confidence", .num (1 / 2))]

def slopedSchedule : List (Unit × rails.Choices) :=
  List.replicate 40 ((), choosing (fun _ => none) (imageryExchange [slopedFacet])
    (.features (.arr [])))

def slopedWorld : World :=
  ((@deliveries Unit anyFormat plainPlatform (fun _ => .geometry) submittedJob).run
    slopedSchedule).config.world

def slopedExport : JobExportSerializer where
  job := some slopedWorld.job
  measurement := slopedWorld.latestMeasurement
  shareUrl := .null
  pdfUrl := .null
  lidarPointsUrl := .str "https://rooftrace.biograph.dev/api/v1/jobs/1/lidar_points"
  visualizations := []

theorem isSome_slopedWorld :
  slopedWorld.latestMeasurement.isSome = true
  := by
  decide +kernel

def slopedFacets : List (Json ℚ) :=
  Viewer.facets (slopedWorld.latestMeasurement.get isSome_slopedWorld).toMeasurementAttributes

/-- Points on the eave and on the ground below it. -/
def returns : List OverlayPoint :=
  [⟨-97, 30, 152 * feetPerMetre, by decide⟩, ⟨-97, 30, 149 * feetPerMetre, by decide⟩]

/-- The viewers agree on the sloped roof and on two points of its LiDAR. -/
theorem viewers_agree_sloped :
  ∃ read measurement, @RoofExport.decode StoredRows.plainPhone
      (@JobExportSerializer.toH slopedExport plainPlatform id) = .ok read ∧
    read.measurement = some measurement ∧
    Agrees (fun _ => 1)
      (scene (fun _ => 1) measurement.facets (LidarPoints.points (returns.map OverlayPoint.wire)))
      (Viewer.facetPolygons slopedFacets (some (returns.map OverlayPoint.wire)))
      (Viewer.lidarPositions slopedFacets (some (returns.map OverlayPoint.wire)))
  := by
  refine @viewers_agree anyFormat plainPlatform StoredRows.plainPhone Unit _ (fun _ => .geometry)
    submittedJob ?_ slopedSchedule id slopedExport ?_ ?_ ?_ _ ?_ ?_ ?_ (some returns) _
  · intro m hm
    cases hm
  · rfl
  · rfl
  · apply @LinksOf.mk StoredRows.plainPhone
    · exact ⟨rfl, fun _ _ => rfl⟩
    · exact ⟨rfl, fun _ _ => rfl⟩
    · exact ⟨rfl, fun _ _ => rfl⟩
    · intro viz hviz
      cases hviz
  · exact (Option.some_get isSome_slopedWorld).symm
  · rfl
  · decide +kernel

end ViewerHeights

end Rails
