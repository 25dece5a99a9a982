import RoofTrace.Boundary.Crs

/-!
# LiDAR candidates

An ingest tries the published resources and then the covering work units, one after the other.
It goes on only past a resource that is not there: the first cloud decides, also when none of its
points are on the roof. So an ingest exhausts its candidates exactly when its first cloud has
roof points or no cloud has any.
-/

namespace Sidecar

namespace LidarCandidates

open Contract Outcome

/-- A cloud that an ingest may try: that of a work unit, at a resource when one is named. -/
structure Candidate where
  workUnit : WesmWorkUnit
  url : Option String

variable (s : LidarServices) (polygon : Polygon)

/-- The candidates of a building, in the order in which they are tried. -/
def candidates : List Candidate :=
  match s.query (s.bounds polygon) with
  | [] => []
  | first :: rest =>
      ((s.resolveEpt (s.bounds polygon)).getD []).map (fun url => ⟨first, some url⟩) ++
        (first :: rest).map (fun workUnit => ⟨workUnit, none⟩)

/-- What the cropper does for a candidate. -/
def crop (c : Candidate) : Except Exception CroppedCloud := s.crop c.workUnit polygon c.url

/-- The resource of a candidate is not there. -/
def absent (c : Candidate) : Bool :=
  match crop s polygon c with
  | .error .eptNotFound => true
  | _ => false

/-- The roof points of a candidate. -/
def roofPoints (c : Candidate) : List LidarReturn :=
  match crop s polygon c with
  | .ok cloud => (extractBuildingPoints cloud.points).1
  | .error _ => []

/-- The first candidate whose resource is there. -/
def firstPresent : Option Candidate := (candidates s polygon).find? (! absent s polygon ·)

/-- An array that an ingest may cache for a candidate: its roof points, in the UTM zone of the
building. -/
def CachedRoof (cached : Option (String × List LidarReturn)) (c : Candidate) : Prop :=
  ∃ key cloud utm, crop s polygon c = .ok cloud ∧
    utmEpsgFor (s.centroid polygon).1 (s.centroid polygon).2 = .ok utm ∧
    cached = some (key, reprojectPoints s (roofPoints s polygon c) cloud.srcEpsg utm)

/-- An ingest that returns has exhausted its candidates: LiDAR is missing only if no candidate has
roof points, and what is cached is the roof of the first candidate that has any. -/
structure Exhausts (ingest : Ingest) : Prop where
  missing : ingest.outcome.status = .missing →
    ∀ c ∈ candidates s polygon, roofPoints s polygon c = []
  available : ingest.outcome.status = .available →
    ∃ c, (candidates s polygon).find? (roofPoints s polygon · ≠ []) = some c ∧
      CachedRoof s polygon ingest.cached c

/-! ### The candidate that is taken -/

variable {s polygon}

theorem cropResolved_eq (workUnit : WesmWorkUnit) (urls : List String) :
  cropResolved s polygon workUnit urls =
    match (urls.map fun url => (⟨workUnit, some url⟩ : Candidate)).find?
        (! absent s polygon ·) with
    | none => .ok none
    | some c => (crop s polygon c).map some
  := by
  induction urls with
  | nil => rfl
  | cons url urls ih =>
      cases hcrop : s.crop workUnit polygon (some url) with
      | ok cloud => simp [cropResolved, absent, crop, hcrop, Except.map, pure, Except.pure]
      | error e =>
          by_cases he : e = .eptNotFound
          · subst he
            simp [cropResolved, absent, crop, hcrop, ih]
          · have hpresent : absent s polygon ⟨workUnit, some url⟩ = false := by
              cases e <;> simp_all [absent, crop]
            rw [List.map_cons, List.find?_cons, hpresent]
            cases e <;> simp_all [cropResolved, crop, Except.map, throw, throwThe,
              MonadExceptOf.throw]

theorem cropCovering_eq (workUnits : List WesmWorkUnit) :
  cropCovering s polygon workUnits =
    match (workUnits.map fun workUnit => (⟨workUnit, none⟩ : Candidate)).find?
        (! absent s polygon ·) with
    | none => .ok none
    | some c => (crop s polygon c).map fun cloud => some (cloud, c.workUnit)
  := by
  induction workUnits with
  | nil => rfl
  | cons workUnit workUnits ih =>
      cases hcrop : s.crop workUnit polygon none with
      | ok cloud => simp [cropCovering, absent, crop, hcrop, Except.map, pure, Except.pure]
      | error e =>
          by_cases he : e = .eptNotFound
          · subst he
            simp [cropCovering, absent, crop, hcrop, ih]
          · have hpresent : absent s polygon ⟨workUnit, none⟩ = false := by
              cases e <;> simp_all [absent, crop]
            rw [List.map_cons, List.find?_cons, hpresent]
            cases e <;> simp_all [cropCovering, crop, Except.map, throw, throwThe,
              MonadExceptOf.throw]

/-- A building without a candidate that is there has no LiDAR. -/
theorem ingestLidar_of_none (h : firstPresent s polygon = none) :
  ∃ ingest, ingestLidar s polygon = .ok ingest ∧ ingest.outcome.status = .missing
  := by
  cases hquery : s.query (s.bounds polygon) with
  | nil =>
      simp only [ingestLidar, hquery]
      exact ⟨_, rfl, rfl⟩
  | cons first rest =>
      simp only [firstPresent, candidates, hquery, List.find?_append, Option.or_eq_none_iff] at h
      simp only [ingestLidar, hquery, cropResolved_eq, cropCovering_eq, h.1, h.2]
      exact ⟨_, rfl, rfl⟩

/-- The first candidate that is there is the one whose cloud is ingested. -/
theorem ingestLidar_of_some {c : Candidate} (h : firstPresent s polygon = some c) :
  ∃ warnings, ingestLidar s polygon =
    crop s polygon c >>= fun cloud => ingestCloud s polygon cloud c.workUnit warnings
  := by
  cases hquery : s.query (s.bounds polygon) with
  | nil => simp [firstPresent, candidates, hquery] at h
  | cons first rest =>
      use if (s.resolveEpt (s.bounds polygon)).isNone then ["ept_index_unavailable"] else []
      simp only [firstPresent, candidates, hquery, List.find?_append] at h
      simp only [ingestLidar, hquery, cropResolved_eq, cropCovering_eq]
      cases hresolved : (((s.resolveEpt (s.bounds polygon)).getD []).map fun url =>
          (⟨first, some url⟩ : Candidate)).find? (! absent s polygon ·) with
      | some c' =>
          rw [hresolved, Option.some_or] at h
          obtain rfl := Option.some.inj h
          obtain ⟨url, -, rfl⟩ := List.mem_map.mp (List.mem_of_find?_eq_some hresolved)
          dsimp only
          cases crop s polygon ⟨first, some url⟩ <;> rfl
      | none =>
          rw [hresolved, Option.none_or] at h
          rw [h]
          dsimp only
          cases crop s polygon c <;> rfl

theorem roofPoints_of_absent {c : Candidate} (h : absent s polygon c) :
  roofPoints s polygon c = []
  := by
  unfold absent at h
  unfold roofPoints
  cases hcrop : crop s polygon c with
  | ok cloud =>
      rw [hcrop] at h
      nomatch h
  | error e => rfl

/-- Before the first candidate that is there, no candidate has roof points. -/
theorem find_roofPoints {c : Candidate} (h : firstPresent s polygon = some c)
    (hroof : roofPoints s polygon c ≠ []) :
  (candidates s polygon).find? (roofPoints s polygon · ≠ []) = some c
  := by
  obtain ⟨-, before, after, happend, hbefore⟩ := List.find?_eq_some_iff_append.mp h
  rw [List.find?_eq_some_iff_append]
  use decide_eq_true hroof, before, after, happend
  intro c' hc'
  have habsent := hbefore c' hc'
  rw [Bool.not_not] at habsent
  simp [roofPoints_of_absent habsent]

/-! ### The cloud that is taken -/

/-- A cloud without roof points is reported as missing. -/
theorem ingestCloud_of_bare (s : LidarServices) (polygon : Polygon) {cloud : CroppedCloud}
    (workUnit : WesmWorkUnit) (warnings : List String)
    (h : (extractBuildingPoints cloud.points).1 = []) :
  ∃ ingest, ingestCloud s polygon cloud workUnit warnings = .ok ingest ∧
    ingest.outcome.status = .missing
  := by
  unfold ingestCloud
  split
  · exact ⟨_, rfl, rfl⟩
  · next hextract =>
    rw [hextract] at h
    nomatch h

/-- The roof points of a cloud are cached, in the UTM zone of the building. -/
theorem ingestCloud_of_roof {cloud : CroppedCloud} {workUnit : WesmWorkUnit}
    {warnings : List String} {ingest : Ingest}
    (hingest : ingestCloud s polygon cloud workUnit warnings = .ok ingest)
    (h : (extractBuildingPoints cloud.points).1 ≠ []) :
  ingest.outcome.status = .available ∧
    ∃ key utm, utmEpsgFor (s.centroid polygon).1 (s.centroid polygon).2 = .ok utm ∧
      ingest.cached = some
        (key, reprojectPoints s (extractBuildingPoints cloud.points).1 cloud.srcEpsg utm)
  := by
  unfold ingestCloud at hingest
  split at hingest
  · next hextract =>
    rw [hextract] at h
    exact absurd rfl h
  · next hextract =>
    rw [hextract]
    obtain ⟨utm, hutm, hingest⟩ := bind_eq_ok.mp hingest
    cases hingest
    exact ⟨rfl, _, utm, hutm, rfl⟩

/-- An ingest exhausts its candidates exactly when the first cloud that is there has roof points or
no candidate has any: the search ends at the first crop that does not raise. -/
theorem exhausts_iff (s : LidarServices) (polygon : Polygon) :
  (∀ ingest, ingestLidar s polygon = .ok ingest → Exhausts s polygon ingest) ↔
    ∀ c cloud, firstPresent s polygon = some c → crop s polygon c = .ok cloud →
      (extractBuildingPoints cloud.points).1 = [] →
        ∀ c' ∈ candidates s polygon, roofPoints s polygon c' = []
  := by
  constructor
  · intro h c cloud hfirst hcrop hbare
    obtain ⟨warnings, hingest⟩ := ingestLidar_of_some hfirst
    obtain ⟨ingest, hcloud, hmissing⟩ := ingestCloud_of_bare s polygon c.workUnit warnings hbare
    apply (h ingest _).missing hmissing
    rw [hingest, hcrop]
    exact hcloud
  · intro h ingest hingest
    cases hfirst : firstPresent s polygon with
    | none =>
        obtain ⟨ingest', hingest', hmissing⟩ := ingestLidar_of_none hfirst
        obtain rfl : ingest' = ingest := Except.ok.inj (hingest'.symm.trans hingest)
        constructor
        · intro _ c hc
          have habsent := List.find?_eq_none.mp hfirst c hc
          apply roofPoints_of_absent
          simpa using habsent
        · intro havailable
          rw [hmissing] at havailable
          nomatch havailable
    | some c =>
        obtain ⟨warnings, heq⟩ := ingestLidar_of_some hfirst
        rw [heq] at hingest
        obtain ⟨cloud, hcrop, hcloud⟩ := bind_eq_ok.mp hingest
        have hroof : roofPoints s polygon c = (extractBuildingPoints cloud.points).1 := by
          unfold roofPoints
          rw [hcrop]
        by_cases hbare : (extractBuildingPoints cloud.points).1 = []
        · obtain ⟨ingest', hingest', hmissing⟩ :=
            ingestCloud_of_bare s polygon c.workUnit warnings hbare
          obtain rfl : ingest' = ingest := Except.ok.inj (hingest'.symm.trans hcloud)
          constructor
          · intro _
            exact h c cloud hfirst hcrop hbare
          · intro havailable
            rw [hmissing] at havailable
            nomatch havailable
        · obtain ⟨havailable, key, utm, hutm, hcached⟩ := ingestCloud_of_roof hcloud hbare
          constructor
          · intro hmissing
            rw [havailable] at hmissing
            nomatch hmissing
          · intro _
            use c, find_roofPoints hfirst (hroof ▸ hbare)
            use key, cloud, utm, hcrop, hutm
            rw [hroof]
            exact hcached

/-! ### A resource that only overlaps the building -/

/-- The first of two resources has no points over the building, and the second has its roof. -/
def overlapping : LidarServices :=
  { Boundary.austinServices 6343 with
    resolveEpt := fun _ => some ["TX_West_2019", "TX_Central_2021"]
    crop := fun _ _ url =>
      if url = some "TX_West_2019" then .ok ⟨[], 3857⟩
      else .ok ⟨[⟨620000, 3347000, 150, 6⟩], 3857⟩ }

/-- The first resource only overlaps the building, and the roof that the second one has is not
looked for. -/
theorem overlapping_resource_ends_search :
  ¬ ∀ (s : LidarServices) (polygon : Polygon) (ingest : Ingest),
    ingestLidar s polygon = .ok ingest → Exhausts s polygon ingest
  := by
  intro h
  have hingest : ∃ ingest, ingestLidar overlapping Boundary.austinPolygon = .ok ingest ∧
      ingest.outcome.status = .missing := by
    simp only [ingestLidar, overlapping, Boundary.austinServices]
    exact ⟨_, rfl, rfl⟩
  obtain ⟨ingest, hingest, hmissing⟩ := hingest
  have hnone := (h overlapping _ ingest hingest).missing hmissing
    ⟨⟨"TX_Central_2021", 6343, some 2021, some "QL2"⟩, some "TX_Central_2021"⟩
    (by simp [candidates, overlapping, Boundary.austinServices])
  revert hnone
  decide +kernel

end LidarCandidates

end Sidecar
