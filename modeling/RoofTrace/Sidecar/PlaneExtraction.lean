import RoofTrace.Sidecar.CoplanarMerge

/-!
# Extraction of planes

`planefit/plane_fit.py`: planes are fitted to a cloud one after the other, each to the points that
those before it have left. Whatever triples the generator samples, the planes have disjoint sets of
points, and what the merge makes of them divides the same points.
-/

namespace Sidecar

namespace PlaneExtraction

open Sidecar.Topology Cone

/-- What is used of NumPy: a generator of random numbers with states of a type, and the singular
value decomposition. -/
structure Sampler (K R : Type) where
  /-- `default_rng(seed)` -/
  defaultRng : ℕ → R
  /-- `rng.choice(n, size=3, replace=False)`, from three positions on. -/
  choice : (n : ℕ) → 3 ≤ n → R → (Fin n × Fin n × Fin n) × R
  /-- The last row of `Vt` of the decomposition of points. -/
  lastSingular : List (Vec3 K) → Vec3 K

/-- The parameters of `fit_planes`. -/
structure FitParams (K : Type) where
  distanceThreshold : K
  maxIterations : ℕ
  minInlierRatio : K
  maxResidualStd : K
  minPoints : ℤ
  seed : ℕ

/-- `_MAX_ROOF_PITCH_DEG` -/
def maxRoofPitchDeg {K : Type} [Field K] : K := 75

section Fit

variable {K R : Type} [Field K] [LinearOrder K]

def cross (v w : Vec3 K) : Vec3 K :=
  ![v 1 * w 2 - v 2 * w 1, v 2 * w 0 - v 0 * w 2, v 0 * w 1 - v 1 * w 0]

/-- `points.mean(axis=0)` -/
def mean (points : List (Vec3 K)) : Vec3 K :=
  fun c => (points.map (· c)).sum / points.length

/-- `xs[mask]` -/
def select {α : Type} (xs : List α) (mask : List Bool) : List α :=
  ((xs.zip mask).filter (·.2)).map (·.1)

/-- `np.abs(_signed_distances(points, normal, d))` -/
def distances (points : List (Vec3 K)) (normal : Vec3 K) (d : K) : List K :=
  points.map fun p => |dot p normal + d|

variable (np : Numpy K) (sampler : Sampler K R) (params : FitParams K)

/-- `dists < distance_threshold` -/
def within (points : List (Vec3 K)) (normal : Vec3 K) (d : K) : List Bool :=
  (distances points normal d).map (· < params.distanceThreshold)

/-- `xs.std()` -/
def std (xs : List K) : K :=
  let mean := xs.sum / xs.length
  np.sqrt ((xs.map fun x => (x - mean) * (x - mean)).sum / xs.length)

/-- `_plane_from_3pts` -/
def planeFrom3Pts (p₀ p₁ p₂ : Vec3 K) : Option (Vec3 K × K) :=
  let normal := cross (p₁ - p₀) (p₂ - p₀)
  let norm := norm np normal
  if norm < 1 / 10 ^ 9 then none
  else
    let normal : Vec3 K := fun i => normal i / norm
    some (normal, -dot normal p₀)

/-- The number of points of the best plane so far, its normal and its mask. -/
structure Best (K : Type) where
  count : ℕ
  normal : Option (Vec3 K)
  mask : List Bool

/-- The loop of `_ransac_single_plane`. -/
def sample (points : List (Vec3 K)) (h : 3 ≤ points.length) : ℕ → Best K → R → Best K × R
  | 0, best, rng => (best, rng)
  | iterations + 1, best, rng =>
      let ((i, j, k), rng) := sampler.choice points.length h rng
      match planeFrom3Pts np (points.get i) (points.get j) (points.get k) with
      | none => sample points h iterations best rng
      | some (normal, d) =>
          let mask := within params points normal d
          let count := mask.count true
          if count > best.count then sample points h iterations ⟨count, some normal, mask⟩ rng
          else sample points h iterations best rng

/-- The plane that is fitted to the points of a mask. -/
def refit (points : List (Vec3 K)) (mask : List Bool) : Vec3 K × K :=
  let inlierPts := select points mask
  let centroid := mean inlierPts
  let normal := sampler.lastSingular (inlierPts.map (· - centroid))
  let normal := if normal 2 < 0 then -normal else normal
  (normal, -dot normal centroid)

/-- `_ransac_single_plane`, and the generator after it. -/
def ransacSinglePlane (points : List (Vec3 K)) (rng : R) :
    Option (Vec3 K × K × List Bool) × R :=
  if h : 3 ≤ points.length then
    let (best, rng) := sample np sampler params points h params.maxIterations
      ⟨0, none, List.replicate points.length false⟩ rng
    if best.normal.isNone ∨ best.count < 3 then (none, rng)
    else
      let (normal, d) := refit sampler points best.mask
      (some (normal, d, within params points normal d), rng)
  else (none, rng)

/-- A plane that is returned has been fitted to the points of a mask, and is returned with its
own. -/
theorem ransac_spec {points : List (Vec3 K)} {rng rng' : R} {normal : Vec3 K} {d : K}
    {mask : List Bool}
    (h : ransacSinglePlane np sampler params points rng = (some (normal, d, mask), rng')) :
  mask = within params points normal d ∧ ∃ best, refit sampler points best = (normal, d)
  := by
  unfold ransacSinglePlane at h
  split_ifs at h with hlength
  · dsimp only at h
    split_ifs at h
    · cases h
    · cases h
      exact ⟨rfl, _, rfl⟩
  · cases h

/-- A point is near a plane. -/
def near (points : List (Vec3 K)) (normal : Vec3 K) (d : K) (i : Fin points.length) : Bool :=
  |dot (points.get i) normal + d| < params.distanceThreshold

theorem within_residual (points : List (Vec3 K)) (residual : List (Fin points.length))
    (normal : Vec3 K) (d : K) :
  within params (residual.map points.get) normal d = residual.map (near params points normal d)
  := by
  rw [within, distances, List.map_map, List.map_map]
  rfl

/-- What a mask selects. -/
theorem select_map {α : Type} (xs : List α) (q : α → Bool) :
  select xs (xs.map q) = xs.filter q
  := by
  rw [select]
  induction xs with
  | nil => rfl
  | cons x xs ih =>
      rw [List.map_cons, List.zip_cons_cons, List.filter_cons, List.filter_cons]
      cases hx : q x
      · exact ih
      · exact congrArg (x :: ·) ih

theorem select_image {α β : Type} (f : α → β) (xs : List α) (mask : List Bool) :
  select (xs.map f) mask = (select xs mask).map f
  := by
  rw [select, select, List.zip_map_left, List.filter_map, List.map_map, List.map_map]
  rfl

theorem count_map {α : Type} (xs : List α) (q : α → Bool) :
  (xs.map q).count true = (xs.filter q).length
  := by
  rw [List.count, List.countP_map, List.countP_eq_length_filter]
  congr 2
  funext x
  exact beq_true (q x)

/-- What is left is shorter by what has been selected. -/
theorem length_select_not {α : Type} (xs : List α) (q : α → Bool) :
  (select xs ((xs.map q).map (!·))).length + (xs.map q).count true = xs.length
  := by
  rw [List.map_map, select_map, count_map, Nat.add_comm]
  exact (List.length_eq_length_filter_add q).symm

/-- The plane of a mask over the points that are left. -/
def fittedPlane (points : List (Vec3 K)) (residual : List (Fin points.length)) (normal : Vec3 K)
    (d : K) (mask : List Bool) : FittedPlane K :=
  let cloudSlice := residual.map points.get
  let inlierPts := select cloudSlice mask
  { normal
    d
    inlierIndices := (select residual mask).map (·.val)
    inlierRatio := mask.count true / cloudSlice.length
    residualStd := std np (distances inlierPts normal d)
    centroid := mean inlierPts }

/-- The acceptance criteria. -/
def acceptable (plane : FittedPlane K) : Prop :=
  params.minInlierRatio ≤ plane.inlierRatio ∧ plane.residualStd ≤ params.maxResidualStd ∧
    pitchDegreesFromNormal np plane.normal < maxRoofPitchDeg

instance (plane : FittedPlane K) : Decidable (acceptable np params plane) :=
  inferInstanceAs (Decidable (_ ∧ _ ∧ _))

/-- The loop of `fit_planes`, with the indices of the points that are left. -/
def peel (points : List (Vec3 K)) (residual : List (Fin points.length)) (rng : R) :
    List (FittedPlane K) :=
  if params.minPoints ≤ residual.length then
    match _hresult : ransacSinglePlane np sampler params (residual.map points.get) rng with
    | (none, _) => []
    | (some (normal, d, mask), rng') =>
        if _henough : mask.count true < 3 then []
        else
          let plane := fittedPlane np points residual normal d mask
          if acceptable np params plane then
            plane :: peel points (select residual (mask.map (!·))) rng'
          else []
  else []
termination_by residual.length
decreasing_by
  have hmask := (ransac_spec np sampler params _hresult).1
  rw [within_residual] at hmask
  have hlength := length_select_not residual (near params points normal d)
  rw [← hmask] at hlength
  omega

/-- `fit_planes`, of a cloud of points with three coordinates. -/
def fitPlanes (points : List (Vec3 K)) : List (FittedPlane K) :=
  peel np sampler params points (List.finRange points.length) (sampler.defaultRng params.seed)

/-- A point of a cloud, by its index. -/
def pointAt (points : List (Vec3 K)) (i : ℕ) : Vec3 K := points.getD i 0

/-- The indices that are left after planes. -/
structure Left (points : List (Vec3 K)) (earlier : List (FittedPlane K))
    (residual : List (Fin points.length)) : Prop where
  increasing : residual.Pairwise (· < ·)
  mem : ∀ i, i ∈ residual ↔ ∀ plane ∈ earlier, i.val ∉ plane.inlierIndices
  length : residual.length + (earlier.map (·.inlierIndices.length)).sum = points.length

/-- The points of the cloud near a plane that no earlier plane has are those of the plane, which is
accepted. Its normal has been fitted to some of the points that were left. -/
structure Peeled (points : List (Vec3 K)) (earlier : List (FittedPlane K)) (plane : FittedPlane K) :
    Prop where
  inliers : ∀ i, i ∈ plane.inlierIndices ↔ (i < points.length ∧
    |dot (pointAt points i) plane.normal + plane.d| < params.distanceThreshold) ∧
      ∀ other ∈ earlier, i ∉ other.inlierIndices
  increasing : plane.inlierIndices.Pairwise (· < ·)
  enough : 3 ≤ plane.inlierIndices.length
  left : params.minPoints + (earlier.map (·.inlierIndices.length)).sum ≤ points.length
  ratio : plane.inlierRatio =
    plane.inlierIndices.length / (points.length - (earlier.map (·.inlierIndices.length)).sum : ℕ)
  accepted : acceptable np params plane
  fitted : ∃ residual mask, Left points earlier residual ∧
    refit sampler (residual.map points.get) mask = (plane.normal, plane.d)
  centroid : plane.centroid = mean (plane.inlierIndices.map (pointAt points))

variable {np sampler params}

omit [Field K] [LinearOrder K] in
theorem left_finRange (points : List (Vec3 K)) : Left points [] (List.finRange points.length) := by
  constructor
  · exact List.pairwise_lt_finRange points.length
  · intro i
    exact iff_of_true (List.mem_finRange i) fun _ h => absurd h List.not_mem_nil
  · rw [List.length_finRange, List.map_nil, List.sum_nil, Nat.add_zero]

omit [LinearOrder K] in
theorem pointAt_val (points : List (Vec3 K)) (i : Fin points.length) :
  pointAt points i.val = points.get i
  := by
  rw [pointAt, List.getD_eq_getElem?_getD, List.getElem?_eq_getElem i.isLt]
  rfl

theorem near_iff {points : List (Vec3 K)} {normal : Vec3 K} {d : K} (i : Fin points.length) :
  near params points normal d i = true ↔
    |dot (pointAt points i.val) normal + d| < params.distanceThreshold
  := by
  rw [near, decide_eq_true_iff, pointAt_val]

section Plane

variable {points : List (Vec3 K)} {earlier : List (FittedPlane K)}
  {residual : List (Fin points.length)} {normal : Vec3 K} {d : K} {mask : List Bool}
  (hmask : mask = within params (residual.map points.get) normal d)

include hmask

theorem inlierIndices_fittedPlane :
  (fittedPlane np points residual normal d mask).inlierIndices =
    (residual.filter (near params points normal d)).map (·.val)
  := by
  rw [fittedPlane, hmask, within_residual, select_map]

theorem mem_inlierIndices_iff (i : Fin points.length) :
  i.val ∈ (fittedPlane np points residual normal d mask).inlierIndices ↔
    i ∈ residual ∧ near params points normal d i = true
  := by
  rw [inlierIndices_fittedPlane hmask, List.mem_map_of_injective Fin.val_injective,
    List.mem_filter]

theorem count_mask :
  mask.count true = (fittedPlane np points residual normal d mask).inlierIndices.length
  := by
  rw [inlierIndices_fittedPlane hmask, hmask, within_residual, count_map, List.length_map]

/-- A plane that is accepted has been peeled. -/
theorem peeled_fittedPlane (hleft : Left points earlier residual)
    (hmin : params.minPoints ≤ residual.length) (henough : ¬ mask.count true < 3)
    (haccepted : acceptable np params (fittedPlane np points residual normal d mask))
    (hfitted : ∃ best, refit sampler (residual.map points.get) best = (normal, d)) :
  Peeled np sampler params points earlier (fittedPlane np points residual normal d mask)
  := by
  have hindices : (fittedPlane np points residual normal d mask).inlierIndices =
      (residual.filter (near params points normal d)).map (·.val) :=
    inlierIndices_fittedPlane hmask
  have hlength := hleft.length
  constructor
  case inliers =>
    intro i
    constructor
    · intro hi
      rw [hindices] at hi
      obtain ⟨j, hj, rfl⟩ := List.mem_map.mp hi
      obtain ⟨hresidual, hnear⟩ := List.mem_filter.mp hj
      exact ⟨⟨j.isLt, near_iff j |>.mp hnear⟩, (hleft.mem j).mp hresidual⟩
    · rintro ⟨⟨hi, hnear⟩, hothers⟩
      have hresidual := (hleft.mem ⟨i, hi⟩).mpr hothers
      exact (mem_inlierIndices_iff hmask ⟨i, hi⟩).mpr ⟨hresidual, (near_iff ⟨i, hi⟩).mpr hnear⟩
  case increasing =>
    rw [hindices, List.pairwise_map]
    exact hleft.increasing.filter _
  case enough =>
    rw [← count_mask hmask]
    exact not_lt.mp henough
  case left => omega
  case ratio =>
    rw [← count_mask hmask, ← hlength, Nat.add_sub_cancel]
    rw [fittedPlane, List.length_map]
  case accepted => exact haccepted
  case fitted =>
    obtain ⟨best, hbest⟩ := hfitted
    exact ⟨residual, best, hleft, hbest⟩
  case centroid =>
    have hselected : select (residual.map points.get) mask =
        (residual.filter (near params points normal d)).map points.get := by
      rw [select_image, hmask, within_residual, select_map]
    rw [hindices, List.map_map]
    change mean (select (residual.map points.get) mask) = _
    rw [hselected]
    congr 1
    apply List.map_congr_left
    intro i _
    exact (pointAt_val points i).symm

/-- The indices that are left after the plane. -/
theorem left_select (hleft : Left points earlier residual) :
  Left points (earlier ++ [fittedPlane np points residual normal d mask])
    (select residual (mask.map (!·)))
  := by
  have hselect : select residual (mask.map (!·)) =
      residual.filter fun i => !near params points normal d i := by
    rw [hmask, within_residual, List.map_map]
    exact select_map residual _
  constructor
  case increasing =>
    rw [hselect]
    exact hleft.increasing.filter _
  case mem =>
    intro i
    rw [hselect, List.mem_filter, Bool.not_eq_true', hleft.mem]
    constructor
    · rintro ⟨hothers, hfar⟩ plane hplane
      rcases List.mem_append.mp hplane with hplane | hplane
      · exact hothers plane hplane
      · rw [List.mem_singleton.mp hplane, mem_inlierIndices_iff hmask, hfar]
        exact fun h => Bool.false_ne_true h.2
    · intro hothers
      have hearlier : ∀ plane ∈ earlier, i.val ∉ plane.inlierIndices :=
        fun plane hplane => hothers plane (List.mem_append_left _ hplane)
      refine ⟨hearlier, Bool.eq_false_iff.mpr fun hnear => ?_⟩
      exact hothers _ (List.mem_append_right _ (List.mem_singleton_self _))
        ((mem_inlierIndices_iff hmask i).mpr ⟨(hleft.mem i).mpr hearlier, hnear⟩)
  case length =>
    have hlength := hleft.length
    have hrest := length_select_not residual (near params points normal d)
    have hcount : mask.count true =
        (fittedPlane np points residual normal d mask).inlierIndices.length := count_mask hmask
    rw [← within_residual, ← hmask, hcount] at hrest
    rw [List.map_append, List.sum_append, List.map_singleton, List.sum_singleton]
    omega

end Plane

/-- A round of the loop ends it or peels a plane that is accepted. -/
theorem peel_cases (points : List (Vec3 K)) (residual : List (Fin points.length)) (rng : R) :
  peel np sampler params points residual rng = [] ∨
    ∃ normal d mask rng', mask = within params (residual.map points.get) normal d ∧
      params.minPoints ≤ residual.length ∧ ¬ mask.count true < 3 ∧
      acceptable np params (fittedPlane np points residual normal d mask) ∧
      (∃ best, refit sampler (residual.map points.get) best = (normal, d)) ∧
      peel np sampler params points residual rng =
        fittedPlane np points residual normal d mask ::
          peel np sampler params points (select residual (mask.map (!·))) rng'
  := by
  rw [peel]
  split_ifs with hmin
  · split
    · exact .inl rfl
    · next normal d mask rng' hresult =>
      dsimp only
      split_ifs with henough haccepted
      · exact .inl rfl
      · obtain ⟨hmask, hfitted⟩ := ransac_spec np sampler params hresult
        exact .inr ⟨normal, d, mask, rng', hmask, hmin, henough, haccepted, hfitted, rfl⟩
      · exact .inl rfl
  · exact .inl rfl

/-- A plane that is accepted is peeled. -/
theorem peel_of_accepted {points : List (Vec3 K)} {residual : List (Fin points.length)}
    {rng rng' : R} {normal : Vec3 K} {d : K} {mask : List Bool}
    (hmin : params.minPoints ≤ residual.length)
    (hresult : ransacSinglePlane np sampler params (residual.map points.get) rng =
      (some (normal, d, mask), rng'))
    (henough : ¬ mask.count true < 3)
    (haccepted : acceptable np params (fittedPlane np points residual normal d mask)) :
  peel np sampler params points residual rng =
    fittedPlane np points residual normal d mask ::
      peel np sampler params points (select residual (mask.map (!·))) rng'
  := by
  rw [peel, if_pos hmin]
  split
  · next hnone => cases hnone.symm.trans hresult
  · next hsome =>
    cases hsome.symm.trans hresult
    rw [dif_neg henough, if_pos haccepted]

/-- The planes that are peeled, one after the other. -/
theorem peeled_peel (points : List (Vec3 K)) {residual : List (Fin points.length)} {rng : R}
    {planes : List (FittedPlane K)} (hplanes : peel np sampler params points residual rng = planes)
    {earlier : List (FittedPlane K)} (hleft : Left points earlier residual) :
  ∀ k plane, planes[k]? = some plane →
    Peeled np sampler params points (earlier ++ planes.take k) plane
  := by
  induction planes generalizing residual rng earlier with
  | nil =>
      intro k plane h
      cases h
  | cons first rest ih =>
      obtain hend | ⟨normal, d, mask, rng', hmask, hmin, henough, haccepted, hfitted, hround⟩ :=
        peel_cases points residual rng
      · cases hend.symm.trans hplanes
      · obtain ⟨rfl, hrest⟩ := List.cons.inj (hround.symm.trans hplanes)
        intro k plane hplane
        cases k with
        | zero =>
            obtain rfl := Option.some.inj hplane
            rw [List.take_zero, List.append_nil]
            exact peeled_fittedPlane hmask hleft hmin henough haccepted hfitted
        | succ k =>
            have hnext : Left points
                (earlier ++ [fittedPlane np points residual normal d mask])
                (select residual (mask.map (!·))) := left_select hmask hleft
            have hpeeled := ih hrest hnext k plane hplane
            rwa [List.append_assoc] at hpeeled

variable (np sampler params) in
/-- The planes of a cloud: each has the points near it that no earlier plane has, of which there
are enough, and is accepted. -/
theorem planes_peeled (points : List (Vec3 K)) :
  ∀ k plane, (fitPlanes np sampler params points)[k]? = some plane →
    Peeled np sampler params points ((fitPlanes np sampler params points).take k) plane
  := peeled_peel points rfl (left_finRange points)

/-- The functions of NumPy at the numbers of a level roof. -/
def levelNumpy : Numpy ℚ where
  sqrt := id
  arccos _ := 0
  tan _ := 0
  degrees _ := 0

/-- A generator that samples the first three points, and the normal of a level roof. -/
def firstThree : Sampler ℚ Unit where
  defaultRng _ := ()
  choice _ h _ := ((Fin.castLE h 0, Fin.castLE h 1, Fin.castLE h 2), ())
  lastSingular _ := ![0, 0, 1]

def fewPoints : FitParams ℚ where
  distanceThreshold := 15 / 100
  maxIterations := 1
  minInlierRatio := 8 / 100
  maxResidualStd := 15 / 100
  minPoints := 3
  seed := 42

/-- A level roof with a step of 20 cm, and a chimney. -/
def stepped : List (Vec3 ℚ) :=
  [![0, 0, 0], ![1, 0, 0], ![0, 1, 0], ![2, 0, 1 / 5], ![3, 0, 1 / 5], ![2, 1, 1 / 5],
    ![0, 0, 5], ![1, 0, 5], ![0, 1, 5]]

/-- The plane of the next three points of the cloud. -/
def levelPlaneFrom (residual : List (Fin stepped.length)) (height : ℚ) : FittedPlane ℚ :=
  fittedPlane levelNumpy stepped residual ![0, 0, 1] (-height)
    (residual.mapIdx fun i _ => decide (i < 3))

/-- The planes of the roof, of its step and of the chimney. -/
def steppedPlanes : List (FittedPlane ℚ) :=
  [levelPlaneFrom (List.finRange 9) 0, levelPlaneFrom ((List.finRange 9).drop 3) (1 / 5),
    levelPlaneFrom ((List.finRange 9).drop 6) 5]

/-- The next three points are peeled when they are the ones near the plane of their sample. -/
theorem peel_stepped (residual : List (Fin stepped.length)) (height : ℚ)
    (h : 3 ≤ residual.length ∧
      ransacSinglePlane levelNumpy firstThree fewPoints (residual.map stepped.get) () =
        (some (![0, 0, 1], -height, residual.mapIdx fun i _ => decide (i < 3)), ()) ∧
      ¬ (residual.mapIdx fun i _ => decide (i < 3)).count true < 3 ∧
      acceptable levelNumpy fewPoints (levelPlaneFrom residual height)) :
  peel levelNumpy firstThree fewPoints stepped residual () =
    levelPlaneFrom residual height ::
      peel levelNumpy firstThree fewPoints stepped
        (select residual ((residual.mapIdx fun i _ => decide (i < 3)).map (!·))) ()
  := by
  obtain ⟨hmin, hresult, henough, haccepted⟩ := h
  exact peel_of_accepted (Int.ofNat_le.mpr hmin) hresult henough haccepted

theorem fitPlanes_stepped :
  fitPlanes levelNumpy firstThree fewPoints stepped = steppedPlanes
  := by
  have hroof := peel_stepped (List.finRange 9) 0 (by decide +kernel)
  have hstep := peel_stepped ((List.finRange 9).drop 3) (1 / 5) (by decide +kernel)
  have hchimney := peel_stepped ((List.finRange 9).drop 6) 5 (by decide +kernel)
  have hend : peel levelNumpy firstThree fewPoints stepped [] () = [] := by
    rw [peel, if_neg (by decide)]
  rw [fitPlanes]
  refine hroof.trans (congrArg (_ :: ·) (hstep.trans (congrArg (_ :: ·) ?_)))
  exact hchimney.trans (congrArg (_ :: ·) hend)

/-- The step is peeled after the roof. -/
theorem planes_peeled_stepped :
  (levelPlaneFrom ((List.finRange 9).drop 3) (1 / 5)).inlierIndices = [3, 4, 5] ∧
    Peeled levelNumpy firstThree fewPoints stepped [levelPlaneFrom (List.finRange 9) 0]
      (levelPlaneFrom ((List.finRange 9).drop 3) (1 / 5))
  := by
  constructor
  · decide +kernel
  · have hpeeled := planes_peeled levelNumpy firstThree fewPoints stepped 1
      (levelPlaneFrom ((List.finRange 9).drop 3) (1 / 5))
    rw [fitPlanes_stepped] at hpeeled
    exact hpeeled rfl

/-! ### The merge -/

/-- Planes with sets of points that are disjoint, of which they have the centroids. -/
structure Separate (points : List (Vec3 K)) (planes : List (FittedPlane K)) : Prop where
  increasing : ∀ p ∈ planes, p.inlierIndices.Pairwise (· < ·)
  nonempty : ∀ p ∈ planes, p.inlierIndices ≠ []
  centroid : ∀ p ∈ planes, p.centroid = mean (p.inlierIndices.map (pointAt points))
  disjoint : ∀ (i j : ℕ) (p q : FittedPlane K), planes[i]? = some p → planes[j]? = some q →
    i ≠ j → p.inlierIndices.Disjoint q.inlierIndices

/-- A merged plane has the points of the planes that it is merged from and their centroid, through
which it passes when there are several. -/
structure MergedFrom (points : List (Vec3 K)) (planes : List (FittedPlane K))
    (p : MergedPlane K) : Prop where
  sources : p.mergedFrom ≠ []
  inliers : ∀ i, i ∈ p.inlierIndices ↔
    ∃ k ∈ p.mergedFrom, ∃ q, planes[k]? = some q ∧ i ∈ q.inlierIndices
  increasing : p.inlierIndices.Pairwise (· < ·)
  nonempty : p.inlierIndices ≠ []
  centroid : p.centroid = mean (p.inlierIndices.map (pointAt points))
  through : 2 ≤ p.mergedFrom.length → dot p.normal p.centroid + p.d = 0

/-- Merged planes divide the planes that they are merged from. -/
structure Divided (points : List (Vec3 K)) (planes : List (FittedPlane K))
    (merged : List (MergedPlane K)) : Prop where
  sources : (merged.flatMap (·.mergedFrom)).Perm (List.range planes.length)
  each : ∀ p ∈ merged, MergedFrom points planes p

/-- Every plane of a cloud has been peeled. -/
theorem exists_peeled {points : List (Vec3 K)} {plane : FittedPlane K}
    (h : plane ∈ fitPlanes np sampler params points) :
  ∃ earlier, Peeled np sampler params points earlier plane
  := by
  obtain ⟨k, hk⟩ := List.mem_iff_getElem?.mp h
  exact ⟨_, peeled_peel points rfl (left_finRange points) k plane hk⟩

variable (np sampler params) in
theorem separate_fitPlanes (points : List (Vec3 K)) :
  Separate points (fitPlanes np sampler params points)
  := by
  have hpeeled : ∀ k plane, (fitPlanes np sampler params points)[k]? = some plane →
      Peeled np sampler params points ((fitPlanes np sampler params points).take k) plane :=
    peeled_peel points rfl (left_finRange points)
  have hlater : ∀ (i j : ℕ) (p q : FittedPlane K),
      (fitPlanes np sampler params points)[i]? = some p →
      (fitPlanes np sampler params points)[j]? = some q → i < j →
      p.inlierIndices.Disjoint q.inlierIndices := by
    intro i j p q hp hq hij k hkp hkq
    have hearlier : p ∈ (fitPlanes np sampler params points).take j := by
      apply List.mem_of_getElem? (i := i)
      rw [List.getElem?_take_of_lt hij]
      exact hp
    exact (((hpeeled j q hq).inliers k).mp hkq).2 p hearlier hkp
  constructor
  case increasing =>
    intro p hp
    obtain ⟨earlier, hp⟩ := exists_peeled hp
    exact hp.increasing
  case nonempty =>
    intro p hp
    obtain ⟨earlier, hp⟩ := exists_peeled hp
    exact List.ne_nil_of_length_pos (by have := hp.enough; omega)
  case centroid =>
    intro p hp
    obtain ⟨earlier, hp⟩ := exists_peeled hp
    exact hp.centroid
  case disjoint =>
    intro i j p q hp hq hne
    rcases lt_or_gt_of_ne hne with hij | hji
    · exact hlater i j p q hp hq hij
    · exact (hlater j i q p hq hp hji).symm

section Merge

variable {points : List (Vec3 K)} {planes : List (FittedPlane K)}
  (hseparate : Separate points planes)

include hseparate

omit [LinearOrder K] in
/-- Merged planes with different sources have different points. -/
theorem disjoint_of_sources {p q : MergedPlane K} (hp : MergedFrom points planes p)
    (hq : MergedFrom points planes q) (h : p.mergedFrom.Disjoint q.mergedFrom) :
  p.inlierIndices.Disjoint q.inlierIndices
  := by
  intro i hip hiq
  obtain ⟨k, hk, source, hsource, hi⟩ := (hp.inliers i).mp hip
  obtain ⟨k', hk', source', hsource', hi'⟩ := (hq.inliers i).mp hiq
  have hne : k ≠ k' := by
    rintro rfl
    exact h hk hk'
  exact hseparate.disjoint k k' source source' hsource hsource' hne hi hi'

omit [Field K] [LinearOrder K] hseparate in
/-- The union of two sets of points without a common one. -/
theorem perm_unique {xs ys : List ℕ} (hxs : xs.Nodup) (hys : ys.Nodup) (h : xs.Disjoint ys) :
  (Topology.unique xs ys).Perm (xs ++ ys)
  := by
  apply (List.perm_ext_iff_of_nodup (Finset.sort_nodup _ _) ?_).mpr
  · intro i
    rw [Finset.mem_sort, List.mem_toFinset]
  · exact List.nodup_append'.mpr ⟨hxs, hys, h⟩

/-- Of planes with different sources, what is merged is merged from the sources of both. -/
theorem mergedFrom_mergeTwo [IsStrictOrderedRing K] {p q : MergedPlane K}
    (hp : MergedFrom points planes p) (hq : MergedFrom points planes q)
    (h : p.mergedFrom.Disjoint q.mergedFrom) :
  MergedFrom points planes (mergeTwo np p q)
  := by
  have hperm : (mergeTwo np p q).inlierIndices.Perm (p.inlierIndices ++ q.inlierIndices) :=
    perm_unique hp.increasing.nodup hq.increasing.nodup
      (disjoint_of_sources hseparate hp hq h)
  constructor
  case sources => exact List.append_ne_nil_of_left_ne_nil hp.sources _
  case inliers =>
    intro i
    change _ ↔ ∃ k ∈ p.mergedFrom ++ q.mergedFrom, ∃ source, planes[k]? = some source ∧ _
    rw [hperm.mem_iff, List.mem_append, hp.inliers, hq.inliers]
    simp only [List.mem_append, or_and_right, exists_or]
  case increasing =>
    exact (Finset.sortedLT_sort (p.inlierIndices ++ q.inlierIndices).toFinset).pairwise
  case nonempty =>
    intro hnil
    rw [hnil] at hperm
    exact hp.nonempty (List.append_eq_nil_iff.mp hperm.nil_eq.symm).1
  case centroid =>
    have hwp : (0 : K) < p.inlierIndices.length :=
      Nat.cast_pos.mpr (List.length_pos_of_ne_nil hp.nonempty)
    have hwq : (0 : K) < q.inlierIndices.length :=
      Nat.cast_pos.mpr (List.length_pos_of_ne_nil hq.nonempty)
    change average p.centroid q.centroid p.inlierIndices.length q.inlierIndices.length = _
    funext c
    rw [average, hp.centroid, hq.centroid]
    simp only [mean, List.map_map, List.length_map]
    rw [(hperm.map _).sum_eq, hperm.length_eq, List.map_append, List.sum_append,
      List.length_append, Nat.cast_add, div_mul_cancel₀ _ hwp.ne', div_mul_cancel₀ _ hwq.ne']
  case through =>
    intro _
    exact add_neg_cancel _

omit [LinearOrder K] in
/-- Before the merge, every plane is merged from itself. -/
theorem divided_start :
  Divided points planes (planes.mapIdx fun i p => { toFittedPlane := p, mergedFrom := [i] })
  := by
  constructor
  case sources =>
    clear hseparate
    apply List.Perm.of_eq
    induction planes using List.reverseRecOn with
    | nil => rfl
    | append_singleton planes p ih =>
        rw [List.mapIdx_concat, List.flatMap_append, ih, List.length_append, List.length_singleton,
          List.range_succ]
        rfl
  case each =>
    intro p hp
    obtain ⟨i, hi, rfl⟩ := List.mem_mapIdx.mp hp
    have hmem := List.getElem_mem hi
    constructor
    case sources => exact List.cons_ne_nil i []
    case inliers => simp [List.getElem?_eq_getElem hi]
    case increasing => exact hseparate.increasing _ hmem
    case nonempty => exact hseparate.nonempty _ hmem
    case centroid => exact hseparate.centroid _ hmem
    case through =>
      intro h
      exact absurd h (by simp)

/-- The merge divides the planes: each is a source of exactly one of the merged planes, and these
have the points of their sources. -/
theorem divided_mergeCoplanarFacets [IsStrictOrderedRing K] :
  Divided points planes (mergeCoplanarFacets np planes)
  := by
  refine (Merging.loop_induct ?_ (divided_start hseparate)).1
  intro l l' hl hpass
  obtain ⟨p, q, rest, -, hbefore, hafter⟩ := Merging.pass_perm hpass
  have hsources := (hbefore.flatMap_right (·.mergedFrom)).symm.trans hl.sources
  simp only [List.flatMap_cons] at hsources
  have hdisjoint : p.mergedFrom.Disjoint q.mergedFrom := by
    have hnodup := hsources.nodup_iff.mpr List.nodup_range
    exact fun i hp hq => (List.nodup_append'.mp hnodup).2.2 hp (List.mem_append_left _ hq)
  have hp := hl.each p (hbefore.mem_iff.mpr List.mem_cons_self)
  have hq := hl.each q (hbefore.mem_iff.mpr (List.mem_cons_of_mem _ List.mem_cons_self))
  constructor
  case sources =>
    refine ((hafter.flatMap_right (·.mergedFrom)).trans ?_).trans hsources
    rw [List.flatMap_cons, ← List.append_assoc]
    exact .refl _
  case each =>
    intro r hr
    rcases List.mem_cons.mp (hafter.mem_iff.mp hr) with rfl | hr
    · exact mergedFrom_mergeTwo hseparate hp hq hdisjoint
    · apply hl.each r
      exact hbefore.mem_iff.mpr (List.mem_cons_of_mem _ (List.mem_cons_of_mem _ hr))

end Merge

variable (np sampler params) in
/-- What the merge makes of the planes of a cloud divides them, and no two of the merged planes
have a common point. -/
theorem extraction_divides [IsStrictOrderedRing K] (points : List (Vec3 K)) :
  Divided points (fitPlanes np sampler params points)
      (mergeCoplanarFacets np (fitPlanes np sampler params points)) ∧
    (mergeCoplanarFacets np (fitPlanes np sampler params points)).Pairwise
      fun p q => p.inlierIndices.Disjoint q.inlierIndices
  := by
  have hseparate := separate_fitPlanes np sampler params points
  have hdivided : Divided points (fitPlanes np sampler params points)
      (mergeCoplanarFacets np (fitPlanes np sampler params points)) :=
    divided_mergeCoplanarFacets hseparate
  refine ⟨hdivided, ?_⟩
  have hnodup := hdivided.sources.nodup_iff.mpr List.nodup_range
  have hapart := (List.nodup_flatMap.mp hnodup).2
  rw [List.pairwise_iff_getElem] at hapart ⊢
  intro i j hi hj hij
  exact disjoint_of_sources hseparate (hdivided.each _ (List.getElem_mem hi))
    (hdivided.each _ (List.getElem_mem hj)) (hapart i j hi hj hij)

/-- A plane before the merge. -/
def unmerged (k : ℕ) (plane : FittedPlane ℚ) : MergedPlane ℚ :=
  { toFittedPlane := plane, mergedFrom := [k] }

/-- The roof and its step are merged, and not the chimney. -/
theorem mergeCoplanarFacets_stepped :
  (mergeCoplanarFacets levelNumpy steppedPlanes).map (·.mergedFrom) = [[0, 1], [2]]
  := by
  let roof := unmerged 0 (levelPlaneFrom (List.finRange 9) 0)
  let step := unmerged 1 (levelPlaneFrom ((List.finRange 9).drop 3) (1 / 5))
  let top := unmerged 2 (levelPlaneFrom ((List.finRange 9).drop 6) 5)
  have hroof : shouldMerge levelNumpy roof step = true := by
    decide +kernel
  have htop : shouldMerge levelNumpy (mergeTwo levelNumpy roof step) top = false := by
    decide +kernel
  have hfirst : Merging.pass (shouldMerge levelNumpy) (mergeTwo levelNumpy) [roof, step, top] =
      some [mergeTwo levelNumpy roof step, top] := by
    have hpairs : Merging.pairs [roof, step, top].length = [(0, 1), (0, 2), (1, 2)] := rfl
    rw [Merging.pass, hpairs, List.findSome?_cons]
    simp only [Merging.mergeAt, List.getElem?_cons_zero, List.getElem?_cons_succ, hroof, if_true]
    rfl
  have hsecond : Merging.pass (shouldMerge levelNumpy) (mergeTwo levelNumpy)
      [mergeTwo levelNumpy roof step, top] = none := by
    have hpairs : Merging.pairs [mergeTwo levelNumpy roof step, top].length = [(0, 1)] := rfl
    rw [Merging.pass, hpairs, List.findSome?_cons]
    simp [Merging.mergeAt, htop]
  change (Merging.loop (shouldMerge levelNumpy) (mergeTwo levelNumpy) [roof, step, top]).map _ = _
  rw [Merging.loop, hfirst]
  dsimp only
  rw [Merging.loop, hsecond]
  rfl

/-- The merge of a level roof with a step and a chimney makes two planes of three. -/
theorem extraction_divides_stepped :
  (mergeCoplanarFacets levelNumpy (fitPlanes levelNumpy firstThree fewPoints stepped)).map
      (·.mergedFrom) = [[0, 1], [2]] ∧
    Divided stepped (fitPlanes levelNumpy firstThree fewPoints stepped)
      (mergeCoplanarFacets levelNumpy (fitPlanes levelNumpy firstThree fewPoints stepped)) ∧
    (mergeCoplanarFacets levelNumpy (fitPlanes levelNumpy firstThree fewPoints stepped)).Pairwise
      fun p q => p.inlierIndices.Disjoint q.inlierIndices
  := by
  constructor
  · rw [fitPlanes_stepped]
    exact mergeCoplanarFacets_stepped
  · exact extraction_divides levelNumpy firstThree fewPoints stepped

end Fit

/-! ### Roof planes -/

section Roof

variable {R : Type} {sampler : Sampler ℝ R} {params : FitParams ℝ}
  (hunit : ∀ points, dot (sampler.lastSingular points) (sampler.lastSingular points) = 1)

include hunit

/-- With singular vectors of length one, the planes of a cloud are roof planes. -/
theorem isRoofPlane_of_peeled {points : List (Vec3 ℝ)} {earlier : List (FittedPlane ℝ)}
    {p : FittedPlane ℝ} (hp : Peeled exact sampler params points earlier p) :
  IsRoofPlane p
  := by
  obtain ⟨residual, mask, -, hfitted⟩ := hp.fitted
  have hnormal : dot p.normal p.normal = 1 ∧ 0 ≤ p.normal 2 := by
    have hvector := hunit ((select (residual.map points.get) mask).map
      (· - mean (select (residual.map points.get) mask)))
    have hrefit : (refit sampler (residual.map points.get) mask).1 = p.normal :=
      congrArg Prod.fst hfitted
    rw [← hrefit]
    simp only [refit]
    split_ifs with hdown
    · constructor
      · rw [← hvector]
        simp only [dot, Pi.neg_apply, neg_mul_neg]
      · exact neg_nonneg.mpr hdown.le
    · exact ⟨hvector, not_lt.mp hdown⟩
  constructor
  · exact ⟨hnormal.1, hnormal.2, hp.accepted.2.2⟩
  · exact List.ne_nil_of_length_pos (Nat.lt_of_lt_of_le (by decide) hp.enough)

/-- So are those that the merge makes of them. -/
theorem isRoofPlane_of_mem_merge (points : List (Vec3 ℝ)) :
  ∀ p ∈ mergeCoplanarFacets exact (fitPlanes exact sampler params points),
    IsRoofPlane p.toFittedPlane
  := by
  apply Merging.loop_forall
  · intro p q hp hq hshould
    exact mergeTwo_isRoofPlane hp hq hshould
  · intro p hp
    obtain ⟨i, hi, rfl⟩ := List.mem_mapIdx.mp hp
    obtain ⟨earlier, hpeeled⟩ := exists_peeled (List.getElem_mem hi)
    exact isRoofPlane_of_peeled hunit hpeeled

end Roof

end PlaneExtraction

end Sidecar
