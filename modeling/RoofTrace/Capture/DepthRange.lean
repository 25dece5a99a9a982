import RoofTrace.Capture.DepthMapEncoder

/-!
# Depth ranges

The range that a manifest gives for a depth map, beside the pixels of its PNG. The lower end of the
range is not clamped from above: the range brackets the pixels, within half a millimetre, exactly
when some finite depth can be shown, or none is finite.
-/

namespace Capture

namespace DepthMapEncoder

variable {framework : Compression}

/-! ### The pixels of a PNG -/

theorem uint32_eq_ok {n m : ℕ} (h : uint32 n = .ok m) :
  n < 2 ^ 32 ∧ m = n
  := by
  unfold uint32 at h
  split_ifs at h with hn
  exact ⟨hn, (Except.ok.inj h).symm⟩

theorem length_lt_of_chunk_eq_ok {type payload written : List UInt8}
    (h : chunk type payload = .ok written) :
  payload.length < 2 ^ 32
  := by
  obtain ⟨length, hlength, -⟩ := Outcome.bind_eq_ok.mp h
  exact (uint32_eq_ok hlength).1

/-- What has been written has been written in three chunks. -/
theorem encodePNG16_eq_ok {samples : List UInt16} {width height : ℕ} {png : List UInt8}
    (h : encodePNG16 framework samples width height = .ok png) :
  samples.length = width * height ∧ width < 2 ^ 32 ∧ height < 2 ^ 32 ∧
    ∃ payload ihdr idat iend,
      zlibCompress framework (scanlines samples width height) = .ok payload ∧
      chunk ihdrType (Bytes.bigEndian width ++ Bytes.bigEndian height ++ [16, 0, 0, 0, 0]) =
        .ok ihdr ∧
      chunk idatType payload = .ok idat ∧ chunk iendType [] = .ok iend ∧
        png = signature ++ ihdr ++ idat ++ iend
  := by
  unfold encodePNG16 at h
  split_ifs at h with hlength
  obtain ⟨payload, hpayload, h⟩ := Outcome.bind_eq_ok.mp h
  obtain ⟨width', hwidth, h⟩ := Outcome.bind_eq_ok.mp h
  obtain ⟨height', hheight, h⟩ := Outcome.bind_eq_ok.mp h
  obtain ⟨ihdr, hihdr, h⟩ := Outcome.bind_eq_ok.mp h
  obtain ⟨idat, hidat, h⟩ := Outcome.bind_eq_ok.mp h
  obtain ⟨iend, hiend, h⟩ := Outcome.bind_eq_ok.mp h
  have hpng := (Except.ok.inj h).symm
  obtain ⟨hwidth, rfl⟩ := uint32_eq_ok hwidth
  obtain ⟨hheight, rfl⟩ := uint32_eq_ok hheight
  exact ⟨hlength, hwidth, hheight, payload, ihdr, idat, iend, hpayload, hihdr, hidat, hiend, hpng⟩

/-- The pixels that are read from a PNG are the samples that it was written from. -/
theorem pixels_eq_of_decoded (h : InflatesDeflated framework) {samples : List UInt16}
    {width height : ℕ} {png : List UInt8} {decoded : DecodedDepth}
    (hencode : encodePNG16 framework samples width height = .ok png)
    (hdecode : decodePNG16 framework png = .ok decoded) :
  decoded.pixels = samples
  := by
  obtain ⟨hlength, hwidth, hheight, payload, ihdr, idat, iend, hcompress, hihdr, hidat, hiend,
    rfl⟩ := encodePNG16_eq_ok hencode
  have hread := readChunks_written hwidth hheight (length_lt_of_chunk_eq_ok hidat) hihdr hidat hiend
  by_cases hpos : 0 < width ∧ 0 < height
  · have hne : scanlines samples width height ≠ [] := by
      rw [← List.length_pos_iff, length_scanlines]
      exact Nat.mul_pos hpos.2 (by omega)
    obtain ⟨payload', hcompress', hdecompress⟩ :=
      zlibDecompress_zlibCompress h hne (height * (1 + width * 2))
    obtain rfl := Except.ok.inj (hcompress.symm.trans hcompress')
    have hrest : ihdr ++ idat ++ iend ≠ [] := by
      intro hnil
      rw [List.append_eq_nil_iff, List.append_eq_nil_iff] at hnil
      rw [hnil.1.1] at hihdr
      rw [chunk_eq _ _ (by simp)] at hihdr
      cases hihdr
    rw [List.append_assoc, List.append_assoc, ← List.append_assoc ihdr] at hread hdecode
    rw [decodePNG16_eq hpos.1 hpos.2 hlength hrest hread hdecompress] at hdecode
    exact (congrArg DecodedDepth.pixels (Except.ok.inj hdecode)).symm
  · unfold decodePNG16 at hdecode
    split_ifs at hdecode
    rw [hread] at hdecode
    change (if 0 < width ∧ 0 < height then _ else throw Failure.malformedPNG) = _ at hdecode
    rw [if_neg hpos] at hdecode
    cases hdecode

/-! ### Ranges -/

theorem mem_finite_iff {depthsMeters : List Double} {x : ℚ} :
  x ∈ depthsMeters.filterMap Double.finite? ↔ Double.finite x ∈ depthsMeters
  := by
  rw [List.mem_filterMap]
  constructor
  · rintro ⟨depth, hdepth, hx⟩
    cases depth with
    | finite y =>
        obtain rfl := Option.some.inj hx
        exact hdepth
    | infinity negative => cases hx
    | nan => cases hx
  · intro h
    exact ⟨_, h, rfl⟩

/-- The range is made of the least and the greatest of the finite depths, when there is one. -/
theorem depthRangeMeters_cases (depthsMeters : List Double) :
  ((∀ x, Double.finite x ∉ depthsMeters) ∧ depthRangeMeters depthsMeters = [0, 0]) ∨
    ∃ least greatest, Double.finite least ∈ depthsMeters ∧ Double.finite greatest ∈ depthsMeters ∧
      (∀ x, Double.finite x ∈ depthsMeters → least ≤ x ∧ x ≤ greatest) ∧
        depthRangeMeters depthsMeters =
          [max 0 (max least 0), max 0 (min greatest (65535 / 1000))]
  := by
  rcases hvalid : depthsMeters.filterMap Double.finite? with _ | ⟨first, rest⟩
  · refine Or.inl ⟨?_, ?_⟩
    · intro x hx
      rw [← mem_finite_iff, hvalid] at hx
      cases hx
    · rw [depthRangeMeters, hvalid]
      rfl
  · have hne : depthsMeters.filterMap Double.finite? ≠ [] := by
      rw [hvalid]
      exact List.cons_ne_nil first rest
    have hmin := List.min?_eq_some_min hne
    have hmax := List.max?_eq_some_max hne
    obtain ⟨hleast, hle⟩ := List.min?_eq_some_iff.mp hmin
    obtain ⟨hgreatest, hge⟩ := List.max?_eq_some_iff.mp hmax
    refine Or.inr ⟨_, _, mem_finite_iff.mp hleast, mem_finite_iff.mp hgreatest, ?_, ?_⟩
    · intro x hx
      exact ⟨hle x (mem_finite_iff.mpr hx), hge x (mem_finite_iff.mpr hx)⟩
    · unfold depthRangeMeters
      dsimp only
      rw [hmin, hmax]
      norm_num [maxMillimeters, depthScale]

/-- A number of millimetres within half a millimetre of a range in metres. -/
def Within (lo hi : ℚ) (v : UInt16) : Prop :=
  lo - 1 / 2000 ≤ (v.toNat : ℚ) / 1000 ∧ (v.toNat : ℚ) / 1000 ≤ hi + 1 / 2000

/-- A pixel that is not zero shows a positive depth. -/
theorem within_of_shows {meters : Double} {v : UInt16} {lo hi : ℚ} (h : Shows meters v)
    (hv : v ≠ 0)
    (hrange : ∀ x, meters = .finite x → 0 < x →
      lo ≤ min x (65535 / 1000) ∧ min x (65535 / 1000) ≤ hi) :
  Within lo hi v
  := by
  match meters with
  | .infinity _ => exact absurd h hv
  | .nan => exact absurd h hv
  | .finite x =>
      change if 0 < x then |(v.toNat : ℚ) - min x (65535 / 1000) * 1000| ≤ 1 / 2 else v = 0 at h
      split_ifs at h with hx
      · obtain ⟨hlo, hhi⟩ := hrange x rfl hx
        obtain ⟨hbelow, habove⟩ := abs_le.mp h
        constructor <;> linarith
      · exact absurd h hv

/-- The range of the depths is within the bounds, and brackets every pixel of the PNG of the depths
that is not zero. -/
def Brackets (framework : Compression) (depthsMeters : List Double) : Prop :=
  ∃ lo hi, depthRangeMeters depthsMeters = [lo, hi] ∧ 0 ≤ lo ∧ lo ≤ hi ∧ hi ≤ 65535 / 1000 ∧
    ∀ width height png decoded, encodePNG framework depthsMeters width height = .ok png →
      decodePNG16 framework png = .ok decoded → ∀ v ∈ decoded.pixels, v ≠ 0 → Within lo hi v

/-- Pixels are bracketed when the depths are. -/
theorem within_of_decoded (h : InflatesDeflated framework) {depthsMeters : List Double}
    {width height : ℕ} {png : List UInt8} {decoded : DecodedDepth} {lo hi : ℚ}
    (hencode : encodePNG framework depthsMeters width height = .ok png)
    (hdecode : decodePNG16 framework png = .ok decoded)
    (hrange : ∀ x, Double.finite x ∈ depthsMeters → 0 < x →
      lo ≤ min x (65535 / 1000) ∧ min x (65535 / 1000) ≤ hi) :
  ∀ v ∈ decoded.pixels, v ≠ 0 → Within lo hi v
  := by
  unfold encodePNG at hencode
  split_ifs at hencode
  rw [pixels_eq_of_decoded h hencode hdecode]
  intro v hv hne
  obtain ⟨meters, hmeters, rfl⟩ := List.mem_map.mp hv
  apply within_of_shows (shows_metersToMillimeters meters) hne
  rintro x rfl hx
  exact hrange x hmeters hx

/-- The range brackets the depth map exactly when some finite depth can be shown, or none is finite:
the least depth is clamped from below alone, so that it may lie above all that can be shown. -/
theorem depth_range_brackets_iff (h : InflatesDeflated framework) (depthsMeters : List Double) :
  Brackets framework depthsMeters ↔
    ((∃ x, Double.finite x ∈ depthsMeters) →
      ∃ x, Double.finite x ∈ depthsMeters ∧ x ≤ 65535 / 1000)
  := by
  rcases depthRangeMeters_cases depthsMeters with
    ⟨hnone, hrange⟩ | ⟨least, greatest, hleast, hgreatest, hbounds, hrange⟩
  · apply iff_of_true
    · refine ⟨0, 0, hrange, le_rfl, le_rfl, by norm_num, ?_⟩
      intro width height png decoded hencode hdecode
      apply within_of_decoded h hencode hdecode
      intro x hx
      exact absurd hx (hnone x)
    · rintro ⟨x, hx⟩
      exact absurd hx (hnone x)
  · have hle : least ≤ greatest := (hbounds least hleast).2
    constructor
    · rintro ⟨lo, hi, heq, -, hlohi, hhi, -⟩ -
      refine ⟨least, hleast, ?_⟩
      rw [hrange] at heq
      obtain ⟨rfl, hrest⟩ := List.cons.inj heq
      exact le_trans (le_trans (le_max_left least 0) (le_max_right 0 _)) (le_trans hlohi hhi)
    · intro hshown
      obtain ⟨x, hx, hxM⟩ := hshown ⟨least, hleast⟩
      have hleastM : least ≤ 65535 / 1000 := le_trans (hbounds x hx).1 hxM
      refine ⟨_, _, hrange, le_max_left 0 _, ?_, ?_, ?_⟩
      · apply max_le (le_max_left 0 _)
        apply max_le _ (le_max_left 0 _)
        exact le_trans (le_min hle hleastM) (le_max_right 0 _)
      · exact max_le (by norm_num) (min_le_right _ _)
      · intro width height png decoded hencode hdecode
        apply within_of_decoded h hencode hdecode
        intro y hy hpos
        constructor
        · apply max_le
          · exact le_min hpos.le (by norm_num)
          · exact max_le (le_min (hbounds y hy).1 hleastM) (le_min hpos.le (by norm_num))
        · apply le_max_of_le_right
          exact min_le_min_right _ (hbounds y hy).2

/-- A frame with a near and a far depth, and one without a depth. -/
theorem depth_range_brackets_mixed :
  Brackets stored [.finite 2, .finite 100, .nan, .finite (-1)]
  := (depth_range_brackets_iff stored_inflatesDeflated _).mpr fun _ => ⟨2, by simp, by norm_num⟩

/-- A frame whose only depth is beyond what can be shown: the lower end is not clamped. -/
theorem not_brackets_far :
  depthRangeMeters [.finite 70] = [70, 65535 / 1000] ∧ ¬ Brackets stored [.finite 70]
  := by
  have hrange : depthRangeMeters [.finite 70] = [70, 65535 / 1000] := by decide +kernel
  refine ⟨hrange, ?_⟩
  rintro ⟨lo, hi, heq, -, hle, -⟩
  rw [hrange] at heq
  obtain ⟨rfl, hrest⟩ := List.cons.inj heq
  obtain ⟨rfl, -⟩ := List.cons.inj hrest
  norm_num at hle

end DepthMapEncoder

end Capture
