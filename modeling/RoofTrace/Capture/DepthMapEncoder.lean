import RoofTrace.Bytes.Layout
import RoofTrace.Effects.Outcome
import RoofTrace.Numbers.Double
import RoofTrace.Numbers.Rounding

/-!
# Depth maps

`Services/DepthMapEncoder.swift`: a depth map in metres becomes a PNG of 16-bit millimetres,
written chunk by chunk, and a PNG of this kind is read again. The streams of the `Compression`
framework are a parameter; a PNG that is written is read as the samples it was written from
whenever inflating undoes deflating.
-/

namespace Capture

namespace DepthMapEncoder

/-- What the encoder and the decoder end with, besides a result: an `EncoderError`, or the trap of
a precondition, a conversion or a subscript. -/
inductive Failure where
  | compressionFailed
  | malformedPNG
  | trap
deriving DecidableEq

/-- The streams of the `Compression` framework, by the capacity of their buffer; `none` is a
stream that fails. -/
structure Compression where
  encode : ℕ → List UInt8 → Option (List UInt8)
  decode : ℕ → List UInt8 → Option (List UInt8)

/-! ### Millimetres -/

def depthScale : ℚ := 1000

def maxMillimeters : ℕ := 65535

def metersToMillimeters : Double → UInt16
  | .finite meters =>
      if 0 < meters then
        let mm := Rounding.halfAway.toInt (meters * depthScale)
        if (maxMillimeters : ℤ) ≤ mm then UInt16.ofNat maxMillimeters else UInt16.ofNat mm.toNat
      else 0
  | _ => 0

/-- `depthRangeMeters`: the least and the greatest of the finite depths, with their bounds. -/
def depthRangeMeters (depthsMeters : List Double) : List ℚ :=
  let valid := depthsMeters.filterMap Double.finite?
  match valid.min?, valid.max? with
  | some rawMin, some rawMax =>
      let clampedMax := min rawMax (maxMillimeters / depthScale)
      let minClamped := max rawMin 0
      [max 0 minClamped, max 0 clampedMax]
  | _, _ => [0, 0]

/-! ### Checksums -/

def adler32 (data : List UInt8) : ℕ :=
  let (a, b) := data.foldl
    (fun (a, b) byte =>
      let a := (a + byte.toNat) % 65521
      (a, (b + a) % 65521))
    (1, 0)
  b <<< 16 ||| a

namespace PNGCRC

/-- An entry of `table`. -/
def entry (n : ℕ) : UInt32 :=
  (List.range 8).foldl
    (fun (c : UInt32) _ => if c &&& 1 ≠ 0 then (0xEDB88320 : UInt32) ^^^ (c >>> 1) else c >>> 1)
    (UInt32.ofNat n)

def crc32 (data : List UInt8) : UInt32 :=
  let c := data.foldl
    (fun (c : UInt32) byte => entry ((c ^^^ byte.toUInt32) &&& 0xFF).toNat ^^^ (c >>> 8))
    0xFFFFFFFF
  c ^^^ 0xFFFFFFFF

end PNGCRC

/-! ### The zlib wrapper -/

/-- `perform`: a stream is run on its whole input, with a buffer of the size that is hinted. -/
def perform (stream : ℕ → List UInt8 → Option (List UInt8)) (input : List UInt8) (hint : ℕ) :
    Except Failure (List UInt8) :=
  if input.isEmpty then .ok []
  else
    match stream (max 64 (hint + hint / 2 + 64)) input with
    | some output => .ok output
    | none => .error .compressionFailed

variable (framework : Compression)

def rawDeflate (input : List UInt8) : Except Failure (List UInt8) :=
  perform framework.encode input input.length

def rawInflate (input : List UInt8) (expectedSize : ℕ) : Except Failure (List UInt8) :=
  perform framework.decode input expectedSize

def zlibCompress (input : List UInt8) : Except Failure (List UInt8) := do
  let deflated ← rawDeflate framework input
  return [0x78, 0x01] ++ deflated ++ Bytes.bigEndian (adler32 input)

def zlibDecompress (input : List UInt8) (expectedSize : ℕ) : Except Failure (List UInt8) :=
  if 6 < input.length then
    rawInflate framework ((input.take (input.length - 4)).drop 2) expectedSize
  else .error .malformedPNG

/-! ### Writing -/

def signature : List UInt8 := [0x89, 0x50, 0x4E, 0x47, 0x0D, 0x0A, 0x1A, 0x0A]

/-- The type `IHDR`. -/
def ihdrType : List UInt8 := [0x49, 0x48, 0x44, 0x52]

/-- The type `IDAT`. -/
def idatType : List UInt8 := [0x49, 0x44, 0x41, 0x54]

/-- The type `IEND`. -/
def iendType : List UInt8 := [0x49, 0x45, 0x4E, 0x44]

/-- `UInt32(_:)`, which traps on a number that does not fit. -/
def uint32 (n : ℕ) : Except Failure ℕ := if n < 2 ^ 32 then .ok n else .error .trap

/-- `appendChunk` -/
def chunk (type payload : List UInt8) : Except Failure (List UInt8) := do
  let length ← uint32 payload.length
  return Bytes.bigEndian length ++ type ++ payload ++
    Bytes.bigEndian (PNGCRC.crc32 (type ++ payload)).toNat

/-- A scanline, after its filter byte: the samples of a row. -/
def scanline (samples : List UInt16) (width y : ℕ) : List UInt8 :=
  (List.range width).flatMap fun x =>
    let v := samples.getD (y * width + x) 0
    [(v >>> 8).toUInt8, (v &&& 0xFF).toUInt8]

/-- The scanlines, each with the filter byte `0`. -/
def scanlines (samples : List UInt16) (width height : ℕ) : List UInt8 :=
  (List.range height).flatMap fun y => 0 :: scanline samples width y

def encodePNG16 (samples : List UInt16) (width height : ℕ) : Except Failure (List UInt8) :=
  if samples.length = width * height then do
    let idatPayload ← zlibCompress framework (scanlines samples width height)
    let width ← uint32 width
    let height ← uint32 height
    let ihdr ← chunk ihdrType (Bytes.bigEndian width ++ Bytes.bigEndian height ++ [16, 0, 0, 0, 0])
    let idat ← chunk idatType idatPayload
    let iend ← chunk iendType []
    return signature ++ ihdr ++ idat ++ iend
  else .error .trap

/-- `encodePNG`, of depths in metres. -/
def encodePNG (depthsMeters : List Double) (width height : ℕ) : Except Failure (List UInt8) :=
  if depthsMeters.length = width * height then
    encodePNG16 framework (depthsMeters.map metersToMillimeters) width height
  else .error .trap

/-! ### Reading -/

structure DecodedDepth where
  width : ℕ
  height : ℕ
  pixels : List UInt16
deriving DecidableEq

/-- A subscript, which traps outside of the array. -/
def byteAt (bytes : List UInt8) (i : ℕ) : Except Failure UInt8 :=
  match bytes[i]? with
  | some byte => .ok byte
  | none => .error .trap

/-- Four bytes in big-endian order. -/
def readBigEndian (bytes : List UInt8) (i : ℕ) : Except Failure ℕ := do
  let b₀ ← byteAt bytes i
  let b₁ ← byteAt bytes (i + 1)
  let b₂ ← byteAt bytes (i + 2)
  let b₃ ← byteAt bytes (i + 3)
  return Bytes.ofBigEndian b₀ b₁ b₂ b₃

/-- What has been read from the chunks. -/
structure Chunks where
  width : ℕ := 0
  height : ℕ := 0
  idat : List UInt8 := []

/-- What a chunk adds. -/
def Chunks.absorb (chunks : Chunks) (type payload : List UInt8) : Except Failure Chunks :=
  if type = ihdrType then do
    let width ← readBigEndian payload 0
    let height ← readBigEndian payload 4
    return { chunks with width, height }
  else if type = idatType then return { chunks with idat := chunks.idat ++ payload }
  else return chunks

/-- The bytes from `start` on, before `stop`. -/
def slice (bytes : List UInt8) (start stop : ℕ) : List UInt8 :=
  (bytes.drop start).take (stop - start)

/-- The loop over the chunks, from `i` on. The checksum of a chunk is skipped. -/
def readChunks (bytes : List UInt8) (i : ℕ) (chunks : Chunks) : Except Failure Chunks :=
  if hi : i + 8 ≤ bytes.length then do
    let length ← readBigEndian bytes i
    let type := slice bytes (i + 4) (i + 8)
    let payloadEnd := i + 8 + length
    if payloadEnd + 4 ≤ bytes.length then
      let payload := slice bytes (i + 8) payloadEnd
      if type = iendType then return chunks
      else do
        let chunks ← chunks.absorb type payload
        readChunks bytes (payloadEnd + 4) chunks
    else throw .malformedPNG
  else return chunks
termination_by bytes.length - i
decreasing_by omega

/-- A pixel of the inflated scanlines. -/
def pixel (raw : List UInt8) (width y x : ℕ) : Except Failure UInt16 := do
  let base := y * (1 + width * 2)
  let hi ← byteAt raw (base + 1 + x * 2)
  let lo ← byteAt raw (base + 1 + x * 2 + 1)
  return hi.toUInt16 <<< 8 ||| lo.toUInt16

def decodePNG16 (bytes : List UInt8) : Except Failure DecodedDepth :=
  if 8 < bytes.length ∧ bytes.take 8 = signature then do
    let chunks ← readChunks bytes 8 {}
    if 0 < chunks.width ∧ 0 < chunks.height then
      let { width, height, idat } := chunks
      let raw ← zlibDecompress framework idat (height * (1 + width * 2))
      let rows ← (List.range height).mapM fun y =>
        (List.range width).mapM fun x => pixel raw width y x
      return { width, height, pixels := rows.flatten }
    else throw .malformedPNG
  else throw .malformedPNG

/-! ### Chunks -/

theorem byteAt_of_get {bytes : List UInt8} {i : ℕ} {byte : UInt8} (h : bytes[i]? = some byte) :
  byteAt bytes i = .ok byte
  := by
  unfold byteAt
  rw [h]

/-- Four bytes are read where they are. -/
theorem readBigEndian_of_drop {bytes rest : List UInt8} {i : ℕ} {b₀ b₁ b₂ b₃ : UInt8}
    (h : bytes.drop i = b₀ :: b₁ :: b₂ :: b₃ :: rest) :
  readBigEndian bytes i = .ok (Bytes.ofBigEndian b₀ b₁ b₂ b₃)
  := by
  have hget : ∀ k, bytes[i + k]? = (b₀ :: b₁ :: b₂ :: b₃ :: rest)[k]? := by
    intro k
    rw [← h, List.getElem?_drop]
  have h₀ := byteAt_of_get (hget 0)
  have h₁ := byteAt_of_get (hget 1)
  have h₂ := byteAt_of_get (hget 2)
  have h₃ := byteAt_of_get (hget 3)
  rw [Nat.add_zero] at h₀
  unfold readBigEndian
  rw [h₀, h₁, h₂, h₃]
  rfl

/-- A number is read where its bytes are. -/
theorem readBigEndian_bigEndian {bytes rest : List UInt8} {i value : ℕ} (hvalue : value < 2 ^ 32)
    (h : bytes.drop i = Bytes.bigEndian value ++ rest) :
  readBigEndian bytes i = .ok value
  := by
  rw [readBigEndian_of_drop h, Bytes.ofBigEndian_bigEndian hvalue]

theorem slice_of_drop {bytes middle rest : List UInt8} {start stop : ℕ}
    (h : bytes.drop start = middle ++ rest) (hstop : stop = start + middle.length) :
  slice bytes start stop = middle
  := by
  rw [slice, h, hstop, Nat.add_sub_cancel_left, List.take_left]

/-- What is after a part of the bytes. -/
theorem drop_of_drop {bytes middle rest : List UInt8} {start : ℕ} (stop : ℕ)
    (h : bytes.drop start = middle ++ rest) (hstop : stop = start + middle.length) :
  bytes.drop stop = rest
  := by
  rw [hstop, ← List.drop_drop, h, List.drop_left]

theorem chunk_eq (type payload : List UInt8) (h : payload.length < 2 ^ 32) :
  chunk type payload = .ok (Bytes.bigEndian payload.length ++ type ++ payload ++
    Bytes.bigEndian (PNGCRC.crc32 (type ++ payload)).toNat)
  := by
  rw [chunk, uint32, if_pos h]
  rfl

/-- The loop reads a chunk where it is, and goes on after it. -/
theorem readChunks_chunk {bytes type payload written rest : List UInt8} {i : ℕ}
    (hpayload : payload.length < 2 ^ 32) (htype : type.length = 4)
    (hwritten : chunk type payload = .ok written) (h : bytes.drop i = written ++ rest)
    (chunks : Chunks) :
  bytes.drop (i + written.length) = rest ∧
    readChunks bytes i chunks =
      if type = iendType then .ok chunks
      else chunks.absorb type payload >>= readChunks bytes (i + written.length)
  := by
  rw [chunk_eq type payload hpayload] at hwritten
  obtain rfl := Except.ok.inj hwritten
  have hrest := drop_of_drop _ h rfl
  use hrest
  have hlength := congrArg List.length h
  simp only [List.append_assoc] at h
  simp only [List.length_drop, List.length_append, Bytes.length_bigEndian, htype] at hlength
  have hafter := drop_of_drop (i + 4) h rfl
  have hafter' := drop_of_drop (i + 8) hafter (by rw [htype])
  rw [readChunks, dif_pos (by omega), readBigEndian_bigEndian hpayload h]
  change (if i + 8 + payload.length + 4 ≤ bytes.length then
    if slice bytes (i + 4) (i + 8) = iendType then Except.ok chunks
    else chunks.absorb (slice bytes (i + 4) (i + 8))
      (slice bytes (i + 8) (i + 8 + payload.length)) >>=
        readChunks bytes (i + 8 + payload.length + 4)
    else throw .malformedPNG) = _
  rw [if_pos (by omega), slice_of_drop hafter (by rw [htype]), slice_of_drop hafter' rfl]
  simp only [List.length_append, Bytes.length_bigEndian, htype]
  rw [show i + 8 + payload.length + 4 = i + (4 + 4 + payload.length + 4) by omega]

/-! ### Scanlines -/

theorem length_scanline (samples : List UInt16) (width y : ℕ) :
  (scanline samples width y).length = width * 2
  := Bytes.length_rows fun _ _ => rfl

theorem length_scanlines (samples : List UInt16) (width height : ℕ) :
  (scanlines samples width height).length = height * (1 + width * 2)
  := by
  apply Bytes.length_rows
  intro y _
  rw [List.length_cons, length_scanline, Nat.add_comm]

/-- The two bytes of a sample are those of the sample. -/
theorem sample_eq (v : UInt16) :
  (v >>> 8).toUInt8.toUInt16 <<< 8 ||| (v &&& 0xFF).toUInt8.toUInt16 = v
  := by
  have hlt := v.toNat_lt
  have hand : v.toNat &&& 255 = v.toNat % 2 ^ 8 := Nat.and_two_pow_sub_one_eq_mod _ 8
  apply UInt16.toNat_inj.mp
  simp only [UInt16.toNat_or, UInt16.toNat_shiftLeft, UInt8.toNat_toUInt16, UInt16.toNat_toUInt8,
    UInt16.toNat_shiftRight, UInt16.toNat_and, UInt16.reduceToNat, Nat.shiftRight_eq_div_pow, hand]
  have hhigh : (v.toNat / 2 ^ (8 % 16) % 2 ^ 8) <<< (8 % 16) % 2 ^ 16 = (v.toNat / 2 ^ 8) <<< 8 := by
    have hshift : 8 % 16 = 8 := rfl
    simp only [Nat.shiftLeft_eq, hshift]
    omega
  rw [hhigh, ← Nat.shiftLeft_add_eq_or_of_lt (by omega), Nat.shiftLeft_eq]
  omega

/-- A pixel is the sample that its bytes were written for. -/
theorem pixel_scanlines (samples : List UInt16) {width height y x : ℕ} (hy : y < height)
    (hx : x < width) :
  pixel (scanlines samples width height) width y x = .ok (samples.getD (y * width + x) 0)
  := by
  have hrow : ∀ y < height, (0 :: scanline samples width y).length = 1 + width * 2 := by
    intro y _
    rw [List.length_cons, length_scanline, Nat.add_comm]
  have hsample : ∀ x < width, [((samples.getD (y * width + x) 0) >>> 8).toUInt8,
      ((samples.getD (y * width + x) 0) &&& 0xFF).toUInt8].length = 2 := fun _ _ => rfl
  have hbyte : ∀ k < 2, (scanlines samples width height)[y * (1 + width * 2) + 1 + x * 2 + k]? =
      [((samples.getD (y * width + x) 0) >>> 8).toUInt8,
        ((samples.getD (y * width + x) 0) &&& 0xFF).toUInt8][k]? := by
    intro k hk
    rw [show y * (1 + width * 2) + 1 + x * 2 + k = y * (1 + width * 2) + (x * 2 + k + 1) by omega,
      scanlines, Bytes.getElem?_rows hrow hy (by omega), List.getElem?_cons_succ]
    exact Bytes.getElem?_rows hsample hx hk
  have hhi := byteAt_of_get (hbyte 0 (by omega))
  have hlo := byteAt_of_get (hbyte 1 (by omega))
  rw [Nat.add_zero] at hhi
  unfold pixel
  dsimp only
  rw [hhi, hlo]
  exact congrArg Except.ok (sample_eq _)

/-! ### Round trips -/

/-- The rows of pixels are those of the samples. -/
theorem pixels_scanlines {samples : List UInt16} {width height : ℕ}
    (hlength : samples.length = width * height) :
  ((List.range height).mapM fun y =>
      (List.range width).mapM fun x => pixel (scanlines samples width height) width y x) =
    .ok ((List.range height).map fun y =>
      (List.range width).map fun x => samples.getD (y * width + x) 0) ∧
    ((List.range height).map fun y =>
      (List.range width).map fun x => samples.getD (y * width + x) 0).flatten = samples
  := by
  constructor
  · apply Outcome.mapM_ok
    intro y hy
    apply Outcome.mapM_ok
    intro x hx
    exact pixel_scanlines samples (List.mem_range.mp hy) (List.mem_range.mp hx)
  · rw [← List.flatMap_def]
    exact Bytes.rows_eq samples 0 hlength

/-- Inflating what has been deflated gives it back. -/
def InflatesDeflated : Prop := ∀ input expectedSize, ∃ deflated,
  rawDeflate framework input = .ok deflated ∧
    rawInflate framework deflated expectedSize = .ok input

variable {framework}

theorem zlibDecompress_zlibCompress (h : InflatesDeflated framework) {input : List UInt8}
    (hinput : input ≠ []) (expectedSize : ℕ) :
  ∃ compressed, zlibCompress framework input = .ok compressed ∧
    zlibDecompress framework compressed expectedSize = .ok input
  := by
  obtain ⟨deflated, hdeflate, hinflate⟩ := h input expectedSize
  have hne : 0 < deflated.length := by
    rw [List.length_pos_iff]
    rintro rfl
    exact hinput (Except.ok.inj hinflate).symm
  use [0x78, 0x01] ++ deflated ++ Bytes.bigEndian (adler32 input)
  constructor
  · rw [zlibCompress, hdeflate]
    rfl
  · have hlength : ([0x78, 0x01] ++ deflated ++ Bytes.bigEndian (adler32 input)).length - 4 =
        ([0x78, 0x01] ++ deflated).length := by
      simp
    rw [zlibDecompress, if_pos (by simp; omega), hlength, List.take_left]
    exact hinflate

/-- The loop reads the chunks that are written. -/
theorem readChunks_written {width height : ℕ} {payload ihdr idat iend : List UInt8}
    (hwidth : width < 2 ^ 32) (hheight : height < 2 ^ 32) (hpayload : payload.length < 2 ^ 32)
    (hihdr : chunk ihdrType (Bytes.bigEndian width ++ Bytes.bigEndian height ++ [16, 0, 0, 0, 0]) =
      .ok ihdr)
    (hidat : chunk idatType payload = .ok idat) (hiend : chunk iendType [] = .ok iend) :
  readChunks (signature ++ ihdr ++ idat ++ iend) 8 {} = .ok ⟨width, height, payload⟩
  := by
  have hdrop : (signature ++ ihdr ++ idat ++ iend).drop 8 = ihdr ++ (idat ++ iend) := by
    simp [signature]
  obtain ⟨hdrop', hstep⟩ := readChunks_chunk (by simp) rfl hihdr hdrop {}
  obtain ⟨hdrop'', hstep'⟩ := readChunks_chunk hpayload rfl hidat hdrop' ⟨width, height, []⟩
  have hlast := hdrop''.trans (List.append_nil iend).symm
  obtain ⟨-, hstep''⟩ := readChunks_chunk (by simp) rfl hiend hlast ⟨width, height, payload⟩
  have habsorb : Chunks.absorb {} ihdrType
      (Bytes.bigEndian width ++ Bytes.bigEndian height ++ [16, 0, 0, 0, 0]) =
        .ok ⟨width, height, []⟩ := by
    have hread : readBigEndian
        (Bytes.bigEndian width ++ Bytes.bigEndian height ++ [16, 0, 0, 0, 0]) 0 = .ok width := by
      apply readBigEndian_bigEndian hwidth
      rw [List.append_assoc]
      rfl
    have hread' : readBigEndian
        (Bytes.bigEndian width ++ Bytes.bigEndian height ++ [16, 0, 0, 0, 0]) 4 = .ok height := by
      apply readBigEndian_bigEndian hheight
      rfl
    rw [Chunks.absorb, if_pos rfl, hread, hread']
    rfl
  rw [hstep, if_neg (by decide), habsorb]
  change readChunks _ _ ⟨width, height, []⟩ = _
  rw [hstep', if_neg (by decide)]
  change readChunks _ _ ⟨width, height, payload⟩ = _
  rw [hstep'', if_pos rfl]

/-- What is written is the signature and three chunks. -/
theorem encodePNG16_eq {samples : List UInt16} {width height : ℕ}
    {payload ihdr idat iend : List UInt8} (hlength : samples.length = width * height)
    (hwidth : width < 2 ^ 32) (hheight : height < 2 ^ 32)
    (hcompress : zlibCompress framework (scanlines samples width height) = .ok payload)
    (hihdr : chunk ihdrType (Bytes.bigEndian width ++ Bytes.bigEndian height ++ [16, 0, 0, 0, 0]) =
      .ok ihdr)
    (hidat : chunk idatType payload = .ok idat) (hiend : chunk iendType [] = .ok iend) :
  encodePNG16 framework samples width height = .ok (signature ++ ihdr ++ idat ++ iend)
  := by
  unfold encodePNG16
  rw [if_pos hlength, hcompress, uint32, if_pos hwidth, uint32, if_pos hheight]
  change (chunk ihdrType
      (Bytes.bigEndian width ++ Bytes.bigEndian height ++ [16, 0, 0, 0, 0]) >>= fun ihdr =>
    chunk idatType payload >>= fun idat => chunk iendType [] >>= fun iend =>
      Except.ok (signature ++ ihdr ++ idat ++ iend)) = _
  rw [hihdr, hidat, hiend]
  rfl

/-- What is read is what the chunks hold. -/
theorem decodePNG16_eq {samples : List UInt16} {width height : ℕ} {payload rest : List UInt8}
    (hwidth : 0 < width) (hheight : 0 < height) (hlength : samples.length = width * height)
    (hrest : rest ≠ []) (hread : readChunks (signature ++ rest) 8 {} = .ok ⟨width, height, payload⟩)
    (hdecompress : zlibDecompress framework payload (height * (1 + width * 2)) =
      .ok (scanlines samples width height)) :
  decodePNG16 framework (signature ++ rest) = .ok ⟨width, height, samples⟩
  := by
  obtain ⟨hpixels, hflatten⟩ := pixels_scanlines hlength
  have hsignature : 8 < (signature ++ rest).length ∧ (signature ++ rest).take 8 = signature := by
    constructor
    · rw [List.length_append]
      exact Nat.lt_add_of_pos_right (List.length_pos_iff.mpr hrest)
    · exact List.take_left' rfl
  unfold decodePNG16
  rw [if_pos hsignature, hread]
  change (if 0 < width ∧ 0 < height then
    zlibDecompress framework payload (height * (1 + width * 2)) >>= fun raw =>
      ((List.range height).mapM fun y => (List.range width).mapM fun x => pixel raw width y x) >>=
        fun rows => Except.ok (⟨width, height, rows.flatten⟩ : DecodedDepth)
    else throw .malformedPNG) = _
  rw [if_pos ⟨hwidth, hheight⟩, hdecompress]
  change (((List.range height).mapM _ >>= _) : Except Failure DecodedDepth) = _
  rw [hpixels]
  exact congrArg (fun pixels => Except.ok (⟨width, height, pixels⟩ : DecodedDepth)) hflatten

/-- Samples that are written are read again. -/
theorem decodePNG16_encodePNG16 (h : InflatesDeflated framework) {samples : List UInt16}
    {width height : ℕ} (hwidth : 0 < width ∧ width < 2 ^ 31)
    (hheight : 0 < height ∧ height < 2 ^ 31) (hlength : samples.length = width * height)
    (hchunk : ∀ payload, zlibCompress framework (scanlines samples width height) = .ok payload →
      payload.length < 2 ^ 32) :
  ∃ png, encodePNG16 framework samples width height = .ok png ∧
    decodePNG16 framework png = .ok ⟨width, height, samples⟩
  := by
  have hne : scanlines samples width height ≠ [] := by
    rw [← List.length_pos_iff, length_scanlines]
    exact Nat.mul_pos hheight.1 (by omega)
  obtain ⟨payload, hcompress, hdecompress⟩ :=
    zlibDecompress_zlibCompress h hne (height * (1 + width * 2))
  have hpayload := hchunk payload hcompress
  obtain ⟨ihdr, hihdr⟩ : ∃ ihdr, chunk ihdrType
      (Bytes.bigEndian width ++ Bytes.bigEndian height ++ [16, 0, 0, 0, 0]) = .ok ihdr :=
    ⟨_, chunk_eq _ _ (by simp)⟩
  obtain ⟨idat, hidat⟩ : ∃ idat, chunk idatType payload = .ok idat := ⟨_, chunk_eq _ _ hpayload⟩
  obtain ⟨iend, hiend⟩ : ∃ iend, chunk iendType [] = .ok iend := ⟨_, chunk_eq _ _ (by simp)⟩
  use signature ++ ihdr ++ idat ++ iend
  use encodePNG16_eq hlength (by omega) (by omega) hcompress hihdr hidat hiend
  have hread := readChunks_written (by omega) (by omega) hpayload hihdr hidat hiend
  rw [List.append_assoc, List.append_assoc] at hread ⊢
  apply decodePNG16_eq hwidth.1 hheight.1 hlength _ hread hdecompress
  rintro hrest
  rw [hrest, List.append_nil] at hread
  have hnothing : readChunks signature 8 {} = .ok {} := by
    rw [readChunks, dif_neg (by decide)]
    rfl
  rw [hnothing] at hread
  exact absurd (congrArg Chunks.width (Except.ok.inj hread)) (ne_of_lt hwidth.1)

/-! ### Depths -/

/-- A depth in metres that is shown by a number of millimetres: none without a depth, and
otherwise one within half a millimetre of the depth, up to the greatest that can be shown. -/
def Shows (meters : Double) (mm : UInt16) : Prop :=
  match meters with
  | .finite x =>
      if 0 < x then |(mm.toNat : ℚ) - min x (65535 / 1000) * 1000| ≤ 1 / 2 else mm = 0
  | _ => mm = 0

theorem shows_metersToMillimeters (meters : Double) : Shows meters (metersToMillimeters meters)
  := by
  match meters with
  | .infinity _ => rfl
  | .nan => rfl
  | .finite x =>
      have hround := Rounding.abs_halfAway_sub_le (x * depthScale)
      unfold Shows metersToMillimeters
      dsimp only
      split_ifs with hx hmm
      · -- The rounded depth reaches the greatest number, which is shown.
        change |((65535 : ℕ) : ℚ) - min x (65535 / 1000) * 1000| ≤ 1 / 2
        rcases le_total x (65535 / 1000) with hle | hle
        · have hmax : (65535 : ℚ) ≤ Rounding.halfAway.toInt (x * depthScale) := by
            exact_mod_cast hmm
          rw [min_eq_left hle]
          push_cast
          unfold depthScale at hround hmax
          rw [abs_le] at hround ⊢
          constructor <;> linarith [hround.1, hround.2]
        · rw [min_eq_right hle]
          norm_num
      · have hlt : x ≤ 65535 / 1000 := by
          by_contra hgt
          apply hmm
          apply Rounding.halfAway.le_toInt
          unfold maxMillimeters depthScale
          push_cast
          linarith
        have hnonneg : 0 ≤ Rounding.halfAway.toInt (x * depthScale) := by
          apply Rounding.halfAway.le_toInt
          unfold depthScale
          push_cast
          positivity
        have hnat : ((UInt16.ofNat (Rounding.halfAway.toInt (x * depthScale)).toNat).toNat : ℚ) =
            Rounding.halfAway.toInt (x * depthScale) := by
          unfold maxMillimeters at hmm
          rw [UInt16.toNat_ofNat', Nat.mod_eq_of_lt (by omega)]
          exact_mod_cast Int.toNat_of_nonneg hnonneg
        rw [hnat, min_eq_left hlt]
        exact hround
      · rfl

/-- Samples that are written are read again, with the size of the image, and depths that are written
are read as numbers that show them: in millimetres, up to the greatest number that there is, and 0
where there is no depth. -/
theorem png_round_trip (h : InflatesDeflated framework) {width height : ℕ}
    (hwidth : 0 < width ∧ width < 2 ^ 31) (hheight : 0 < height ∧ height < 2 ^ 31) :
  (∀ samples : List UInt16, samples.length = width * height →
    (∀ payload, zlibCompress framework (scanlines samples width height) = .ok payload →
      payload.length < 2 ^ 32) →
    ∃ png, encodePNG16 framework samples width height = .ok png ∧
      decodePNG16 framework png = .ok ⟨width, height, samples⟩) ∧
  ∀ depthsMeters : List Double, depthsMeters.length = width * height →
    (∀ payload, zlibCompress framework
        (scanlines (depthsMeters.map metersToMillimeters) width height) = .ok payload →
      payload.length < 2 ^ 32) →
    ∃ png pixels, encodePNG framework depthsMeters width height = .ok png ∧
      decodePNG16 framework png = .ok ⟨width, height, pixels⟩ ∧
        List.Forall₂ Shows depthsMeters pixels
  := by
  constructor
  · intro samples hlength hchunk
    exact decodePNG16_encodePNG16 h hwidth hheight hlength hchunk
  · intro depthsMeters hlength hchunk
    obtain ⟨png, hencode, hdecode⟩ := decodePNG16_encodePNG16 h hwidth hheight
      ((List.length_map _).trans hlength) hchunk
    use png, depthsMeters.map metersToMillimeters
    refine ⟨?_, hdecode, ?_⟩
    · rw [encodePNG, if_pos hlength]
      exact hencode
    · rw [List.forall₂_map_right_iff, List.forall₂_same]
      exact fun meters _ => shows_metersToMillimeters meters

/-- A framework that deflates into one stored block. -/
def stored : Compression where
  encode _ input :=
    let length := input.length
    some ([1, UInt8.ofNat length, UInt8.ofNat (length / 256), 255 - UInt8.ofNat length,
      255 - UInt8.ofNat (length / 256)] ++ input)
  decode _ deflated := some (deflated.drop 5)

theorem stored_inflatesDeflated : InflatesDeflated stored
  := by
  intro input expectedSize
  cases input with
  | nil => exact ⟨[], rfl, rfl⟩
  | cons byte input => exact ⟨_, rfl, rfl⟩

/-- Depths of which one is no number, one is negative and one is too far. -/
def oddDepths : List Double := [.nan, .finite (-1 / 2), .finite 70, .finite (3 / 2)]

/-- A square of samples, and one of depths that are not all in range. -/
theorem png_round_trip_square :
  (∃ png, encodePNG16 stored [1500, 0, 65535, 256] 2 2 = .ok png ∧
    decodePNG16 stored png = .ok ⟨2, 2, [1500, 0, 65535, 256]⟩) ∧
    ∃ png pixels, encodePNG stored oddDepths 2 2 = .ok png ∧
      decodePNG16 stored png = .ok ⟨2, 2, pixels⟩ ∧ List.Forall₂ Shows oddDepths pixels
  := by
  constructor
  · apply (png_round_trip stored_inflatesDeflated (by decide) (by decide)).1 _ rfl
    rintro _ ⟨⟩
    decide
  · apply (png_round_trip stored_inflatesDeflated (by decide) (by decide)).2 oddDepths rfl
    rintro _ ⟨⟩
    decide

end DepthMapEncoder

end Capture
