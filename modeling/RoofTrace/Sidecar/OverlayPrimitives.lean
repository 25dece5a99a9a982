import RoofTrace.Sidecar.PhotoOverlay
import RoofTrace.Text.Pairing

/-!
# The primitives of an overlay

The PNG composite reads the polygons and the labels back from the SVG layer, and pairs them by
position. The layer and the composite show the same exactly when no label is off the photo to the
left or above, where its position has a sign, as the labels after it would move up.
-/

namespace Sidecar

namespace PhotoOverlay

open Numerals Regex Outcome

/-! ### Escaped labels -/

/-- The code of a character of an escaped text. -/
def code (c : Char) : List Char :=
  if c = '&' then "&amp;".toList else if c = '>' then "&gt;".toList
  else if c = '<' then "&lt;".toList else [c]

/-- Escaping replaces every character by its code. -/
theorem escape_eq (s : List Char) : escape s = s.flatMap code := by
  rw [escape, Replace.replace_singleton, Replace.replace_singleton, Replace.replace_singleton,
    List.flatMap_assoc, List.flatMap_assoc]
  apply List.flatMap_congr
  intro c _
  by_cases amp : c = '&'
  · subst amp
    decide
  by_cases gt : c = '>'
  · subst gt
    decide
  simp [code, amp, gt]

/-- The characters that have a code of their own. -/
def special : List Char := ['&', '>', '<']

/-- A character that is not special is its own code. -/
theorem code_of_not_special {c : Char} (h : c ∉ special) : code c = [c] := by
  simp only [special, List.mem_cons, List.not_mem_nil, or_false, not_or] at h
  rw [code, if_neg h.1, if_neg h.2.1, if_neg h.2.2]

/-- The special characters, one by one. -/
theorem special_cases {c : Char} (h : c ∈ special) : c = '&' ∨ c = '>' ∨ c = '<' := by
  simpa only [special, List.mem_cons, List.not_mem_nil, or_false] using h

/-- The code of a special character begins with the only ampersand in it. -/
theorem exists_code {c : Char} (h : c ∈ special) : ∃ rest, code c = '&' :: rest ∧ '&' ∉ rest := by
  rcases special_cases h with rfl | rfl | rfl
  · exact ⟨"amp;".toList, rfl, by decide⟩
  · exact ⟨"gt;".toList, rfl, by decide⟩
  · exact ⟨"lt;".toList, rfl, by decide⟩

/-- No code begins another. -/
theorem eq_of_code_begins {c d : Char} (hc : c ∈ special) (hd : d ∈ special)
    (h : code c <+: code d) :
  c = d
  := by
  by_contra other
  revert h
  rcases special_cases hc with rfl | rfl | rfl <;> rcases special_cases hd with rfl | rfl | rfl <;>
    first | exact absurd rfl other | decide

/-- The code of a special character is longer than the character. -/
theorem one_lt_length_code {c : Char} (h : c ∈ special) : 1 < (code c).length := by
  rcases special_cases h with rfl | rfl | rfl <;> decide

/-- The code of a special character has no angle bracket. -/
theorem lt_notMem_code {c : Char} (h : c ∈ special) : '<' ∉ code c := by
  rcases special_cases h with rfl | rfl | rfl <;> decide

/-- A text in which all but some characters are escaped. -/
def codeBut (plain : List Char) (c : Char) : List Char := if c ∈ plain then [c] else code c

/-- A character has its code, unless it is plain or not special. -/
theorem codeBut_cases (plain : List Char) (c : Char) :
  (c ∈ special ∧ c ∉ plain ∧ codeBut plain c = code c) ∨
    ((c ∉ special ∨ c ∈ plain) ∧ codeBut plain c = [c])
  := by
  by_cases hp : c ∈ plain
  · exact .inr ⟨.inr hp, if_pos hp⟩
  · by_cases hs : c ∈ special
    · exact .inl ⟨hs, hp, if_neg hp⟩
    · refine .inr ⟨.inl hs, ?_⟩
      rw [codeBut, if_neg hp, code_of_not_special hs]

/-- The codes of one more character are replaced by it. -/
theorem replace_code (plain : List Char) (amp : '&' ∉ plain) (d : Char) (hd : d ∈ special)
    (hp : d ∉ plain) (s : List Char) :
  Replace.replace (code d) [d] 0 (s.flatMap (codeBut plain)) = s.flatMap (codeBut (d :: plain))
  := by
  obtain ⟨rest, hrest, -⟩ := exists_code hd
  have apart (c : Char) (h : c ∉ special ∨ c ∈ plain) : c ≠ '&' := by
    rintro rfl
    exact h.elim (fun h => h (by decide)) amp
  have longer := one_lt_length_code hd
  have token (c : Char) : codeBut plain c = code d ↔ c = d := by
    constructor
    · intro same
      rcases codeBut_cases plain c with ⟨hc, -, h⟩ | ⟨-, h⟩
      · exact eq_of_code_begins hc hd (by rw [← h, same])
      · rw [← same, h] at longer
        exact absurd longer (lt_irrefl 1)
    · rintro rfl
      exact if_neg hp
  rw [hrest, Replace.replace_flatMap, ← hrest]
  · apply List.flatMap_congr
    intro c _
    by_cases same : c = d
    · rw [if_pos ((token c).mpr same), codeBut, if_pos (List.mem_cons.mpr (.inl same)), same]
    · rw [if_neg (mt (token c).mp same), codeBut, codeBut]
      simp only [List.mem_cons, same, false_or]
  · intro c
    rcases codeBut_cases plain c with ⟨hc, -, h⟩ | ⟨-, h⟩
    · obtain ⟨rest, h', -⟩ := exists_code hc
      rw [h, h']
      exact List.cons_ne_nil _ _
    · rw [h]
      exact List.cons_ne_nil _ _
  · intro c
    rcases codeBut_cases plain c with ⟨hc, -, h⟩ | ⟨-, h⟩
    · obtain ⟨rest, h', inside⟩ := exists_code hc
      rw [h, h']
      exact inside
    · rw [h]
      exact List.not_mem_nil
  · intro c overlap
    rw [← hrest] at overlap ⊢
    apply (token c).mpr
    rcases codeBut_cases plain c with ⟨hc, -, h⟩ | ⟨hc, h⟩
    · rw [h] at overlap
      rcases overlap with overlap | overlap
      · exact eq_of_code_begins hc hd overlap
      · exact (eq_of_code_begins hd hc overlap).symm
    · rw [h] at overlap
      rcases overlap with overlap | overlap
      · rw [hrest, List.cons_prefix_cons] at overlap
        exact absurd overlap.1 (apart c hc)
      · exact absurd overlap.length_le (not_le.mpr longer)

/-- An escaped text is read back. -/
theorem unescape_escape (s : List Char) : unescape (escape s) = s := by
  have all : codeBut ['&', '>', '<'] = fun c => [c] := by
    funext c
    rcases codeBut_cases ['&', '>', '<'] c with ⟨hc, hp, -⟩ | ⟨-, h⟩
    · exact absurd hc hp
    · exact h
  have none : escape s = s.flatMap (codeBut []) := by
    rw [escape_eq]
    rfl
  change Replace.replace (code '&') ['&'] 0 (Replace.replace (code '>') ['>'] 0
    (Replace.replace (code '<') ['<'] 0 (escape s))) = s
  rw [none, replace_code [] List.not_mem_nil '<' (by decide) List.not_mem_nil,
    replace_code ['<'] (by decide) '>' (by decide) (by decide),
    replace_code ['>', '<'] (by decide) '&' (by decide) (by decide), all, List.flatMap_singleton']

/-- An escaped text has no angle bracket. -/
theorem lt_notMem_escape (s : List Char) : '<' ∉ escape s := by
  rw [escape_eq, List.mem_flatMap]
  rintro ⟨c, -, hc⟩
  by_cases hs : c ∈ special
  · exact lt_notMem_code hs hc
  · rw [code_of_not_special hs, List.mem_singleton] at hc
    rw [← hc] at hs
    exact hs (by decide)

/-! ### Colours -/

/-- A channel is written with two hexadecimal digits, which are read as the channel. -/
theorem isHex_channelHex : ∀ n < 256, (channelHex (n : ℕ)).length = 2 ∧
    (channelHex (n : ℕ)).all isHex = true ∧ ofDigits 16 (channelHex (n : ℕ)) = n := by
  decide +kernel

/-- A channel between two channels is a channel. -/
theorem lerp_mem {a b : ℤ} {t : ℚ} (ha : 0 ≤ a ∧ a ≤ 255) (hb : 0 ≤ b ∧ b ≤ 255) (ht : 0 ≤ t)
    (ht' : t ≤ 1) :
  0 ≤ lerp a b t ∧ lerp a b t ≤ 255
  := by
  have ha0 : (0 : ℚ) ≤ a := by exact_mod_cast ha.1
  have ha1 : (a : ℚ) ≤ 255 := by exact_mod_cast ha.2
  have hb0 : (0 : ℚ) ≤ b := by exact_mod_cast hb.1
  have hb1 : (b : ℚ) ≤ 255 := by exact_mod_cast hb.2
  constructor
  · apply Rounding.halfEven.le_toInt
    push_cast
    nlinarith
  · apply Rounding.halfEven.toInt_le
    push_cast
    nlinarith

/-- A number that is clamped is within the bounds. -/
theorem clamp_mem {lo hi : ℚ} (h : lo ≤ hi) (x : Double) :
  lo ≤ x.clamp lo hi ∧ x.clamp lo hi ≤ hi
  := by
  cases x with
  | finite x => exact ⟨le_min (le_max_right x lo) h, min_le_right _ _⟩
  | infinity negative => cases negative <;> simp [Double.clamp, h]
  | nan => simp [Double.clamp, h]

/-- The channels of a pitch colour are bytes. -/
theorem pitchColor_mem (p : Double) :
  (0 ≤ (pitchColor p).r ∧ (pitchColor p).r ≤ 255) ∧ (0 ≤ (pitchColor p).g ∧ (pitchColor p).g ≤ 255) ∧
    0 ≤ (pitchColor p).b ∧ (pitchColor p).b ≤ 255
  := by
  have clamped := clamp_mem (show 0 ≤ maxRatio by decide) (if p.isNaN then .finite 0 else p)
  have pos : 0 < maxRatio := by decide
  have low := div_nonneg clamped.1 pos.le
  have high := div_le_one_of_le₀ clamped.2 pos.le
  refine ⟨?_, ?_, ?_⟩
  · exact lerp_mem (by decide) (by decide) low high
  · exact lerp_mem (by decide) (by decide) low high
  · exact lerp_mem (by decide) (by decide) low high

/-- A byte is printed as two hexadecimal digits. -/
theorem exists_channelHex {n : ℤ} (h : 0 ≤ n ∧ n ≤ 255) :
  ∃ a b, channelHex n = [a, b] ∧ isHex a = true ∧ isHex b = true ∧ (ofDigits 16 [a, b] : ℤ) = n
  := by
  lift n to ℕ using h.1
  obtain ⟨length, hex, value⟩ := isHex_channelHex n (by omega)
  obtain ⟨a, b, hab⟩ := List.length_eq_two.mp length
  rw [hab] at hex value
  have hex := List.all_eq_true.mp hex
  exact ⟨a, b, hab, hex a (.head _), hex b (.tail _ (.head _)), by rw [value]⟩

/-- A colour is printed as `#` and six hexadecimal digits, from which it is read. -/
theorem pitchColorHex_spec (p : Double) :
  List.Forall₂ (fun isIn c => isIn c = true) ((· == '#') :: List.replicate 6 isHex)
      (pitchColorHex p) ∧
    (⟨channelAt (pitchColorHex p) 1, channelAt (pitchColorHex p) 3,
      channelAt (pitchColorHex p) 5⟩ : Rgb) = pitchColor p
  := by
  obtain ⟨hr, hg, hb⟩ := pitchColor_mem p
  obtain ⟨r, r', eqR, isR, isR', valueR⟩ := exists_channelHex hr
  obtain ⟨g, g', eqG, isG, isG', valueG⟩ := exists_channelHex hg
  obtain ⟨b, b', eqB, isB, isB', valueB⟩ := exists_channelHex hb
  have digits : pitchColorHex p = ['#', r, r', g, g', b, b'] := by
    rw [pitchColorHex, eqR, eqG, eqB]
    rfl
  rw [digits]
  constructor
  · exact .cons rfl (.cons isR (.cons isR' (.cons isG (.cons isG' (.cons isB (.cons isB' .nil))))))
  · change (⟨ofDigits 16 [r, r'], ofDigits 16 [g, g'], ofDigits 16 [b, b']⟩ : Rgb) = _
    rw [valueR, valueG, valueB]

/-! ### Positions -/

/-- The characters of points and of the names of floats. -/
def isNumeral (c : Char) : Bool := c.isDigit || ".-,infa".toList.contains c

/-- A text of characters of a kind has none of another kind. -/
theorem notMem_of_forall {isIn : Char → Bool} {text : List Char} (h : ∀ c ∈ text, isIn c = true)
    {d : Char} (hd : isIn d = false) :
  d ∉ text
  := by
  intro hm
  rw [h d hm] at hd
  cases hd

/-- A decimal has the characters of numerals only. -/
theorem isNumeral_of_mem_decimal {n : ℕ} {x : ℚ} : ∀ c ∈ decimal n x, isNumeral c = true := by
  intro c hc
  rcases mem_decimal hc with digit | rfl | ⟨-, rfl⟩
  · rw [isNumeral, digit, Bool.true_or]
  · rfl
  · rfl

/-- A float is printed with the characters of numerals only. -/
theorem isNumeral_of_mem_printed (x : Double) : ∀ c ∈ printed x, isNumeral c = true := by
  match x with
  | .finite x => exact isNumeral_of_mem_decimal
  | .infinity true => exact List.all_eq_true.mp rfl
  | .infinity false => exact List.all_eq_true.mp rfl
  | .nan => exact List.all_eq_true.mp rfl

/-- A point is written with the characters of numerals only. -/
theorem isNumeral_of_mem_pointText (point : ℚ × ℚ) : ∀ c ∈ pointText point, isNumeral c = true := by
  intro c hc
  rcases List.mem_append.mp hc with hc | hc
  · exact isNumeral_of_mem_decimal c hc
  · rcases List.mem_cons.mp hc with rfl | hc
    · rfl
    · exact isNumeral_of_mem_decimal c hc

/-- The text of the points of a polygon. -/
def pointsText (facet : ProjectedFacet) : List Char :=
  [' '].intercalate (facet.pointsPx.map pointText)

/-- The points of a polygon are written with the characters of numerals and blanks only. -/
theorem notMem_pointsText {d : Char} (hd : isNumeral d = false) (space : d ≠ ' ')
    (facet : ProjectedFacet) :
  d ∉ pointsText facet
  := by
  have point (p : ℚ × ℚ) : d ∉ pointText p := notMem_of_forall (isNumeral_of_mem_pointText p) hd
  rw [pointsText]
  induction facet.pointsPx with
  | nil => exact List.not_mem_nil
  | cons p points ih =>
      cases points with
      | nil =>
          rw [List.map_singleton, List.intercalate_singleton]
          exact point p
      | cons p' points =>
          rw [List.map_cons, List.map_cons, List.intercalate_cons_cons, ← List.map_cons,
            List.mem_append, List.mem_append, List.mem_singleton, not_or, not_or]
          exact ⟨⟨point p, space⟩, ih⟩

/-- A point is written with some characters. -/
theorem pointText_ne_nil (point : ℚ × ℚ) : pointText point ≠ [] :=
  List.append_ne_nil_of_left_ne_nil (decimal_ne_nil 1 point.1) _

/-- A polygon with points is written with some characters. -/
theorem pointsText_ne_nil {facet : ProjectedFacet} (h : facet.pointsPx ≠ []) :
  pointsText facet ≠ []
  := by
  obtain ⟨point, points, hp⟩ := List.exists_cons_of_ne_nil h
  rw [pointsText, hp]
  cases points with
  | nil =>
      rw [List.map_singleton, List.intercalate_singleton]
      exact pointText_ne_nil point
  | cons point' points =>
      rw [List.map_cons, List.map_cons, List.intercalate_cons_cons, List.append_assoc]
      exact List.append_ne_nil_of_left_ne_nil (pointText_ne_nil point) _

/-- A position is printed without a sign or the name of a float. -/
def unsigned : Double → Bool
  | .finite x => 0 ≤ x
  | _ => false

/-- A float that is printed without a sign is matched by `[0-9.]+`. -/
theorem isDecimal_of_unsigned {x : Double} (h : unsigned x = true) :
  (∀ c ∈ printed x, isDecimal c = true) ∧ 1 ≤ (printed x).length
  := by
  cases x with
  | finite x =>
      refine ⟨?_, List.length_pos_of_ne_nil (decimal_ne_nil 1 x)⟩
      intro c hc
      rcases mem_decimal hc with digit | rfl | ⟨negative, -⟩
      · rw [isDecimal, digit, Bool.true_or]
      · rfl
      · exact absurd (of_decide_eq_true h) (not_le.mpr negative)
  | infinity negative => cases h
  | nan => cases h

/-- A float that is printed with a sign is not matched by `[0-9.]+`. -/
theorem head_of_not_unsigned {x : Double} (h : unsigned x = false) (s : List Char) :
  ∀ c ∈ (printed x ++ s).head?, isDecimal c = false
  := by
  match x with
  | .finite x =>
      have negative : x < 0 := not_le.mp (of_decide_eq_false h)
      intro c hc
      rw [List.head?_append, printed, head?_decimal negative] at hc
      cases hc
      rfl
  | .infinity true =>
      rintro c ⟨⟩
      rfl
  | .infinity false =>
      rintro c ⟨⟩
      rfl
  | .nan =>
      rintro c ⟨⟩
      rfl

/-! ### Elements -/

/-- The fill opacity is matched by `[0-9.]+`. -/
theorem isDecimal_of_mem_fillOpacity (facet : ProjectedFacet) :
  (∀ c ∈ decimal 3 (fillOpacity facet), isDecimal c = true) ∧
    1 ≤ (decimal 3 (fillOpacity facet)).length
  := by
  refine ⟨List.all_eq_true.mp ?_, List.length_pos_of_ne_nil (decimal_ne_nil 3 _)⟩
  rw [fillOpacity]
  split
  · decide +kernel
  · decide +kernel

/-- The attributes of a polygon after its fill opacity. -/
def strokeText (facet : ProjectedFacet) : List Char :=
  let dash := if facet.occlusionState = some "partial" then " stroke-dasharray=\"8,4\"" else ""
  " stroke=\"".toList ++ pitchColorHex (pitchOrFlat facet.pitchRatio) ++
    "\" stroke-width=\"2\"".toList ++ dash.toList

/-- A colour has hexadecimal digits and a hash only. -/
theorem notMem_pitchColorHex {d : Char} (hex : isHex d = false) (hash : d ≠ '#') (p : Double) :
  d ∉ pitchColorHex p
  := by
  intro hd
  obtain ⟨isIn, hm, accepts⟩ := (exists_of_forall₂ (pitchColorHex_spec p).1).2 d hd
  rcases List.mem_cons.mp hm with rfl | hm
  · exact hash (eq_of_beq accepts)
  · rw [List.eq_of_mem_replicate hm, hex] at accepts
    cases accepts

/-- The attributes of a stroke have no slash and no angle bracket. -/
theorem notMem_strokeText {d : Char} (hd : d = '/' ∨ d = '<') (facet : ProjectedFacet) :
  d ∉ strokeText facet
  := by
  have dash : d ∉ (if facet.occlusionState = some "partial" then " stroke-dasharray=\"8,4\""
      else "").toList := by
    split
    · rcases hd with rfl | rfl <;> decide
    · rcases hd with rfl | rfl <;> decide
  have color : d ∉ pitchColorHex (pitchOrFlat facet.pitchRatio) := by
    rcases hd with rfl | rfl
    · exact notMem_pitchColorHex rfl (by decide) _
    · exact notMem_pitchColorHex rfl (by decide) _
  unfold strokeText
  simp only [List.mem_append, not_or]
  refine ⟨⟨⟨?_, color⟩, ?_⟩, dash⟩
  · rcases hd with rfl | rfl <;> decide
  · rcases hd with rfl | rfl <;> decide

/-- The parts of a polygon, as they are matched one after the other. -/
theorem polygonElement_append (facet : ProjectedFacet) (s : List Char) :
  polygonElement facet ++ s = "<polygon points=\"".toList ++ (pointsText facet ++
    ("\" fill=\"".toList ++ (pitchColorHex (pitchOrFlat facet.pitchRatio) ++
      ("\" fill-opacity=\"".toList ++ (decimal 3 (fillOpacity facet) ++
        ("\"".toList ++ (strokeText facet ++ ("/>".toList ++ s))))))))
  := by
  have quote : "\" stroke=\"".toList = "\"".toList ++ " stroke=\"".toList := rfl
  unfold polygonElement strokeText pointsText
  rw [quote]
  simp only [List.append_assoc]

/-- A polygon is matched with its points, its colour and its fill opacity. -/
theorem matchHere_polygonElement {facet : ProjectedFacet} (h : facet.pointsPx ≠ [])
    (s : List Char) :
  matchHere polyRe (polygonElement facet ++ s) =
    some ([pointsText facet, pitchColorHex (pitchOrFlat facet.pitchRatio),
      decimal 3 (fillOpacity facet)], s)
  := by
  have points : ∀ c ∈ pointsText facet, (c != '"') = true := by
    intro c hc
    rw [bne_iff_ne]
    rintro rfl
    exact notMem_pointsText rfl (by decide) facet hc
  have nonempty := List.length_pos_of_ne_nil (pointsText_ne_nil h)
  have strokes : ∀ c ∈ strokeText facet, (c != '/') = true := by
    intro c hc
    rw [bne_iff_ne]
    rintro rfl
    exact notMem_strokeText (.inl rfl) facet hc
  obtain ⟨opacity, opacity'⟩ := isDecimal_of_mem_fillOpacity facet
  rw [polygonElement_append, polyRe, matchHere_literal, matchHere_many_literal rfl rfl points nonempty,
    matchHere_chars _ (pitchColorHex_spec _).1, matchHere_literal,
    matchHere_many_literal rfl rfl opacity opacity',
    matchHere_many_literal rfl rfl strokes (Nat.zero_le _)]
  rfl

variable {mean : List ℚ → Double} {facet : ProjectedFacet} {label : List Char}

/-- The attributes of a text after its position. -/
def fontText (facet : ProjectedFacet) : List Char :=
  " font-size=\"12px\" font-family=\"sans-serif\" fill=\"".toList ++
    pitchColorHex (pitchOrFlat facet.pitchRatio) ++
    "\" text-anchor=\"middle\" dominant-baseline=\"middle\"".toList

/-- The attributes of a font have no angle bracket. -/
theorem notMem_fontText {d : Char} (hd : d = '>' ∨ d = '<') (facet : ProjectedFacet) :
  d ∉ fontText facet
  := by
  have color : d ∉ pitchColorHex (pitchOrFlat facet.pitchRatio) := by
    rcases hd with rfl | rfl
    · exact notMem_pitchColorHex rfl (by decide) _
    · exact notMem_pitchColorHex rfl (by decide) _
  unfold fontText
  simp only [List.mem_append, not_or]
  refine ⟨⟨?_, color⟩, ?_⟩
  · rcases hd with rfl | rfl <;> decide
  · rcases hd with rfl | rfl <;> decide

/-- The parts of a text, as they are matched one after the other. -/
theorem textElement_append (mean : List ℚ → Double) (facet : ProjectedFacet)
    (label s : List Char) :
  textElement mean facet label ++ s = "<text x=\"".toList ++
    (printed (centroid mean facet.pointsPx).1 ++ ("\" y=\"".toList ++
      (printed (centroid mean facet.pointsPx).2 ++ ("\"".toList ++ (fontText facet ++
        (">".toList ++ (label ++ ("</text>".toList ++ s))))))))
  := by
  have font : "\" font-size=\"12px\" font-family=\"sans-serif\" fill=\"".toList =
      "\"".toList ++ " font-size=\"12px\" font-family=\"sans-serif\" fill=\"".toList := rfl
  have close : "\" text-anchor=\"middle\" dominant-baseline=\"middle\">".toList =
      "\" text-anchor=\"middle\" dominant-baseline=\"middle\"".toList ++ ">".toList := rfl
  unfold textElement fontText
  dsimp only
  rw [font, close]
  simp only [List.append_assoc]

/-- A text whose position is printed without a sign is matched with its position and its label. -/
theorem matchHere_textElement (hx : unsigned (centroid mean facet.pointsPx).1 = true)
    (hy : unsigned (centroid mean facet.pointsPx).2 = true) (hl : '<' ∉ label) (s : List Char) :
  matchHere textRe (textElement mean facet label ++ s) =
    some ([printed (centroid mean facet.pointsPx).1, printed (centroid mean facet.pointsPx).2,
      label], s)
  := by
  obtain ⟨x, x'⟩ := isDecimal_of_unsigned hx
  obtain ⟨y, y'⟩ := isDecimal_of_unsigned hy
  have font : ∀ c ∈ fontText facet, (c != '>') = true := by
    intro c hc
    rw [bne_iff_ne]
    rintro rfl
    exact notMem_fontText (.inl rfl) facet hc
  have inside : ∀ c ∈ label, (c != '<') = true := by
    intro c hc
    rw [bne_iff_ne]
    rintro rfl
    exact hl hc
  rw [textElement_append, textRe, matchHere_literal, matchHere_many_literal rfl rfl x x',
    matchHere_many_literal rfl rfl y y', matchHere_many_literal rfl rfl font (Nat.zero_le _),
    matchHere_many_literal rfl rfl inside (Nat.zero_le _)]
  rfl

/-- Another text is not matched. -/
theorem matchHere_textElement_of_not
    (h : (unsigned (centroid mean facet.pointsPx).1 && unsigned (centroid mean facet.pointsPx).2) =
      false) (s : List Char) :
  matchHere textRe (textElement mean facet label ++ s) = none
  := by
  rw [textElement_append, textRe, matchHere_literal]
  cases hx : unsigned (centroid mean facet.pointsPx).1 with
  | false =>
      rw [matchHere_many_of_not (head_of_not_unsigned hx _) Nat.one_pos]
      rfl
  | true =>
      obtain ⟨x, x'⟩ := isDecimal_of_unsigned hx
      rw [hx, Bool.true_and] at h
      rw [matchHere_many_literal rfl rfl x x',
        matchHere_many_of_not (head_of_not_unsigned h _) Nat.one_pos]
      rfl

/-! ### Matches in the layer -/

/-- A polygon is written with some characters. -/
theorem polygonElement_ne_nil (facet : ProjectedFacet) : polygonElement facet ≠ [] := by
  rw [← List.append_nil (polygonElement facet), polygonElement_append]
  exact List.cons_ne_nil _ _

/-- A text is written with some characters. -/
theorem textElement_ne_nil (mean : List ℚ → Double) (facet : ProjectedFacet) (label : List Char) :
  textElement mean facet label ≠ []
  := by
  rw [← List.append_nil (textElement mean facet label), textElement_append]
  exact List.cons_ne_nil _ _

/-- Lines with the line ends after them. -/
def ended (lines : List (List Char)) : List Char := lines.flatMap (· ++ ['\n'])

/-- A text is a tag, named from a character on, with what follows up to the next one. -/
def IsTag (e : Char) (text : List Char) : Prop := ∃ a, text = '<' :: e :: a ∧ '<' ∉ a

/-- The start of the layer is a tag. -/
theorem isTag_svgStart (widthPx heightPx : ℕ) : IsTag 's' (svgStart widthPx heightPx) := by
  have digits (n : ℕ) : '<' ∉ Nat.toDigits 10 n :=
    notMem_of_forall (isDigit_of_mem_toDigits n) rfl
  refine ⟨"vg xmlns=\"http://www.w3.org/2000/svg\" width=\"".toList ++ (Nat.toDigits 10 widthPx ++
    ("\" height=\"".toList ++ (Nat.toDigits 10 heightPx ++ ("\" viewBox=\"0 0 ".toList ++
      (Nat.toDigits 10 widthPx ++ (" ".toList ++ (Nat.toDigits 10 heightPx ++ "\">".toList))))))),
    ?_, ?_⟩
  · unfold svgStart
    dsimp only
    simp only [List.append_assoc]
    rfl
  · simp only [List.mem_append, digits, false_or]
    decide

/-- A polygon is a tag. -/
theorem isTag_polygonElement (facet : ProjectedFacet) : IsTag 'p' (polygonElement facet) := by
  refine ⟨"olygon points=\"".toList ++ (pointsText facet ++ ("\" fill=\"".toList ++
    (pitchColorHex (pitchOrFlat facet.pitchRatio) ++ ("\" fill-opacity=\"".toList ++
      (decimal 3 (fillOpacity facet) ++ ("\"".toList ++ (strokeText facet ++ "/>".toList))))))),
    ?_, ?_⟩
  · rw [← List.append_nil (polygonElement facet), polygonElement_append, List.append_nil]
    rfl
  · have points := notMem_pointsText (d := '<') rfl (by decide) facet
    have color := notMem_pitchColorHex (d := '<') rfl (by decide) (pitchOrFlat facet.pitchRatio)
    have opacity := notMem_of_forall (d := '<') (isDecimal_of_mem_fillOpacity facet).1 rfl
    have strokes := notMem_strokeText (.inr rfl) facet
    simp only [List.mem_append, points, color, opacity, strokes, false_or]
    decide

/-- A text consists of the tag with its attributes and its label, and the closing tag. -/
theorem isTag_textElement (mean : List ℚ → Double) (facet : ProjectedFacet) {label : List Char}
    (hl : '<' ∉ label) :
  ∃ a, textElement mean facet label = a ++ "</text>".toList ∧ IsTag 't' a
  := by
  refine ⟨"<text x=\"".toList ++ (printed (centroid mean facet.pointsPx).1 ++ ("\" y=\"".toList ++
      (printed (centroid mean facet.pointsPx).2 ++ ("\"".toList ++ (fontText facet ++
        (">".toList ++ label)))))), ?_, _, rfl, ?_⟩
  · rw [← List.append_nil (textElement mean facet label), textElement_append]
    simp only [List.append_assoc, List.append_nil]
  · have x := notMem_of_forall (d := '<')
      (isNumeral_of_mem_printed (centroid mean facet.pointsPx).1) rfl
    have y := notMem_of_forall (d := '<')
      (isNumeral_of_mem_printed (centroid mean facet.pointsPx).2) rfl
    have font := notMem_fontText (.inr rfl) facet
    change '<' ∉ "ext x=\"".toList ++ _
    simp only [List.mem_append, x, y, font, hl, or_false, false_or]
    decide

/-- A pattern begins with a tag, named from a character on. -/
def Begins (d : Char) (pattern : Pattern) : Prop :=
  ∃ name pieces rest, pattern = (literal name, false) :: pieces ∧ name.toList = '<' :: d :: rest

/-- The pattern of polygons begins as their tags do. -/
theorem begins_polyRe : Begins 'p' polyRe := ⟨_, _, _, rfl, rfl⟩

/-- The pattern of texts begins as their tags do. -/
theorem begins_textRe : Begins 't' textRe := ⟨_, _, _, rfl, rfl⟩

section

variable {d : Char} {pattern : Pattern} (begins : Begins d pattern)
include begins

/-- A tag that is not matched is passed over. -/
theorem finditer_unmatched {e : Char} (he : '<' ≠ e) {text : List Char} (tag : IsTag e text)
    {s : List Char} (no_match : matchHere pattern (text ++ s) = none) :
  finditer pattern 0 (text ++ s) = finditer pattern 0 s
  := by
  obtain ⟨name, pieces, rest, rfl, hname⟩ := begins
  obtain ⟨a, rfl, ha⟩ := tag
  apply finditer_tag hname _ no_match
  rw [List.mem_cons, not_or]
  exact ⟨he, ha⟩

/-- A tag of another name is passed over. -/
theorem finditer_other {e : Char} (hd : d ≠ e) (he : '<' ≠ e) {text : List Char}
    (tag : IsTag e text) (s : List Char) :
  finditer pattern 0 (text ++ s) = finditer pattern 0 s
  := by
  apply finditer_unmatched begins he tag
  obtain ⟨name, pieces, rest, rfl, hname⟩ := begins
  obtain ⟨a, rfl, -⟩ := tag
  apply matchHere_literal_of_not
  rw [hname]
  simp [List.cons_prefix_cons, hd]

/-- The end of a line is passed over. -/
theorem finditer_lineEnd (s : List Char) :
  finditer pattern 0 ('\n' :: s) = finditer pattern 0 s
  := by
  obtain ⟨name, pieces, rest, rfl, hname⟩ := begins
  exact finditer_append hname (by decide : '<' ∉ ['\n']) s

/-- The lines before those of the facets are passed over. -/
theorem finditer_header (query : d ≠ '?') (svg : d ≠ 's') (widthPx heightPx : ℕ) (s : List Char) :
  finditer pattern 0 (ended (header widthPx heightPx) ++ s) = finditer pattern 0 s
  := by
  have xml : IsTag '?' "<?xml version=\"1.0\" encoding=\"UTF-8\"?>".toList :=
    ⟨"xml version=\"1.0\" encoding=\"UTF-8\"?>".toList, rfl, by decide⟩
  simp only [ended, header, List.flatMap_cons, List.flatMap_nil, List.append_assoc,
    List.cons_append, List.nil_append]
  rw [finditer_other begins query (by decide) xml, finditer_lineEnd begins,
    finditer_other begins svg (by decide) (isTag_svgStart _ _), finditer_lineEnd begins]

/-- Nothing is matched at the end of the layer. -/
theorem finditer_end (close : d ≠ '/') : finditer pattern 0 "</svg>".toList = [] := by
  have svg : IsTag '/' "</svg>".toList := ⟨"svg>".toList, rfl, by decide⟩
  rw [← List.append_nil "</svg>".toList, finditer_other begins close (by decide) svg]
  obtain ⟨name, pieces, rest, rfl, hname⟩ := begins
  exact finditer_nil hname

/-- A text is passed over by a pattern that is not one of texts. -/
theorem finditer_textElement (text : d ≠ 't') (close : d ≠ '/') (mean : List ℚ → Double)
    (facet : ProjectedFacet) {label : List Char} (hl : '<' ∉ label) (s : List Char) :
  finditer pattern 0 (textElement mean facet label ++ s) = finditer pattern 0 s
  := by
  have closing : IsTag '/' "</text>".toList := ⟨"text>".toList, rfl, by decide⟩
  obtain ⟨a, ha, tag⟩ := isTag_textElement mean facet hl
  rw [ha, List.append_assoc, finditer_other begins text (by decide) tag,
    finditer_other begins close (by decide) closing]

end

/-- The position of a label is printed without a sign. -/
def unsignedAt (mean : List ℚ → Double) (facet : ProjectedFacet) : Bool :=
  unsigned (centroid mean facet.pointsPx).1 && unsigned (centroid mean facet.pointsPx).2

/-- The lines of facets with their labels. -/
def facetLines (mean : List ℚ → Double) (label : ProjectedFacet → List Char)
    (drawn : List ProjectedFacet) : List (List Char) :=
  drawn.flatMap fun facet => [polygonElement facet, textElement mean facet (label facet)]

/-- The lines of the first facet come first. -/
theorem ended_facetLines_cons (mean : List ℚ → Double) (label : ProjectedFacet → List Char)
    (facet : ProjectedFacet) (drawn : List ProjectedFacet) (s : List Char) :
  ended (facetLines mean label (facet :: drawn)) ++ s =
    polygonElement facet ++ ('\n' :: (textElement mean facet (label facet) ++
      ('\n' :: (ended (facetLines mean label drawn) ++ s))))
  := by
  simp only [ended, facetLines, List.flatMap_cons, List.append_assoc, List.cons_append,
    List.nil_append]

section

variable {label : ProjectedFacet → List Char} (hl : ∀ facet, '<' ∉ label facet)
include hl

/-- The polygons of a layer are matched in order. -/
theorem finditer_polyRe {drawn : List ProjectedFacet} (h : ∀ facet ∈ drawn, facet.pointsPx ≠ [])
    (s : List Char) :
  finditer polyRe 0 (ended (facetLines mean label drawn) ++ s) =
    (drawn.map fun facet => [pointsText facet, pitchColorHex (pitchOrFlat facet.pitchRatio),
      decimal 3 (fillOpacity facet)]) ++ finditer polyRe 0 s
  := by
  induction drawn with
  | nil => rfl
  | cons facet drawn ih =>
      rw [ended_facetLines_cons, finditer_of_match (polygonElement_ne_nil facet)
        (matchHere_polygonElement (h facet (.head _)) _), finditer_lineEnd begins_polyRe,
        finditer_textElement begins_polyRe (by decide) (by decide) mean facet (hl facet),
        finditer_lineEnd begins_polyRe, ih fun facet hf => h facet (.tail _ hf)]
      rfl

/-- Of the texts of a layer those are matched whose position is printed without a sign. -/
theorem finditer_textRe (drawn : List ProjectedFacet) (s : List Char) :
  finditer textRe 0 (ended (facetLines mean label drawn) ++ s) =
    ((drawn.filter (unsignedAt mean)).map fun facet =>
      [printed (centroid mean facet.pointsPx).1, printed (centroid mean facet.pointsPx).2,
        label facet]) ++ finditer textRe 0 s
  := by
  induction drawn with
  | nil => rfl
  | cons facet drawn ih =>
      rw [ended_facetLines_cons, finditer_other begins_textRe (by decide) (by decide)
        (isTag_polygonElement facet), finditer_lineEnd begins_textRe]
      cases on : unsignedAt mean facet with
      | true =>
          obtain ⟨hx, hy⟩ := (Bool.and_eq_true _ _).mp on
          rw [finditer_of_match (textElement_ne_nil mean facet _)
            (matchHere_textElement hx hy (hl facet) _), finditer_lineEnd begins_textRe, ih,
            List.filter_cons_of_pos on]
          rfl
      | false =>
          have closing : IsTag '/' "</text>".toList := ⟨"text>".toList, rfl, by decide⟩
          obtain ⟨a, ha, tag⟩ := isTag_textElement mean facet (hl facet)
          have no_match (s : List Char) : matchHere textRe (a ++ ("</text>".toList ++ s)) = none := by
            rw [← List.append_assoc, ← ha]
            exact matchHere_textElement_of_not on s
          rw [ha, List.append_assoc, finditer_unmatched begins_textRe (by decide) tag (no_match _),
            finditer_other begins_textRe (by decide) (by decide) closing,
            finditer_lineEnd begins_textRe, ih, List.filter_cons_of_neg (Bool.eq_false_iff.mp on)]

end

/-! ### Reading -/

/-- A number rounded to a tenth. -/
def tenth (x : ℚ) : ℚ := Rounding.halfEven.digits 1 x

/-- A decimal is read as the rounded number. -/
theorem float_decimal {n : ℕ} (hn : 0 < n) (x : ℚ) :
  float (decimal n x) = .ok (Rounding.halfEven.digits n x)
  := by
  rw [float, ofDecimal?_decimal hn]
  rfl

/-- The points of a polygon are read from their text. -/
theorem splitSpace_intercalate {texts : List (List Char)} (nonempty : ∀ text ∈ texts, text ≠ [])
    (solid : ∀ text ∈ texts, ∀ c ∈ text, c.isWhitespace = false) :
  splitSpace ([' '].intercalate texts) = texts
  := by
  induction texts with
  | nil => rfl
  | cons text texts ih =>
      have first : [text].filter (· ≠ []) = [text] :=
        List.filter_eq_self.mpr fun _ h => by
          rw [List.mem_singleton.mp h]
          exact decide_eq_true (nonempty text (.head _))
      cases texts with
      | nil =>
          rw [splitSpace, List.intercalate_singleton,
            List.splitOnP_eq_singleton (solid text (.head _)), first]
      | cons text' texts =>
          have rest := ih (fun text h => nonempty text (.tail _ h)) fun text h => solid text (.tail _ h)
          rw [splitSpace] at rest ⊢
          rw [List.intercalate_cons_cons, List.append_assoc, List.singleton_append,
            List.splitOnP_append_cons_of_forall_mem (solid text (.head _)) _ rfl,
            ← List.singleton_append, List.filter_append, first, rest]
          rfl

/-- The points of a polygon are read as they were rounded to tenths. -/
theorem readPoints (facet : ProjectedFacet) :
  (splitSpace (pointsText facet)).mapM (fun pair => (pair.splitOn ',').mapM float) =
    .ok (facet.pointsPx.map fun p => [tenth p.1, tenth p.2])
  := by
  have no_comma {x : ℚ} : ',' ∉ decimal 1 x := by
    intro h
    rcases mem_decimal h with digit | comma | ⟨-, sign⟩
    · cases digit
    · cases comma
    · cases sign
  rw [pointsText, splitSpace_intercalate]
  · rw [List.mapM_map]
    apply mapM_ok
    intro p _
    rw [Function.comp_apply, pointText, List.splitOn_append_cons_self_of_not_mem no_comma,
      List.splitOn_eq_singleton no_comma, List.mapM_cons, List.mapM_cons,
      float_decimal Nat.one_pos, float_decimal Nat.one_pos]
    rfl
  · intro text h
    obtain ⟨p, -, rfl⟩ := List.mem_map.mp h
    exact pointText_ne_nil p
  · intro text h c hc
    obtain ⟨p, -, rfl⟩ := List.mem_map.mp h
    have numeral := isNumeral_of_mem_pointText p c hc
    by_contra space
    rw [Bool.not_eq_false, Char.isWhitespace] at space
    simp only [Bool.or_eq_true, decide_eq_true_eq] at space
    rcases space with ((rfl | rfl) | rfl) | rfl <;> cases numeral

/-- The label of a facet and its position, rounded, when both can be printed. -/
def tag (mean : List ℚ → Double) (facet : ProjectedFacet) : Option ((ℚ × ℚ) × List Char) :=
  match centroid mean facet.pointsPx, labelText facet with
  | (.finite x, .finite y), .ok label => some ((tenth x, tenth y), label)
  | _, _ => none

/-- What is read where there is no text. -/
def noText : (ℚ × ℚ) × List Char := ((0, 0), [])

/-- A polygon of the composite shows a facet: its points, rounded, its colour and opacity, and its
label at its position. -/
structure Shows (mean : List ℚ → Double) (facet : ProjectedFacet) (shown : Primitive) : Prop where
  points : shown.points = facet.pointsPx.map fun p => [tenth p.1, tenth p.2]
  color : shown.color = pitchColor (pitchOrFlat facet.pitchRatio)
  fillOpacity : shown.fillOpacity = PhotoOverlay.fillOpacity facet
  label : labelText facet = .ok shown.label
  position : ∃ x y, centroid mean facet.pointsPx = (.finite x, .finite y) ∧
    shown.centroid = (tenth x, tenth y)

/-- The polygon that is read of a facet, with the label that it is paired with. -/
def shownAs (facet : ProjectedFacet) (text : (ℚ × ℚ) × List Char) : Primitive where
  points := facet.pointsPx.map fun p => [tenth p.1, tenth p.2]
  color := pitchColor (pitchOrFlat facet.pitchRatio)
  fillOpacity := fillOpacity facet
  centroid := text.1
  label := text.2

/-- A facet is shown when it is paired with its own label. -/
theorem shows_iff (mean : List ℚ → Double) (facet : ProjectedFacet) (text : (ℚ × ℚ) × List Char) :
  Shows mean facet (shownAs facet text) ↔ tag mean facet = some text
  := by
  constructor
  · rintro ⟨-, -, -, label, x, y, hxy, position⟩
    rw [tag, hxy, label]
    exact congrArg some (Prod.ext position.symm rfl)
  · intro h
    rw [tag] at h
    split at h
    · next x y label hxy hl =>
      cases h
      exact ⟨rfl, rfl, rfl, hl, x, y, hxy, rfl⟩
    · cases h

/-- The fill opacity has no more than three decimal digits. -/
theorem fillOpacity_digits (facet : ProjectedFacet) :
  Rounding.halfEven.digits 3 (fillOpacity facet) = fillOpacity facet
  := by
  rw [fillOpacity]
  split
  · decide +kernel
  · decide +kernel

/-- A polygon is read as that of its facet, with the text at its place. -/
theorem readPolygon_eq (texts : List ((ℚ × ℚ) × List Char)) (i : ℕ) (facet : ProjectedFacet) :
  readPolygon texts i [pointsText facet, pitchColorHex (pitchOrFlat facet.pitchRatio),
      decimal 3 (fillOpacity facet)] =
    .ok (shownAs facet ((texts.map fun text => (text.1, unescape text.2)).getD i noText))
  := by
  have points := readPoints facet
  have opacity := float_decimal (by decide : 0 < 3) (fillOpacity facet)
  rw [fillOpacity_digits] at opacity
  have color := (pitchColorHex_spec (pitchOrFlat facet.pitchRatio)).2
  have text : (texts.map fun text => (text.1, unescape text.2)).getD i noText =
      ((texts.map (·.1)).getD i (0, 0), (texts.map fun text => unescape text.2).getD i []) := by
    by_cases inside : i < texts.length
    · rw [List.getD_eq_getElem _ _ (by rwa [List.length_map]),
        List.getD_eq_getElem _ _ (by rwa [List.length_map]),
        List.getD_eq_getElem _ _ (by rwa [List.length_map])]
      simp only [List.getElem_map]
    · rw [not_lt] at inside
      rw [List.getD_eq_default _ _ (by rwa [List.length_map]),
        List.getD_eq_default _ _ (by rwa [List.length_map]),
        List.getD_eq_default _ _ (by rwa [List.length_map])]
      rfl
  rw [text, shownAs, ← color]
  change ((splitSpace (pointsText facet)).mapM _ >>= fun coords => _) = _
  rw [points]
  change (float (decimal 3 (fillOpacity facet)) >>= fun opacity => _) = _
  rw [opacity]
  rfl

/-- The label of a facet, where it has one. -/
def labelOf (facet : ProjectedFacet) : List Char :=
  match labelText facet with
  | .ok label => label
  | .error _ => []

/-- The number of a float, where it is one. -/
def numberOf : Double → ℚ
  | .finite x => x
  | _ => 0

/-- What is read of the text of a facet. -/
def textOf (mean : List ℚ → Double) (facet : ProjectedFacet) : (ℚ × ℚ) × List Char :=
  let (cx, cy) := centroid mean facet.pointsPx
  ((tenth (numberOf cx), tenth (numberOf cy)), escape (labelOf facet))

/-- A float that is printed without a sign is finite. -/
theorem finite_of_unsigned {x : Double} (h : unsigned x = true) : ∃ q, x = .finite q := by
  cases x with
  | finite q => exact ⟨q, rfl⟩
  | infinity negative => cases h
  | nan => cases h

/-- A centroid that is printed without a sign is finite. -/
theorem centroid_of_unsignedAt {facet : ProjectedFacet} (on : unsignedAt mean facet = true) :
  ∃ x y, centroid mean facet.pointsPx = (.finite x, .finite y)
  := by
  obtain ⟨hx, hy⟩ := (Bool.and_eq_true _ _).mp on
  obtain ⟨x, hx⟩ := finite_of_unsigned hx
  obtain ⟨y, hy⟩ := finite_of_unsigned hy
  exact ⟨x, y, Prod.ext hx hy⟩

/-- The text of a facet is read as its position and its label, when the position is unsigned. -/
theorem readText_eq {facet : ProjectedFacet} (on : unsignedAt mean facet = true) :
  readText [printed (centroid mean facet.pointsPx).1, printed (centroid mean facet.pointsPx).2,
    escape (labelOf facet)] = .ok (textOf mean facet)
  := by
  obtain ⟨x, y, hc⟩ := centroid_of_unsignedAt on
  rw [textOf, hc]
  change (float (decimal 1 x) >>= fun x => float (decimal 1 y) >>= fun y => _) = _
  rw [float_decimal Nat.one_pos, float_decimal Nat.one_pos]
  rfl

/-- A facet whose label is matched has a tag. -/
theorem tag_of_unsignedAt {facet : ProjectedFacet} (on : unsignedAt mean facet = true)
    (hl : labelText facet = .ok (labelOf facet)) :
  tag mean facet = some ((textOf mean facet).1, unescape (textOf mean facet).2)
  := by
  obtain ⟨x, y, hc⟩ := centroid_of_unsignedAt on
  rw [tag, textOf, hc, hl]
  dsimp only [numberOf]
  rw [unescape_escape]

/-! ### The layer and its primitives -/

variable (mean)

/-- The layer of facets that have labels. -/
def layer (drawn : List ProjectedFacet) (widthPx heightPx : ℕ) : List Char :=
  ended (header widthPx heightPx) ++
    (ended (facetLines mean (fun facet => escape (labelOf facet)) drawn) ++ "</svg>".toList)

/-- Lines with another one after them. -/
theorem intercalate_concat (lines : List (List Char)) (last : List Char) :
  ['\n'].intercalate (lines ++ [last]) = ended lines ++ last
  := by
  induction lines with
  | nil =>
      rw [List.nil_append, List.intercalate_singleton]
      rfl
  | cons line lines ih =>
      rw [List.cons_append, List.intercalate_cons_of_ne_nil (List.append_ne_nil_of_right_ne_nil _
        (List.cons_ne_nil _ _)), ih, ended, ended, List.flatMap_cons]
      simp only [List.append_assoc]

variable {facets : List ProjectedFacet}

/-- The layer is built when the drawn facets have labels. -/
theorem buildOverlaySvg_eq
    (labels : ∀ facet ∈ facets.filter drawable, labelText facet = .ok (labelOf facet))
    (widthPx heightPx : ℕ) :
  buildOverlaySvg mean facets widthPx heightPx =
    .ok (layer mean (facets.filter drawable) widthPx heightPx)
  := by
  have parts : ((facets.filter drawable).mapM fun facet => do
      let label := escape (← labelText facet)
      return [polygonElement facet, textElement mean facet label]) =
      .ok ((facets.filter drawable).map fun facet =>
        [polygonElement facet, textElement mean facet (escape (labelOf facet))]) := by
    apply mapM_ok
    intro facet hf
    rw [labels facet hf]
    rfl
  unfold buildOverlaySvg
  rw [parts]
  change Except.ok (['\n'].intercalate (header widthPx heightPx ++ _ ++ [_])) = _
  rw [intercalate_concat, ended, List.flatMap_append, List.append_assoc]
  rfl

/-- The texts that are read of a layer. -/
theorem texts_layer {drawn : List ProjectedFacet} (widthPx heightPx : ℕ) :
  (finditer textRe 0 (layer mean drawn widthPx heightPx)).mapM readText =
    .ok ((drawn.filter (unsignedAt mean)).map (textOf mean))
  := by
  rw [layer, finditer_header begins_textRe (by decide) (by decide),
    finditer_textRe fun facet => lt_notMem_escape (labelOf facet),
    finditer_end begins_textRe (by decide), List.append_nil, List.mapM_map]
  apply mapM_ok
  intro facet hf
  exact readText_eq (List.mem_filter.mp hf).2

/-- The primitives that are read of a layer. -/
theorem parseSvgPolygons_layer {drawn : List ProjectedFacet}
    (points : ∀ facet ∈ drawn, facet.pointsPx ≠ [])
    (labels : ∀ facet ∈ drawn, labelText facet = .ok (labelOf facet)) (widthPx heightPx : ℕ) :
  parseSvgPolygons (layer mean drawn widthPx heightPx) =
    .ok (drawn.zipIdx.map fun (facet, i) =>
      shownAs facet ((Pairing.found (unsignedAt mean) (tag mean) drawn).getD i noText))
  := by
  have found : ((drawn.filter (unsignedAt mean)).map (textOf mean)).map
      (fun text => (text.1, unescape text.2)) =
        Pairing.found (unsignedAt mean) (tag mean) drawn := by
    rw [List.map_map, Pairing.found, ← List.filterMap_eq_map]
    apply List.filterMap_congr
    intro facet hf
    obtain ⟨hm, on⟩ := List.mem_filter.mp hf
    rw [tag_of_unsignedAt on (labels facet hm)]
    rfl
  apply bind_eq_ok.mpr
  refine ⟨_, texts_layer mean widthPx heightPx, ?_⟩
  rw [layer, finditer_header begins_polyRe (by decide) (by decide),
    finditer_polyRe (fun facet => lt_notMem_escape (labelOf facet)) points,
    finditer_end begins_polyRe (by decide), List.append_nil, List.zipIdx_map, List.mapM_map]
  apply mapM_ok
  rintro ⟨facet, i⟩ -
  rw [Function.comp_apply, ← found]
  exact readPolygon_eq _ i facet

/-- The facets that are drawn are shown, in order, when they are aligned with the labels that are
matched. -/
theorem shows_layer_iff {drawn : List ProjectedFacet}
    (labels : ∀ facet ∈ drawn, labelText facet = .ok (labelOf facet)) :
  List.Forall₂ (Shows mean) drawn (drawn.zipIdx.map fun (facet, i) =>
      shownAs facet ((Pairing.found (unsignedAt mean) (tag mean) drawn).getD i noText)) ↔
    Pairing.Aligned (unsignedAt mean) (tag mean) noText drawn
  := by
  have tagged : Pairing.Tagged (unsignedAt mean) (tag mean) drawn :=
    fun facet hf on => ⟨_, tag_of_unsignedAt on (labels facet hf)⟩
  rw [← Pairing.matched_iff_aligned tagged, List.forall₂_iff_get]
  simp only [List.length_map, List.length_zipIdx, true_and, List.get_eq_getElem, List.getElem_map,
    List.getElem_zipIdx, Nat.zero_add, shows_iff]
  exact ⟨fun h i hi => h i hi hi, fun h i hi _ => h i hi⟩

/-- The area of a facet is finite, if it has one. -/
def HasLabel (facet : ProjectedFacet) : Prop := ∀ area, facet.areaSqFt = some area → area.isFinite

/-- A facet has a label when its area, if it has one, is finite. -/
theorem hasLabel_iff (facet : ProjectedFacet) :
  HasLabel facet ↔ labelText facet = .ok (labelOf facet)
  := by
  rw [HasLabel, labelOf, labelText]
  cases facet.areaSqFt with
  | none => exact iff_of_true nofun rfl
  | some area =>
      cases area with
      | finite x =>
          refine iff_of_true ?_ rfl
          rintro _ ⟨⟩
          rfl
      | infinity negative =>
          refine iff_of_false (fun h => ?_) nofun
          cases h _ rfl
      | nan =>
          refine iff_of_false (fun h => ?_) nofun
          cases h _ rfl

/-- What the layer shows is what the composite draws, and what the response lists as occluded is
what is not drawn. -/
structure DrawsWhatItShows (facets : List ProjectedFacet) (widthPx heightPx : ℕ) : Prop where
  composite : ∃ svg primitives, buildOverlaySvg mean facets widthPx heightPx = .ok svg ∧
    parseSvgPolygons svg = .ok primitives ∧
    List.Forall₂ (Shows mean) (facets.filter drawable) primitives
  listed : ∀ facet ∈ facets, drawable facet = true ↔ facet.facetId ∉ occludedIds facets

/-- Facets that can be shown: those that are drawn have labels and are aligned with those whose
label has its position printed without a sign, and none has the id of one that is not drawn. -/
structure Showable (facets : List ProjectedFacet) : Prop where
  labels : ∀ facet ∈ facets, drawable facet = true → HasLabel facet
  aligned : Pairing.Aligned (unsignedAt mean) (tag mean) noText (facets.filter drawable)
  distinct : ∀ facet ∈ facets, ∀ other ∈ facets, drawable facet = true → drawable other = false →
    facet.facetId ≠ other.facetId

/-- The ids that are listed as occluded are those of facets that are not drawn. -/
theorem mem_occludedIds {facets : List ProjectedFacet}
    (points : ∀ facet ∈ facets, 3 ≤ facet.pointsPx.length) (id : Option String) :
  id ∈ occludedIds facets ↔ ∃ other ∈ facets, drawable other = false ∧ id = other.facetId
  := by
  rw [occludedIds, List.mem_filterMap]
  apply exists_congr
  intro other
  apply and_congr_right
  intro ho
  have omitted : drawable other = false ↔
      other.occlusionState = some "occluded" ∨ other.inFront = some false := by
    have points := points other ho
    rw [drawable]
    simp only [points, decide_true, Bool.and_true, Bool.and_eq_false_iff, bne_eq_false_iff_eq]
    exact or_comm
  rw [omitted]
  split
  · next h =>
    rw [Option.some.injEq]
    exact ⟨fun same => ⟨h, same.symm⟩, fun same => same.2.symm⟩
  · next h => exact iff_of_false nofun fun same => h same.1

/-- The composite draws what the layer shows exactly when the facets can be shown: those that are
drawn have labels, their labels are paired with them though only those of an unsigned position are
found, and no facet that is drawn has the id of one that is occluded. -/
theorem draws_what_it_shows_iff (mean : List ℚ → Double) (facets : List ProjectedFacet)
    (points : ∀ facet ∈ facets, 3 ≤ facet.pointsPx.length) (widthPx heightPx : ℕ) :
  DrawsWhatItShows mean facets widthPx heightPx ↔ Showable mean facets
  := by
  have some_points : ∀ facet ∈ facets.filter drawable, facet.pointsPx ≠ [] := by
    rintro facet hf none
    have := points facet (List.mem_filter.mp hf).1
    rw [none] at this
    cases this
  have run (labels : ∀ facet ∈ facets.filter drawable, labelText facet = .ok (labelOf facet)) :
      (∃ svg primitives, buildOverlaySvg mean facets widthPx heightPx = .ok svg ∧
        parseSvgPolygons svg = .ok primitives ∧
        List.Forall₂ (Shows mean) (facets.filter drawable) primitives) ↔
      Pairing.Aligned (unsignedAt mean) (tag mean) noText (facets.filter drawable) := by
    rw [← shows_layer_iff mean labels, buildOverlaySvg_eq mean labels]
    constructor
    · rintro ⟨_, primitives, ⟨⟩, parsed, shows⟩
      rw [parseSvgPolygons_layer mean some_points labels] at parsed
      cases parsed
      exact shows
    · intro shows
      exact ⟨_, _, rfl, parseSvgPolygons_layer mean some_points labels _ _, shows⟩
  have labelled : (∀ facet ∈ facets, drawable facet = true → HasLabel facet) ↔
      ∀ facet ∈ facets.filter drawable, labelText facet = .ok (labelOf facet) := by
    simp only [List.mem_filter, and_imp, hasLabel_iff]
  constructor
  · rintro ⟨composite, listed⟩
    have labels : ∀ facet ∈ facets.filter drawable, labelText facet = .ok (labelOf facet) := by
      obtain ⟨svg, primitives, -, -, shows⟩ := composite
      intro facet hf
      obtain ⟨shown, -, h⟩ := (exists_of_forall₂ shows).1 facet hf
      rw [labelOf, h.label]
    refine ⟨labelled.mpr labels, (run labels).mp composite, ?_⟩
    intro facet hf other ho drawn omitted same
    exact (listed facet hf).mp drawn ((mem_occludedIds points _).mpr ⟨other, ho, omitted, same⟩)
  · rintro ⟨labels, aligned, distinct⟩
    refine ⟨(run (labelled.mp labels)).mpr aligned, ?_⟩
    intro facet hf
    rw [mem_occludedIds points]
    constructor
    · rintro drawn ⟨other, ho, omitted, same⟩
      exact distinct facet hf other ho drawn omitted same
    · intro h
      by_contra omitted
      exact h ⟨facet, hf, Bool.eq_false_iff.mpr omitted, rfl⟩

/-- The mean of floats without rounding. -/
def exactMean (xs : List ℚ) : Double := .finite (xs.sum / xs.length)

/-- A facet up to a position from the left of the photo, with an area. -/
def facetUpTo (id : String) (x area : ℚ) : ProjectedFacet where
  facetId := some id
  pointsPx := [(x - 30, 0), (x, 0), (x, 30)]
  inFront := some true
  occlusionState := some "visible"
  pitchRatio := some (.finite 4)
  areaSqFt := some (.finite area)

/-- Two facets that are drawn, and one that is behind them. -/
def facetsInView : List ProjectedFacet :=
  [facetUpTo "F1" 90 100, { facetUpTo "F2" 150 80 with occlusionState := some "occluded" },
    facetUpTo "F3" 200 250]

/-- Facets whose labels are on the photo are drawn as they are shown. -/
theorem draws_facets_in_view : DrawsWhatItShows exactMean facetsInView 640 480 := by
  apply (draws_what_it_shows_iff exactMean facetsInView (by decide) 640 480).mpr
  constructor
  · intro facet hf drawn
    rw [hasLabel_iff]
    revert facet
    decide +kernel
  · have inView : facetsInView.filter drawable =
        [facetUpTo "F1" 90 100, facetUpTo "F3" 200 250] := by
      rfl
    rw [inView]
    exact .inl ⟨by decide +kernel, .inl ⟨by decide +kernel, trivial⟩⟩
  · decide +kernel

/-- A facet whose label is left of the photo is drawn with the label of the next one. -/
theorem label_left_of_photo_moves :
  ¬DrawsWhatItShows exactMean [facetUpTo "F1" 5 100, facetUpTo "F2" 90 250] 640 480
  := by
  rintro ⟨⟨svg, primitives, built, parsed, shows⟩, -⟩
  have run : (buildOverlaySvg exactMean [facetUpTo "F1" 5 100, facetUpTo "F2" 90 250] 640 480 >>=
      parseSvgPolygons).map (·.map (·.label)) = .ok ["250 sq ft".toList, []] := by decide +kernel
  rw [built] at run
  change (parseSvgPolygons svg).map _ = _ at run
  rw [parsed] at run
  have labels : primitives.map (·.label) = ["250 sq ft".toList, []] := Except.ok.inj run
  have own : labelText (facetUpTo "F1" 5 100) = .ok "100 sq ft".toList := by decide +kernel
  cases primitives with
  | nil => cases labels
  | cons shown rest =>
      have moved : shown.label = "250 sq ft".toList := (List.cons.inj labels).1
      have first : Shows exactMean (facetUpTo "F1" 5 100) shown := (List.forall₂_cons.mp shows).1
      have label := first.label
      rw [moved, own] at label
      exact absurd (Except.ok.inj label) (by decide)

end PhotoOverlay

end Sidecar
