import RoofTrace.Numbers.Double
import RoofTrace.Sidecar.Pipeline
import RoofTrace.Text.Numerals
import RoofTrace.Text.Regex
import RoofTrace.Text.Replace

/-!
# Photo overlay

`render/photo_overlay.py`: the facets that are seen on a photo, as an SVG layer, coloured by
their pitch and labelled with their area; and the polygons and labels that the PNG composite reads
from the layer. A text is the list of its characters.
-/

namespace Sidecar

namespace PhotoOverlay

/-! ### Pitch colours -/

/-- A colour, with the channels red, green and blue. -/
structure Rgb where
  r : ℤ
  g : ℤ
  b : ℤ
deriving DecidableEq

/-- `_PITCH_LIGHTEST` -/
def pitchLightest : Rgb := ⟨0x9C, 0xA3, 0xAF⟩

/-- `_PITCH_DARKEST` -/
def pitchDarkest : Rgb := ⟨0x37, 0x41, 0x51⟩

/-- `_MAX_RATIO` -/
def maxRatio : ℚ := 10

/-- `_lerp`, with the `round` of Python. -/
def lerp (a b : ℤ) (t : ℚ) : ℤ := Rounding.halfEven.toInt (a + (b - a) * t)

def pitchColor (pitchRatio : Double) : Rgb :=
  let ratio := if pitchRatio.isNaN then .finite 0 else pitchRatio
  let t := ratio.clamp 0 maxRatio / maxRatio
  { r := lerp pitchLightest.r pitchDarkest.r t
    g := lerp pitchLightest.g pitchDarkest.g t
    b := lerp pitchLightest.b pitchDarkest.b t }

/-- `facet.get("pitch_ratio") or 0.0` -/
def pitchOrFlat (pitchRatio : Option Double) : Double := pitchRatio.getD (.finite 0)

/-! ### Facets -/

/-- A facet that has been projected to pixels and classified for occlusion; what may be absent from
the dict is optional. -/
structure ProjectedFacet where
  facetId : Option String
  pointsPx : List (ℚ × ℚ)
  inFront : Option Bool
  occlusionState : Option String
  pitchRatio : Option Double
  areaSqFt : Option Double

/-- `_drawable` -/
def drawable (facet : ProjectedFacet) : Bool :=
  facet.inFront != some false && facet.occlusionState != some "occluded" &&
    3 ≤ facet.pointsPx.length

/-- The ids that `_render_live` collects for its response. -/
def occludedIds (projected : List ProjectedFacet) : List (Option String) :=
  projected.filterMap fun facet =>
    if facet.occlusionState = some "occluded" ∨ facet.inFront = some false then some facet.facetId
    else none

/-- `_centroid`, with the mean of floats. -/
def centroid (mean : List ℚ → Double) (points : List (ℚ × ℚ)) : Double × Double :=
  (mean (points.map (·.1)), mean (points.map (·.2)))

/-- `_label_text` -/
def labelText (facet : ProjectedFacet) : Except Exception (List Char) :=
  match facet.areaSqFt with
  | none => return (facet.facetId.getD "").toList
  | some (.finite area) => return s!"{Rounding.halfEven.toInt area} sq ft".toList
  | some (.infinity _) => throw (.other "OverflowError")
  | some .nan => throw (.valueError "cannot convert float NaN to integer")

/-- The fill opacity, lowered for a facet that is partially occluded. -/
def fillOpacity (facet : ProjectedFacet) : ℚ :=
  1 / 4 * (if facet.occlusionState = some "partial" then 1 / 2 else 1)

/-! ### The layer -/

/-- `f"{n:02x}"` of a channel. -/
def channelHex (n : ℤ) : List Char := Numerals.pad 2 (Nat.toDigits 16 n.toNat)

/-- `pitch_color_hex` -/
def pitchColorHex (pitchRatio : Double) : List Char :=
  let color := pitchColor pitchRatio
  '#' :: channelHex color.r ++ channelHex color.g ++ channelHex color.b

/-- `f"{x:.1f}"` of a float. -/
def printed : Double → List Char
  | .finite x => Numerals.decimal 1 x
  | .infinity negative => (if negative then "-inf" else "inf").toList
  | .nan => "nan".toList

/-- A point of a polygon. -/
def pointText (point : ℚ × ℚ) : List Char :=
  Numerals.decimal 1 point.1 ++ ',' :: Numerals.decimal 1 point.2

def polygonElement (facet : ProjectedFacet) : List Char :=
  let color := pitchColorHex (pitchOrFlat facet.pitchRatio)
  let dash := if facet.occlusionState = some "partial" then " stroke-dasharray=\"8,4\"" else ""
  "<polygon points=\"".toList ++ [' '].intercalate (facet.pointsPx.map pointText) ++
    "\" fill=\"".toList ++ color ++ "\" fill-opacity=\"".toList ++
    Numerals.decimal 3 (fillOpacity facet) ++ "\" stroke=\"".toList ++ color ++
    "\" stroke-width=\"2\"".toList ++ dash.toList ++ "/>".toList

/-- `sax.escape` -/
def escape (data : List Char) : List Char :=
  let data := Replace.replace ['&'] "&amp;".toList 0 data
  let data := Replace.replace ['>'] "&gt;".toList 0 data
  Replace.replace ['<'] "&lt;".toList 0 data

/-- `sax.unescape` -/
def unescape (data : List Char) : List Char :=
  let data := Replace.replace "&lt;".toList ['<'] 0 data
  let data := Replace.replace "&gt;".toList ['>'] 0 data
  Replace.replace "&amp;".toList ['&'] 0 data

def textElement (mean : List ℚ → Double) (facet : ProjectedFacet) (label : List Char) : List Char :=
  let (cx, cy) := centroid mean facet.pointsPx
  "<text x=\"".toList ++ printed cx ++ "\" y=\"".toList ++ printed cy ++
    "\" font-size=\"12px\" font-family=\"sans-serif\" fill=\"".toList ++
    pitchColorHex (pitchOrFlat facet.pitchRatio) ++
    "\" text-anchor=\"middle\" dominant-baseline=\"middle\">".toList ++ label ++ "</text>".toList

/-- The start of the `svg` element. -/
def svgStart (widthPx heightPx : ℕ) : List Char :=
  let width := Nat.toDigits 10 widthPx
  let height := Nat.toDigits 10 heightPx
  "<svg xmlns=\"http://www.w3.org/2000/svg\" width=\"".toList ++ width ++
    "\" height=\"".toList ++ height ++ "\" viewBox=\"0 0 ".toList ++ width ++ " ".toList ++ height ++
    "\">".toList

/-- The lines before those of the facets. -/
def header (widthPx heightPx : ℕ) : List (List Char) :=
  ["<?xml version=\"1.0\" encoding=\"UTF-8\"?>".toList, svgStart widthPx heightPx]

/-- `build_overlay_svg` -/
def buildOverlaySvg (mean : List ℚ → Double) (projectedFacets : List ProjectedFacet)
    (widthPx heightPx : ℕ) : Except Exception (List Char) := do
  let parts ← (projectedFacets.filter drawable).mapM fun facet => do
    let label := escape (← labelText facet)
    return [polygonElement facet, textElement mean facet label]
  return ['\n'].intercalate (header widthPx heightPx ++ parts.flatten ++ ["</svg>".toList])

/-! ### The primitives of the composite -/

/-- `[0-9.]` -/
def isDecimal (c : Char) : Bool := c.isDigit || c == '.'

/-- `[0-9a-fA-F]` -/
def isHex (c : Char) : Bool :=
  c.isDigit || ('a' ≤ c && c ≤ 'f') || ('A' ≤ c && c ≤ 'F')

/-- `_POLY_RE` -/
def polyRe : Regex.Pattern :=
  [(Regex.literal "<polygon points=\"", false),
    (.many (· != '"') 1 false, true),
    (Regex.literal "\" fill=\"", false),
    (.chars ((· == '#') :: List.replicate 6 isHex), true),
    (Regex.literal "\" fill-opacity=\"", false),
    (.many isDecimal 1 false, true),
    (Regex.literal "\"", false),
    (.many (· != '/') 0 true, false),
    (Regex.literal "/>", false)]

/-- `_TEXT_RE` -/
def textRe : Regex.Pattern :=
  [(Regex.literal "<text x=\"", false),
    (.many isDecimal 1 false, true),
    (Regex.literal "\" y=\"", false),
    (.many isDecimal 1 false, true),
    (Regex.literal "\"", false),
    (.many (· != '>') 0 false, false),
    (Regex.literal ">", false),
    (.many (· != '<') 0 false, true),
    (Regex.literal "</text>", false)]

/-- `float` of a decimal numeral. -/
def float (s : List Char) : Except Exception ℚ :=
  match Numerals.ofDecimal? s with
  | some x => return x
  | none => throw (.valueError s!"could not convert string to float: {String.ofList s}")

/-- `m.group(i)` of what a match has captured. -/
def group (m : List (List Char)) (i : ℕ) : List Char := m.getD (i - 1) []

/-- `s.split()` -/
def splitSpace (s : List Char) : List (List Char) :=
  (s.splitOnP Char.isWhitespace).filter (· ≠ [])

/-- `int(s[i:i + 2], 16)` of hexadecimal digits. -/
def channelAt (s : List Char) (i : ℕ) : ℤ := Numerals.ofDigits 16 ((s.drop i).take 2)

/-- A polygon of the composite with its label. -/
structure Primitive where
  points : List (List ℚ)
  color : Rgb
  fillOpacity : ℚ
  centroid : ℚ × ℚ
  label : List Char
deriving DecidableEq

/-- What is read of a text. -/
def readText (m : List (List Char)) : Except Exception ((ℚ × ℚ) × List Char) := do
  return ((← float (group m 1), ← float (group m 2)), group m 3)

/-- What is read of a polygon, with the text at its place. -/
def readPolygon (texts : List ((ℚ × ℚ) × List Char)) (i : ℕ) (m : List (List Char)) :
    Except Exception Primitive := do
  let coords ← (splitSpace (group m 1)).mapM fun pair => (pair.splitOn ',').mapM float
  let hex := group m 2
  return {
    points := coords
    color := ⟨channelAt hex 1, channelAt hex 3, channelAt hex 5⟩
    fillOpacity := ← float (group m 3)
    centroid := (texts.map (·.1)).getD i (0, 0)
    label := (texts.map fun text => unescape text.2).getD i [] }

/-- `_parse_svg_polygons` -/
def parseSvgPolygons (svg : List Char) : Except Exception (List Primitive) := do
  let texts ← (Regex.finditer textRe 0 svg).mapM readText
  (Regex.finditer polyRe 0 svg).zipIdx.mapM fun (m, i) => readPolygon texts i m

end PhotoOverlay

end Sidecar
