import RoofTrace.Sidecar.PhotoOverlay

/-!
# Pitch colours

`viewer/utils/colorByPitch.ts`: the colour of a facet in the web viewer, and when it is the one of
the photo overlay. Both interpolate between the same grays; they round differently, and the
viewer has a colour of its own for a pitch that has not been measured.
-/

namespace Viewer

open Sidecar.PhotoOverlay (Rgb pitchColor pitchOrFlat)

/-! ### The colour in the viewer -/

/-- A colour with its opacity. -/
structure Rgba where
  rgb : Rgb
  alpha : ℤ

/-- `PITCH_LIGHTEST` -/
def pitchLightest : Rgb := ⟨0x9c, 0xa3, 0xaf⟩

/-- `PITCH_DARKEST` -/
def pitchDarkest : Rgb := ⟨0x37, 0x41, 0x51⟩

/-- `MAX_RATIO` -/
def maxRatio : ℚ := 10

/-- `DEFAULT_ALPHA` -/
def defaultAlpha : ℤ := 150

/-- `UNKNOWN_PITCH_RGBA` -/
def unknownPitchRgba : Rgba := ⟨⟨148, 163, 184⟩, 110⟩

/-- `lerp`, with `Math.round`. -/
def lerp (a b : ℤ) (t : ℚ) : ℤ := round (a + (b - a) * t)

/-- `colorByPitch`; the pitch is `none` where it is null. -/
def colorByPitch (pitchRatio : Option Double) (alpha : ℤ := defaultAlpha) : Rgba :=
  match pitchRatio with
  | some (.finite x) =>
      let t := min (max x 0) maxRatio / maxRatio
      { rgb :=
          { r := lerp pitchLightest.r pitchDarkest.r t
            g := lerp pitchLightest.g pitchDarkest.g t
            b := lerp pitchLightest.b pitchDarkest.b t }
        alpha }
  | _ => unknownPitchRgba

/-! ### Agreement with the photo overlay -/

/-- The interpolant of a channel is half way above an even integer. -/
def Tied (a b : ℤ) (t : ℚ) : Prop := ∃ m : ℤ, (a : ℚ) + (b - a) * t = 2 * m + 1 / 2

/-- A pitch has been measured, and ties no channel of its colour above an even integer. -/
def Untied (pitchRatio : Option Double) : Prop :=
  ∃ x, pitchRatio = some (.finite x) ∧
    ¬ Tied pitchLightest.r pitchDarkest.r (min (max x 0) maxRatio / maxRatio) ∧
    ¬ Tied pitchLightest.g pitchDarkest.g (min (max x 0) maxRatio / maxRatio) ∧
    ¬ Tied pitchLightest.b pitchDarkest.b (min (max x 0) maxRatio / maxRatio)

theorem lerp_eq_iff (a b : ℤ) (t : ℚ) :
  Sidecar.PhotoOverlay.lerp a b t = lerp a b t ↔ ¬ Tied a b t
  := Rounding.halfEven_eq_round_iff _

/-- Without a pitch that has been measured, the viewer shows its own colour. -/
theorem pitchColor_ne_unknown {pitchRatio : Option Double}
    (h : ∀ x, pitchRatio ≠ some (.finite x)) :
  pitchColor (pitchOrFlat pitchRatio) ≠ (colorByPitch pitchRatio).rgb
  := by
  match pitchRatio with
  | none => decide +kernel
  | some (.finite x) => exact absurd rfl (h x)
  | some (.infinity true) => decide +kernel
  | some (.infinity false) => decide +kernel
  | some .nan => decide +kernel

/-- The overlay and the viewer give a facet the same colour exactly when its pitch has been measured
and no channel is tied above an even integer, where one rounds to even and the other up. -/
theorem pitch_colours_agree_iff (pitchRatio : Option Double) :
  pitchColor (pitchOrFlat pitchRatio) = (colorByPitch pitchRatio).rgb ↔ Untied pitchRatio
  := by
  by_cases hfinite : ∃ x, pitchRatio = some (.finite x)
  · obtain ⟨x, rfl⟩ := hfinite
    have hchannels : pitchColor (pitchOrFlat (some (.finite x))) =
          (colorByPitch (some (.finite x))).rgb ↔
        ¬ Tied pitchLightest.r pitchDarkest.r (min (max x 0) maxRatio / maxRatio) ∧
        ¬ Tied pitchLightest.g pitchDarkest.g (min (max x 0) maxRatio / maxRatio) ∧
        ¬ Tied pitchLightest.b pitchDarkest.b (min (max x 0) maxRatio / maxRatio) := by
      rw [← lerp_eq_iff, ← lerp_eq_iff, ← lerp_eq_iff]
      exact Rgb.mk.injEq .. |>.to_iff
    rw [hchannels]
    constructor
    · exact fun h => ⟨x, rfl, h⟩
    · rintro ⟨x', hx, h⟩
      obtain rfl : x = x' := by simpa using hx
      exact h
  · apply iff_of_false
    · apply pitchColor_ne_unknown
      exact fun x hx => hfinite ⟨x, hx⟩
    · rintro ⟨x, hx, -⟩
      exact hfinite ⟨x, hx⟩

/-- The colours of a facet without a pitch differ. -/
theorem unmeasured_pitch_colours_differ :
  ¬ ∀ pitchRatio, pitchColor (pitchOrFlat pitchRatio) = (colorByPitch pitchRatio).rgb
  := by
  intro h
  have hnone := h none
  revert hnone
  decide +kernel

/-- At a pitch of `85/101`, whose red is `147.5`, the overlay rounds up as the viewer does. -/
example : pitchColor (.finite (85 / 101)) = (colorByPitch (some (.finite (85 / 101)))).rgb := by
  decide +kernel

/-- At a pitch of `95/101`, whose red is `146.5`, it does not. -/
example : pitchColor (.finite (95 / 101)) ≠ (colorByPitch (some (.finite (95 / 101)))).rgb := by
  decide +kernel

end Viewer
