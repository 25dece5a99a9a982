import Mathlib.Data.Rat.Floor
import Mathlib.Order.Lattice

/-!
# Floats

A float is a rational, an infinity or not a number. The arithmetic of finite floats is that of
the rationals.
-/

/-- A float; `-0.0` is the rational zero. -/
inductive Double where
  | finite (x : ℚ)
  | infinity (negative : Bool)
  | nan
deriving DecidableEq

namespace Double

def isNaN : Double → Bool
  | nan => true
  | _ => false

def isFinite : Double → Bool
  | finite _ => true
  | _ => false

/-- The number of a finite float. -/
def finite? : Double → Option ℚ
  | finite x => some x
  | _ => none

/-- Whether a float is at most a rational. -/
def atMost : Double → ℚ → Bool
  | finite y, x => y ≤ x
  | infinity negative, _ => negative
  | nan, _ => false

/-- `min(max(x, lo), hi)`, of a float that is a number. -/
def clamp (lo hi : ℚ) : Double → ℚ
  | finite x => min (max x lo) hi
  | infinity negative => if negative then lo else hi
  | nan => lo

end Double
