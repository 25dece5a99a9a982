import Mathlib.Data.Nat.Cast.Defs
import Mathlib.Algebra.GroupWithZero.Nat

/-!
# Literals

A literal of an arbitrary field holds a proof that it is at least two, and an index of three or four
components one that there are components. The proofs of the literals that several modules use are
named here.
-/

namespace Literals

instance two : Nat.AtLeastTwo 2 := ⟨by decide⟩

instance three : Nat.AtLeastTwo 3 := ⟨by decide⟩

instance four : Nat.AtLeastTwo 4 := ⟨by decide⟩

instance five : Nat.AtLeastTwo 5 := ⟨by decide⟩

instance six : Nat.AtLeastTwo 6 := ⟨by decide⟩

instance eight : Nat.AtLeastTwo 8 := ⟨by decide⟩

instance nine : Nat.AtLeastTwo 9 := ⟨by decide⟩

instance ten : Nat.AtLeastTwo 10 := ⟨by decide⟩

instance seventyFive : Nat.AtLeastTwo 75 := ⟨by decide⟩

instance hundred : Nat.AtLeastTwo 100 := ⟨by decide⟩

instance halfTurn : Nat.AtLeastTwo 180 := ⟨by decide⟩

instance threeAxes : NeZero 3 := ⟨by decide⟩

instance fourAxes : NeZero 4 := ⟨by decide⟩

end Literals
