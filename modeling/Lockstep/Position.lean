import Lockstep.Abort

namespace Lockstep.Position

/-- The first number that is too large for a signed 64-bit word. -/
def wordLimit : Int := 0x8000000000000000

/-- Whether a position fits into a signed 64-bit word. -/
def isAddressable (position : Int) : Bool :=
  -wordLimit ≤ position && position < wordLimit

/-- The index that a position means in a sequence of a given length. -/
def index? (length : Nat) (position : Int) : Option Nat :=
  let index := if position < 0 then position + length else position
  if 0 ≤ index ∧ index < length then some index.toNat else none

/-- Why nothing is found at a position: the given reason, unless the position cannot even be looked
up. -/
def refusal (position : Int) (outside : Abort) : Abort :=
  if isAddressable position then outside else .unaddressable

end Lockstep.Position
