
namespace Lockstep

/-- A text as its code points, each below 0x110000. -/
abbrev CodePoints := List Nat

namespace CodePoints

def ofString (text : String) : CodePoints :=
  text.toList.map Char.toNat

/-- The string of code points; half of a surrogate pair becomes the replacement character. -/
def toString (text : CodePoints) : String :=
  String.ofList (text.map fun code => if code.isValidChar then Char.ofNat code else '\ufffd')

/-- Whether a text comes before another, or is the same, in the order of code points. -/
def precedes : CodePoints → CodePoints → Bool
  | [], _ => true
  | _ :: _, [] => false
  | a :: s, b :: t => a < b || (a == b && precedes s t)

/-- Whether a code point is the first half of a surrogate pair. -/
def isHighSurrogate (code : Nat) : Bool :=
  0xd800 ≤ code && code ≤ 0xdbff

/-- Whether a code point is the second half of a surrogate pair. -/
def isLowSurrogate (code : Nat) : Bool :=
  0xdc00 ≤ code && code ≤ 0xdfff

/-- The code point that a surrogate pair stands for. -/
def joinSurrogates (high low : Nat) : Nat :=
  0x10000 + (high - 0xd800) * 0x400 + (low - 0xdc00)

end CodePoints

end Lockstep
