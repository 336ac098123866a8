import Lockstep.Bytes.Basic

namespace Lockstep.ScriptNum

/-- The weight of the sign bit in an item of a given width. -/
def signBit (width : Nat) : Nat :=
  128 * Nat.pow 256 (width - 1)

/-- The bytes of a magnitude, least significant first, put behind an item that is given last byte
first. -/
@[semireducible]
def appendMagnitude (reversed : Bytes) (magnitude : Nat) : Bytes :=
  if magnitude = 0 then reversed
  else appendMagnitude (UInt8.ofNat magnitude :: reversed) (magnitude >>> 8)
termination_by magnitude
decreasing_by
  rw [Nat.shiftRight_eq_div_pow]
  omega

/-- Puts a sign into the top bit of the last byte, or into a byte of its own if the magnitude has
taken that bit. The item is given last byte first. -/
def appendSign (negative : Bool) : Bytes → Bytes
  | [] => []
  | last :: front =>
    if last &&& 0x80 ≠ 0 then (if negative then 0x80 else 0x00) :: last :: front
    else if negative then (last ||| 0x80) :: front
    else last :: front

/-- The shortest form of a number. -/
def encode (n : Int) : Bytes :=
  if n = 0 then [] else (appendSign (n < 0) (appendMagnitude [] n.natAbs)).reverse

/-- The number that an item stands for. -/
def decode (item : Bytes) : Int :=
  if item.isEmpty then 0
  else
    let value := item.toNatLE
    let sign := signBit item.length
    if sign ≤ value then -((value - sign : Nat) : Int) else (value : Int)

/-- Whether an item is the shortest form of its number. -/
def isMinimal (item : Bytes) : Bool :=
  encode (decode item) == item

/-- Whether an item counts as true: it has a byte other than zero, and that is not merely the sign
bit of a negative zero. -/
def isTrue : Bytes → Bool
  | [] => false
  | [byte] => byte != 0 && byte != 0x80
  | byte :: rest => byte != 0 || isTrue rest

def ofBool (value : Bool) : Bytes :=
  if value then [1] else []

end Lockstep.ScriptNum
