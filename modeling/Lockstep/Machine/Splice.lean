import Lockstep.Machine.Stacks
import Lockstep.Position

namespace Lockstep

/-- A way to combine two bytes bit by bit. -/
inductive Bitwise where
  | and
  | or
  | xor
deriving DecidableEq

/-- The combination that a name stands for; other names take the exclusive or. -/
def Bitwise.ofName (name : String) : Bitwise :=
  if name = "OP_AND" then .and else if name = "OP_OR" then .or else .xor

def Bitwise.apply : Bitwise → UInt8 → UInt8 → UInt8
  | and, a, b => a &&& b
  | or, a, b => a ||| b
  | xor, a, b => a ^^^ b

/-- The most bytes of padding that there is memory for. -/
def paddingLimit : Int := 0x10000000

/-- Why no padding of a given length can be made, if there is a reason. -/
def paddingRefusal? (length : Int) : Option Abort :=
  if Position.wordLimit ≤ length then some .uncountableSize
  else if paddingLimit < length then some .outOfMemory
  else none

namespace Effect

def join (rules : Rules) (name : String) : List Bytes → Outcome (List Bytes)
  | b :: a :: rest =>
    if rules.numberLimit < b.length + a.length then .fault (.joinTooLong rules.numberLimit)
    else .done ((a ++ b) :: rest)
  | _ => .fault (.stackUnderflow name)

/-- Cuts the second item at the position that the top item gives. -/
def split (rules : Rules) (name : String) (stack : List Bytes) : Outcome (List Bytes) :=
  if stack.length < 2 then .fault (.stackUnderflow name)
  else
    match popNumber rules name stack with
    | .error cause => .fault cause
    | .ok (_, []) => .fault (.stackUnderflow name)
    | .ok (position, item :: rest) =>
      if position < 0 ∨ (item.length : Int) < position then
        .refuse (.positionOutOfRange position) rest
      else .done (item.drop position.toNat :: item.take position.toNat :: rest)

/-- A longer item for the same number: the sign is taken out of the last byte, zeros are put behind
it, and the sign goes into the byte that is the last one then. -/
def widen (size : Nat) (item : Bytes) : Bytes :=
  let sign := item.getLastD 0 &&& 0x80
  let magnitude := item.modify (item.length - 1) (· &&& 0x7f)
  let padded := magnitude ++ List.replicate (size - item.length) 0
  padded.modify (padded.length - 1) (· ||| sign)

/-- Writes the number of the second item in the width that the top item gives. -/
def resize (rules : Rules) (name : String) (stack : List Bytes) : Outcome (List Bytes) :=
  if stack.length < 2 then .fault (.stackUnderflow name)
  else
    match popNumber rules name stack with
    | .error cause => .fault cause
    | .ok (_, []) => .fault (.stackUnderflow name)
    | .ok (size, item :: rest) =>
      let value := ScriptNum.encode (ScriptNum.decode item)
      if rules.numberLimit < size then .refuse (.sizeTooLarge size rules.numberLimit) rest
      else if size < 0 ∨ size < value.length then .refuse (.sizeTooSmall value.length size) rest
      else if size = value.length then .done (value :: rest)
      else
        match paddingRefusal? (size - value.length) with
        | some cause => .abort cause rest
        | none => .done (widen size.toNat value :: rest)

/-- Writes the number of the top item in its shortest form. -/
def shorten (name : String) : List Bytes → Outcome (List Bytes)
  | item :: rest => .done (ScriptNum.encode (ScriptNum.decode item) :: rest)
  | [] => .fault (.stackUnderflow name)

/-- Puts the length of the top item on top of it. -/
def measure (name : String) : List Bytes → Outcome (List Bytes)
  | item :: rest => .done (ScriptNum.encode item.length :: item :: rest)
  | [] => .fault (.stackUnderflow name)

def invert (name : String) : List Bytes → Outcome (List Bytes)
  | item :: rest => .done (item.map (~~~ ·) :: rest)
  | [] => .fault (.stackUnderflow name)

/-- Combines the two top items, which must be of the same length, byte by byte. -/
def bitwise (name : String) : List Bytes → Outcome (List Bytes)
  | b :: a :: rest =>
    if a.length = b.length then .done (List.zipWith (Bitwise.ofName name).apply a b :: rest)
    else .fault (.sizesDiffer name)
  | _ => .fault (.stackUnderflow name)

/-- Compares the two top items; under the name `OP_EQUALVERIFY` they must be the same. -/
def compare (name : String) : List Bytes → Outcome (List Bytes)
  | b :: a :: rest =>
    if name = "OP_EQUALVERIFY" then
      if a == b then .done rest else .fault .itemsDiffer
    else .done (ScriptNum.ofBool (a == b) :: rest)
  | _ => .fault (.stackUnderflow name)

end Effect

end Lockstep
