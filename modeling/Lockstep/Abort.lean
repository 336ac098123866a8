import Lockstep.Decimal.Integer

namespace Lockstep

/-- Why a step could not be finished. -/
inductive Abort where
  /-- A number has too many digits to be written. -/
  | unwritableNumber
  /-- The name of a digest instruction is none of the known ones. -/
  | unknownDigest (name : String)
  /-- The index of an input is negative and cannot be signed. -/
  | negativeIndex
  /-- The index of an input does not fit into four bytes. -/
  | indexTooLarge
  | outsideProgram
  /-- The transaction has no input or output at the index. -/
  | outsideTransaction
  /-- A position is too large to be looked up in anything. -/
  | unaddressable
  /-- More bytes are asked for than can be counted. -/
  | uncountableSize
  /-- More bytes are asked for than there is memory. -/
  | outOfMemory
  /-- Arrays and objects stand inside each other too often to be written. -/
  | nestedTooDeep
  /-- The point that decides about a signature is at infinity. -/
  | pointAtInfinity
deriving DecidableEq

def Abort.message : Abort → String
  | unwritableNumber => Decimal.writeRefusal
  | unknownDigest name => name
  | negativeIndex => "can't convert negative int to unsigned"
  | indexTooLarge => "int too big to convert"
  | outsideProgram => "tuple index out of range"
  | outsideTransaction => "list index out of range"
  | unaddressable | uncountableSize => "cannot fit 'int' into an index-sized integer"
  | outOfMemory => "out of memory"
  | nestedTooDeep => "nested too deep"
  | pointAtInfinity => "the point at infinity has no coordinates"

end Lockstep
