import Lockstep.Decimal.Integer

namespace Lockstep

inductive FaultKind where
  | stackUnderflow
  | verificationFailed
  | invalidOpcode
  | invalidOperand
  | unbalancedConditional
  | markedUnspendable
  | stepLimitExceeded
deriving DecidableEq

/-- Why a script was stopped. Where the text names the instruction, its name is part of the
fault. -/
inductive Fault where
  /-- Fewer items on the main stack than the instruction needs. -/
  | stackUnderflow (name : String)
  | altStackUnderflow
  /-- An operand is too long to be taken as a number. -/
  | numberTooLong (name : String) (length : Nat)
  | missingData (name : String)
  | invalidOpcode (name : String)
  | elseWithoutIf
  | endIfWithoutIf
  | ifWithoutEndIf
  | notTrue
  | markedUnspendable
  | negativeDepth (name : String) (depth : Int)
  | joinTooLong (limit : Int)
  | positionOutOfRange (position : Int)
  /-- A number is to be written wider than allowed. -/
  | sizeTooLarge (size limit : Int)
  /-- A number is to be written narrower than it is. -/
  | sizeTooSmall (length : Nat) (size : Int)
  /-- Items of different length are to be combined bit by bit. -/
  | sizesDiffer (name : String)
  | itemsDiffer
  | numbersDiffer (left right : Int)
  | divisionByZero (name : String)
  | digestUnavailable (name : String)
  | signatureRefused
  | multisignatureRefused
  | negativeKeyCount (name : String)
  | badSignatureCount (name : String) (count : Int)
  /-- A run took as many steps as it was allowed to. -/
  | stepLimitExceeded (limit : Int)
deriving DecidableEq

namespace Fault

def kind : Fault → FaultKind
  | stackUnderflow _ | altStackUnderflow => .stackUnderflow
  | notTrue | itemsDiffer | numbersDiffer _ _ | signatureRefused | multisignatureRefused =>
    .verificationFailed
  | invalidOpcode _ | digestUnavailable _ => .invalidOpcode
  | numberTooLong _ _ | missingData _ | negativeDepth _ _ | joinTooLong _ | positionOutOfRange _
  | sizeTooLarge _ _ | sizeTooSmall _ _ | sizesDiffer _ | divisionByZero _ | negativeKeyCount _
  | badSignatureCount _ _ => .invalidOperand
  | elseWithoutIf | endIfWithoutIf | ifWithoutEndIf => .unbalancedConditional
  | markedUnspendable => .markedUnspendable
  | stepLimitExceeded _ => .stepLimitExceeded

def message : Fault → String
  | stackUnderflow name => name ++ ": Stack underflow"
  | altStackUnderflow => "OP_FROMALTSTACK: Alt stack underflow"
  | numberTooLong name length => s!"{name}: number too long ({length} bytes)"
  | missingData name => name ++ ": missing push data"
  | invalidOpcode name => "Invalid opcode: " ++ name
  | elseWithoutIf => "OP_ELSE without OP_IF"
  | endIfWithoutIf => "OP_ENDIF without OP_IF"
  | ifWithoutEndIf => "OP_IF without matching OP_ENDIF"
  | notTrue => "OP_VERIFY: top of stack is false"
  | markedUnspendable => "OP_RETURN: script marked unspendable"
  | negativeDepth name depth => s!"{name}: negative depth {depth}"
  | joinTooLong limit => s!"OP_CAT: result longer than {limit} bytes"
  | positionOutOfRange position => s!"OP_SPLIT: position {position} out of range"
  | sizeTooLarge size limit => s!"OP_NUM2BIN: size {size} exceeds {limit} bytes"
  | sizeTooSmall length size => s!"OP_NUM2BIN: {length} bytes do not fit in {size}"
  | sizesDiffer name => name ++ ": operands differ in size"
  | itemsDiffer => "OP_EQUALVERIFY: Values not equal"
  | numbersDiffer left right => s!"OP_NUMEQUALVERIFY: {left} != {right}"
  | divisionByZero name => name ++ ": division by zero"
  | digestUnavailable name => name ++ ": hash unavailable (unsupported hash type ripemd160)"
  | signatureRefused => "OP_CHECKSIGVERIFY: signature check failed"
  | multisignatureRefused => "OP_CHECKMULTISIGVERIFY: signature check failed"
  | negativeKeyCount name => name ++ ": negative key count"
  | badSignatureCount name count => s!"{name}: bad signature count {count}"
  | stepLimitExceeded limit => s!"Too many steps: gave up after {limit}"

/-- The numbers of a script that the text of a fault shows. -/
def numbers : Fault → List Int
  | negativeDepth _ depth => [depth]
  | positionOutOfRange position => [position]
  | sizeTooLarge size _ => [size]
  | sizeTooSmall _ size => [size]
  | numbersDiffer left right => [left, right]
  | badSignatureCount _ count => [count]
  | _ => []

/-- Whether all numbers in the text of a fault have few enough digits to be written. -/
def isWritable (fault : Fault) : Bool :=
  fault.numbers.all Decimal.isWritable

end Fault

end Lockstep
