import Lockstep.Decimal.Integer

namespace Lockstep

/-- What is wrong with a script text, with the token at fault. -/
inductive ParseError where
  | unknownOpcode (token : String)
  | tooManyDigits (digits : Nat) (token : String)
  /-- The name of a push is not followed by hexadecimal data. -/
  | missingPayload (name token : String)
  /-- The data is too long for the push that is named in front of it. -/
  | payloadTooLong (name : String) (length : Nat) (token : String)
deriving DecidableEq

namespace ParseError

def message : ParseError → String
  | unknownOpcode token => "Unknown opcode: " ++ token
  | tooManyDigits digits _ => "number too long: " ++ Decimal.readRefusal digits
  | missingPayload name _ => name ++ " needs a hex payload"
  | payloadTooLong name length _ => s!"{name} cannot carry {length} bytes"

def token : ParseError → String
  | unknownOpcode token => token
  | tooManyDigits _ token => token
  | missingPayload _ token => token
  | payloadTooLong _ _ token => token

end ParseError

end Lockstep
