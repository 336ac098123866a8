import Lockstep.Text.Blank
import Lockstep.Text.DecimalDigit

namespace Lockstep.Decimal

/-- The most digits that an integer may have when it is read from or written as decimal text. -/
def digitLimit : Nat := 4300

/-- Whether an integer has few enough digits to be written. -/
def isWritable (n : Int) : Bool :=
  n.natAbs < Nat.pow 10 digitLimit

/-- What is said of an integer that has too many digits to be written. -/
def writeRefusal : String :=
  s!"Exceeds the limit ({digitLimit} digits) for integer string conversion; " ++
    "use sys.set_int_max_str_digits() to increase the limit"

/-- What is said of a text that has too many digits to be read as an integer. -/
def readRefusal (digits : Nat) : String :=
  s!"Exceeds the limit ({digitLimit} digits) for integer string conversion: " ++
    s!"value has {digits} digits; use sys.set_int_max_str_digits() to increase the limit"

/-- The blanks that may surround an integer literal: all but the ASCII separators. -/
def isPadding (c : Char) : Bool :=
  Text.isBlank c && !(0x1c ≤ c.toNat && c.toNat ≤ 0x1f)

/-- The values of the digits of an unsigned literal, in which single underscores may stand between
digits. -/
def literalDigits? (literal : List Char) : Option (List Nat) :=
  let groups := literal.splitOnP (· == '_')
  if groups.any (·.isEmpty) then none
  else groups.flatten.mapM Text.decimalValue?

/-- The natural number that an unsigned literal within the digit limit writes. -/
def magnitude? (literal : List Char) : Option Nat :=
  match literalDigits? literal with
  | none => none
  | some digits =>
    if digitLimit < digits.length then none
    else some (digits.foldl (fun value digit => 10 * value + digit) 0)

/-- Reads an integer literal: padding, an optional sign, digits of any script. -/
def ofLiteral? (text : String) : Option Int :=
  let unpadded := ((text.toList.dropWhile isPadding).reverse.dropWhile isPadding).reverse
  match unpadded with
  | '+' :: literal => (magnitude? literal).map fun value => (value : Int)
  | '-' :: literal => (magnitude? literal).map fun value => -(value : Int)
  | literal => (magnitude? literal).map fun value => (value : Int)

end Lockstep.Decimal
