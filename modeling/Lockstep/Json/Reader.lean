import Lockstep.Bytes.Hex
import Lockstep.Json

/-!
Reading JSON documents.

Besides the standard's values, `NaN`, `Infinity` and `-Infinity` are read. A number with a fraction
or an exponent is a floating-point number. Of fields with the same name, the last one counts.
-/

namespace Lockstep.Json

/-- Why a text is not read as a document. -/
inductive ReadError where
  | malformed
  | tooManyDigits (digits : Nat)
  /-- Arrays and objects stand inside each other too often. -/
  | tooDeep
deriving DecidableEq

/-- The most levels that reading may take: every array and object takes one. -/
def levelLimit : Nat := 991

/-- The levels that it takes to tell the line and the column of a wrong character. -/
def complaintLevels : Nat := 3

/-- The complaint about a wrong character inside `depth` arrays and objects. Where no levels are
left for it, it is the depth that is complained about. -/
def malformedAt (depth : Nat) : ReadError :=
  if depth + complaintLevels ≤ levelLimit then .malformed else .tooDeep

def skipBlanks (text : List Char) : List Char :=
  text.dropWhile fun c => c == ' ' || c == '\t' || c == '\n' || c == '\r'

/-- The code unit that four hexadecimal digits at the start of a text write, and the text behind
them. -/
def codeUnit? : List Char → Option (Nat × List Char)
  | a :: b :: c :: d :: rest =>
    match Bytes.hexValue? a, Bytes.hexValue? b, Bytes.hexValue? c, Bytes.hexValue? d with
    | some w, some x, some y, some z => some (((w * 16 + x) * 16 + y) * 16 + z, rest)
    | _, _, _, _ => none
  | _ => none

/-- The second half of a surrogate pair, if an escape for one comes next. -/
def lowSurrogate? : List Char → Option (Nat × List Char)
  | '\\' :: 'u' :: text =>
    match codeUnit? text with
    | some (unit, rest) => if CodePoints.isLowSurrogate unit then some (unit, rest) else none
    | none => none
  | _ => none

/-- The code point that an escape writes, from behind its backslash on, and the text behind it. -/
def escape? : List Char → Option (Nat × List Char)
  | '"' :: rest => some (0x22, rest)
  | '\\' :: rest => some (0x5c, rest)
  | '/' :: rest => some (0x2f, rest)
  | 'b' :: rest => some (0x08, rest)
  | 'f' :: rest => some (0x0c, rest)
  | 'n' :: rest => some (0x0a, rest)
  | 'r' :: rest => some (0x0d, rest)
  | 't' :: rest => some (0x09, rest)
  | 'u' :: text =>
    match codeUnit? text with
    | none => none
    | some (unit, rest) =>
      if CodePoints.isHighSurrogate unit then
        match lowSurrogate? rest with
        | some (low, rest') => some (CodePoints.joinSurrogates unit low, rest')
        | none => some (unit, rest)
      else some (unit, rest)
  | _ => none

/-- Reads a string, from behind its opening quote on, behind code points that were read before,
last one first. The fuel is at least the length of the text. -/
def readString (seen : CodePoints) : Nat → List Char → Option (CodePoints × List Char)
  | 0, _ => none
  | _, [] => none
  | fuel + 1, c :: rest =>
    if c = '"' then some (seen.reverse, rest)
    else if c = '\\' then
      match escape? rest with
      | some (code, rest') => readString (code :: seen) fuel rest'
      | none => none
    else if c.toNat < 0x20 then none
    else readString (c.toNat :: seen) fuel rest

/-- The digits at the start of a text, and the text behind them. -/
def spanDigits (text : List Char) : List Char × List Char :=
  text.span Char.isDigit

/-- The digits of the whole part of a number: a zero, or digits that do not start with one. -/
def wholePart? : List Char → Option (List Char × List Char)
  | '0' :: rest => some (['0'], rest)
  | text =>
    match spanDigits text with
    | ([], _) => none
    | (digits, rest) => some (digits, rest)

/-- The digits behind a decimal point, if at least one follows. -/
def fraction? : List Char → Option (List Char × List Char)
  | '.' :: text =>
    match spanDigits text with
    | ([], _) => none
    | (digits, rest) => some (digits, rest)
  | _ => none

/-- The exponent of ten behind the letter e, if at least one digit follows. -/
def exponent? : List Char → Option (Int × List Char)
  | [] => none
  | e :: text =>
    if e = 'e' || e = 'E' then
      let (negative, text) : Bool × List Char := match text with
        | '-' :: rest => (true, rest)
        | '+' :: rest => (false, rest)
        | rest => (false, rest)
      match spanDigits text with
      | ([], _) => none
      | (digits, rest) =>
        let value : Int := Nat.ofDigitChars 10 digits 0
        some (if negative then -value else value, rest)
    else none

def readNumber (negative : Bool) (text : List Char) : Except ReadError (Json × List Char) :=
  match wholePart? text with
  | none => .error .malformed
  | some (whole, rest) =>
    match fraction? rest, exponent? (match fraction? rest with
        | some (_, rest') => rest'
        | none => rest) with
    | none, none =>
      if Decimal.digitLimit < whole.length then .error (.tooManyDigits whole.length)
      else
        let value : Int := Nat.ofDigitChars 10 whole 0
        .ok (int (if negative then -value else value), rest)
    | some (digits, rest'), none =>
      .ok (double (Double.nearest negative (Nat.ofDigitChars 10 (whole ++ digits) 0)
        (-(digits.length : Int))), rest')
    | none, some (exponent, rest') =>
      .ok (double (Double.nearest negative (Nat.ofDigitChars 10 whole 0) exponent), rest')
    | some (digits, _), some (exponent, rest') =>
      .ok (double (Double.nearest negative (Nat.ofDigitChars 10 (whole ++ digits) 0)
        (exponent - digits.length)), rest')

/-- The words that stand for values, with the levels that it takes to read them: a number that is
given by name is looked up. -/
def words : List (List Char × Json × Nat) := [
  ("null".toList, null, 0), ("true".toList, bool true, 0), ("false".toList, bool false, 0),
  ("NaN".toList, double .nan, 1), ("Infinity".toList, double (.infinity false), 1),
  ("-Infinity".toList, double (.infinity true), 1)]

/-- Reads a value that is neither a string nor an array nor an object. Where a number was expected
and none is found, nothing more is told, so that takes no levels. -/
def readPlain (depth : Nat) (text : List Char) : Except ReadError (Json × List Char) :=
  match words.find? fun word => word.1.isPrefixOf text with
  | some (word, value, extra) =>
    if levelLimit < depth + extra then .error .tooDeep else .ok (value, text.drop word.length)
  | none =>
    match text with
    | '-' :: rest => readNumber true rest
    | _ => readNumber false text

/-- The fields of an object with one more at the end, which takes the place of an earlier one of
the same name. -/
def setField (fields : List (CodePoints × Json)) (name : CodePoints) (value : Json) :
    List (CodePoints × Json) :=
  fields.filter (·.1 != name) ++ [(name, value)]

mutual

/-- Reads a value at the start of a text. The fuel is at least twice the length of the text, and
`depth` counts the arrays and objects around the value. -/
def readValue (depth : Nat) : Nat → List Char → Except ReadError (Json × List Char)
  | 0, _ => .error .malformed
  | fuel + 1, text =>
    match text with
    | '"' :: rest =>
      match readString [] fuel rest with
      | some (string, rest') => .ok (str string, rest')
      | none => .error (malformedAt depth)
    | '[' :: rest =>
      if levelLimit ≤ depth then .error .tooDeep
      else
        match skipBlanks rest with
        | ']' :: rest' => .ok (arr [], rest')
        | text' => readItems (depth + 1) [] fuel text'
    | '\x7b' :: rest =>
      if levelLimit ≤ depth then .error .tooDeep
      else
        match skipBlanks rest with
        | '\x7d' :: rest' => .ok (obj [], rest')
        | text' => readFields (depth + 1) [] fuel text'
    | text => readPlain depth text

/-- Reads the items of an array up to its end, behind items that were read before, last one
first. -/
def readItems (depth : Nat) (seen : List Json) :
    Nat → List Char → Except ReadError (Json × List Char)
  | 0, _ => .error .malformed
  | fuel + 1, text =>
    match readValue depth fuel text with
    | .error e => .error e
    | .ok (item, rest) =>
      match skipBlanks rest with
      | ']' :: rest' => .ok (arr (item :: seen).reverse, rest')
      | ',' :: rest' => readItems depth (item :: seen) fuel (skipBlanks rest')
      | _ => .error (malformedAt depth)

/-- Reads the fields of an object up to its end, behind fields that were read before. -/
def readFields (depth : Nat) (seen : List (CodePoints × Json)) :
    Nat → List Char → Except ReadError (Json × List Char)
  | 0, _ => .error .malformed
  | fuel + 1, text =>
    match text with
    | '"' :: rest =>
      match readString [] fuel rest with
      | none => .error (malformedAt depth)
      | some (name, rest) =>
        match skipBlanks rest with
        | ':' :: rest =>
          match readValue depth fuel (skipBlanks rest) with
          | .error e => .error e
          | .ok (value, rest) =>
            match skipBlanks rest with
            | '\x7d' :: rest' => .ok (obj (setField seen name value), rest')
            | ',' :: rest' => readFields depth (setField seen name value) fuel (skipBlanks rest')
            | _ => .error (malformedAt depth)
        | _ => .error (malformedAt depth)
    | _ => .error (malformedAt depth)

end

/-- Reads a document: one value with nothing but blanks around it. -/
def read (text : List Char) : Except ReadError Json :=
  match readValue 0 (2 * text.length + 2) (skipBlanks text) with
  | .error e => .error e
  | .ok (value, rest) => if (skipBlanks rest).isEmpty then .ok value else .error .malformed

end Lockstep.Json
