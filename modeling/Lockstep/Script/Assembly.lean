import Lockstep.Script.Instruction
import Lockstep.Script.ParseError
import Lockstep.Text.Blank

/-!
Script text: two readers and a writer.

`readStrict` takes only text as `format` writes it and node software prints it. `readTolerant`
also takes other spellings of mnemonics, decimal numbers, hexadecimal data with `0x` in front, and
comment lines. `parse` tries the strict reader first.
-/

namespace Lockstep.Script

/-- Hexadecimal data of at least one byte, without anything in front. -/
def plainHex? (token : String) : Option Bytes :=
  if token.isEmpty then none else Bytes.ofHexChars? token.toList

/-- Reads tokens that are mnemonics as in the table, `0`, `-1` or plain hexadecimal data. -/
def readStrictTokens : List String → Option (List Instruction)
  | [] => some []
  | token :: rest =>
    if token = "0" then
      (readStrictTokens rest).map (Instruction.ofCode Opcode.zero :: ·)
    else if token = "-1" then
      (readStrictTokens rest).map (Instruction.ofCode Opcode.oneNegate :: ·)
    else
      match Opcode.codeOf? token with
      | some code =>
        match Opcode.pushDataLimit? code with
        | none => (readStrictTokens rest).map (⟨token, code, none⟩ :: ·)
        | some limit =>
          match rest with
          | [] => none
          | payload :: rest' =>
            match plainHex? payload with
            | none => none
            | some item =>
              if limit < item.length then none
              else (readStrictTokens rest').map (⟨token, code, some item⟩ :: ·)
      | none =>
        match plainHex? token with
        | some item => (readStrictTokens rest).map (Instruction.push item :: ·)
        | none => none

def readStrict (text : String) : Option (List Instruction) :=
  readStrictTokens (Text.fields text)

/-- Whether a line with this first field is a comment. -/
def isComment (field : String) : Bool :=
  "//".toList.isPrefixOf field.toList || "#".toList.isPrefixOf field.toList

/-- The tokens of one line; a comment has none. -/
def lineTokens (line : String) : List String :=
  match Text.fields line with
  | [] => []
  | field :: rest => if isComment field then [] else field :: rest

/-- The tokens of a text, line by line, without comments. -/
def tokens (text : String) : List String :=
  (Text.lines text).flatMap lineTokens

/-- The characters of a token, less one line feed at its end. -/
def tokenChars (token : String) : List Char :=
  let chars := token.toList
  if chars.getLast? = some '\n' then chars.dropLast else chars

/-- Hexadecimal data, possibly empty, with `0x` allowed in front. -/
def hexData? (token : String) : Option Bytes :=
  match tokenChars token with
  | '0' :: 'x' :: digits => Bytes.ofHexChars? digits
  | '0' :: 'X' :: digits => Bytes.ofHexChars? digits
  | digits => Bytes.ofHexChars? digits

/-- Whether characters are ASCII decimal digits, at least one. -/
def isDecimal (chars : List Char) : Bool :=
  !chars.isEmpty && chars.all Char.isDigit

/-- The sign and the digits of a decimal number. -/
def decimal? (token : String) : Option (Bool × List Char) :=
  match tokenChars token with
  | '-' :: digits => if isDecimal digits then some (true, digits) else none
  | digits => if isDecimal digits then some (false, digits) else none

/-- Reads one token by itself: hexadecimal data before a decimal number before a mnemonic. -/
def readToken (token : String) : Except ParseError Instruction :=
  match hexData? token with
  | some item => .ok (Instruction.push item)
  | none =>
    match decimal? token with
    | some (negative, digits) =>
      if Decimal.digitLimit < digits.length then
        .error (.tooManyDigits digits.length token)
      else
        let value : Int := Nat.ofDigitChars 10 digits 0
        .ok (Instruction.pushNumber (if negative then -value else value))
    | none =>
      match Opcode.find? token with
      | some code => .ok (Instruction.ofCode code)
      | none => .error (.unknownOpcode token)

/-- Reads tokens one after the other. The name of a push with an explicit length takes the next
token as its data. -/
def readTolerantTokens : List String → Except ParseError (List Instruction)
  | [] => .ok []
  | token :: rest =>
    match readToken token with
    | .error e => .error e
    | .ok instruction =>
      match instruction.data, Opcode.pushDataLimit? instruction.code with
      | none, some limit =>
        match rest with
        | [] => .error (.missingPayload instruction.name token)
        | payload :: rest' =>
          match hexData? payload with
          | none => .error (.missingPayload instruction.name token)
          | some item =>
            let name := Opcode.nameOf instruction.code
            if limit < item.length then .error (.payloadTooLong name item.length payload)
            else (readTolerantTokens rest').map (⟨name, instruction.code, some item⟩ :: ·)
      | _, _ => (readTolerantTokens rest).map (instruction :: ·)

def readTolerant (text : String) : Except ParseError (List Instruction) :=
  readTolerantTokens (tokens text)

/-- Reads script text with the strict reader, or else with the tolerant one. -/
def parse (text : String) : Except ParseError (List Instruction) :=
  match readStrict text with
  | some program => .ok program
  | none => readTolerant text

/-- The text of a program, with single spaces between instructions. -/
def format (program : List Instruction) : String :=
  " ".intercalate (program.map Instruction.toText)

end Lockstep.Script
