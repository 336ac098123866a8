import Lockstep.Bytes.Basic

namespace Lockstep.Bytes

/-- The value of a hexadecimal digit of either case. -/
def hexValue? (c : Char) : Option Nat :=
  if '0' ≤ c ∧ c ≤ '9' then some (c.toNat - '0'.toNat)
  else if 'a' ≤ c ∧ c ≤ 'f' then some (c.toNat - 'a'.toNat + 10)
  else if 'A' ≤ c ∧ c ≤ 'F' then some (c.toNat - 'A'.toNat + 10)
  else none

def ofHexPair? (high low : Char) : Option UInt8 :=
  match hexValue? high, hexValue? low with
  | some h, some l => some (UInt8.ofNat (16 * h + l))
  | _, _ => none

def hexPair (byte : UInt8) : List Char :=
  [Nat.digitChar (byte.toNat / 16), Nat.digitChar (byte.toNat % 16)]

/-- Lower-case hexadecimal text, two digits for each byte. -/
def toHex (bytes : Bytes) : String :=
  String.ofList (bytes.flatMap hexPair)

/-- Reads digit pairs behind bytes that were read before, last byte first. -/
def readHexPairs (seen : Bytes) : List Char → Option Bytes
  | [] => some seen.reverse
  | [_] => none
  | high :: low :: rest =>
    match ofHexPair? high low with
    | some byte => readHexPairs (byte :: seen) rest
    | none => none

/-- Reads text that consists of hexadecimal digit pairs only. -/
def ofHexChars? (text : List Char) : Option Bytes :=
  readHexPairs [] text

theorem readHexPairs_eq_map (seen : Bytes) (text : List Char) :
    readHexPairs seen text = (ofHexChars? text).map (seen.reverse ++ ·) := by
  have go : ∀ (n : Nat) (seen : Bytes) (text : List Char), text.length ≤ n →
      readHexPairs seen text = (readHexPairs [] text).map (seen.reverse ++ ·) := by
    intro n
    induction n with
    | zero =>
        intro seen text short
        cases List.eq_nil_of_length_eq_zero (Nat.le_zero.mp short)
        simp [readHexPairs]
    | succ n ih =>
        intro seen text short
        match text with
        | [] => simp [readHexPairs]
        | [_] => simp [readHexPairs]
        | high :: low :: rest =>
            have shorter : rest.length ≤ n := by simp at short; omega
            simp only [readHexPairs]
            cases ofHexPair? high low with
            | none => rfl
            | some byte =>
                simp [ih (byte :: seen) rest shorter, ih [byte] rest shorter, Function.comp_def]
  exact go text.length seen text (Nat.le_refl _)

theorem ofHexChars?_cons_cons (high low : Char) (rest : List Char) :
    ofHexChars? (high :: low :: rest) =
      (ofHexPair? high low).bind fun byte => (ofHexChars? rest).map (byte :: ·) := by
  cases pair : ofHexPair? high low with
  | none => simp [ofHexChars?, readHexPairs, pair]
  | some byte =>
      have step : ofHexChars? (high :: low :: rest) = readHexPairs [byte] rest := by
        simp [ofHexChars?, readHexPairs, pair]
      rw [step, readHexPairs_eq_map]
      rfl

/-- The blanks that may stand between digit pairs: ASCII white space. -/
def isHexBlank (c : Char) : Bool :=
  c = ' ' || ('\t' ≤ c && c ≤ '\r')

/-- Reads hexadecimal digit pairs with blanks allowed around, but not inside, a pair. -/
def ofSpacedHex? : List Char → Option Bytes
  | [] => some []
  | c :: rest =>
    if isHexBlank c then ofSpacedHex? rest
    else
      match rest with
      | [] => none
      | d :: rest' =>
        match ofHexPair? c d, ofSpacedHex? rest' with
        | some byte, some bytes => some (byte :: bytes)
        | _, _ => none

end Lockstep.Bytes
