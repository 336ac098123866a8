import Lockstep.Digest
import Lockstep.Text.Blank
import Lockstep.Text.Quoted

namespace Lockstep.Base58

def alphabet : List Char :=
  "123456789ABCDEFGHJKLMNPQRSTUVWXYZabcdefghijkmnopqrstuvwxyz".toList

def digit (value : Nat) : Char :=
  alphabet.getD value '1'

def value? (c : Char) : Option Nat :=
  alphabet.findIdx? (· == c)

/-- The digits of a number, most significant first, in front of others. Zero has none. -/
def digits (n : Nat) (behind : List Char) : List Char :=
  if n = 0 then behind else digits (n / 58) (digit (n % 58) :: behind)
termination_by n
decreasing_by omega

/-- The text of a byte string. -/
def encode (bytes : Bytes) : String :=
  let zeros := (bytes.takeWhile (· == 0)).length
  String.ofList (List.replicate zeros '1' ++ digits bytes.toNatBE [])

inductive Base58Error where
  | notAscii
  /-- The text has a character that is no digit. -/
  | invalidCharacter (c : Char)
  | invalidChecksum
deriving DecidableEq

def Base58Error.message : Base58Error → String
  | notAscii => "ordinal not in range(128)"
  | invalidCharacter c => "Invalid character " ++ Text.quoted (String.singleton c)
  | invalidChecksum => "Invalid base58 checksum"

def number (seen : Nat) : List Char → Except Base58Error Nat
  | [] => .ok seen
  | c :: rest =>
    match value? c with
    | some value => number (seen * 58 + value) rest
    | none => .error (.invalidCharacter c)

/-- Reads a text. Blanks at its end do not count. -/
def decode (text : String) : Except Base58Error Bytes :=
  let chars := Text.trimEnd text.toList
  if chars.any (0x80 ≤ ·.toNat) then .error .notAscii
  else
    match number 0 (chars.dropWhile (· == '1')) with
    | .error e => .error e
    | .ok value =>
      .ok (List.replicate (chars.takeWhile (· == '1')).length 0 ++
        Bytes.ofNatBE (Bytes.widthOf value) value)

/-- Base58 as a library provides it. -/
class Codec where
  encode : Bytes → String
  decode : String → Except Base58Error Bytes

instance plain : Codec where
  encode := encode
  decode := decode

def checksum (bytes : Bytes) : Bytes :=
  (Digest.doubleSha256 bytes).take 4

/-- The text of a byte string with its checksum. -/
def encodeChecked [Codec] (bytes : Bytes) : String :=
  Codec.encode (bytes ++ checksum bytes)

/-- Reads a text whose last four bytes are the checksum of those before. -/
def decodeChecked [Codec] (text : String) : Except Base58Error Bytes :=
  match Codec.decode text with
  | .error e => .error e
  | .ok bytes =>
    let body := bytes.take (bytes.length - 4)
    if checksum body == bytes.drop (bytes.length - 4) then .ok body
    else .error .invalidChecksum

end Lockstep.Base58
