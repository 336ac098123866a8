import Lockstep.Curve.Ecdsa

namespace Lockstep.Curve.Der

/-- Reads a length. Lengths from 128 on are written as a count of bytes and that many bytes; both
must be as short as possible. -/
def length? : Bytes → Option (Nat × Bytes)
  | [] => none
  | byte :: rest =>
    if byte.toNat < 0x80 then some (byte.toNat, rest)
    else
      let count := byte.toNat - 0x80
      if count = 0 || rest.length < count then none
      else
        let field := rest.take count
        if field.head? = some 0 || (count = 1 && Bytes.toNatBE field < 0x80) then none
        else some (Bytes.toNatBE field, rest.drop count)

/-- Reads a tag, a length and as many bytes, and gives these bytes and the rest. -/
def element? (tag : UInt8) : Bytes → Option (Bytes × Bytes)
  | [] => none
  | byte :: rest =>
    if byte != tag then none
    else
      match length? rest with
      | none => none
      | some (length, body) =>
        if body.length < length then none else some (body.take length, body.drop length)

/-- The value of the bytes of an integer, which must not be negative nor have an unneeded zero in
front. -/
def integerValue? : Bytes → Option Nat
  | [] => none
  | [byte] => if byte.toNat < 0x80 then some byte.toNat else none
  | byte :: next :: rest =>
    if 0x80 ≤ byte.toNat || (byte = 0 && next.toNat < 0x80) then none
    else some (Bytes.toNatBE (byte :: next :: rest))

/-- Reads an integer, and gives its value and the rest. -/
def integer? (bytes : Bytes) : Option (Nat × Bytes) :=
  match element? 0x02 bytes with
  | none => none
  | some (body, rest) => (integerValue? body).map fun value => (value, rest)

def signature? (bytes : Bytes) : Option Signature :=
  match element? 0x30 bytes with
  | some (body, []) =>
    match integer? body with
    | none => none
    | some (r, rest) =>
      match integer? rest with
      | some (s, []) => some ⟨r, s⟩
      | _ => none
  | _ => none

end Lockstep.Curve.Der
