import Lockstep.Curve.Library

namespace Lockstep.Curve

variable [Ecdsa]

/-- The byte strings that may hold a signature, with the reader for each, in the order in which they
are tried. Bytes that begin like DER are only ever DER, whole or without a byte at the end;
otherwise 64 bytes are two numbers, with one more byte or none at the end. -/
def signatureEncodings (signature : Bytes) : List (Bytes × SignatureReader) :=
  if signature.head? = some 0x30 then
    [(signature, Ecdsa.readDer), (signature.dropLast, Ecdsa.readDer)]
  else if signature.length = 64 ∨ signature.length = 65 then [(signature.take 64, Ecdsa.readRaw)]
  else []

/-- Whether one of several encodings holds a good signature. -/
def verifyAny (key : Point) (message : Bytes) :
    List (Bytes × SignatureReader) → Except Abort Bool
  | [] => .ok false
  | (signature, read) :: rest =>
    match Ecdsa.verify key signature message Digest.sha256 read with
    | .ok true => .ok true
    | .ok false => verifyAny key message rest
    | .error e =>
      match e.unexpected? with
      | some cause => .error cause
      | none => verifyAny key message rest

/-- Whether a signature of a message was made with the private key of a public key. Bytes that are
no key or no signature verify nothing. -/
def verifySignature (key signature message : Bytes) : Except Abort Bool :=
  match Ecdsa.readKey key with
  | .error e =>
    match e.unexpected? with
    | some cause => .error cause
    | none => .ok false
  | .ok point => verifyAny point message (signatureEncodings signature)

end Lockstep.Curve
