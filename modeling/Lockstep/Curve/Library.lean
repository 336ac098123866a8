import Lockstep.Curve.Key

/-!
What signature checks take from a library: reading keys and signatures, verifying and signing. All
of it is a parameter of what uses it. The functions on secp256k1 are the ones that are run.
-/

namespace Lockstep.Curve

/-- Why bytes are not read as a public key. -/
inductive KeyError where
  | malformedPoint
  | invalidValue
  | other (cause : Abort)
deriving DecidableEq

/-- What is not about the bytes of a key, and so is not expected where they are read. -/
def KeyError.unexpected? : KeyError → Option Abort
  | malformedPoint | invalidValue => none
  | other cause => some cause

/-- Why a signature is not read, or not accepted. -/
inductive SignatureError where
  | badSignature
  | unexpectedDer
  | malformedSignature
  | invalidValue
  | other (cause : Abort)
deriving DecidableEq

/-- What is not about the bytes of a signature, and so is not expected where it is verified. -/
def SignatureError.unexpected? : SignatureError → Option Abort
  | badSignature | unexpectedDer | malformedSignature | invalidValue => none
  | other cause => some cause

abbrev SignatureReader := Bytes → Except SignatureError Signature

/-- Keys and signatures as a library provides them. -/
class Ecdsa where
  readKey : Bytes → Except KeyError Point
  readRaw : SignatureReader
  readDer : SignatureReader
  /-- Whether a signature, which `read` reads, is one of the digest of a message by a key. -/
  verify (key : Point) (signature message : Bytes) (hash : Bytes → Bytes)
    (read : SignatureReader) : Except SignatureError Bool
  readSecret : Bytes → Except PrivateKeyError Nat
  /-- The signature of the digest of a message, unless the nonce gives none. -/
  sign (secret : Nat) (message : Bytes) (hash : Bytes → Bytes) (nonce : Nat) : Option Bytes
  keyOf? (secret : Nat) : Option Bytes

/-- An answer of the curve as the library gives it, where only a good signature is no error. -/
def answer : Except Abort Bool → Except SignatureError Bool
  | .ok true => .ok true
  | .ok false => .error .badSignature
  | .error cause => .error (.other cause)

/-- A signature that cannot be read is a bad one. -/
def unreadable : SignatureError → SignatureError
  | .unexpectedDer | .malformedSignature => .badSignature
  | e => e

instance secp256k1 : Ecdsa where
  readKey bytes := (publicKey? bytes).elim (.error .malformedPoint) .ok
  readRaw bytes := (Signature.ofBytes? bytes).elim (.error .malformedSignature) .ok
  readDer bytes := (Der.signature? bytes).elim (.error .unexpectedDer) .ok
  verify key signature message hash read :=
    match read signature with
    | .error e => .error (unreadable e)
    | .ok numbers => answer (numbers.verify key (hash message).toNatBE)
  readSecret := privateKey
  sign secret message hash nonce :=
    (Signature.sign? secret (hash message).toNatBE nonce).map Signature.toBytes
  keyOf? secret := (publicKeyOf? secret).map Point.toBytes

end Lockstep.Curve
