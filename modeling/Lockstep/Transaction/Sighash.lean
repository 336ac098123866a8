import Lockstep.Curve.Verification
import Lockstep.Machine.Signing
import Lockstep.Transaction.Document

namespace Lockstep

def transactionId (bytes : Bytes) : String :=
  (Digest.doubleSha256 bytes).toHex

namespace Transaction

/-- The four bytes of the index of an input. -/
def indexBytes (index : Int) : Except Abort Bytes :=
  if index < 0 then .error .negativeIndex
  else if 0xffffffff < index then .error .indexTooLarge
  else .ok (Bytes.ofNatLE 4 index.toNat)

/-- The bytes behind the index: all of the transaction is signed. -/
def signAll : Bytes := [1, 0, 0, 0]

/-- The bytes that a signature for an input signs. -/
def signingPreimage (tx : Transaction) (index : Int) : Except Abort Bytes := do
  let bytes ← tx.blanked.serialize
  let suffix ← indexBytes index
  return bytes ++ suffix ++ signAll

/-- The digest of the bytes that a signature for an input signs. -/
def sighash (tx : Transaction) (index : Int) : Except Abort Bytes := do
  return Digest.doubleSha256 (← tx.signingPreimage index)

def checkFor [Curve.Ecdsa] (tx : Transaction) (index : Int) : SignatureCheck :=
  fun signature key => do
    Curve.verifySignature key signature (← tx.sighash index)

end Transaction

end Lockstep
