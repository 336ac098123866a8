import Lockstep.Abort
import Lockstep.Bytes.Basic
import Lockstep.Curve.Point

namespace Lockstep.Curve

/-- A signature as the two numbers it consists of. -/
structure Signature where
  r : Nat
  s : Nat
deriving DecidableEq

namespace Signature

/-- Whether both numbers lie between one and the order. -/
def isInRange (signature : Signature) : Bool :=
  1 ≤ signature.r && signature.r < order && 1 ≤ signature.s && signature.s < order

/-- Whether a signature of a message, given by its digest as a number, was made with the secret of
a public key. The point that decides may be at infinity, which is no answer. -/
def verify (key : Point) (message : Nat) (signature : Signature) : Except Abort Bool :=
  if !signature.isInRange then .ok false
  else
    let inverse := invMod signature.s order
    let first := Projective.multiple (message * inverse % order) (.ofPoint generator)
    let second := Projective.multiple (signature.r * inverse % order) (.ofPoint key)
    match (first.add second).toPoint? with
    | none => .error .pointAtInfinity
    | some point => .ok (point.x % order == signature.r)

/-- The signature of a message with a secret and a nonce, unless the nonce is one of the few that
give none. -/
def sign? (secret message nonce : Nat) : Option Signature :=
  match (Projective.multiple nonce (.ofPoint generator)).toPoint? with
  | none => none
  | some point =>
    let r := point.x % order
    let s := invMod nonce order * ((message + secret * r) % order) % order
    if r = 0 || s = 0 then none else some ⟨r, s⟩

def toBytes (signature : Signature) : Bytes :=
  Bytes.ofNatBE 32 signature.r ++ Bytes.ofNatBE 32 signature.s

def ofBytes? (bytes : Bytes) : Option Signature :=
  if bytes.length = 64 then some ⟨Bytes.toNatBE (bytes.take 32), Bytes.toNatBE (bytes.drop 32)⟩
  else none

end Signature

end Lockstep.Curve
