import Lockstep.Curve.Der
import Lockstep.Digest

namespace Lockstep.Curve

/-- A point from its coordinates, if it is on the curve. -/
def Point.checked? (x y : Nat) : Option Point :=
  let point : Point := ⟨x, y⟩
  if point.isOnCurve then some point else none

/-- A point from 64 bytes, 32 for each coordinate. -/
def Point.ofCoordinates? (bytes : Bytes) : Option Point :=
  checked? (Bytes.toNatBE (bytes.take 32)) (Bytes.toNatBE (bytes.drop 32))

/-- The point with a given first coordinate whose second one is odd or even. -/
def Point.ofFirst? (odd : Bool) (x : Nat) : Option Point :=
  let root := powMod (curveRight x) ((prime + 1) / 4) prime
  checked? x (if odd == (root % 2 == 1) then root else prime - root)

/-- Reads a public key: 64 bytes of coordinates; 65 with a leading byte, which may repeat the parity
of the second coordinate; or 33 with the first coordinate and the parity of the second. -/
def publicKey? (bytes : Bytes) : Option Point :=
  if bytes.length = 64 then Point.ofCoordinates? bytes
  else
    match bytes with
    | [] => none
    | lead :: rest =>
      if rest.length = 64 then
        if lead = 4 then Point.ofCoordinates? rest
        else if lead = 6 ∨ lead = 7 then
          (Point.ofCoordinates? rest).filter fun point => point.y % 2 == lead.toNat % 2
        else none
      else if rest.length = 32 then
        if lead = 2 ∨ lead = 3 then Point.ofFirst? (lead == 3) (Bytes.toNatBE rest) else none
      else none

/-- The bytes of a public key: 32 for each coordinate. -/
def Point.toBytes (point : Point) : Bytes :=
  Bytes.ofNatBE 32 point.x ++ Bytes.ofNatBE 32 point.y

inductive PrivateKeyError where
  | length (received : Nat)
  | range
deriving DecidableEq

def PrivateKeyError.message : PrivateKeyError → String
  | length received => s!"Invalid length of private key, received {received}, expected 32"
  | range => s!"Invalid value for secexp, expected integer between 1 and {order}"

/-- Reads a private key: 32 bytes of a number between one and the order. -/
def privateKey (bytes : Bytes) : Except PrivateKeyError Nat :=
  if bytes.length ≠ 32 then .error (.length bytes.length)
  else
    let secret := bytes.toNatBE
    if 1 ≤ secret ∧ secret < order then .ok secret else .error .range

/-- The public key of a secret between one and the order. -/
def publicKeyOf? (secret : Nat) : Option Point :=
  (Projective.multiple secret (.ofPoint generator)).toPoint?

def messageNumber (message : Bytes) : Nat :=
  (Digest.sha256 message).toNatBE

end Lockstep.Curve
