
namespace Lockstep.Curve

def prime : Nat := 0xfffffffffffffffffffffffffffffffffffffffffffffffffffffffefffffc2f

/-- The number of points of the curve, which is prime too. -/
def order : Nat := 0xfffffffffffffffffffffffffffffffebaaedce6af48a03bbfd25e8cd0364141

/-- A power modulo a number, for exponents of at most `bits` bits. -/
def powModBits (base modulus : Nat) : (bits exponent : Nat) → Nat
  | 0, _ => 1 % modulus
  | bits + 1, exponent =>
    let root := powModBits base modulus bits (exponent / 2)
    let square := root * root % modulus
    if exponent % 2 = 1 then square * base % modulus else square

def powMod (base exponent modulus : Nat) : Nat :=
  powModBits base modulus (exponent.log2 + 1) exponent

/-- The inverse of a number modulo a prime that does not divide it. -/
def invMod (value modulus : Nat) : Nat :=
  powMod value (modulus - 2) modulus

def fieldSub (a b : Nat) : Nat :=
  (a + (prime - b % prime)) % prime

def fieldMul (a b : Nat) : Nat :=
  a * b % prime

structure Point where
  x : Nat
  y : Nat
deriving DecidableEq

/-- The point whose multiples are all points of the curve. -/
def generator : Point where
  x := 0x79be667ef9dcbbac55a06295ce870b07029bfcdb2dce28d959f2815b16f81798
  y := 0x483ada7726a3c4655da4fbfc0e1108a8fd17b448a68554199c47d08ffb10d4b8

/-- The right-hand side of the equation of the curve. -/
def curveRight (x : Nat) : Nat :=
  (x * x * x + 7) % prime

/-- Whether coordinates are reduced and satisfy the equation of the curve. -/
def Point.isOnCurve (point : Point) : Bool :=
  point.x < prime && point.y < prime && fieldMul point.y point.y == curveRight point.x

/-- A point in projective coordinates; the point at infinity has z = 0. -/
structure Projective where
  x : Nat
  y : Nat
  z : Nat

namespace Projective

def infinity : Projective := ⟨1, 1, 0⟩

def ofPoint (point : Point) : Projective := ⟨point.x, point.y, 1⟩

/-- The coordinates of a point, which the point at infinity does not have. -/
def toPoint? (point : Projective) : Option Point :=
  if point.z = 0 then none
  else
    let inverse := invMod point.z prime
    let square := fieldMul inverse inverse
    some ⟨fieldMul point.x square, fieldMul point.y (fieldMul square inverse)⟩

def double (point : Projective) : Projective :=
  if point.z = 0 || point.y = 0 then infinity
  else
    let a := fieldMul point.x point.x
    let b := fieldMul point.y point.y
    let c := fieldMul b b
    let d := 4 * fieldMul point.x b % prime
    let e := 3 * a % prime
    let x := fieldSub (fieldMul e e) (2 * d)
    let y := fieldSub (fieldMul e (fieldSub d x)) (8 * c)
    ⟨x, y, 2 * point.y * point.z % prime⟩

def add (p q : Projective) : Projective :=
  if p.z = 0 then q
  else if q.z = 0 then p
  else
    let pSquare := fieldMul p.z p.z
    let qSquare := fieldMul q.z q.z
    let pX := fieldMul p.x qSquare
    let qX := fieldMul q.x pSquare
    let pY := fieldMul p.y (fieldMul q.z qSquare)
    let qY := fieldMul q.y (fieldMul p.z pSquare)
    if pX = qX then
      if pY = qY then double p else infinity
    else
      let h := fieldSub qX pX
      let r := fieldSub qY pY
      let hSquare := fieldMul h h
      let hCube := fieldMul h hSquare
      let v := fieldMul pX hSquare
      let x := fieldSub (fieldSub (fieldMul r r) hCube) (2 * v)
      let y := fieldSub (fieldMul r (fieldSub v x)) (fieldMul pY hCube)
      ⟨x, y, fieldMul h (fieldMul p.z q.z)⟩

/-- A multiple of a point, for counts of at most `bits` bits. -/
def multipleBits (point : Projective) : (bits count : Nat) → Projective
  | 0, _ => infinity
  | bits + 1, count =>
    let twice := double (multipleBits point bits (count / 2))
    if count % 2 = 1 then add twice point else twice

def multiple (count : Nat) (point : Projective) : Projective :=
  multipleBits point (count.log2 + 1) count

end Projective

end Lockstep.Curve
