/-!
Floating-point numbers of 64 bits and their decimal text.

A number is kept as its bit pattern, and both directions compute exactly with natural numbers:
`nearest` gives the number closest to a decimal, and `shortest` the fewest decimal digits that read
back as the number.
-/

namespace Lockstep

/-- A floating-point number of 64 bits, by its bit pattern. -/
structure Double where
  bits : UInt64
deriving DecidableEq

namespace Double

def signMask : Nat := 0x8000000000000000

/-- The pattern of positive infinity; larger patterns without a sign are not numbers. -/
def infinityPattern : Nat := 0x7ff0000000000000

/-- One more than the largest fraction: the implicit leading bit of a normal number. -/
def leadingBit : Nat := 0x10000000000000

def pattern (x : Double) : Nat :=
  x.bits.toNat % signMask

def isNegative (x : Double) : Bool :=
  signMask ≤ x.bits.toNat

/-- Whether the pattern stands for no number at all. -/
def isNaN (x : Double) : Bool :=
  infinityPattern < x.pattern

def ofPattern (negative : Bool) (pattern : Nat) : Double :=
  ⟨UInt64.ofNat (pattern + if negative then signMask else 0)⟩

def nan : Double :=
  ofPattern false 0x7ff8000000000000

def infinity (negative : Bool) : Double :=
  ofPattern negative infinityPattern

def sameValue (x y : Double) : Bool :=
  !x.isNaN && !y.isNaN && (x.bits == y.bits || (x.pattern == 0 && y.pattern == 0))

/-! ### From decimal text -/

/-- A quotient rounded to the nearest natural number, a half to the even neighbour. -/
def roundQuotient (numerator denominator : Nat) : Nat :=
  let quotient := numerator / denominator
  let twice := 2 * (numerator % denominator)
  if twice < denominator then quotient
  else if denominator < twice then quotient + 1
  else quotient + quotient % 2

/-- The pattern of the number nearest to a positive fraction. The significand has 53 bits, fewer
only at the least exponent. -/
def nearestPattern (numerator denominator : Nat) : Nat :=
  let estimate : Int := (numerator.log2 : Int) - denominator.log2
  let reached :=
    denominator * Nat.pow 2 estimate.toNat ≤ numerator * Nat.pow 2 (-estimate).toNat
  let exponent : Int := max (if reached then estimate - 52 else estimate - 53) (-1074)
  let significand := roundQuotient (numerator * Nat.pow 2 (-exponent).toNat)
    (denominator * Nat.pow 2 exponent.toNat)
  let pattern :=
    if significand < leadingBit then significand
    else (exponent + 1075).toNat * leadingBit + (significand - leadingBit)
  min pattern infinityPattern

/-- The number nearest to `digits` times ten to the power `exponent`. -/
def nearest (negative : Bool) (digits : Nat) (exponent : Int) : Double :=
  let magnitude : Int := digits.repr.length + exponent
  if digits = 0 || magnitude < -400 then ofPattern negative 0
  else if 400 < magnitude then infinity negative
  else
    ofPattern negative <| nearestPattern (digits * Nat.pow 10 exponent.toNat)
      (Nat.pow 10 (-exponent).toNat)

/-! ### To decimal text -/

/-- A positive finite number as a significand and the exponent of two it is multiplied by. -/
def significand (x : Double) : Nat × Int :=
  let exponent := x.pattern / leadingBit
  let fraction := x.pattern % leadingBit
  if exponent = 0 then (fraction, -1074) else (fraction + leadingBit, (exponent : Int) - 1075)

/-- The reals that read back as one number, in quarters of its unit: between `low` and `high`
around `value`, ends included or not, each times `scale` over `divisor`. -/
structure Interval where
  low : Nat
  value : Nat
  high : Nat
  closed : Bool
  scale : Nat
  divisor : Nat

/-- The reals that read back as a positive finite number. Below a power of two the numbers lie
twice as dense. -/
def interval (x : Double) : Interval :=
  let (m, q) := x.significand
  let narrow := m = leadingBit ∧ -1074 < q
  { low := 4 * m - (if narrow then 1 else 2)
    value := 4 * m
    high := 4 * m + 2
    closed := m % 2 = 0
    scale := Nat.pow 2 (q - 2).toNat
    divisor := Nat.pow 2 (2 - q).toNat }

/-- Whether `n` steps of a decimal grid lie in an interval, both scaled to natural numbers. -/
def Interval.contains (i : Interval) (n step unit : Nat) : Bool :=
  if i.closed then i.low * unit ≤ n * step && n * step ≤ i.high * unit
  else i.low * unit < n * step && n * step < i.high * unit

/-- The multiple of ten to the power `place` in the interval that is nearest to its value. -/
def Interval.onGrid? (i : Interval) (place : Int) : Option Nat :=
  let step := Nat.pow 10 place.toNat * i.divisor
  let unit := i.scale * Nat.pow 10 (-place).toNat
  let below := i.value * unit / step
  let distance := 2 * (i.value * unit - below * step)
  let preferBelow := distance < step || (distance == step && below % 2 == 0)
  match i.contains below step unit, i.contains (below + 1) step unit with
  | true, true => some (if preferBelow then below else below + 1)
  | true, false => some below
  | false, true => some (below + 1)
  | false, false => none

/-- The exponent of the leading decimal digit of a value. -/
def Interval.leadingPlace (i : Interval) : Int :=
  let numerator := i.value * i.scale
  let estimate : Int := (numerator.repr.length : Int) - i.divisor.repr.length
  if i.divisor * Nat.pow 10 estimate.toNat ≤ numerator * Nat.pow 10 (-estimate).toNat
  then estimate else estimate - 1

/-- The fewest decimal digits that read back as a positive finite number, and the power of ten that
they are multiplied by: the coarsest grid with a point in the interval. -/
def shortest (x : Double) : Nat × Int :=
  let i := x.interval
  let top := i.leadingPlace
  let grids := (List.range 17).map fun (n : Nat) => top - (n : Int)
  let hit := grids.findSome? fun place => (i.onGrid? place).map fun digits => (digits, place)
  hit.getD (0, 0)

/-- The digits without the zeros at their end, for which the exponent makes up. -/
def dropZeros (digits : List Char) : List Char :=
  (digits.reverse.dropWhile (· == '0')).reverse

/-- The sign and at least two digits of an exponent of ten. -/
def exponentText (exponent : Int) : List Char :=
  let digits := exponent.natAbs.repr.toList
  (if exponent < 0 then '-' else '+') :: (if digits.length < 2 then '0' :: digits else digits)

/-- Digits with a decimal point after the first `whole` of them, filled up with zeros where they do
not reach, and at least one digit on each side. -/
def positional (digits : List Char) (whole : Int) : List Char :=
  if whole ≤ 0 then '0' :: '.' :: (List.replicate (-whole).toNat '0' ++ digits)
  else
    let count := whole.toNat
    let front := digits.take count ++ List.replicate (count - digits.length) '0'
    let back := digits.drop count
    front ++ '.' :: (if back.isEmpty then ['0'] else back)

/-- Digits with a decimal point after the first of them, if there are more, and an exponent. -/
def scientific (digits : List Char) (exponent : Int) : List Char :=
  match digits with
  | [] => []
  | [d] => d :: 'e' :: exponentText exponent
  | d :: rest => d :: '.' :: (rest ++ 'e' :: exponentText exponent)

/-- The text of a positive finite number: with an exponent below -4 and from 16 on. -/
def magnitudeText (x : Double) : List Char :=
  let (value, place) := x.shortest
  let all := value.repr.toList
  let digits := dropZeros all
  let exponent : Int := all.length + place - 1
  if exponent < -4 || 16 ≤ exponent then scientific digits exponent
  else positional digits (exponent + 1)

def toText (x : Double) : List Char :=
  if x.isNaN then "NaN".toList
  else
    let magnitude :=
      if x.pattern = infinityPattern then "Infinity".toList
      else if x.pattern = 0 then "0.0".toList
      else x.magnitudeText
    if x.isNegative then '-' :: magnitude else magnitude

end Double

end Lockstep
