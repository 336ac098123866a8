import Lockstep.Proofs.PrimeModuli
import Mathlib.AlgebraicGeometry.EllipticCurve.Affine.Point

namespace Lockstep.Curve

open WeierstrassCurve.Affine

instance : Fact prime.Prime := ⟨prime_prime⟩

def weierstrass : WeierstrassCurve.Affine (ZMod prime) where
  a₁ := 0
  a₂ := 0
  a₃ := 0
  a₄ := 0
  a₆ := 7

section Field

variable {a b : Nat}

theorem fieldMul_lt (a b : Nat) : fieldMul a b < prime :=
  Nat.mod_lt _ prime_prime.pos

theorem fieldSub_lt (a b : Nat) : fieldSub a b < prime :=
  Nat.mod_lt _ prime_prime.pos

@[simp]
theorem cast_fieldMul (a b : Nat) : ((fieldMul a b : Nat) : ZMod prime) = a * b := by
  rw [fieldMul, ZMod.natCast_mod, Nat.cast_mul]

@[simp]
theorem cast_fieldSub (a b : Nat) : ((fieldSub a b : Nat) : ZMod prime) = a - b := by
  have hle : b % prime ≤ prime := (Nat.mod_lt b prime_prime.pos).le
  rw [fieldSub, ZMod.natCast_mod, Nat.cast_add, Nat.cast_sub hle, ZMod.natCast_self,
    ZMod.natCast_mod, zero_sub, sub_eq_add_neg]

theorem cast_eq_cast_iff (ha : a < prime) (hb : b < prime) : (a : ZMod prime) = b ↔ a = b := by
  rw [ZMod.natCast_eq_natCast_iff', Nat.mod_eq_of_lt ha, Nat.mod_eq_of_lt hb]

theorem cast_eq_zero_iff (ha : a < prime) : (a : ZMod prime) = 0 ↔ a = 0 := by
  rw [← Nat.cast_zero, cast_eq_cast_iff ha prime_prime.pos]

theorem cast_ne_zero (hpos : 0 < a) (ha : a < prime) : (a : ZMod prime) ≠ 0 := by
  rw [Ne, cast_eq_zero_iff ha]
  exact hpos.ne'

theorem field_two_ne_zero : (2 : ZMod prime) ≠ 0 :=
  cast_ne_zero (a := 2) (by decide) (by decide)

end Field

section Equation

variable {x y : ZMod prime}

theorem equation_iff : weierstrass.Equation x y ↔ y ^ 2 = x ^ 3 + 7 := by
  rw [WeierstrassCurve.Affine.equation_iff]
  simp [weierstrass]

theorem negY_eq (x y : ZMod prime) : weierstrass.negY x y = -y := by
  simp [weierstrass, negY]

theorem nonsingular_iff : weierstrass.Nonsingular x y ↔ y ^ 2 = x ^ 3 + 7 := by
  rw [WeierstrassCurve.Affine.nonsingular_iff', equation_iff]
  refine and_iff_left_of_imp fun hcurve => ?_
  have hthree : (3 : ZMod prime) ≠ 0 := cast_ne_zero (a := 3) (by decide) (by decide)
  have hseven : (7 : ZMod prime) ≠ 0 := cast_ne_zero (a := 7) (by decide) (by decide)
  by_contra hsingular
  simp only [weierstrass, zero_mul, mul_zero, add_zero, zero_sub, neg_ne_zero, not_or, not_not,
    mul_eq_zero, field_two_ne_zero, hthree, false_or, pow_eq_zero_iff, ne_eq,
    OfNat.ofNat_ne_zero, not_false_eq_true] at hsingular
  obtain ⟨rfl, rfl⟩ := hsingular
  exact hseven (by simpa using hcurve.symm)

theorem addX_eq (x₁ x₂ slope : ZMod prime) :
    weierstrass.addX x₁ x₂ slope = slope ^ 2 - x₁ - x₂ := by
  simp [weierstrass, addX]

theorem addY_eq (x₁ x₂ y₁ slope : ZMod prime) :
    weierstrass.addY x₁ x₂ y₁ slope = slope * (x₁ - weierstrass.addX x₁ x₂ slope) - y₁ := by
  rw [addY, negY_eq, negAddY]
  ring

theorem slope_tangent (x : ZMod prime) (hy : y ≠ 0) :
    weierstrass.slope x x y y * (2 * y) = 3 * x ^ 2 := by
  have hdouble : y - weierstrass.negY x y = 2 * y := by rw [negY_eq]; ring
  have hne : 2 * y ≠ 0 := mul_ne_zero field_two_ne_zero hy
  rw [slope_of_Y_ne rfl (sub_ne_zero.mp (hdouble ▸ hne)), hdouble, div_mul_cancel₀ _ hne]
  simp [weierstrass]

theorem slope_chord {x₁ x₂ : ZMod prime} (y₁ y₂ : ZMod prime) (hx : x₁ ≠ x₂) :
    weierstrass.slope x₁ x₂ y₁ y₂ * (x₁ - x₂) = y₁ - y₂ := by
  rw [slope_of_X_ne hx, div_mul_cancel₀ _ (sub_ne_zero.mpr hx)]

end Equation

/-- A triple stands for the coordinates x / z² and y / z³. -/
structure Projective.HasCoordinates (triple : Projective) (x y : ZMod prime) : Prop where
  y_lt : triple.y < prime
  z_lt : triple.z < prime
  z_ne_zero : triple.z ≠ 0
  cast_x : (triple.x : ZMod prime) = x * triple.z ^ 2
  cast_y : (triple.y : ZMod prime) = y * triple.z ^ 3

/-- A triple represents a point: the one at infinity by z = 0, any other by its coordinates. -/
def Projective.Represents (triple : Projective) : weierstrass.Point → Prop
  | .zero => triple.z = 0
  | .some x y _ => triple.HasCoordinates x y

namespace Projective

section Coordinates

variable {p q : Projective} {x y x₁ y₁ x₂ y₂ : ZMod prime}

theorem HasCoordinates.cast_z_ne_zero (hp : p.HasCoordinates x y) : (p.z : ZMod prime) ≠ 0 := by
  rw [Ne, cast_eq_zero_iff hp.z_lt]
  exact hp.z_ne_zero

theorem HasCoordinates.y_eq_zero_iff (hp : p.HasCoordinates x y) : p.y = 0 ↔ y = 0 := by
  rw [← cast_eq_zero_iff hp.y_lt, hp.cast_y, mul_eq_zero,
    or_iff_left (pow_ne_zero 3 hp.cast_z_ne_zero)]

theorem double_of_y_eq_zero (hp : p.HasCoordinates x 0) : p.double = infinity := by
  simp [double, hp.y_eq_zero_iff.mpr rfl]

theorem hasCoordinates_double (hp : p.HasCoordinates x y) (hy : y ≠ 0) :
    p.double.HasCoordinates (weierstrass.addX x x (weierstrass.slope x x y y))
      (weierstrass.addY x x y (weierstrass.slope x x y y)) := by
  have hyNat : p.y ≠ 0 := hp.y_eq_zero_iff.not.mpr hy
  -- both new coordinates are polynomials in the slope times the new z
  have hslope : 3 * ((x * p.z ^ 2) * (x * p.z ^ 2)) =
      weierstrass.slope x x y y * (2 * y) * (p.z : ZMod prime) ^ 4 := by
    rw [slope_tangent x hy]
    ring
  simp only [double, hp.z_ne_zero, hyNat, decide_false, Bool.or_self, Bool.false_eq_true,
    ↓reduceIte]
  refine ⟨fieldSub_lt _ _, Nat.mod_lt _ prime_prime.pos, ?_, ?_, ?_⟩
  · rw [Ne, ← cast_eq_zero_iff (Nat.mod_lt _ prime_prime.pos), ZMod.natCast_mod, Nat.cast_mul,
      Nat.cast_mul, hp.cast_y]
    exact mul_ne_zero (mul_ne_zero field_two_ne_zero
      (mul_ne_zero hy (pow_ne_zero 3 hp.cast_z_ne_zero))) hp.cast_z_ne_zero
  · simp only [cast_fieldSub, cast_fieldMul, ZMod.natCast_mod, Nat.cast_mul, Nat.cast_ofNat,
      hp.cast_x, hp.cast_y, addX_eq, hslope]
    ring
  · simp only [cast_fieldSub, cast_fieldMul, ZMod.natCast_mod, Nat.cast_mul, Nat.cast_ofNat,
      hp.cast_x, hp.cast_y, addX_eq, addY_eq, hslope]
    ring

theorem HasCoordinates.cast_scaled_x (hp : p.HasCoordinates x y) (z : Nat) :
    ((fieldMul p.x (fieldMul z z) : Nat) : ZMod prime) = x * (p.z * z) ^ 2 := by
  rw [cast_fieldMul, cast_fieldMul, hp.cast_x]
  ring

theorem HasCoordinates.cast_scaled_y (hp : p.HasCoordinates x y) (z : Nat) :
    ((fieldMul p.y (fieldMul z (fieldMul z z)) : Nat) : ZMod prime) = y * (p.z * z) ^ 3 := by
  rw [cast_fieldMul, cast_fieldMul, cast_fieldMul, hp.cast_y]
  ring

theorem scaled_x_eq_iff (hp : p.HasCoordinates x₁ y₁) (hq : q.HasCoordinates x₂ y₂) :
    fieldMul p.x (fieldMul q.z q.z) = fieldMul q.x (fieldMul p.z p.z) ↔ x₁ = x₂ := by
  rw [← cast_eq_cast_iff (fieldMul_lt _ _) (fieldMul_lt _ _), hp.cast_scaled_x, hq.cast_scaled_x,
    mul_comm (q.z : ZMod prime)]
  exact mul_left_inj' (pow_ne_zero 2 (mul_ne_zero hp.cast_z_ne_zero hq.cast_z_ne_zero))

theorem scaled_y_eq_iff (hp : p.HasCoordinates x₁ y₁) (hq : q.HasCoordinates x₂ y₂) :
    fieldMul p.y (fieldMul q.z (fieldMul q.z q.z)) =
      fieldMul q.y (fieldMul p.z (fieldMul p.z p.z)) ↔ y₁ = y₂ := by
  rw [← cast_eq_cast_iff (fieldMul_lt _ _) (fieldMul_lt _ _), hp.cast_scaled_y, hq.cast_scaled_y,
    mul_comm (q.z : ZMod prime)]
  exact mul_left_inj' (pow_ne_zero 3 (mul_ne_zero hp.cast_z_ne_zero hq.cast_z_ne_zero))

theorem add_of_x_eq (hp : p.HasCoordinates x y₁) (hq : q.HasCoordinates x y₂) :
    p.add q = if y₁ = y₂ then p.double else infinity := by
  simp only [add, hp.z_ne_zero, hq.z_ne_zero, (scaled_x_eq_iff hp hq).mpr rfl,
    scaled_y_eq_iff hp hq, ↓reduceIte]

theorem hasCoordinates_add (hp : p.HasCoordinates x₁ y₁) (hq : q.HasCoordinates x₂ y₂)
    (hx : x₁ ≠ x₂) :
    (p.add q).HasCoordinates (weierstrass.addX x₁ x₂ (weierstrass.slope x₁ x₂ y₁ y₂))
      (weierstrass.addY x₁ x₂ y₁ (weierstrass.slope x₁ x₂ y₁ y₂)) := by
  have hpX := hp.cast_scaled_x q.z
  have hpY := hp.cast_scaled_y q.z
  have hqX := hq.cast_scaled_x p.z
  have hqY := hq.cast_scaled_y p.z
  have hne := mul_ne_zero hp.cast_z_ne_zero hq.cast_z_ne_zero
  have hscaled := (scaled_x_eq_iff hp hq).not.mpr hx
  rw [mul_comm (q.z : ZMod prime)] at hqX hqY
  have hslope : y₂ * (p.z * q.z) ^ 3 - y₁ * (p.z * q.z) ^ 3 =
      weierstrass.slope x₁ x₂ y₁ y₂ * (x₂ - x₁) * ((p.z : ZMod prime) * q.z) ^ 3 := by
    linear_combination ((p.z : ZMod prime) * q.z) ^ 3 * slope_chord y₁ y₂ hx
  simp only [add, hp.z_ne_zero, hq.z_ne_zero, hscaled, ↓reduceIte]
  -- from here on only the numbers on the common denominator matter
  generalize fieldMul p.x (fieldMul q.z q.z) = pX at hpX ⊢
  generalize fieldMul q.x (fieldMul p.z p.z) = qX at hqX ⊢
  generalize fieldMul p.y (fieldMul q.z (fieldMul q.z q.z)) = pY at hpY ⊢
  generalize fieldMul q.y (fieldMul p.z (fieldMul p.z p.z)) = qY at hqY ⊢
  refine ⟨fieldSub_lt _ _, fieldMul_lt _ _, ?_, ?_, ?_⟩
  · rw [Ne, ← cast_eq_zero_iff (fieldMul_lt _ _), cast_fieldMul, cast_fieldSub, cast_fieldMul,
      hpX, hqX, ← sub_mul]
    exact mul_ne_zero (mul_ne_zero (sub_ne_zero.mpr (Ne.symm hx)) (pow_ne_zero 2 hne)) hne
  · simp only [cast_fieldSub, cast_fieldMul, Nat.cast_mul, Nat.cast_ofNat, hpX, hpY, hqX, hqY,
      addX_eq, hslope]
    ring
  · simp only [cast_fieldSub, cast_fieldMul, Nat.cast_mul, Nat.cast_ofNat, hpX, hpY, hqX, hqY,
      addX_eq, addY_eq, hslope]
    ring

end Coordinates

variable {p q : Projective} {P Q : weierstrass.Point}

theorem represents_infinity : infinity.Represents 0 :=
  rfl

theorem represents_double (hp : p.Represents P) : p.double.Represents (P + P) := by
  cases P with
  | zero =>
      have hz : p.z = 0 := hp
      simp only [double, hz, decide_true, Bool.true_or, ↓reduceIte]
      exact represents_infinity
  | some x y hpoint =>
      by_cases hy : y = 0
      · -- a vertical tangent meets the curve at infinity
        subst hy
        rw [Point.add_self_of_Y_eq (by rw [negY_eq, neg_zero]), double_of_y_eq_zero hp]
        exact represents_infinity
      · have htangent : y ≠ weierstrass.negY x y := by
          rw [negY_eq, Ne, eq_neg_iff_add_eq_zero, ← two_mul, mul_eq_zero, not_or]
          exact ⟨field_two_ne_zero, hy⟩
        rw [Point.add_self_of_Y_ne htangent]
        exact hasCoordinates_double hp hy

theorem represents_add (hp : p.Represents P) (hq : q.Represents Q) :
    (p.add q).Represents (P + Q) := by
  cases P with
  | zero =>
      have hz : p.z = 0 := hp
      simp only [add, hz, ↓reduceIte]
      exact hq
  | some x₁ y₁ hpoint₁ =>
      cases Q with
      | zero =>
          have hz : q.z = 0 := hq
          simp only [add, hz, HasCoordinates.z_ne_zero hp, ↓reduceIte]
          exact hp
      | some x₂ y₂ hpoint₂ =>
          by_cases hx : x₁ = x₂
          · subst hx
            rw [add_of_x_eq hp hq]
            by_cases hy : y₁ = y₂
            · subst hy
              rw [if_pos rfl]
              exact represents_double hp
            · have hopposite := (Y_eq_of_X_eq hpoint₁.1 hpoint₂.1 rfl).resolve_left hy
              rw [if_neg hy, Point.add_of_Y_eq rfl hopposite]
              exact represents_infinity
          · rw [Point.add_of_X_ne hx]
            exact hasCoordinates_add hp hq hx

theorem represents_multipleBits (hp : p.Represents P) {bits count : Nat}
    (hcount : count < 2 ^ bits) : (multipleBits p bits count).Represents (count • P) := by
  induction bits generalizing count with
  | zero =>
      obtain rfl : count = 0 := by simpa using hcount
      rw [zero_nsmul]
      exact represents_infinity
  | succ bits ih =>
      have hhalf : count / 2 < 2 ^ bits := by omega
      have htwice := represents_double (ih hhalf)
      rw [← add_nsmul] at htwice
      simp only [multipleBits]
      split
      · rename_i hodd
        have hsum := represents_add htwice hp
        rw [← succ_nsmul] at hsum
        convert hsum using 2
        omega
      · convert htwice using 2
        omega

/-- Multiples of triples represent the multiples of points. -/
theorem represents_multiple (hp : p.Represents P) (count : Nat) :
    (multiple count p).Represents (count • P) :=
  represents_multipleBits hp Nat.lt_log2_self

theorem toPoint?_of_represents_zero (hp : p.Represents 0) : p.toPoint? = none :=
  if_pos hp

theorem toPoint?_of_hasCoordinates {x y : ZMod prime} (hp : p.HasCoordinates x y) :
    p.toPoint? = some ⟨x.val, y.val⟩ := by
  have hz := hp.cast_z_ne_zero
  have hinverse := cast_invMod prime_prime hz
  simp only [toPoint?, if_neg hp.z_ne_zero, Option.some.injEq, Point.mk.injEq]
  constructor
  · rw [← ZMod.val_natCast_of_lt (fieldMul_lt _ _)]
    simp only [cast_fieldMul, hinverse, hp.cast_x]
    field_simp
  · rw [← ZMod.val_natCast_of_lt (fieldMul_lt _ _)]
    simp only [cast_fieldMul, hinverse, hp.cast_y]
    field_simp

end Projective

namespace Point

open Classical in
/-- The point of the group with given coordinates. Coordinates that are not those of a point on the
curve count as infinity. -/
noncomputable def inGroup (point : Point) : weierstrass.Point :=
  if hpoint : weierstrass.Nonsingular (point.x : ZMod prime) point.y then .some _ _ hpoint else 0

theorem nonsingular_of_isOnCurve {point : Point} (hpoint : point.isOnCurve = true) :
    weierstrass.Nonsingular (point.x : ZMod prime) point.y := by
  simp only [isOnCurve, Bool.and_eq_true, decide_eq_true_eq, beq_iff_eq] at hpoint
  have hcast := congrArg (Nat.cast : Nat → ZMod prime) hpoint.2
  rw [cast_fieldMul, curveRight, ZMod.natCast_mod] at hcast
  push_cast at hcast
  rw [nonsingular_iff, pow_two, hcast]
  ring

theorem represents_ofPoint {point : Point} (hpoint : point.isOnCurve = true) :
    (Projective.ofPoint point).Represents point.inGroup := by
  have hnonsingular := nonsingular_of_isOnCurve hpoint
  simp only [isOnCurve, Bool.and_eq_true, decide_eq_true_eq] at hpoint
  rw [inGroup, dif_pos hnonsingular]
  refine ⟨hpoint.1.2, prime_prime.one_lt, one_ne_zero, ?_, ?_⟩
  · simp [Projective.ofPoint]
  · simp [Projective.ofPoint]

theorem isOnCurve_generator : generator.isOnCurve = true := by
  decide +kernel

end Point

end Lockstep.Curve
