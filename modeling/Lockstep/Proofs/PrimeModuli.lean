import Lockstep.Curve.Point
import Mathlib.FieldTheory.Finite.Basic
import Mathlib.NumberTheory.LucasPrimality
import Mathlib.Tactic.NormNum.Prime

namespace Lockstep.Curve

theorem powModBits_eq (base modulus : Nat) {bits exponent : Nat} (hbits : exponent < 2 ^ bits) :
    powModBits base modulus bits exponent = base ^ exponent % modulus := by
  induction bits generalizing exponent with
  | zero =>
      obtain rfl : exponent = 0 := by simpa using hbits
      rfl
  | succ bits ih =>
      have hhalf : exponent / 2 < 2 ^ bits := by omega
      have hsquare : base ^ (exponent / 2) % modulus * (base ^ (exponent / 2) % modulus) %
          modulus = base ^ (exponent / 2 + exponent / 2) % modulus := by
        rw [← Nat.mul_mod, pow_add]
      simp only [powModBits, ih hhalf, hsquare]
      split
      · rename_i hodd
        rw [Nat.mod_mul_mod, ← pow_succ]
        congr 2
        omega
      · congr 2
        omega

theorem powMod_eq (base exponent modulus : Nat) :
    powMod base exponent modulus = base ^ exponent % modulus :=
  powModBits_eq base modulus Nat.lt_log2_self

/-- Why a number is prime: a residue, and the primes whose product is one less than the number. -/
structure PrimeCertificate where
  number : Nat
  root : Nat
  factors : List Nat

namespace PrimeCertificate

/-- Whether the powers of the residue come back to one only in the end, and whether all of the
factors are known to be prime. -/
def isGood (known : List Nat) (certificate : PrimeCertificate) : Bool :=
  let last := certificate.number - 1
  1 < certificate.number && certificate.factors.prod == last &&
    powMod certificate.root last certificate.number == 1 &&
    certificate.factors.all fun factor =>
      known.contains factor && powMod certificate.root (last / factor) certificate.number != 1

/-- Whether certificates are good in which a number, once certified, is known from then on. -/
def areGood : List Nat → List PrimeCertificate → Bool
  | _, [] => true
  | known, certificate :: rest =>
    certificate.isGood known && areGood (certificate.number :: known) rest

theorem cast_pow_eq_one_iff {modulus : Nat} (hmodulus : 1 < modulus) (base exponent : Nat) :
    (base : ZMod modulus) ^ exponent = 1 ↔ powMod base exponent modulus = 1 := by
  rw [powMod_eq, ← Nat.cast_pow, ← Nat.cast_one, ZMod.natCast_eq_natCast_iff',
    Nat.mod_eq_of_lt hmodulus]

theorem prime_of_isGood {known : List Nat} {certificate : PrimeCertificate}
    (hknown : ∀ number ∈ known, number.Prime) (hgood : certificate.isGood known = true) :
    certificate.number.Prime := by
  simp only [isGood, Bool.and_eq_true, decide_eq_true_eq, beq_iff_eq, List.all_eq_true,
    List.contains_iff_mem, bne_iff_ne] at hgood
  obtain ⟨⟨⟨hlarge, hproduct⟩, hlast⟩, hfactors⟩ := hgood
  refine lucas_primality _ (certificate.root : ZMod certificate.number) ?_ ?_
  · exact (cast_pow_eq_one_iff hlarge _ _).mpr hlast
  · intro divisor hdivisor hdvd
    rw [← hproduct] at hdvd
    obtain ⟨factor, hmem, hdvd⟩ := (Prime.dvd_prod_iff hdivisor.prime).mp hdvd
    obtain ⟨hfactor, hpower⟩ := hfactors factor hmem
    obtain rfl := (Nat.prime_dvd_prime_iff_eq hdivisor (hknown factor hfactor)).mp hdvd
    exact fun hone => hpower ((cast_pow_eq_one_iff hlarge _ _).mp hone)

theorem prime_of_areGood {known : List Nat} {certificates : List PrimeCertificate}
    (hknown : ∀ number ∈ known, number.Prime) (hgood : areGood known certificates = true) :
    ∀ number ∈ certificates.map PrimeCertificate.number, number.Prime := by
  induction certificates generalizing known with
  | nil => simp
  | cons certificate rest ih =>
      simp only [areGood, Bool.and_eq_true] at hgood
      have hprime := prime_of_isGood hknown hgood.1
      refine List.forall_mem_cons.mpr ⟨hprime, ih ?_ hgood.2⟩
      exact List.forall_mem_cons.mpr ⟨hprime, hknown⟩

end PrimeCertificate

/-- The primes that are small enough to be tried out. -/
def smallPrimes : List Nat :=
  [2, 3, 5, 7, 11, 17, 19, 29, 31, 41, 53, 59, 97, 109, 113, 149, 293, 461, 631, 797, 971, 1373,
    1627, 1871, 2011, 2621, 2657, 2731, 4051, 4423, 5323, 7723, 9349, 13441, 16699, 20113, 24809,
    28181, 41201, 85831, 96557]

/-- Certificates of the order, and of the primes that it takes. -/
def orderCertificates : List PrimeCertificate := [
  ⟨4681609, 23, [2, 2, 2, 3, 97, 2011]⟩,
  ⟨107361793816595537, 3, [2, 2, 2, 2, 16699, 85831, 4681609]⟩,
  ⟨120233, 3, [2, 2, 2, 7, 19, 113]⟩,
  ⟨44706919, 6, [2, 3, 797, 9349]⟩,
  ⟨174723607534414371449, 3, [2, 2, 2, 17, 59, 4051, 120233, 44706919]⟩,
  ⟨305873, 3, [2, 2, 2, 2, 7, 2731]⟩,
  ⟨545358713, 5, [2, 2, 2, 41, 59, 28181]⟩,
  ⟨1627771, 3, [2, 3, 5, 29, 1871]⟩,
  ⟨297159362677, 2, [2, 2, 3, 3, 11, 461, 1627771]⟩,
  ⟨29047611873442575647497758179, 2, [2, 293, 305873, 545358713, 297159362677]⟩,
  ⟨341948486974166000522343609283189, 2, [2, 2, 3, 3, 3, 109, 29047611873442575647497758179]⟩,
  ⟨order, 7, [2, 2, 2, 2, 2, 2, 3, 149, 631, 107361793816595537, 174723607534414371449,
    341948486974166000522343609283189]⟩]

/-- Certificates of the prime of the field, and of the primes that it takes. -/
def primeCertificates : List PrimeCertificate := [
  ⟨13331831, 13, [2, 5, 971, 1373]⟩,
  ⟨173378833005251801, 6, [2, 2, 2, 5, 5, 2621, 24809, 13331831]⟩,
  ⟨22149492674086928081353, 5, [2, 2, 2, 3, 5323, 173378833005251801]⟩,
  ⟨132896956044521568488119, 6, [2, 3, 22149492674086928081353]⟩,
  ⟨1206781, 10, [2, 2, 3, 5, 20113]⟩,
  ⟨7240687, 3, [2, 3, 1206781]⟩,
  ⟨107590001, 3, [2, 2, 2, 2, 5, 5, 5, 5, 7, 29, 53]⟩,
  ⟨255515944373312847190720520512484175977, 3, [2, 2, 2, 7, 7, 11, 1627, 2657, 4423, 41201,
    96557, 7240687, 107590001]⟩,
  ⟨205115282021455665897114700593932402728804164701536103180137503955397371, 10, [2, 3, 5, 29, 29,
    31, 7723, 132896956044521568488119, 255515944373312847190720520512484175977]⟩,
  ⟨prime, 3, [2, 3, 7, 13441,
    205115282021455665897114700593932402728804164701536103180137503955397371]⟩]

theorem prime_of_mem_smallPrimes : ∀ number ∈ smallPrimes, number.Prime := by
  simp only [smallPrimes, List.forall_mem_cons]
  norm_num

theorem order_prime : order.Prime := by
  have hgood : PrimeCertificate.areGood smallPrimes orderCertificates = true := by decide +kernel
  exact PrimeCertificate.prime_of_areGood prime_of_mem_smallPrimes hgood order (by decide +kernel)

theorem prime_prime : prime.Prime := by
  have hgood : PrimeCertificate.areGood smallPrimes primeCertificates = true := by decide +kernel
  exact PrimeCertificate.prime_of_areGood prime_of_mem_smallPrimes hgood prime (by decide +kernel)

/-- Modulo a prime, the power that is taken for the inverse is the inverse. -/
theorem cast_invMod {modulus value : Nat} (hprime : modulus.Prime)
    (hvalue : (value : ZMod modulus) ≠ 0) :
    ((invMod value modulus : Nat) : ZMod modulus) = (value : ZMod modulus)⁻¹ := by
  have := Fact.mk hprime
  have hexponent : modulus - 2 + 1 = modulus - 1 := by have := hprime.two_le; omega
  rw [invMod, powMod_eq, ZMod.natCast_mod, Nat.cast_pow]
  apply eq_inv_of_mul_eq_one_left
  rw [← pow_succ, hexponent, ZMod.pow_card_sub_one_eq_one hvalue]

end Lockstep.Curve
