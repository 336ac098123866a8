import Mathlib.Data.Nat.Bitwise
import Lockstep.Script.Number

/-!
The coding of script numbers. An item of some length has one bit for the sign, and the rest of it
holds any magnitude below that bit. So the shortest form of a number is the only item of its length
that stands for the number, and no shorter one does.

The bytes that are written one after the other are those of the closed form `fixed`, in which the
sign is added to the magnitude at the place that `width` gives.
-/

namespace Lockstep.ScriptNum

/-- The form of a number that takes exactly `width` bytes. -/
def fixed (width : Nat) (n : Int) : Bytes :=
  Bytes.ofNatLE width (n.natAbs + if n < 0 then signBit width else 0)

/-- The fewest bytes that hold a number with its sign. -/
def width (n : Int) : Nat :=
  if n = 0 then 0 else (n.natAbs.log2 + 1) / 8 + 1

theorem signBit_pos (width : Nat) : 0 < signBit width := by
  rw [signBit, Nat.pow_eq]
  exact Nat.mul_pos (by decide) (Nat.pow_pos (by decide))

theorem pow_eq_two_mul_signBit {width : Nat} (hwidth : 0 < width) :
    Nat.pow 256 width = 2 * signBit width := by
  obtain ⟨width, rfl⟩ := Nat.exists_eq_succ_of_ne_zero (Nat.ne_of_gt hwidth)
  rw [signBit, Nat.pow_eq, Nat.pow_eq, Nat.pow_succ, Nat.succ_sub_one]
  omega

theorem signBit_eq_two_pow {width : Nat} (hwidth : 0 < width) :
    signBit width = Nat.pow 2 (8 * width - 1) := by
  obtain ⟨width, rfl⟩ := Nat.exists_eq_succ_of_ne_zero (Nat.ne_of_gt hwidth)
  have hexponent : 8 * (width + 1) - 1 = 7 + 8 * width := by omega
  rw [signBit, Nat.succ_sub_one, hexponent, Nat.pow_eq, Nat.pow_eq, Nat.pow_add, Nat.pow_mul]

theorem width_eq_zero_iff (n : Int) : width n = 0 ↔ n = 0 := by
  unfold width
  split
  · simpa
  · simpa

theorem width_le_iff (n : Int) {bytes : Nat} (hpos : 0 < bytes) :
    width n ≤ bytes ↔ n.natAbs < signBit bytes := by
  by_cases hzero : n = 0
  · have hwidth := (width_eq_zero_iff n).mpr hzero
    have hsign := signBit_pos bytes
    omega
  · have hmagnitude : n.natAbs ≠ 0 := by omega
    rw [signBit_eq_two_pow hpos, Nat.pow_eq, ← Nat.log2_lt hmagnitude, width, if_neg hzero]
    omega

theorem decode_of_lt {item : Bytes} (hplain : item.valueLE < signBit item.length) :
    decode item = item.valueLE := by
  unfold decode
  rw [Bytes.toNatLE_eq_valueLE]
  split
  · rename_i hempty
    rw [List.isEmpty_iff.mp hempty]
    rfl
  · dsimp only
    rw [if_neg (Nat.not_le.mpr hplain)]

theorem decode_of_le {item : Bytes} (hsome : item ≠ [])
    (hsigned : signBit item.length ≤ item.valueLE) :
    decode item = -((item.valueLE - signBit item.length : Nat) : Int) := by
  unfold decode
  rw [Bytes.toNatLE_eq_valueLE, if_neg (by simpa using hsome)]
  dsimp only
  rw [if_pos hsigned]

theorem natAbs_decode_lt {item : Bytes} (hsome : item ≠ []) :
    (decode item).natAbs < signBit item.length := by
  have hlength : 0 < item.length := List.length_pos_iff.mpr hsome
  have hvalue := item.valueLE_lt
  rw [pow_eq_two_mul_signBit hlength] at hvalue
  rcases Nat.lt_or_ge item.valueLE (signBit item.length) with hplain | hsigned
  · rw [decode_of_lt hplain]
    omega
  · rw [decode_of_le hsome hsigned]
    omega

theorem length_fixed (bytes : Nat) (n : Int) : (fixed bytes n).length = bytes := by
  rw [fixed, Bytes.length_ofNatLE]

theorem valueLE_fixed {bytes : Nat} {n : Int} (hpos : 0 < bytes)
    (hfits : n.natAbs < signBit bytes) :
    (fixed bytes n).valueLE = n.natAbs + if n < 0 then signBit bytes else 0 := by
  rw [fixed, Bytes.ofNatLE_eq_digitsLE, Bytes.valueLE_digitsLE, pow_eq_two_mul_signBit hpos]
  apply Nat.mod_eq_of_lt
  split <;> omega

theorem decode_fixed {bytes : Nat} {n : Int} (hfits : width n ≤ bytes) :
    decode (fixed bytes n) = n := by
  rcases Nat.eq_zero_or_pos bytes with rfl | hpos
  · obtain rfl : n = 0 := (width_eq_zero_iff n).mp (Nat.le_zero.mp hfits)
    rfl
  · have hmagnitude := (width_le_iff n hpos).mp hfits
    have hvalue := valueLE_fixed hpos hmagnitude
    have hlength := length_fixed bytes n
    by_cases hnegative : n < 0
    · rw [if_pos hnegative] at hvalue
      have hsome : fixed bytes n ≠ [] := by
        apply List.ne_nil_of_length_pos
        omega
      rw [decode_of_le hsome (by rw [hlength]; omega), hvalue, hlength]
      omega
    · rw [if_neg hnegative] at hvalue
      rw [decode_of_lt (by rw [hlength]; omega), hvalue]
      omega

theorem fixed_decode {item : Bytes} (hnonzero : decode item ≠ 0) :
    fixed item.length (decode item) = item := by
  have hsome : item ≠ [] := by
    rintro rfl
    exact hnonzero rfl
  have hvalue : (decode item).natAbs + (if decode item < 0 then signBit item.length else 0) =
      item.valueLE := by
    rcases Nat.lt_or_ge item.valueLE (signBit item.length) with hplain | hsigned
    · rw [decode_of_lt hplain, if_neg (by omega)]
      omega
    · rw [decode_of_le hsome hsigned] at hnonzero ⊢
      rw [if_pos (by omega)]
      omega
  rw [fixed, hvalue, Bytes.ofNatLE_eq_digitsLE, Bytes.digitsLE_valueLE]

theorem width_decode_le (item : Bytes) : width (decode item) ≤ item.length := by
  cases item with
  | nil => exact Nat.le_refl 0
  | cons byte rest =>
      exact (width_le_iff _ (Nat.succ_pos _)).mpr (natAbs_decode_lt (List.cons_ne_nil byte rest))

theorem width_decode_eq_length {item : Bytes} (hnonzero : decode item ≠ 0)
    (hlarge : signBit (item.length - 1) ≤ (decode item).natAbs ∨ item.length = 1) :
    width (decode item) = item.length := by
  have hwidth := width_decode_le item
  have hsome : width (decode item) ≠ 0 := fun h => hnonzero ((width_eq_zero_iff _).mp h)
  rcases hlarge with hlarge | hone
  · by_contra hother
    have hshorter := (width_le_iff (decode item) (show 0 < item.length - 1 by omega)).mp (by omega)
    omega
  · omega

section Bits

theorem toNat_and_low_bits (byte : UInt8) : (byte &&& 0x7f).toNat = byte.toNat % 128 := by
  rw [UInt8.toNat_and]
  exact Nat.and_two_pow_sub_one_eq_mod byte.toNat 7

theorem toNat_and_top_bit (byte : UInt8) :
    (byte &&& 0x80).toNat = if 128 ≤ byte.toNat then 128 else 0 := by
  have hbyte := byte.toNat_lt
  have htop : byte.toNat &&& 128 = (byte.toNat.testBit 7).toNat * 128 :=
    Nat.and_two_pow byte.toNat 7
  rw [UInt8.toNat_and]
  change byte.toNat &&& 128 = _
  rw [htop, Nat.testBit_eq_decide_div_mod_eq]
  split
  · rw [decide_eq_true (by omega)]
    rfl
  · rw [decide_eq_false (by omega)]
    rfl

theorem and_top_bit_ne_zero_iff (byte : UInt8) : byte &&& 0x80 ≠ 0 ↔ 128 ≤ byte.toNat := by
  rw [ne_eq, ← UInt8.toNat_inj, toNat_and_top_bit, UInt8.toNat_zero]
  split <;> simp_all

theorem toNat_or_top_bit {byte : UInt8} (hfree : byte.toNat < 128) :
    (byte ||| 0x80).toNat = byte.toNat + 128 := by
  have htop : (0x80 : UInt8).toNat = 2 ^ 7 * 1 := rfl
  rw [UInt8.toNat_or, htop, Nat.or_comm, ← Nat.two_pow_add_eq_or_of_lt hfree, Nat.add_comm]

end Bits

theorem valueLE_concat (front : Bytes) (last : UInt8) :
    Bytes.valueLE (front ++ [last]) =
      front.valueLE + Nat.pow 256 front.length * last.toNat := by
  rw [Bytes.valueLE_append, Bytes.valueLE_cons, Bytes.valueLE_nil, Nat.mul_zero, Nat.add_zero]

theorem signBit_length_concat (front : Bytes) (last : UInt8) :
    signBit (front ++ [last]).length = 128 * Nat.pow 256 front.length := by
  rw [List.length_append, List.length_singleton, signBit, Nat.add_sub_cancel]

theorem decode_concat (front : Bytes) (last : UInt8) :
    decode (front ++ [last]) =
      (if 128 ≤ last.toNat then -1 else 1) *
        ((front.valueLE + Nat.pow 256 front.length * (last.toNat % 128) : Nat) : Int) := by
  have hvalue := valueLE_concat front last
  have hsign := signBit_length_concat front last
  have hfront := front.valueLE_lt
  generalize Nat.pow 256 front.length = weight at *
  rcases Nat.lt_or_ge last.toNat 128 with hplain | hsigned
  · have hbelow : weight * (last.toNat + 1) ≤ weight * 128 := Nat.mul_le_mul_left weight hplain
    rw [Nat.mul_add, Nat.mul_one] at hbelow
    rw [decode_of_lt (by omega), hvalue, Nat.mod_eq_of_lt hplain, if_neg (Nat.not_le.mpr hplain),
      Int.one_mul]
  · obtain ⟨low, hlow⟩ := Nat.exists_eq_add_of_le hsigned
    have hlast := last.toNat_lt
    have hmod : last.toNat % 128 = low := by omega
    rw [hlow, Nat.mul_add] at hvalue
    rw [decode_of_le (by simp) (by omega), hmod, if_pos hsigned, Int.neg_one_mul]
    omega

theorem natAbs_decode_concat (front : Bytes) (last : UInt8) :
    (decode (front ++ [last])).natAbs =
      front.valueLE + Nat.pow 256 front.length * (last.toNat % 128) := by
  rw [decode_concat, Int.natAbs_mul, Int.natAbs_natCast]
  split <;> simp

theorem exists_appendMagnitude_eq {magnitude : Nat} (hpos : 0 < magnitude) (reversed : Bytes) :
    ∃ front last, appendMagnitude reversed magnitude = last :: (front.reverse ++ reversed) ∧
      0 < last.toNat ∧ Bytes.valueLE (front ++ [last]) = magnitude := by
  induction magnitude using Nat.strongRecOn generalizing reversed with
  | ind magnitude ih =>
      have hlow : (UInt8.ofNat magnitude).toNat = magnitude % 256 := UInt8.toNat_ofNat'
      have hshift : magnitude >>> 8 = magnitude / 256 := Nat.shiftRight_eq_div_pow magnitude 8
      rw [appendMagnitude, if_neg (Nat.ne_of_gt hpos), hshift]
      rcases Nat.eq_zero_or_pos (magnitude / 256) with hsmall | hmore
      · refine ⟨[], UInt8.ofNat magnitude, ?_, by omega, ?_⟩
        · rw [hsmall, appendMagnitude, if_pos rfl]
          rfl
        · rw [List.nil_append, Bytes.valueLE_cons, Bytes.valueLE_nil, hlow]
          omega
      · obtain ⟨front, last, happend, hlast, hvalue⟩ :=
          ih (magnitude / 256) (by omega) hmore (UInt8.ofNat magnitude :: reversed)
        refine ⟨UInt8.ofNat magnitude :: front, last, by simp [happend], hlast, ?_⟩
        rw [List.cons_append, Bytes.valueLE_cons, hvalue, hlow]
        omega

theorem exists_encode_eq {n : Int} (hnonzero : n ≠ 0) :
    ∃ front last, 0 < last.toNat ∧ Bytes.valueLE (front ++ [last]) = n.natAbs ∧
      encode n =
        if 128 ≤ last.toNat then front ++ [last] ++ [if n < 0 then 0x80 else 0x00]
        else front ++ [if n < 0 then last ||| 0x80 else last] := by
  obtain ⟨front, last, happend, hlast, hvalue⟩ :=
    exists_appendMagnitude_eq (show 0 < n.natAbs by omega) []
  refine ⟨front, last, hlast, hvalue, ?_⟩
  rw [encode, if_neg hnonzero, happend, List.append_nil, appendSign]
  simp only [and_top_bit_ne_zero_iff, decide_eq_true_eq]
  split
  · simp
  · split <;> simp

theorem decode_encode (n : Int) : decode (encode n) = n := by
  by_cases hnonzero : n = 0
  · rw [hnonzero]
    rfl
  · obtain ⟨front, last, -, hvalue, hencode⟩ := exists_encode_eq hnonzero
    rw [hencode]
    rcases Nat.lt_or_ge last.toNat 128 with hfree | htaken
    · have hsigned := toNat_or_top_bit hfree
      rw [valueLE_concat] at hvalue
      rw [if_neg (Nat.not_le.mpr hfree), decode_concat]
      by_cases hnegative : n < 0
      · have hmod : (last ||| 0x80).toNat % 128 = last.toNat := by omega
        rw [if_pos hnegative, hmod, hvalue, if_pos (by omega)]
        omega
      · rw [if_neg hnegative, Nat.mod_eq_of_lt hfree, hvalue, if_neg (by omega)]
        omega
    · rw [if_pos htaken, decode_concat, hvalue]
      by_cases hnegative : n < 0
      · rw [if_pos hnegative, if_pos (by decide)]
        change -1 * ((n.natAbs + _ * 0 : Nat) : Int) = n
        omega
      · rw [if_neg hnegative, if_neg (by decide)]
        change 1 * ((n.natAbs + _ * 0 : Nat) : Int) = n
        omega

theorem length_encode (n : Int) : (encode n).length = width n := by
  by_cases hnonzero : n = 0
  · rw [hnonzero]
    rfl
  · obtain ⟨front, last, hlast, hvalue, hencode⟩ := exists_encode_eq hnonzero
    have hread := decode_encode n
    rw [← width_decode_eq_length (by rwa [hread]), hread]
    rw [hread, hencode]
    rw [valueLE_concat] at hvalue
    split
    · rename_i htaken
      have htop := Nat.mul_le_mul_left (Nat.pow 256 front.length) htaken
      rw [List.length_append, List.length_singleton, Nat.add_sub_cancel, signBit_length_concat]
      omega
    · rw [List.length_append, List.length_singleton, Nat.add_sub_cancel]
      rcases Nat.eq_zero_or_pos front.length with hone | hmore
      · exact .inr (by omega)
      · have hlow := Nat.mul_le_mul_left (Nat.pow 256 front.length) hlast
        have htwice := pow_eq_two_mul_signBit hmore
        omega

/-- The bytes that are written are those of the closed form. -/
theorem encode_eq_fixed (n : Int) : encode n = fixed (width n) n := by
  by_cases hnonzero : n = 0
  · rw [hnonzero]
    rfl
  · have hread := decode_encode n
    have hsame := fixed_decode (show decode (encode n) ≠ 0 by rwa [hread])
    rw [hread, length_encode] at hsame
    exact hsame.symm

/-- The shortest form of a number stands for the number, no item that does is shorter, and no other
one is as short. -/
theorem shortest_form_canonical (n : Int) :
    decode (encode n) = n ∧
      ∀ item, decode item = n →
        (encode n).length ≤ item.length ∧
          ((encode n).length = item.length → item = encode n) := by
  refine ⟨decode_encode n, ?_⟩
  rintro item rfl
  rw [length_encode]
  refine ⟨width_decode_le item, ?_⟩
  intro hlength
  by_cases hzero : decode item = 0
  · rw [hzero] at hlength ⊢
    exact List.eq_nil_of_length_eq_zero hlength.symm
  · rw [encode_eq_fixed, hlength, fixed_decode hzero]

theorem shortest_form_canonical_sign_byte :
    decode [0x80, 0x00, 0x80] = -128 ∧ encode (-128) = [0x80, 0x80] ∧
      (encode (-128)).length ≤ [0x80, 0x00, 0x80].length ∧
      ((encode (-128)).length = [0x80, 0x00, 0x80].length →
        [0x80, 0x00, 0x80] = encode (-128)) := by
  have hdecode : decode [0x80, 0x00, 0x80] = -128 := by decide +kernel
  exact ⟨hdecode, by decide +kernel, (shortest_form_canonical (-128)).2 _ hdecode⟩

end Lockstep.ScriptNum
