
namespace Lockstep

/-- A byte string, first byte first. -/
abbrev Bytes := List UInt8

namespace Bytes

/-- The number whose base-256 digits, least significant first, are the given bytes. -/
def valueLE (bytes : Bytes) : Nat :=
  bytes.foldr (fun byte value => byte.toNat + 256 * value) 0

/-- The `width` lowest base-256 digits of a number, least significant first. -/
def digitsLE : (width value : Nat) → Bytes
  | 0, _ => []
  | width + 1, value => UInt8.ofNat value :: digitsLE width (value / 256)

/-- The value of a byte string, put together from pieces that are cut in half a number of times. -/
def sumHalves : Nat → Bytes → Nat
  | 0, bytes => valueLE bytes
  | cuts + 1, bytes =>
    let half := bytes.length / 2
    sumHalves cuts (bytes.take half) + Nat.pow 256 half * sumHalves cuts (bytes.drop half)

/-- The number whose base-256 digits, least significant first, are the given bytes. -/
def toNatLE (bytes : Bytes) : Nat :=
  sumHalves (bytes.length.log2 - 4) bytes

/-- The lowest digits of a number, put together from those of parts that are cut in half a number
of times. -/
def digitHalves : Nat → (width value : Nat) → Bytes
  | 0, width, value => digitsLE width value
  | cuts + 1, width, value =>
    let half := width / 2
    let radix := Nat.pow 256 half
    digitHalves cuts half (value % radix) ++ digitHalves cuts (width - half) (value / radix)

/-- The `width` lowest base-256 digits of a number, least significant first. -/
def ofNatLE (width value : Nat) : Bytes :=
  digitHalves (width.log2 - 4) width value

/-- The number whose base-256 digits, most significant first, are the given bytes. -/
def toNatBE (bytes : Bytes) : Nat :=
  toNatLE bytes.reverse

/-- The `width` lowest base-256 digits of a number, most significant first. -/
def ofNatBE (width value : Nat) : Bytes :=
  (ofNatLE width value).reverse

/-- How many base-256 digits a number has; zero has none. -/
def widthOf (value : Nat) : Nat :=
  if value = 0 then 0 else value.log2 / 8 + 1

@[simp]
theorem valueLE_nil : valueLE [] = 0 := rfl

@[simp]
theorem valueLE_cons (byte : UInt8) (bytes : Bytes) :
    valueLE (byte :: bytes) = byte.toNat + 256 * valueLE bytes := rfl

theorem valueLE_append (front back : Bytes) :
    valueLE (front ++ back) = valueLE front + Nat.pow 256 front.length * valueLE back := by
  induction front with
  | nil => simp
  | cons byte front ih =>
      simp only [List.cons_append, valueLE_cons, ih, List.length_cons, Nat.pow_succ, Nat.pow_eq,
        Nat.mul_add]
      rw [Nat.mul_comm (256 ^ front.length) 256, Nat.mul_assoc]
      omega

theorem sumHalves_eq_valueLE (cuts : Nat) (bytes : Bytes) :
    sumHalves cuts bytes = valueLE bytes := by
  induction cuts generalizing bytes with
  | zero => rfl
  | succ cuts ih =>
      have split := valueLE_append (bytes.take (bytes.length / 2)) (bytes.drop (bytes.length / 2))
      rw [List.take_append_drop, List.length_take_of_le (Nat.div_le_self _ _)] at split
      simp only [sumHalves, ih]
      exact split.symm

theorem toNatLE_eq_valueLE (bytes : Bytes) : toNatLE bytes = valueLE bytes :=
  sumHalves_eq_valueLE _ bytes

@[simp]
theorem length_digitsLE (width value : Nat) : (digitsLE width value).length = width := by
  induction width generalizing value with
  | zero => rfl
  | succ width ih => simp [digitsLE, ih]

theorem digitsLE_mod (width value : Nat) :
    digitsLE width (value % Nat.pow 256 width) = digitsLE width value := by
  induction width generalizing value with
  | zero => rfl
  | succ width ih =>
      have low : UInt8.ofNat (value % Nat.pow 256 (width + 1)) = UInt8.ofNat value := by
        apply UInt8.toNat_inj.mp
        simp only [UInt8.toNat_ofNat', Nat.pow_eq, Nat.pow_succ]
        exact Nat.mod_mod_of_dvd value ⟨256 ^ width, Nat.mul_comm _ _⟩
      have high : value % Nat.pow 256 (width + 1) / 256 = value / 256 % Nat.pow 256 width := by
        simp only [Nat.pow_eq, Nat.pow_succ]
        rw [Nat.mul_comm, Nat.mod_mul_right_div_self]
      simp only [digitsLE, low, high, ih]

theorem digitsLE_add (front back value : Nat) :
    digitsLE (front + back) value =
      digitsLE front value ++ digitsLE back (value / Nat.pow 256 front) := by
  induction front generalizing value with
  | zero => simp [digitsLE]
  | succ front ih =>
      have quotient : value / 256 / Nat.pow 256 front = value / Nat.pow 256 (front + 1) := by
        simp only [Nat.pow_eq, Nat.pow_succ]
        rw [Nat.div_div_eq_div_mul, Nat.mul_comm]
      rw [Nat.succ_add, digitsLE, digitsLE, ih, quotient, List.cons_append]

theorem valueLE_lt (bytes : Bytes) : valueLE bytes < Nat.pow 256 bytes.length := by
  induction bytes with
  | nil => simp
  | cons byte bytes ih =>
      have hbyte := byte.toNat_lt
      simp only [valueLE_cons, List.length_cons, Nat.pow_eq, Nat.pow_succ] at ih ⊢
      omega

theorem valueLE_digitsLE (width value : Nat) :
    valueLE (digitsLE width value) = value % Nat.pow 256 width := by
  induction width generalizing value with
  | zero => simp [digitsLE, Nat.mod_one]
  | succ width ih =>
      have hpower : Nat.pow 256 (width + 1) = 256 * Nat.pow 256 width := Nat.mul_comm _ _
      rw [digitsLE, valueLE_cons, ih, UInt8.toNat_ofNat', hpower, Nat.mod_mul]

theorem digitsLE_valueLE (bytes : Bytes) : digitsLE bytes.length (valueLE bytes) = bytes := by
  induction bytes with
  | nil => rfl
  | cons byte bytes ih =>
      have hbyte := byte.toNat_lt
      have hlow : UInt8.ofNat (byte.toNat + 256 * valueLE bytes) = byte := by
        apply UInt8.toNat_inj.mp
        rw [UInt8.toNat_ofNat']
        omega
      have hhigh : (byte.toNat + 256 * valueLE bytes) / 256 = valueLE bytes := by omega
      rw [List.length_cons, valueLE_cons, digitsLE, hlow, hhigh, ih]

theorem digitHalves_eq_digitsLE (cuts width value : Nat) :
    digitHalves cuts width value = digitsLE width value := by
  induction cuts generalizing width value with
  | zero => rfl
  | succ cuts ih =>
      simp only [digitHalves, ih]
      rw [digitsLE_mod, ← digitsLE_add, Nat.add_sub_cancel' (Nat.div_le_self width 2)]

theorem ofNatLE_eq_digitsLE (width value : Nat) : ofNatLE width value = digitsLE width value :=
  digitHalves_eq_digitsLE _ width value

@[simp]
theorem length_ofNatLE (width value : Nat) : (ofNatLE width value).length = width := by
  rw [ofNatLE_eq_digitsLE, length_digitsLE]

end Bytes

end Lockstep
