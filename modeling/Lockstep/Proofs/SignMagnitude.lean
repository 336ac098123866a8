import Mathlib.Data.List.Induction
import Lockstep.Debugger.Snapshot
import Lockstep.Proofs.LongNumbers

namespace Lockstep

namespace ScriptNum

theorem and_low_bits_ne_zero_iff (byte : UInt8) : byte &&& 0x7f ≠ 0 ↔ byte.toNat % 128 ≠ 0 := by
  rw [ne_eq, ← UInt8.toNat_inj, toNat_and_low_bits, UInt8.toNat_zero]

theorem decode_concat_eq_zero_iff (front : Bytes) (last : UInt8) :
    decode (front ++ [last]) = 0 ↔ front.valueLE = 0 ∧ last.toNat % 128 = 0 := by
  have hweight : Nat.pow 256 front.length ≠ 0 := Nat.ne_of_gt (Nat.pow_pos (by decide))
  rw [← Int.natAbs_eq_zero, natAbs_decode_concat, Nat.add_eq_zero_iff, Nat.mul_eq_zero,
    or_iff_right hweight]

theorem isTrue_cons_of_ne_nil (byte : UInt8) {rest : Bytes} (hsome : rest ≠ []) :
    isTrue (byte :: rest) = (byte != 0 || isTrue rest) := by
  cases rest with
  | nil => exact absurd rfl hsome
  | cons next rest => rfl

theorem isTrue_concat_iff (front : Bytes) (last : UInt8) :
    isTrue (front ++ [last]) = true ↔ ¬ (front.valueLE = 0 ∧ last.toNat % 128 = 0) := by
  induction front with
  | nil =>
      have hlast := last.toNat_lt
      have hsign : (0x80 : UInt8).toNat = 128 := rfl
      rw [List.nil_append, isTrue, Bool.and_eq_true, bne_iff_ne, bne_iff_ne, ne_eq, ne_eq,
        ← UInt8.toNat_inj, ← UInt8.toNat_inj, UInt8.toNat_zero, hsign, Bytes.valueLE_nil]
      omega
  | cons byte front ih =>
      rw [List.cons_append, isTrue_cons_of_ne_nil byte (by simp), Bool.or_eq_true, ih,
        bne_iff_ne, ne_eq, ← UInt8.toNat_inj, UInt8.toNat_zero, Bytes.valueLE_cons]
      omega

theorem isTrue_iff_decode_ne_zero (item : Bytes) : isTrue item = true ↔ decode item ≠ 0 := by
  rcases List.eq_nil_or_concat item with rfl | ⟨front, last, rfl⟩
  · simp [isTrue, decode]
  · rw [List.concat_eq_append, isTrue_concat_iff, ne_eq, decode_concat_eq_zero_iff]

theorem isMinimal_iff_width_eq (item : Bytes) :
    isMinimal item = true ↔ width (decode item) = item.length := by
  rw [isMinimal, beq_iff_eq]
  constructor
  · intro hshortest
    rw [← length_encode, hshortest]
  · intro hwidth
    by_cases hzero : decode item = 0
    · rw [hzero] at hwidth ⊢
      exact (List.eq_nil_of_length_eq_zero hwidth.symm).symm
    · rw [encode_eq_fixed, hwidth, fixed_decode hzero]

theorem isMinimal_singleton_iff (last : UInt8) :
    isMinimal [last] = true ↔ last.toNat % 128 ≠ 0 := by
  have hzero : decode [last] = 0 ↔ last.toNat % 128 = 0 := by
    simpa using decode_concat_eq_zero_iff [] last
  have hwidth := width_decode_le [last]
  rw [isMinimal_iff_width_eq, ne_eq, ← hzero, ← width_eq_zero_iff]
  rw [List.length_singleton] at hwidth ⊢
  omega

/-- A last byte can be spared if it holds the sign alone and the byte before it has room for that. -/
theorem isMinimal_concat_concat_iff (front : Bytes) (second last : UInt8) :
    isMinimal (front ++ [second, last]) = true ↔ last.toNat % 128 ≠ 0 ∨ 128 ≤ second.toNat := by
  have hsplit : front ++ [second, last] = (front ++ [second]) ++ [last] := by simp
  have hlength : (front ++ [second] ++ [last]).length = (front ++ [second]).length + 1 := by simp
  have hweight : Nat.pow 256 (front ++ [second]).length = 256 * Nat.pow 256 front.length := by
    rw [List.length_append, List.length_singleton]
    exact Nat.mul_comm _ _
  have hfront := Bytes.valueLE_lt front
  have hwidth := width_decode_le (front ++ [second] ++ [last])
  have hshorter := width_le_iff (decode (front ++ [second] ++ [last]))
    (show 0 < (front ++ [second]).length by simp)
  rw [natAbs_decode_concat, valueLE_concat, signBit_length_concat, hweight] at hshorter
  rw [hsplit, isMinimal_iff_width_eq]
  generalize Nat.pow 256 front.length = weight at *
  constructor
  · intro hminimal
    by_contra hspare
    obtain ⟨hlow, htop⟩ := not_or.mp hspare
    have hroom : weight * (second.toNat + 1) ≤ weight * 128 :=
      Nat.mul_le_mul_left weight (by omega)
    rw [Nat.mul_add, Nat.mul_one] at hroom
    rw [Classical.not_not.mp hlow, Nat.mul_zero] at hshorter
    omega
  · rintro (hlow | htop)
    · have hbig : 256 * weight * 1 ≤ 256 * weight * (last.toNat % 128) :=
        Nat.mul_le_mul_left _ (by omega)
      omega
    · have hbig : weight * 128 ≤ weight * second.toNat := Nat.mul_le_mul_left weight htop
      omega

/-- Whether an item is the shortest form of its number can be told from its last two bytes: it is
unless the last byte holds nothing but a sign and the byte before it, if there is one, has its top
bit free. -/
theorem minimal_iff_last_two_bytes (item : Bytes) :
    isMinimal item = true ↔
      item = [] ∨ (∃ front last, item = front ++ [last] ∧ last &&& 0x7f ≠ 0) ∨
        ∃ front second last, item = front ++ [second, last] ∧ second &&& 0x80 ≠ 0 := by
  simp only [and_low_bits_ne_zero_iff, and_top_bit_ne_zero_iff]
  constructor
  · intro hminimal
    rcases item.eq_nil_or_concat with rfl | ⟨front, last, rfl⟩
    · exact .inl rfl
    · rw [List.concat_eq_append] at hminimal ⊢
      rcases front.eq_nil_or_concat with rfl | ⟨front, second, rfl⟩
      · exact .inr (.inl ⟨[], last, rfl, (isMinimal_singleton_iff last).mp hminimal⟩)
      · rw [List.concat_eq_append, List.append_assoc] at hminimal ⊢
        rcases (isMinimal_concat_concat_iff front second last).mp hminimal with hlow | htop
        · exact .inr (.inl ⟨front ++ [second], last, by simp, hlow⟩)
        · exact .inr (.inr ⟨front, second, last, rfl, htop⟩)
  · rintro (rfl | ⟨front, last, rfl, hlow⟩ | ⟨front, second, last, rfl, htop⟩)
    · rfl
    · rcases front.eq_nil_or_concat with rfl | ⟨front, second, rfl⟩
      · exact (isMinimal_singleton_iff last).mpr hlow
      · rw [List.concat_eq_append, List.append_assoc]
        exact (isMinimal_concat_concat_iff front second last).mpr (.inl hlow)
    · exact (isMinimal_concat_concat_iff front second last).mpr (.inr htop)

end ScriptNum

/-- What the instructions that ask for the truth of an item do with one on top of the stack, and what
is said of a script that ends with it there, if the item is taken as true or as false. The
computation that tells a number from zero answers the same. -/
structure TakenAs (rules : Rules) (check? : Option SignatureCheck) (rest alt : List Bytes)
    (branches : List Bool) (item : Bytes) (truth : Bool) : Prop where
  condition : (⟨"OP_IF", 0x63, none⟩ : Instruction).execute rules check?
    ⟨item :: rest, alt, branches⟩ = .done ⟨rest, alt, truth :: branches⟩
  negatedCondition : (⟨"OP_NOTIF", 0x64, none⟩ : Instruction).execute rules check?
    ⟨item :: rest, alt, branches⟩ = .done ⟨rest, alt, (!truth) :: branches⟩
  verified : (⟨"OP_VERIFY", 0x69, none⟩ : Instruction).execute rules check?
    ⟨item :: rest, alt, branches⟩ =
      if truth then .done ⟨rest, alt, branches⟩ else .fault .notTrue
  duplicated : (⟨"OP_IFDUP", 0x73, none⟩ : Instruction).execute rules check?
    ⟨item :: rest, alt, branches⟩ =
      .done ⟨if truth then item :: item :: rest else item :: rest, alt, branches⟩
  accepted : stackIsValid rules (item :: rest) = ((!rules.cleanStack || rest.isEmpty) && truth)
  compared : (item.length : Int) ≤ rules.numberLimit →
    (⟨"OP_0NOTEQUAL", 0x92, none⟩ : Instruction).execute rules check?
      ⟨item :: rest, alt, branches⟩ = .done ⟨ScriptNum.ofBool truth :: rest, alt, branches⟩
  negated : (item.length : Int) ≤ rules.numberLimit →
    (⟨"OP_NOT", 0x91, none⟩ : Instruction).execute rules check?
      ⟨item :: rest, alt, branches⟩ = .done ⟨ScriptNum.ofBool (!truth) :: rest, alt, branches⟩

theorem Instruction.execute_unary {rules : Rules} {name : String} {code : Int} {item : Bytes}
    {branches : List Bool} (hop : Operation.ofCode? code = some .unary)
    (hshort : (item.length : Int) ≤ rules.numberLimit) (hexecuting : branches.all id = true)
    (check? : Option SignatureCheck) (rest alt : List Bytes) :
    (⟨name, code, none⟩ : Instruction).execute rules check? ⟨item :: rest, alt, branches⟩ =
      .done ⟨(Unary.ofName name).result (ScriptNum.decode item) :: rest, alt, branches⟩ := by
  rw [execute_of_operation (show Stacks.isExecuting ⟨_, alt, branches⟩ = true from hexecuting) rfl
    hop]
  simp only [Operation.run, Operation.runMain, Effect.unary, popNumber_cons hshort, Outcome.map]

theorem takenAs_isTrue (rules : Rules) (check? : Option SignatureCheck) (rest alt : List Bytes)
    {branches : List Bool} (hexecuting : branches.all id = true) (item : Bytes) :
    TakenAs rules check? rest alt branches item (ScriptNum.isTrue item) := by
  have hstate : Stacks.isExecuting ⟨item :: rest, alt, branches⟩ = true := hexecuting
  have hnumber : ScriptNum.isTrue item = (ScriptNum.decode item != 0) := by
    rw [Bool.eq_iff_iff, ScriptNum.isTrue_iff_decode_ne_zero, bne_iff_ne]
  constructor
  case condition =>
      rw [Instruction.execute_of_operation hstate rfl
        (show _ = some Operation.openBranch from rfl)]
      simp [Operation.run, Effect.openBranch, hstate]
  case negatedCondition =>
      rw [Instruction.execute_of_operation hstate rfl
        (show _ = some Operation.openBranch from rfl)]
      simp [Operation.run, Effect.openBranch, hstate]
  case verified =>
      rw [Instruction.execute_of_operation hstate rfl (show _ = some Operation.verify from rfl)]
      simp only [Operation.run, Operation.runMain, Effect.verify]
      split <;> rfl
  case duplicated =>
      exact Instruction.execute_of_operation hstate rfl
        (show _ = some Operation.dupIfTrue from rfl)
  case accepted => rfl
  case compared =>
      intro hshort
      rw [hnumber]
      exact Instruction.execute_unary rfl hshort hexecuting check? rest alt
  case negated =>
      intro hshort
      rw [hnumber, bne, Bool.not_not]
      exact Instruction.execute_unary rfl hshort hexecuting check? rest alt

/-- An item counts as true exactly if its number is not zero. So whatever asks for the truth of an
item, be it a conditional, a verification, a copy or the end of the script, treats it as the
computations with numbers do. -/
theorem truth_is_nonzero_number (item : Bytes) :
    (ScriptNum.isTrue item = true ↔ ScriptNum.decode item ≠ 0) ∧
      ∀ (rules : Rules) (check? : Option SignatureCheck) (rest alt : List Bytes)
        (branches : List Bool), branches.all id = true →
        TakenAs rules check? rest alt branches item (decide (ScriptNum.decode item ≠ 0)) := by
  have hiff := ScriptNum.isTrue_iff_decode_ne_zero item
  refine ⟨hiff, ?_⟩
  intro rules check? rest alt branches hexecuting
  have htruth : decide (ScriptNum.decode item ≠ 0) = ScriptNum.isTrue item := by
    rw [Bool.eq_iff_iff, decide_eq_true_eq, hiff]
  rw [htruth]
  exact takenAs_isTrue rules check? rest alt hexecuting item

theorem truth_is_nonzero_number_negative_zero :
    ScriptNum.decode [0x00, 0x80] = 0 ∧ ScriptNum.decode [0x80, 0x00] = 128 ∧
    TakenAs {} none [[0x05]] [] [true] [0x00, 0x80] false ∧
    TakenAs {} none [[0x05]] [] [true] [0x80, 0x00] true := by
  have hzero : ScriptNum.decode [0x00, 0x80] = 0 := by decide +kernel
  have hsome : ScriptNum.decode [0x80, 0x00] = 128 := by decide +kernel
  have hfalse := (truth_is_nonzero_number [0x00, 0x80]).2 {} none [[0x05]] [] [true] rfl
  have htrue := (truth_is_nonzero_number [0x80, 0x00]).2 {} none [[0x05]] [] [true] rfl
  rw [hzero] at hfalse
  rw [hsome] at htrue
  exact ⟨hzero, hsome, hfalse, htrue⟩

end Lockstep
