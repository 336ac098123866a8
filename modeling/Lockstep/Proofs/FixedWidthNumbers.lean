import Lockstep.Proofs.LongNumbers
import Lockstep.Proofs.StackFrame

namespace Lockstep

/-- A number can be written in a width that is allowed. -/
structure FitsWidth (limit n size : Int) : Prop where
  nonneg : 0 ≤ size
  le_limit : size ≤ limit
  magnitude : n = 0 ∨ 1 ≤ size ∧ n.natAbs < Nat.pow 2 (8 * size.toNat - 1)

theorem ScriptNum.width_le_iff_natAbs_lt (n : Int) (bytes : Nat) :
    width n ≤ bytes ↔ n = 0 ∨ 1 ≤ bytes ∧ n.natAbs < Nat.pow 2 (8 * bytes - 1) := by
  rcases Nat.eq_zero_or_pos bytes with rfl | hpos
  · rw [Nat.le_zero, width_eq_zero_iff]
    constructor
    · exact .inl
    · rintro (hzero | ⟨hsome, -⟩)
      · exact hzero
      · omega
  · rw [width_le_iff n hpos, signBit_eq_two_pow hpos]
    constructor
    · intro hfree
      exact .inr ⟨hpos, hfree⟩
    · rintro (rfl | ⟨-, hfree⟩)
      · exact Nat.two_pow_pos _
      · exact hfree

theorem fitsWidth_iff_width_le (limit n size : Int) :
    FitsWidth limit n size ↔ size ≤ limit ∧ ¬ (size < 0 ∨ size < ScriptNum.width n) := by
  rcases Int.lt_or_le size 0 with hnegative | hnonneg
  · constructor
    · intro hfits
      exact absurd hfits.nonneg (Int.not_le.mpr hnegative)
    · rintro ⟨-, hwide⟩
      exact absurd (.inl hnegative) hwide
  · obtain ⟨bytes, rfl⟩ := Int.eq_ofNat_of_zero_le hnonneg
    have hmagnitude := ScriptNum.width_le_iff_natAbs_lt n bytes
    have hsome : (1 : Int) ≤ (bytes : Nat) ↔ 1 ≤ bytes := by omega
    constructor
    · rintro ⟨-, hallowed, hfree⟩
      rw [Int.toNat_natCast, hsome, ← hmagnitude] at hfree
      exact ⟨hallowed, by omega⟩
    · rintro ⟨hallowed, hwide⟩
      refine ⟨hnonneg, hallowed, ?_⟩
      rw [Int.toNat_natCast, hsome, ← hmagnitude]
      omega

theorem modify_length_concat {α : Type} (front : List α) (last : α) (f : α → α) :
    (front ++ [last]).modify ((front ++ [last]).length - 1) f = front ++ [f last] := by
  rw [List.length_append, List.length_singleton, Nat.add_sub_cancel]
  induction front with
  | nil => rfl
  | cons first front ih => exact congrArg (first :: ·) ih

theorem Bytes.digitsLE_zero (width : Nat) : digitsLE width 0 = List.replicate width 0 := by
  induction width with
  | zero => rfl
  | succ width ih =>
      rw [digitsLE, Nat.zero_div, ih, List.replicate_succ]
      rfl

theorem Bytes.valueLE_replicate_zero (width : Nat) : valueLE (List.replicate width 0) = 0 := by
  rw [← digitsLE_zero, valueLE_digitsLE, Nat.zero_mod]

namespace Effect

theorem length_widen {size : Nat} {item : Bytes} (hlonger : item.length ≤ size) :
    (widen size item).length = size := by
  simp only [widen, List.length_modify, List.length_append, List.length_replicate]
  omega

theorem widen_concat (front : Bytes) (last : UInt8) {size : Nat}
    (hlonger : (front ++ [last]).length < size) :
    widen size (front ++ [last]) = front ++ [last &&& 0x7f] ++
      List.replicate (size - (front ++ [last]).length - 1) 0 ++ [last &&& 0x80] := by
  have hzeros : List.replicate (size - (front ++ [last]).length) (0 : UInt8) =
      List.replicate (size - (front ++ [last]).length - 1) 0 ++ [0] := by
    rw [← List.replicate_succ']
    congr 1
    omega
  rw [widen, modify_length_concat, hzeros, ← List.append_assoc, modify_length_concat,
    List.getLastD_concat, UInt8.zero_or]

theorem widen_nil (size : Nat) : widen size [] = List.replicate size 0 := by
  have hkept : (fun byte : UInt8 => byte ||| (([] : Bytes).getLastD 0 &&& 0x80)) = id := by
    funext byte
    exact UInt8.or_zero
  rw [widen, hkept, List.modify_id]
  rfl

theorem decode_widen {size : Nat} {item : Bytes} (hlonger : item.length < size) :
    ScriptNum.decode (widen size item) = ScriptNum.decode item := by
  rcases List.eq_nil_or_concat item with rfl | ⟨front, last, rfl⟩
  · have hvalue := Bytes.valueLE_replicate_zero size
    have hsign := ScriptNum.signBit_pos (List.replicate size (0 : UInt8)).length
    rw [widen_nil, ScriptNum.decode_of_lt (by omega), hvalue]
    rfl
  · rw [List.concat_eq_append] at hlonger ⊢
    have hfree : (last &&& 0x80).toNat % 128 = 0 := by
      rw [ScriptNum.toNat_and_top_bit]
      split <;> rfl
    have hsign : 128 ≤ (last &&& 0x80).toNat ↔ 128 ≤ last.toNat := by
      rw [ScriptNum.toNat_and_top_bit]
      split <;> omega
    rw [widen_concat front last hlonger, ScriptNum.decode_concat, ScriptNum.decode_concat, hfree,
      Nat.mul_zero, Nat.add_zero, Bytes.valueLE_append, Bytes.valueLE_replicate_zero, Nat.mul_zero,
      Nat.add_zero, ScriptNum.valueLE_concat, ScriptNum.toNat_and_low_bits]
    simp only [hsign]

/-- The bytes that are made from the shortest form are those of the closed form. -/
theorem widen_encode {n : Int} {size : Nat} (hlonger : ScriptNum.width n < size) :
    widen size (ScriptNum.encode n) = ScriptNum.fixed size n := by
  rw [← ScriptNum.length_encode] at hlonger
  by_cases hzero : n = 0
  · rw [hzero, ScriptNum.fixed, Bytes.ofNatLE_eq_digitsLE]
    exact (widen_nil size).trans (Bytes.digitsLE_zero size).symm
  · have hread : ScriptNum.decode (widen size (ScriptNum.encode n)) = n := by
      rw [decode_widen hlonger, ScriptNum.decode_encode]
    have hsame := ScriptNum.fixed_decode (by rwa [hread])
    rw [hread, length_widen (Nat.le_of_lt hlonger)] at hsame
    exact hsame.symm

end Effect

theorem Outcome.map_refuse {α β : Type} (f : α → β) (cause : Fault) (left : α) :
    (refuse cause left).map f = refuse cause (f left) := by
  unfold refuse
  split
  · rfl
  · rfl

namespace Effect

variable {rules : Rules} (name : String) {size item : Bytes}
  (hsize : (size.length : Int) ≤ rules.numberLimit) (rest : List Bytes)

include hsize

theorem resize_of_fitsWidth (hmemory : rules.numberLimit ≤ paddingLimit)
    (hfits : FitsWidth rules.numberLimit (ScriptNum.decode item) (ScriptNum.decode size)) :
    resize rules name (size :: item :: rest) =
      .done (ScriptNum.fixed (ScriptNum.decode size).toNat (ScriptNum.decode item) :: rest) := by
  obtain ⟨hallowed, hwide⟩ := (fitsWidth_iff_width_le _ _ _).mp hfits
  have hboth : ¬ (size :: item :: rest).length < 2 := by simp
  simp only [resize, hboth, popNumber_cons hsize, Int.not_lt.mpr hallowed, hwide, ↓reduceIte,
    Operation.paddingRefusal?_eq_none hmemory (Int.not_lt.mpr hallowed),
    ScriptNum.length_encode]
  split
  · rename_i hsame
    rw [ScriptNum.encode_eq_fixed, hsame, Int.toNat_natCast]
  · rename_i hother
    rw [widen_encode (by omega)]

theorem resize_of_not_fitsWidth
    (hfits : ¬ FitsWidth rules.numberLimit (ScriptNum.decode item) (ScriptNum.decode size)) :
    ∃ cause : Fault, cause.kind = .invalidOperand ∧
      resize rules name (size :: item :: rest) = .refuse cause rest := by
  have hboth : ¬ (size :: item :: rest).length < 2 := by simp
  simp only [resize, hboth, popNumber_cons hsize, ScriptNum.length_encode, ↓reduceIte]
  by_cases hlarge : rules.numberLimit < ScriptNum.decode size
  · rw [if_pos hlarge]
    exact ⟨_, rfl, rfl⟩
  · rw [fitsWidth_iff_width_le, not_and, Classical.not_not] at hfits
    rw [if_neg hlarge, if_pos (hfits (Int.not_lt.mp hlarge))]
    exact ⟨_, rfl, rfl⟩

end Effect

namespace Instruction

variable (rules : Rules) (check? : Option SignatureCheck) {alt : List Bytes} {branches : List Bool}
  (hexecuting : branches.all id = true)

include hexecuting

theorem execute_resize (main : List Bytes) :
    (⟨"OP_NUM2BIN", 0x80, none⟩ : Instruction).execute rules check? ⟨main, alt, branches⟩ =
      (Effect.resize rules "OP_NUM2BIN" main).map fun main => ⟨main, alt, branches⟩ :=
  execute_of_operation (show Stacks.isExecuting ⟨main, alt, branches⟩ = true from hexecuting) rfl
    (show _ = some Operation.resize from rfl)

theorem execute_shorten (item : Bytes) (rest : List Bytes) :
    (⟨"OP_BIN2NUM", 0x81, none⟩ : Instruction).execute rules check?
        ⟨item :: rest, alt, branches⟩ =
      .done ⟨ScriptNum.encode (ScriptNum.decode item) :: rest, alt, branches⟩ :=
  execute_of_operation (show Stacks.isExecuting ⟨_, alt, branches⟩ = true from hexecuting) rfl
    (show _ = some Operation.shorten from rfl)

end Instruction

/-- A number is written in the width that the script asks for exactly if the width is allowed and
the magnitude of the number leaves its sign bit free. What is written has that width and stands for
the same number, and shortening it gives the shortest form of the number. -/
theorem numbers_resized_exactly (rules : Rules) (hmemory : rules.numberLimit ≤ paddingLimit)
    (check? : Option SignatureCheck) (size item : Bytes) (rest alt : List Bytes)
    (branches : List Bool) (hsize : (size.length : Int) ≤ rules.numberLimit)
    (hexecuting : branches.all id = true) :
    let outcome := (⟨"OP_NUM2BIN", 0x80, none⟩ : Instruction).execute rules check?
      ⟨size :: item :: rest, alt, branches⟩
    let k := ScriptNum.decode size
    let n := ScriptNum.decode item
    ((∃ state, outcome = .done state) ↔ FitsWidth rules.numberLimit n k) ∧
    (¬ FitsWidth rules.numberLimit n k →
      ∃ cause : Fault, cause.kind = .invalidOperand ∧
        outcome = .refuse cause ⟨rest, alt, branches⟩) ∧
    ∀ state, outcome = .done state →
      ∃ written : Bytes, state = ⟨written :: rest, alt, branches⟩ ∧
        (written.length : Int) = k ∧ ScriptNum.decode written = n ∧
        (⟨"OP_BIN2NUM", 0x81, none⟩ : Instruction).execute rules check? state =
          .done ⟨ScriptNum.encode n :: rest, alt, branches⟩ := by
  intro outcome k n
  have houtcome : outcome = _ :=
    Instruction.execute_resize rules check? hexecuting (size :: item :: rest)
  by_cases hfits : FitsWidth rules.numberLimit n k
  · have hdone : outcome = .done ⟨ScriptNum.fixed k.toNat n :: rest, alt, branches⟩ := by
      rw [houtcome, Effect.resize_of_fitsWidth _ hsize rest hmemory hfits]
      rfl
    refine ⟨⟨fun _ => hfits, fun _ => ⟨_, hdone⟩⟩, absurd hfits, ?_⟩
    intro state hstate
    obtain rfl := Outcome.done.inj (hdone.symm.trans hstate)
    have hwidth := ((fitsWidth_iff_width_le _ _ _).mp hfits).2
    have hread : ScriptNum.decode (ScriptNum.fixed k.toNat n) = n :=
      ScriptNum.decode_fixed (by omega)
    refine ⟨_, rfl, ?_, hread, ?_⟩
    · rw [ScriptNum.length_fixed]
      exact Int.toNat_of_nonneg hfits.nonneg
    · rw [Instruction.execute_shorten rules check? hexecuting, hread]
  · obtain ⟨cause, hkind, hrefused⟩ :=
      Effect.resize_of_not_fitsWidth "OP_NUM2BIN" hsize rest hfits
    rw [hrefused, Outcome.map_refuse] at houtcome
    have hnone : ∀ state, outcome ≠ .done state := by
      intro state
      rw [houtcome]
      exact Outcome.refuse_ne_done _ _ _
    refine ⟨⟨?_, fun hwidth => absurd hwidth hfits⟩, fun _ => ⟨cause, hkind, houtcome⟩, ?_⟩
    · rintro ⟨state, hstate⟩
      exact absurd hstate (hnone state)
    · intro state hstate
      exact absurd hstate (hnone state)

theorem numbers_resized_exactly_sign_byte :
    ({} : Rules).numberLimit ≤ paddingLimit ∧ ScriptNum.decode [0x04] = 4 ∧
    ScriptNum.decode [0x80, 0x80] = -128 ∧
    ∃ written : Bytes,
      (⟨"OP_NUM2BIN", 0x80, none⟩ : Instruction).execute {} none
        ⟨[[0x04], [0x80, 0x80], [0xff]], [[0x05]], [true]⟩ =
          .done ⟨[written, [0xff]], [[0x05]], [true]⟩ ∧
      written.length = 4 ∧ ScriptNum.decode written = -128 ∧
      (⟨"OP_BIN2NUM", 0x81, none⟩ : Instruction).execute {} none
        ⟨[written, [0xff]], [[0x05]], [true]⟩ =
          .done ⟨[ScriptNum.encode (-128), [0xff]], [[0x05]], [true]⟩ := by
  have hmemory : ({} : Rules).numberLimit ≤ paddingLimit := by decide
  have hsize : ScriptNum.decode [0x04] = 4 := by decide +kernel
  have hitem : ScriptNum.decode [0x80, 0x80] = -128 := by decide +kernel
  have hexact := numbers_resized_exactly {} hmemory none [0x04] [0x80, 0x80] [[0xff]] [[0x05]]
    [true] (by decide) rfl
  simp only [hsize, hitem] at hexact
  obtain ⟨hfits, -, hwritten⟩ := hexact
  obtain ⟨state, hdone⟩ := hfits.mpr ⟨by decide, by decide, .inr (by decide)⟩
  obtain ⟨written, rfl, hlength, hread, hshortest⟩ := hwritten state hdone
  exact ⟨hmemory, hsize, hitem, written, hdone, by omega, hread, hshortest⟩

end Lockstep
