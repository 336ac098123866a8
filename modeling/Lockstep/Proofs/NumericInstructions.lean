import Mathlib.Algebra.Order.Group.Int
import Mathlib.Algebra.Order.Ring.Int
import Mathlib.Data.List.Basic
import Lockstep.Proofs.LongNumbers
import Lockstep.Proofs.NumberCoding

namespace Lockstep

/-- Division with a remainder that is smaller than the divisor and has the sign of the dividend. -/
structure IsDivision (a b q r : Int) : Prop where
  dividend : a = q * b + r
  remainder_lt : |r| < |b|
  remainder_sign : r = 0 ∨ r.sign = a.sign

/-- What the instruction of a name leaves for the numbers of its operands, of which the last one is
on top. -/
inductive Computes : String → List Int → Bytes → Prop where
  | increment (a : Int) : Computes "OP_1ADD" [a] (ScriptNum.encode (a + 1))
  | decrement (a : Int) : Computes "OP_1SUB" [a] (ScriptNum.encode (a - 1))
  | negate (a : Int) : Computes "OP_NEGATE" [a] (ScriptNum.encode (-a))
  | abs (a : Int) : Computes "OP_ABS" [a] (ScriptNum.encode |a|)
  | isZero (a : Int) : Computes "OP_NOT" [a] (ScriptNum.ofBool (decide (a = 0)))
  | isNotZero (a : Int) : Computes "OP_0NOTEQUAL" [a] (ScriptNum.ofBool (decide (a ≠ 0)))
  | add (a b : Int) : Computes "OP_ADD" [a, b] (ScriptNum.encode (a + b))
  | sub (a b : Int) : Computes "OP_SUB" [a, b] (ScriptNum.encode (a - b))
  | mul (a b : Int) : Computes "OP_MUL" [a, b] (ScriptNum.encode (a * b))
  | div (a b q r : Int) (hdivision : IsDivision a b q r) :
      Computes "OP_DIV" [a, b] (ScriptNum.encode q)
  | mod (a b q r : Int) (hdivision : IsDivision a b q r) :
      Computes "OP_MOD" [a, b] (ScriptNum.encode r)
  | both (a b : Int) : Computes "OP_BOOLAND" [a, b] (ScriptNum.ofBool (decide (a ≠ 0 ∧ b ≠ 0)))
  | either (a b : Int) : Computes "OP_BOOLOR" [a, b] (ScriptNum.ofBool (decide (a ≠ 0 ∨ b ≠ 0)))
  | equal (a b : Int) : Computes "OP_NUMEQUAL" [a, b] (ScriptNum.ofBool (decide (a = b)))
  | notEqual (a b : Int) : Computes "OP_NUMNOTEQUAL" [a, b] (ScriptNum.ofBool (decide (a ≠ b)))
  | less (a b : Int) : Computes "OP_LESSTHAN" [a, b] (ScriptNum.ofBool (decide (a < b)))
  | greater (a b : Int) : Computes "OP_GREATERTHAN" [a, b] (ScriptNum.ofBool (decide (a > b)))
  | lessOrEqual (a b : Int) :
      Computes "OP_LESSTHANOREQUAL" [a, b] (ScriptNum.ofBool (decide (a ≤ b)))
  | greaterOrEqual (a b : Int) :
      Computes "OP_GREATERTHANOREQUAL" [a, b] (ScriptNum.ofBool (decide (a ≥ b)))
  | minimum (a b : Int) : Computes "OP_MIN" [a, b] (ScriptNum.encode (min a b))
  | maximum (a b : Int) : Computes "OP_MAX" [a, b] (ScriptNum.encode (max a b))
  | within (x lower upper : Int) :
      Computes "OP_WITHIN" [x, lower, upper] (ScriptNum.ofBool (decide (lower ≤ x ∧ x < upper)))

def unaryInstructions : List String :=
  ["OP_1ADD", "OP_1SUB", "OP_NEGATE", "OP_ABS", "OP_NOT", "OP_0NOTEQUAL"]

def binaryInstructions : List String :=
  ["OP_ADD", "OP_SUB", "OP_MUL", "OP_DIV", "OP_MOD", "OP_BOOLAND", "OP_BOOLOR", "OP_NUMEQUAL",
    "OP_NUMNOTEQUAL", "OP_LESSTHAN", "OP_GREATERTHAN", "OP_LESSTHANOREQUAL",
    "OP_GREATERTHANOREQUAL", "OP_MIN", "OP_MAX"]

/-- The instructions that compute with numbers and leave an item, each with the number of its
operands. -/
def numericInstructions : List (String × Nat) :=
  unaryInstructions.map (·, 1) ++ binaryInstructions.map (·, 2) ++ [("OP_WITHIN", 3)]

/-- The instruction of a name divides, and the divisor is zero. -/
def DividesByZero (name : String) (numbers : List Int) : Prop :=
  (name = "OP_DIV" ∨ name = "OP_MOD") ∧ numbers.getLast? = some 0

theorem isDivision_tdiv_tmod (a : Int) {b : Int} (hdivisor : b ≠ 0) :
    IsDivision a b (a.tdiv b) (a.tmod b) where
  dividend := (Int.tdiv_mul_add_tmod a b).symm
  remainder_lt := by
    rw [Int.abs_eq_natAbs, Int.abs_eq_natAbs, Int.natAbs_tmod]
    exact_mod_cast Nat.mod_lt _ (Int.natAbs_pos.mpr hdivisor)
  remainder_sign := by
    have hsign := Int.sign_tmod a b
    split at hsign
    · exact .inl (Int.sign_eq_zero_iff_zero.mp hsign)
    · exact .inr hsign

theorem ScriptNum.isMinimal_encode (n : Int) : isMinimal (encode n) = true := by
  have hread : decode (encode n) = n := decode_encode n
  rw [isMinimal, hread, beq_self_eq_true]

theorem ScriptNum.isMinimal_ofBool (value : Bool) : isMinimal (ofBool value) = true := by
  cases value <;> decide +kernel

theorem Computes.isMinimal {name : String} {numbers : List Int} {item : Bytes}
    (hcomputes : Computes name numbers item) : ScriptNum.isMinimal item = true := by
  cases hcomputes with
  | increment | decrement | negate | abs | add | sub | mul | div | mod | minimum | maximum =>
      exact ScriptNum.isMinimal_encode _
  | isZero | isNotZero | both | either | equal | notEqual | less | greater | lessOrEqual
  | greaterOrEqual | within => exact ScriptNum.isMinimal_ofBool _

theorem computes_unary {name : String} (hname : name ∈ unaryInstructions) (a : Int) :
    Computes name [a] ((Unary.ofName name).result a) := by
  simp only [unaryInstructions, List.mem_cons, List.not_mem_nil, or_false] at hname
  rcases hname with rfl | rfl | rfl | rfl | rfl | rfl
  · exact .increment a
  · exact .decrement a
  · exact .negate a
  · change Computes _ _ (ScriptNum.encode a.natAbs)
    rw [← Int.abs_eq_natAbs]
    exact .abs a
  · exact .isZero a
  · have hcomputes := Computes.isNotZero a
    rw [decide_not] at hcomputes
    exact hcomputes

theorem computes_binary {name : String} (hname : name ∈ binaryInstructions) (a b : Int)
    (hdivisor : ¬ DividesByZero name [a, b]) :
    ∃ item, (Binary.ofName name).result a b = .ok [item] ∧ Computes name [a, b] item := by
  simp only [binaryInstructions, List.mem_cons, List.not_mem_nil, or_false] at hname
  rcases hname with rfl | rfl | rfl | rfl | rfl | rfl | rfl | rfl | rfl | rfl | rfl | rfl | rfl |
    rfl | rfl
  · exact ⟨_, rfl, .add a b⟩
  · exact ⟨_, rfl, .sub a b⟩
  · exact ⟨_, rfl, .mul a b⟩
  · have hnonzero : b ≠ 0 := by simpa [DividesByZero] using hdivisor
    exact ⟨_, if_neg hnonzero, .div a b _ _ (isDivision_tdiv_tmod a hnonzero)⟩
  · have hnonzero : b ≠ 0 := by simpa [DividesByZero] using hdivisor
    exact ⟨_, if_neg hnonzero, .mod a b _ _ (isDivision_tdiv_tmod a hnonzero)⟩
  · refine ⟨_, ?_, .both a b⟩
    rw [Bool.decide_and, decide_not, decide_not]
    rfl
  · refine ⟨_, ?_, .either a b⟩
    rw [Bool.decide_or, decide_not, decide_not]
    rfl
  · exact ⟨_, rfl, .equal a b⟩
  · refine ⟨_, ?_, .notEqual a b⟩
    rw [decide_not]
    rfl
  · exact ⟨_, rfl, .less a b⟩
  · exact ⟨_, rfl, .greater a b⟩
  · exact ⟨_, rfl, .lessOrEqual a b⟩
  · exact ⟨_, rfl, .greaterOrEqual a b⟩
  · have hmin : (if b < a then b else a) = min a b := by split <;> omega
    refine ⟨_, ?_, .minimum a b⟩
    rw [← hmin]
    rfl
  · have hmax : (if a < b then b else a) = max a b := by split <;> omega
    refine ⟨_, ?_, .maximum a b⟩
    rw [← hmax]
    rfl

theorem computes_within (x lower upper : Int) :
    Computes "OP_WITHIN" [x, lower, upper] (ScriptNum.ofBool (lower ≤ x && x < upper)) := by
  have hcomputes := Computes.within x lower upper
  rwa [Bool.decide_and] at hcomputes

theorem result_of_dividesByZero {name : String} {a b : Int}
    (hzero : DividesByZero name [a, b]) :
    (Binary.ofName name).result a b = .error (.divisionByZero name) := by
  obtain ⟨hname, hdivisor⟩ := hzero
  obtain rfl : b = 0 := by simpa using hdivisor
  rcases hname with rfl | rfl
  · rfl
  · rfl

section Effects

variable {rules : Rules} {name : String} {x y z : Bytes} (hx : (x.length : Int) ≤ rules.numberLimit)
  (hy : (y.length : Int) ≤ rules.numberLimit) (hz : (z.length : Int) ≤ rules.numberLimit)

include hx

theorem Effect.unary_computes (hname : name ∈ unaryInstructions) (rest : List Bytes) :
    ∃ item, unary rules name (x :: rest) = .done (item :: rest) ∧
      Computes name [ScriptNum.decode x] item := by
  refine ⟨_, ?_, computes_unary hname (ScriptNum.decode x)⟩
  simp only [unary, popNumber_cons hx]

include hy

theorem Effect.binary_computes (hname : name ∈ binaryInstructions)
    (hdivisor : ¬ DividesByZero name [ScriptNum.decode x, ScriptNum.decode y])
    (rest : List Bytes) :
    ∃ item, binary rules name (y :: x :: rest) = .done (item :: rest) ∧
      Computes name [ScriptNum.decode x, ScriptNum.decode y] item := by
  obtain ⟨item, hresult, hcomputes⟩ := computes_binary hname _ _ hdivisor
  refine ⟨item, ?_, hcomputes⟩
  have hboth : ¬ (y :: x :: rest).length < 2 := by simp
  simp only [binary, hboth, ↓reduceIte, popNumber_cons hy, popNumber_cons hx, hresult,
    List.singleton_append]

theorem Effect.binary_of_dividesByZero
    (hzero : DividesByZero name [ScriptNum.decode x, ScriptNum.decode y]) (rest : List Bytes) :
    binary rules name (y :: x :: rest) = .fault (.divisionByZero name) := by
  have hboth : ¬ (y :: x :: rest).length < 2 := by simp
  simp only [binary, hboth, ↓reduceIte, popNumber_cons hy, popNumber_cons hx,
    result_of_dividesByZero hzero]
  rfl

include hz

theorem Effect.within_computes (rest : List Bytes) :
    ∃ item, within rules "OP_WITHIN" (z :: y :: x :: rest) = .done (item :: rest) ∧
      Computes "OP_WITHIN" [ScriptNum.decode x, ScriptNum.decode y, ScriptNum.decode z] item := by
  refine ⟨_, ?_, computes_within _ _ _⟩
  have hall : ¬ (z :: y :: x :: rest).length < 3 := by simp
  simp only [within, hall, ↓reduceIte, popNumber_cons hz, popNumber_cons hy, popNumber_cons hx]

end Effects

theorem operation_of_mem_unaryInstructions : ∀ name ∈ unaryInstructions,
    (Opcode.codeOf? name).bind Operation.ofCode? = some .unary := by
  decide +kernel

theorem operation_of_mem_binaryInstructions : ∀ name ∈ binaryInstructions,
    (Opcode.codeOf? name).bind Operation.ofCode? = some .binary := by
  decide +kernel

theorem operation_within : (Opcode.codeOf? "OP_WITHIN").bind Operation.ofCode? = some .within := by
  decide +kernel

theorem not_dividesByZero_of_mem_unaryInstructions {name : String}
    (hname : name ∈ unaryInstructions) (numbers : List Int) : ¬ DividesByZero name numbers := by
  rintro ⟨rfl | rfl, -⟩
  · exact absurd hname (by decide)
  · exact absurd hname (by decide)

theorem exists_operation_computes {rules : Rules} {name : String} {arity : Nat}
    {operands : List Bytes} (hname : (name, arity) ∈ numericInstructions)
    (hlength : operands.length = arity)
    (hshort : ∀ item ∈ operands, (item.length : Int) ≤ rules.numberLimit)
    (check? : Option SignatureCheck) (rest : List Bytes) :
    ∃ code op, Opcode.codeOf? name = some code ∧ Operation.ofCode? code = some op ∧
      (∀ state : Stacks, op.run rules check? name state =
        (op.runMain rules check? name state.main).map fun main => { state with main }) ∧
      (DividesByZero name (operands.map ScriptNum.decode) →
        op.runMain rules check? name (operands.reverse ++ rest) =
          .fault (.divisionByZero name)) ∧
      (¬ DividesByZero name (operands.map ScriptNum.decode) →
        ∃ item, op.runMain rules check? name (operands.reverse ++ rest) = .done (item :: rest) ∧
          Computes name (operands.map ScriptNum.decode) item) := by
  simp only [numericInstructions, List.mem_append, List.mem_map, Prod.mk.injEq,
    List.mem_singleton] at hname
  rcases hname with (⟨_, hname, rfl, rfl⟩ | ⟨_, hname, rfl, rfl⟩) | ⟨rfl, rfl⟩
  · obtain ⟨code, hcode, hop⟩ :=
      Option.bind_eq_some_iff.mp (operation_of_mem_unaryInstructions _ hname)
    obtain ⟨x, rfl⟩ := List.length_eq_one_iff.mp hlength
    refine ⟨code, _, hcode, hop, fun _ => rfl, ?_, ?_⟩
    · intro hzero
      exact absurd hzero (not_dividesByZero_of_mem_unaryInstructions hname _)
    · intro _
      exact Effect.unary_computes (hshort x (by simp)) hname rest
  · obtain ⟨code, hcode, hop⟩ :=
      Option.bind_eq_some_iff.mp (operation_of_mem_binaryInstructions _ hname)
    obtain ⟨x, y, rfl⟩ := List.length_eq_two.mp hlength
    have hx := hshort x (by simp)
    have hy := hshort y (by simp)
    refine ⟨code, _, hcode, hop, fun _ => rfl, ?_, ?_⟩
    · intro hzero
      exact Effect.binary_of_dividesByZero hx hy hzero rest
    · intro hnonzero
      exact Effect.binary_computes hx hy hname hnonzero rest
  · obtain ⟨code, hcode, hop⟩ := Option.bind_eq_some_iff.mp operation_within
    obtain ⟨x, y, z, rfl⟩ := List.length_eq_three.mp hlength
    refine ⟨code, _, hcode, hop, fun _ => rfl, ?_, ?_⟩
    · rintro ⟨hname, -⟩
      exact absurd hname (by decide)
    · intro _
      exact Effect.within_computes (hshort x (by simp)) (hshort y (by simp)) (hshort z (by simp))
        rest

/-- Instructions compute with the numbers of their operands. Whichever items the operands are, of
those that are not too long to be numbers, an instruction that computes with numbers puts one item
in their place, in its shortest form, which stands for the outcome of the computation; all else
stays. Only a division by zero is refused. -/
theorem numeric_instructions_compute (rules : Rules) (check? : Option SignatureCheck)
    (name : String) (arity : Nat) (hname : (name, arity) ∈ numericInstructions)
    (operands rest alt : List Bytes) (branches : List Bool) (hlength : operands.length = arity)
    (hshort : ∀ item ∈ operands, (item.length : Int) ≤ rules.numberLimit)
    (hexecuting : branches.all id = true) :
    ∃ code, Opcode.codeOf? name = some code ∧
      let outcome := (⟨name, code, none⟩ : Instruction).execute rules check?
        ⟨(rest ++ operands).reverse, alt, branches⟩
      let numbers := operands.map ScriptNum.decode
      (DividesByZero name numbers →
        ∃ cause : Fault, cause.kind = .invalidOperand ∧ outcome = .fault cause) ∧
      (¬ DividesByZero name numbers →
        ∃ item, outcome = .done ⟨(rest ++ [item]).reverse, alt, branches⟩ ∧
          ScriptNum.isMinimal item = true ∧ Computes name numbers item) := by
  obtain ⟨code, op, hcode, hop, hmain, hzero, hnonzero⟩ :=
    exists_operation_computes hname hlength hshort check? rest.reverse
  refine ⟨code, hcode, ?_⟩
  intro outcome numbers
  have houtcome : outcome = (op.runMain rules check? name (operands.reverse ++ rest.reverse)).map
      fun main => ⟨main, alt, branches⟩ := by
    simp only [outcome, List.reverse_append]
    rw [Instruction.execute_of_operation
      (show Stacks.isExecuting ⟨_, alt, branches⟩ = true from hexecuting) rfl hop, hmain]
  rw [houtcome]
  constructor
  · intro hdivides
    rw [hzero hdivides]
    exact ⟨.divisionByZero name, rfl, rfl⟩
  · intro hdivisor
    obtain ⟨item, hdone, hcomputes⟩ := hnonzero hdivisor
    refine ⟨item, ?_, hcomputes.isMinimal, hcomputes⟩
    rw [hdone, List.reverse_append]
    rfl

theorem numeric_instructions_compute_padded_operands :
    ScriptNum.decode [0x07, 0x00, 0x80] = -7 ∧ ScriptNum.decode [0x02, 0x00] = 2 ∧
    ScriptNum.decode [0x80] = 0 ∧
    (∃ item, (⟨"OP_MOD", 0x97, none⟩ : Instruction).execute {} none
        ⟨[[0x02, 0x00], [0x07, 0x00, 0x80], [0xff]], [[0x05]], [true]⟩ =
          .done ⟨[item, [0xff]], [[0x05]], [true]⟩ ∧
      ScriptNum.isMinimal item = true ∧ Computes "OP_MOD" [-7, 2] item) ∧
    ∃ cause : Fault, cause.kind = .invalidOperand ∧
      (⟨"OP_DIV", 0x96, none⟩ : Instruction).execute {} none
        ⟨[[0x80], [0x07, 0x00, 0x80]], [], []⟩ = .fault cause := by
  have hseven : ScriptNum.decode [0x07, 0x00, 0x80] = -7 := by decide +kernel
  have htwo : ScriptNum.decode [0x02, 0x00] = 2 := by decide +kernel
  have hzero : ScriptNum.decode [0x80] = 0 := by decide +kernel
  refine ⟨hseven, htwo, hzero, ?_, ?_⟩
  · obtain ⟨code, hcode, -, hdone⟩ := numeric_instructions_compute {} none "OP_MOD" 2 (by decide)
      [[0x07, 0x00, 0x80], [0x02, 0x00]] [[0xff]] [[0x05]] [true] rfl (by decide) rfl
    obtain rfl : 0x97 = code := Option.some.inj hcode
    simp only [List.map_cons, List.map_nil, hseven, htwo] at hdone
    exact hdone (by simp [DividesByZero])
  · obtain ⟨code, hcode, hfault, -⟩ := numeric_instructions_compute {} none "OP_DIV" 2 (by decide)
      [[0x07, 0x00, 0x80], [0x80]] [] [] [] rfl (by decide) rfl
    obtain rfl : 0x96 = code := Option.some.inj hcode
    exact hfault ⟨.inl rfl, congrArg some hzero⟩

end Lockstep
