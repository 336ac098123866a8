import Lockstep.Proofs.BranchNesting
import Lockstep.Proofs.NumberCoding

/-!
Faults are recorded. For scripts that were read from text and run without a check of signatures,
whatever goes wrong with an instruction is recorded on the machine and leaves the stacks alone. There
is one exception: a refusal whose text shows a number of the script cannot be written if the number
has too many digits. Such a step breaks off, and the operands that it has taken are gone.
-/

namespace Lockstep

theorem Outcome.refuse_eq_abort_iff {α : Type} (fault : Fault) (left left' : α) (cause : Abort) :
    Outcome.refuse fault left = .abort cause left' ↔
      fault.isWritable = false ∧ cause = .unwritableNumber ∧ left' = left := by
  unfold Outcome.refuse
  cases fault.isWritable <;> simp [eq_comm]

namespace Operation

/-- The refusals whose text shows a number of the script: what an operation says of a main stack,
and what is left of the stack when it says so. -/
inductive Refuses (rules : Rules) (name : String) :
    Operation → List Bytes → Fault → List Bytes → Prop where
  /-- An item is to be fetched from a negative depth. -/
  | negativeDepth {stack rest : List Bytes} {depth : Int}
      (hdepth : popNumber rules name stack = .ok (depth, rest)) (hnegative : depth < 0) :
      Refuses rules name .fetch stack (.negativeDepth name depth) rest
  /-- An item is to be cut outside of it. -/
  | positionOutOfRange {stack rest : List Bytes} {item : Bytes} {position : Int}
      (hposition : popNumber rules name stack = .ok (position, item :: rest))
      (houtside : position < 0 ∨ (item.length : Int) < position) :
      Refuses rules name .split stack (.positionOutOfRange position) rest
  /-- A number is to be written wider than allowed. -/
  | sizeTooLarge {stack rest : List Bytes} {item : Bytes} {size : Int}
      (hsize : popNumber rules name stack = .ok (size, item :: rest))
      (hlarge : rules.numberLimit < size) :
      Refuses rules name .resize stack (.sizeTooLarge size rules.numberLimit) rest
  /-- A number is to be written narrower than it is. -/
  | sizeTooSmall {stack rest : List Bytes} {item : Bytes} {size : Int}
      (hsize : popNumber rules name stack = .ok (size, item :: rest))
      (hallowed : size ≤ rules.numberLimit)
      (hsmall : size < 0 ∨ size < ScriptNum.width (ScriptNum.decode item)) :
      Refuses rules name .resize stack
        (.sizeTooSmall (ScriptNum.width (ScriptNum.decode item)) size) rest
  /-- Two numbers should be the same and are not. -/
  | numbersDiffer {stack below rest : List Bytes} {a b : Int}
      (hname : Binary.ofName name = .equalVerify)
      (hb : popNumber rules name stack = .ok (b, below))
      (ha : popNumber rules name below = .ok (a, rest)) (hdiffer : a ≠ b) :
      Refuses rules name .binary stack (.numbersDiffer a b) rest
  /-- There are to be fewer signatures than none, or more than keys. -/
  | badSignatureCount {stack belowCount rest : List Bytes} {keyCount signatureCount : Int}
      (hkeys : popNumber rules name stack = .ok (keyCount, belowCount)) (hsome : 0 ≤ keyCount)
      (henough : keyCount + 1 ≤ belowCount.length)
      (hsignatures : popNumber rules name (belowCount.drop keyCount.toNat) =
        .ok (signatureCount, rest))
      (hbad : signatureCount < 0 ∨ keyCount < signatureCount) :
      Refuses rules name .checkMultisignature stack (.badSignatureCount name signatureCount) rest

section

variable {rules : Rules} {name : String} {stack left : List Bytes} {cause : Abort}

theorem length_of_popNumber {n : Int} {item : Bytes} {rest : List Bytes}
    (hpop : popNumber rules name stack = .ok (n, item :: rest)) : ¬ stack.length < 2 := by
  cases stack with
  | nil => simp [popNumber] at hpop
  | cons top below =>
      simp only [popNumber] at hpop
      split at hpop
      · simp at hpop
      · simp only [Except.ok.injEq, Prod.mk.injEq] at hpop
        simp [hpop.2]

theorem paddingRefusal?_eq_none (hlimit : rules.numberLimit ≤ paddingLimit) {size : Int}
    (hallowed : ¬ rules.numberLimit < size) (width : Nat) :
    paddingRefusal? (size - width) = none := by
  unfold paddingRefusal? Position.wordLimit
  unfold paddingLimit at hlimit ⊢
  rw [if_neg (by omega), if_neg (by omega)]

theorem fetch_eq_abort_iff :
    Effect.fetch rules name stack = .abort cause left ↔
      cause = .unwritableNumber ∧
        ∃ fault, Refuses rules name .fetch stack fault left ∧ fault.isWritable = false := by
  constructor
  · intro habort
    unfold Effect.fetch at habort
    split at habort
    · simp at habort
    · rename_i depth rest hdepth
      split at habort
      · rename_i hnegative
        obtain ⟨hunwritable, rfl, rfl⟩ := (Outcome.refuse_eq_abort_iff _ _ _ _).mp habort
        exact ⟨rfl, _, .negativeDepth hdepth hnegative, hunwritable⟩
      · split at habort
        · simp at habort
        · split at habort <;> simp at habort
  · rintro ⟨rfl, fault, hrefuses, hunwritable⟩
    cases hrefuses with
    | negativeDepth hdepth hnegative =>
        simp [Effect.fetch, hdepth, hnegative, Outcome.refuse, hunwritable]

theorem split_eq_abort_iff :
    Effect.split rules name stack = .abort cause left ↔
      cause = .unwritableNumber ∧
        ∃ fault, Refuses rules name .split stack fault left ∧ fault.isWritable = false := by
  constructor
  · intro habort
    unfold Effect.split at habort
    split at habort
    · simp at habort
    · split at habort
      · simp at habort
      · simp at habort
      · rename_i position item rest hposition
        split at habort
        · rename_i houtside
          obtain ⟨hunwritable, rfl, rfl⟩ := (Outcome.refuse_eq_abort_iff _ _ _ _).mp habort
          exact ⟨rfl, _, .positionOutOfRange hposition houtside, hunwritable⟩
        · simp at habort
  · rintro ⟨rfl, fault, hrefuses, hunwritable⟩
    cases hrefuses with
    | positionOutOfRange hposition houtside =>
        simp [Effect.split, length_of_popNumber hposition, hposition, houtside,
          Outcome.refuse, hunwritable]

theorem resize_eq_abort_iff (hlimit : rules.numberLimit ≤ paddingLimit) :
    Effect.resize rules name stack = .abort cause left ↔
      cause = .unwritableNumber ∧
        ∃ fault, Refuses rules name .resize stack fault left ∧ fault.isWritable = false := by
  constructor
  · intro habort
    unfold Effect.resize at habort
    split at habort
    · simp at habort
    · split at habort
      · simp at habort
      · simp at habort
      · rename_i size item rest hsize
        simp only [ScriptNum.length_encode] at habort
        split at habort
        · rename_i hlarge
          obtain ⟨hunwritable, rfl, rfl⟩ := (Outcome.refuse_eq_abort_iff _ _ _ _).mp habort
          exact ⟨rfl, _, .sizeTooLarge hsize hlarge, hunwritable⟩
        · rename_i hallowed
          split at habort
          · rename_i hsmall
            obtain ⟨hunwritable, rfl, rfl⟩ := (Outcome.refuse_eq_abort_iff _ _ _ _).mp habort
            exact ⟨rfl, _, .sizeTooSmall hsize (by omega) hsmall, hunwritable⟩
          · split at habort
            · simp at habort
            · rw [paddingRefusal?_eq_none hlimit hallowed] at habort
              simp at habort
  · rintro ⟨rfl, fault, hrefuses, hunwritable⟩
    cases hrefuses with
    | sizeTooLarge hsize hlarge =>
        simp [Effect.resize, length_of_popNumber hsize, hsize, hlarge, Outcome.refuse,
          hunwritable]
    | sizeTooSmall hsize hallowed hsmall =>
        have hnotLarge := Int.not_lt.mpr hallowed
        simp [Effect.resize, ScriptNum.length_encode, length_of_popNumber hsize, hsize, hnotLarge,
          hsmall, Outcome.refuse, hunwritable]

theorem result_eq_error {op : Binary} {a b : Int} {fault : Fault}
    (herror : op.result a b = .error fault) (hunwritable : fault.isWritable = false) :
    op = .equalVerify ∧ a ≠ b ∧ fault = .numbersDiffer a b := by
  cases op with
  | div | mod =>
      simp only [Binary.result] at herror
      split at herror
      · cases herror
        simp [Fault.isWritable, Fault.numbers] at hunwritable
      · simp at herror
  | equalVerify =>
      simp only [Binary.result] at herror
      split at herror
      · simp at herror
      · rename_i hdiffer
        cases herror
        exact ⟨rfl, hdiffer, rfl⟩
  | _ => simp [Binary.result] at herror

theorem binary_eq_abort_iff :
    Effect.binary rules name stack = .abort cause left ↔
      cause = .unwritableNumber ∧
        ∃ fault, Refuses rules name .binary stack fault left ∧ fault.isWritable = false := by
  constructor
  · intro habort
    unfold Effect.binary at habort
    split at habort
    · simp at habort
    · split at habort
      · simp at habort
      · rename_i b below hb
        split at habort
        · simp at habort
        · rename_i a rest ha
          split at habort
          · simp at habort
          · rename_i fault herror
            obtain ⟨hunwritable, rfl, rfl⟩ := (Outcome.refuse_eq_abort_iff _ _ _ _).mp habort
            obtain ⟨hname, hdiffer, rfl⟩ := result_eq_error herror hunwritable
            exact ⟨rfl, _, .numbersDiffer hname hb ha hdiffer, hunwritable⟩
  · rintro ⟨rfl, fault, hrefuses, hunwritable⟩
    cases hrefuses with
    | @numbersDiffer stack below rest a b hname hb ha hdiffer =>
        have hlength : ¬ stack.length < 2 := by
          cases below with
          | nil => simp [popNumber] at ha
          | cons item below => exact length_of_popNumber hb
        simp [Effect.binary, hlength, hb, ha, hname, Binary.result, hdiffer, Outcome.refuse,
          hunwritable]

theorem checkMultisignature_eq_abort_iff :
    Effect.checkMultisignature rules none name stack = .abort cause left ↔
      cause = .unwritableNumber ∧
        ∃ fault, Refuses rules name .checkMultisignature stack fault left ∧
          fault.isWritable = false := by
  constructor
  · intro habort
    unfold Effect.checkMultisignature at habort
    split at habort
    · simp at habort
    · rename_i keyCount belowCount hkeys
      split at habort
      · simp at habort
      · rename_i hsome
        split at habort
        · simp at habort
        · rename_i henough
          dsimp only at habort
          split at habort
          · simp at habort
          · rename_i signatureCount belowKeys hsignatures
            split at habort
            · rename_i hbad
              obtain ⟨hunwritable, rfl, rfl⟩ := (Outcome.refuse_eq_abort_iff _ _ _ _).mp habort
              exact ⟨rfl, _, .badSignatureCount hkeys (by omega) (by omega) hsignatures hbad,
                hunwritable⟩
            · split at habort
              · simp at habort
              · simp only [matchWith] at habort
                split at habort <;> simp at habort
  · rintro ⟨rfl, fault, hrefuses, hunwritable⟩
    cases hrefuses with
    | badSignatureCount hkeys hsome henough hsignatures hbad =>
        have hnotNegative := Int.not_lt.mpr hsome
        have hnotFewer := Int.not_lt.mpr henough
        simp [Effect.checkMultisignature, hkeys, hnotNegative, hnotFewer, hsignatures, hbad,
          Outcome.refuse, hunwritable]

theorem digest_ne_abort (hdigest : (DigestKind.ofName? name).isSome = true) :
    Effect.digest rules name stack ≠ .abort cause left := by
  obtain ⟨kind, hkind⟩ := Option.isSome_iff_exists.mp hdigest
  cases stack with
  | nil => simp [Effect.digest]
  | cons item rest =>
      simp only [Effect.digest, hkind]
      split <;> simp

theorem runMain_eq_abort_iff {op : Operation} (hlimit : rules.numberLimit ≤ paddingLimit)
    (hdigest : op = .digest → (DigestKind.ofName? name).isSome = true) :
    op.runMain rules none name stack = .abort cause left ↔
      cause = .unwritableNumber ∧
        ∃ fault, Refuses rules name op stack fault left ∧ fault.isWritable = false := by
  cases op with
  | fetch => exact fetch_eq_abort_iff
  | split => exact split_eq_abort_iff
  | resize => exact resize_eq_abort_iff hlimit
  | binary => exact binary_eq_abort_iff
  | checkMultisignature => exact checkMultisignature_eq_abort_iff
  | digest =>
      refine iff_of_false (digest_ne_abort (hdigest rfl)) ?_
      rintro ⟨-, fault, hrefuses, -⟩
      cases hrefuses
  | _ =>
      refine iff_of_false ?_ ?_
      · intro habort
        simp only [runMain] at habort
        -- these operations look at the two top items at most, or only at what they are as numbers
        rcases stack with _ | ⟨top, _ | ⟨second, rest⟩⟩ <;>
          grind [Effect.verify, Effect.shuffle, Effect.dupIfTrue, Effect.join, Effect.shorten,
            Effect.measure, Effect.invert, Effect.bitwise, Effect.compare, Effect.unary,
            Effect.within, Effect.checkSignature, checkWith]
      · rintro ⟨-, fault, hrefuses, -⟩
        cases hrefuses

theorem run_eq_abort_iff {op : Operation} {state left : Stacks}
    (hlimit : rules.numberLimit ≤ paddingLimit)
    (hdigest : op = .digest → (DigestKind.ofName? name).isSome = true) :
    op.run rules none name state = .abort cause left ↔
      cause = .unwritableNumber ∧ ∃ fault rest, Refuses rules name op state.main fault rest ∧
        fault.isWritable = false ∧ left = { state with main := rest } := by
  have hmain : (op.runMain rules none name state.main).map
        (fun main => ({ state with main } : Stacks)) = .abort cause left ↔
      cause = .unwritableNumber ∧ ∃ fault rest, Refuses rules name op state.main fault rest ∧
        fault.isWritable = false ∧ left = { state with main := rest } := by
    constructor
    · intro habort
      cases hoperation : op.runMain rules none name state.main with
      | done main => simp [hoperation, Outcome.map] at habort
      | fault fault => simp [hoperation, Outcome.map] at habort
      | abort cause' rest =>
          simp only [hoperation, Outcome.map, Outcome.abort.injEq] at habort
          obtain ⟨rfl, rfl⟩ := habort
          obtain ⟨hcause, fault, hrefuses, hunwritable⟩ :=
            (runMain_eq_abort_iff hlimit hdigest).mp hoperation
          exact ⟨hcause, fault, rest, hrefuses, hunwritable, rfl⟩
    · rintro ⟨hcause, fault, rest, hrefuses, hunwritable, rfl⟩
      rw [(runMain_eq_abort_iff hlimit hdigest).mpr ⟨hcause, fault, hrefuses, hunwritable⟩]
      rfl
  unfold run
  split
  case h_6 => exact hmain
  all_goals
    refine iff_of_false ?_ ?_
    · grind [Effect.openBranch, Effect.switchBranch, Effect.closeBranch, Effect.toAlt,
        Effect.fromAlt]
    · rintro ⟨-, fault, rest, hrefuses, -⟩
      cases hrefuses

end

theorem digest_named_of_mem_table : ∀ entry ∈ Opcode.table,
    ofCode? entry.2 = some .digest → (DigestKind.ofName? entry.1).isSome = true := by
  decide +kernel

end Operation

namespace Instruction

/-- An instruction takes effect and is refused with a text that shows a number of more digits than
can be written; `rest` is left of the main stack. -/
def RefusedUnwritably (rules : Rules) (instruction : Instruction) (state : Stacks)
    (rest : List Bytes) : Prop :=
  state.isExecuting = true ∧ instruction.data = none ∧
    ∃ op fault, Operation.ofCode? instruction.code = some op ∧
      op.Refuses rules instruction.name state.main fault rest ∧ fault.isWritable = false

variable {rules : Rules} {instruction : Instruction} {state left : Stacks} {cause : Abort}

theorem Parsed.digest_named {op : Operation} (hparsed : instruction.Parsed)
    (hdata : instruction.data = none) (hop : Operation.ofCode? instruction.code = some op) :
    op = .digest → (DigestKind.ofName? instruction.name).isSome = true := by
  rintro rfl
  cases hparsed with
  | data item hsome => simp at hdata
  | payload code limit item hlimit hfits => simp at hdata
  | mnemonic code hcode hlimit =>
      obtain ⟨entry, hentry, rfl⟩ := List.mem_map.mp hcode
      have hnamed := Operation.digest_named_of_mem_table entry hentry hop
      rw [ofCode, Opcode.nameOf_of_mem_table entry hentry]
      exact hnamed

/-- Without a check of signatures, an instruction that was read from text breaks off exactly if it
is refused with a text that cannot be written. -/
theorem Parsed.execute_eq_abort_iff (hparsed : instruction.Parsed)
    (hlimit : rules.numberLimit ≤ paddingLimit) :
    instruction.execute rules none state = .abort cause left ↔
      cause = .unwritableNumber ∧ ∃ rest, instruction.RefusedUnwritably rules state rest ∧
        left = { state with main := rest } := by
  constructor
  · intro habort
    unfold execute at habort
    split at habort
    · simp at habort
    · rename_i hreached
      split at habort
      · simp at habort
      · rename_i hdata
        split at habort
        · rename_i op hop
          obtain ⟨hcause, fault, rest, hrefuses, hunwritable, hleft⟩ :=
            (Operation.run_eq_abort_iff hlimit (hparsed.digest_named hdata hop)).mp habort
          have hexecuting : state.isExecuting = true := by
            cases hexecuting : state.isExecuting with
            | true => rfl
            | false =>
                -- only conditionals are executed in a skipped branch, and they are not refused so
                have hconditional : instruction.isConditional = true := by
                  simpa [hexecuting] using hreached
                rcases (hparsed.isConditional_iff hdata hop).mp hconditional with
                  rfl | rfl | rfl <;> cases hrefuses
          exact ⟨hcause, rest, ⟨hexecuting, hdata, op, fault, hop, hrefuses, hunwritable⟩, hleft⟩
        · split at habort <;> simp at habort
  · rintro ⟨hcause, rest, ⟨hexecuting, hdata, op, fault, hop, hrefuses, hunwritable⟩, hleft⟩
    rw [execute_of_operation hexecuting hdata hop]
    exact (Operation.run_eq_abort_iff hlimit (hparsed.digest_named hdata hop)).mpr
      ⟨hcause, fault, rest, hrefuses, hunwritable, hleft⟩

end Instruction

namespace Machine

/-- The instruction at the counter is refused with a text that cannot be written. -/
def ShowsUnwritable (machine : Machine) : Prop :=
  machine.isFinished = false ∧ ∃ instruction rest,
    machine.setup.instruction? machine.counter = some instruction ∧
    instruction.RefusedUnwritably machine.setup.rules machine.state rest

/-- The instruction at the counter cannot be executed. -/
def Fails (machine : Machine) : Prop :=
  machine.isFinished = false ∧ ∃ instruction,
    machine.setup.instruction? machine.counter = some instruction ∧
    ∀ state, instruction.execute machine.setup.rules machine.setup.check? machine.state ≠
      .done state

theorem exists_instruction?_of_unfinished {machine : Machine} {counter : Nat}
    (hcounter : machine.counter = counter) (hunfinished : machine.isFinished = false) :
    ∃ instruction, machine.setup.instruction? machine.counter = some instruction := by
  obtain ⟨-, hinside⟩ := machine.isFinished_eq_false_iff.mp hunfinished
  rw [hcounter] at hinside ⊢
  have hlt : counter < machine.setup.program.toList.length := by
    simp only [Setup.length, Array.length_toList] at hinside ⊢
    omega
  exact ⟨_, (machine.setup.instruction?_natCast counter).trans (List.getElem?_eq_getElem hlt)⟩

theorem steps_of_isFinished {machine : Machine} (hfinished : machine.isFinished = true)
    (count : Nat) : machine.steps count = machine := by
  induction count with
  | zero => rfl
  | succ count ih => rw [steps_succ, ih, step, if_pos hfinished]

section

variable {machine : Machine}

theorem parsed_of_instruction? {instruction : Instruction} {counter : Nat}
    (hparsed : ∀ instruction ∈ machine.setup.program.toList, instruction.Parsed)
    (hcounter : machine.counter = counter)
    (hat : machine.setup.instruction? machine.counter = some instruction) :
    instruction.Parsed := by
  rw [hcounter, Setup.instruction?_natCast] at hat
  exact hparsed instruction (List.mem_of_getElem? hat)

theorem step_eq_error_iff {counter : Nat}
    (hparsed : ∀ instruction ∈ machine.setup.program.toList, instruction.Parsed)
    (hcheck : machine.setup.check? = none) (hlimit : machine.setup.rules.numberLimit ≤ paddingLimit)
    (hcounter : machine.counter = counter) :
    (∃ cause, machine.step.2 = .error cause) ↔ machine.ShowsUnwritable := by
  constructor
  · rintro ⟨cause, herror⟩
    have hcase := machine.step_cases
    generalize machine.step = result at hcase herror
    cases hcase with
    | finished | done | fault => simp at herror
    | outside hunfinished hnone =>
        obtain ⟨instruction, hat⟩ := exists_instruction?_of_unfinished hcounter hunfinished
        simp [hnone] at hat
    | abort hunfinished instruction cause' left hat habort =>
        have hinstruction := parsed_of_instruction? hparsed hcounter hat
        rw [hcheck] at habort
        obtain ⟨-, rest, hrefused, -⟩ := (hinstruction.execute_eq_abort_iff hlimit).mp habort
        exact ⟨hunfinished, instruction, rest, hat, hrefused⟩
  · rintro ⟨hunfinished, instruction, rest, hat, hrefused⟩
    have hinstruction := parsed_of_instruction? hparsed hcounter hat
    have habort := (hinstruction.execute_eq_abort_iff hlimit).mpr ⟨rfl, rest, hrefused, rfl⟩
    rw [← hcheck] at habort
    refine ⟨.unwritableNumber, ?_⟩
    simp [step, hunfinished, hat, habort]

theorem step_of_fails (hfails : machine.Fails) (hanswers : ∀ cause, machine.step.2 ≠ .error cause) :
    ∃ cause, machine.step = ({ machine with halt? := some ⟨cause, machine.counter⟩ }, .ok false) := by
  obtain ⟨hunfinished, instruction, hat, hundone⟩ := hfails
  have hcase := machine.step_cases
  generalize machine.step = result at hcase hanswers ⊢
  cases hcase with
  | finished hfinished => simp [hunfinished] at hfinished
  | outside | abort => simp at hanswers
  | done _ instruction' state hat' hdone =>
      obtain rfl : instruction = instruction' := Option.some.inj (hat.symm.trans hat')
      exact (hundone state hdone).elim
  | fault _ instruction' cause hat' hfault => exact ⟨cause, rfl⟩

end

end Machine

/-- A script that was read from text is run from the start without a check of signatures. At every
point a step breaks off exactly if it would have to show a number that cannot be written. Otherwise
an instruction that fails leaves stacks, branches and counter as they were, the fault is recorded
with the counter, and no later step does anything. -/
theorem faults_recorded_unless_number_unwritable (text : String) (program : List Instruction)
    (hparse : Script.parse text = .ok program) (unlockingLength : Int) (rules : Rules)
    (hlimit : rules.numberLimit ≤ paddingLimit) (count : Nat) (machine : Machine)
    (hmachine :
      machine = (Machine.start ⟨program.toArray, unlockingLength, none, rules⟩).steps count) :
    ((∃ cause, machine.step.2 = .error cause) ↔ machine.ShowsUnwritable) ∧
    (machine.Fails → ¬ machine.ShowsUnwritable →
      ∃ cause, machine.step =
          ({ machine with halt? := some ⟨cause, machine.counter⟩ }, .ok false) ∧
        ∀ later, (machine.step.1.steps later).step = (machine.step.1, .ok false)) := by
  have hparsed := Script.parsed_of_parse hparse
  have hsetup : machine.setup = ⟨program.toArray, unlockingLength, none, rules⟩ := by
    rw [hmachine, Machine.setup_steps]
    rfl
  obtain ⟨counter, hcounter, -⟩ :=
    Machine.depth?_steps ⟨program.toArray, unlockingLength, none, rules⟩ hparsed count
  rw [← hmachine] at hcounter
  have herror : (∃ cause, machine.step.2 = .error cause) ↔ machine.ShowsUnwritable := by
    apply Machine.step_eq_error_iff _ _ _ hcounter
    · simpa [hsetup] using hparsed
    · rw [hsetup]
    · rw [hsetup]
      exact hlimit
  refine ⟨herror, ?_⟩
  intro hfails hwritable
  obtain ⟨cause, hstep⟩ := Machine.step_of_fails hfails fun cause habort =>
    hwritable (herror.mp ⟨cause, habort⟩)
  refine ⟨cause, hstep, ?_⟩
  intro later
  have hfinished : machine.step.1.isFinished = true := by
    rw [hstep]
    rfl
  rw [Machine.steps_of_isFinished hfinished, Machine.step, if_pos hfinished]

/-- A script that fetches an item from the depth of minus one. -/
def negativeFetch : List Instruction :=
  [⟨"OP_1NEGATE", 0x4f, none⟩, ⟨"OP_PICK", 0x79, none⟩]

theorem faults_recorded_unless_number_unwritable_fetch :
    Script.parse "OP_1NEGATE OP_PICK" = .ok negativeFetch ∧
    ∃ machine, machine = (Machine.start ⟨negativeFetch.toArray, 0, none, {}⟩).steps 1 ∧
      machine.Fails ∧ ¬ machine.ShowsUnwritable ∧
      ∃ cause, machine.step =
          ({ machine with halt? := some ⟨cause, machine.counter⟩ }, .ok false) ∧
        ∀ later, (machine.step.1.steps later).step = (machine.step.1, .ok false) := by
  have hparse : Script.parse "OP_1NEGATE OP_PICK" = .ok negativeFetch :=
    Script.parse_of_toOption (by decide +kernel)
  obtain ⟨herror, hrecorded⟩ :=
    faults_recorded_unless_number_unwritable _ _ hparse 0 {} (by decide) 1 _ rfl
  have hfault : (⟨"OP_PICK", 0x79, none⟩ : Instruction).execute {} none ⟨[[0x81]], [], []⟩ =
      .fault (.negativeDepth "OP_PICK" (-1)) := by
    have hwritable : Fault.isWritable (.negativeDepth "OP_PICK" (-1)) = true := by decide +kernel
    have hdepth : popNumber {} "OP_PICK" [[0x81]] = .ok (-1, []) := by rfl
    rw [Instruction.execute_of_operation rfl rfl (show _ = some .fetch by decide)]
    simp [Operation.run, Operation.runMain, Effect.fetch, hdepth, Outcome.refuse, hwritable,
      Outcome.map]
  have hstep := congrArg Prod.snd (@Machine.step_of_fault
    ⟨negativeFetch.toArray, 0, none, {}⟩ ⟨[], [], []⟩ [⟨"OP_1NEGATE", 0x4f, none⟩] [] _ _ _
    rfl rfl hfault).2
  have hshown :
      ¬ ((Machine.start ⟨negativeFetch.toArray, 0, none, {}⟩).steps 1).ShowsUnwritable := by
    intro hshows
    obtain ⟨cause, hcause⟩ := herror.mpr hshows
    cases hstep.symm.trans hcause
  have hfails : ((Machine.start ⟨negativeFetch.toArray, 0, none, {}⟩).steps 1).Fails := by
    refine ⟨rfl, ⟨"OP_PICK", 0x79, none⟩, rfl, ?_⟩
    intro state hdone
    cases hfault.symm.trans hdone
  exact ⟨hparse, _, rfl, hfails, hshown, hrecorded hfails hshown⟩

/-- A negative number of 1786 bytes, which has more than 4300 digits. -/
def longNegative : Bytes :=
  List.replicate 1786 0xff

/-- A script that fetches an item from the depth of a long negative number. -/
def longFetch : List Instruction :=
  [Instruction.push longNegative, ⟨"OP_PICK", 0x79, none⟩]

theorem longNegative_ne_nil : longNegative ≠ [] := by
  decide

theorem decode_longNegative : ScriptNum.decode longNegative < 0 ∧
    Decimal.isWritable (ScriptNum.decode longNegative) = false := by
  decide +kernel

theorem parse_longFetch :
    Script.parse (longNegative.toHex ++ " " ++ "OP_PICK") = .ok longFetch := by
  have hhex := Script.plainHex?_toHex longNegative_ne_nil
  have hpick : Opcode.codeOf? "OP_PICK" = some 0x79 := by decide
  have hfields : Text.fields (longNegative.toHex ++ " " ++ "OP_PICK") =
      [longNegative.toHex, "OP_PICK"] := by
    rw [Text.fields_append_space, Text.fields_toHex, if_neg longNegative_ne_nil]
    rfl
  rw [Script.parse_of_fields hfields, Script.readTolerantTokens_of_plainHex? _ hhex,
    Script.readTolerantTokens_of_codeOf? _ hpick rfl]
  · rfl
  · simp only [List.forall_mem_cons]
    exact ⟨Script.isComment_of_plainHex? hhex, Script.isComment_of_codeOf? hpick, by simp⟩

theorem execute_long_depth :
    (⟨"OP_PICK", 0x79, none⟩ : Instruction).execute {} none ⟨[longNegative], [], []⟩ =
      .abort .unwritableNumber ⟨[], [], []⟩ := by
  have hparsed := Script.parsed_of_parse parse_longFetch
  have hpick : (⟨"OP_PICK", 0x79, none⟩ : Instruction).Parsed :=
    hparsed _ (List.mem_cons_of_mem _ List.mem_cons_self)
  have hdepth : popNumber {} "OP_PICK" [longNegative] =
      .ok (ScriptNum.decode longNegative, []) := by
    simp [popNumber, show longNegative.length = 1786 from List.length_replicate]
  obtain ⟨hnegative, hunwritable⟩ := decode_longNegative
  refine (hpick.execute_eq_abort_iff (by decide)).mpr ⟨rfl, [], ⟨rfl, rfl, .fetch,
    .negativeDepth "OP_PICK" (ScriptNum.decode longNegative), by decide,
    .negativeDepth hdepth hnegative, ?_⟩, rfl⟩
  simp [Fault.isWritable, Fault.numbers, hunwritable]

theorem long_depth_not_recorded :
    Script.parse (longNegative.toHex ++ " " ++ "OP_PICK") = .ok longFetch ∧
    ∃ machine, machine = (Machine.start ⟨longFetch.toArray, 0, none, {}⟩).steps 1 ∧
      machine = Machine.resume ⟨longFetch.toArray, 0, none, {}⟩ 1 ⟨[longNegative], [], []⟩ ∧
      machine.Fails ∧
      machine.step = (Machine.resume ⟨longFetch.toArray, 0, none, {}⟩ 1 ⟨[], [], []⟩,
        .error .unwritableNumber) := by
  have hpush : Script.execute {} none [Instruction.push longNegative] ⟨[], [], []⟩ =
      .done ⟨[longNegative], [], []⟩ := by
    refine (Script.execute_singleton_done_iff _ _ _).mpr (Instruction.execute_of_data rfl ?_)
    simp [Instruction.push, longNegative_ne_nil]
  obtain ⟨-, hsteps, hat⟩ := @Machine.runsFor_of_execute_front ⟨longFetch.toArray, 0, none, {}⟩
    ⟨[], [], []⟩ [Instruction.push longNegative] [] _ _ rfl hpush
  obtain ⟨-, hstep⟩ := @Machine.step_of_abort ⟨longFetch.toArray, 0, none, {}⟩ ⟨[], [], []⟩
    [Instruction.push longNegative] [] _ _ _ _ rfl hpush execute_long_depth
  refine ⟨parse_longFetch, _, rfl, hsteps, ?_, hstep⟩
  rw [show (Machine.start ⟨longFetch.toArray, 0, none, {}⟩).steps 1 = _ from hsteps]
  refine ⟨Machine.isFinished_resume_of_instruction? hat _, _, hat, ?_⟩
  intro state hdone
  cases execute_long_depth.symm.trans hdone

end Lockstep
