import Lockstep.Proofs.NumberCoding
import Lockstep.Proofs.RecordedFaults

namespace Lockstep

/-- An integer has more digits than can be written. -/
def Decimal.IsLong (n : Int) : Prop :=
  Nat.pow 10 digitLimit ≤ n.natAbs

/-- An instruction of this name would be refused on this main stack with a text that shows a number
which is too long to be written. All numbers that it takes are within the limit for operands. -/
inductive ShowsLongNumber (limit : Int) : String → List Bytes → Prop where
  /-- An item is to be fetched from a negative depth. -/
  | depth {name : String} {depth : Bytes} {rest : List Bytes}
      (hname : name = "OP_PICK" ∨ name = "OP_ROLL") (hdepth : depth.length ≤ limit)
      (hnegative : ScriptNum.decode depth < 0)
      (hlong : Decimal.IsLong (ScriptNum.decode depth)) :
      ShowsLongNumber limit name (depth :: rest)
  /-- An item is to be cut outside of it. -/
  | position {position item : Bytes} {rest : List Bytes} (hposition : position.length ≤ limit)
      (houtside : ScriptNum.decode position < 0 ∨
        (item.length : Int) < ScriptNum.decode position)
      (hlong : Decimal.IsLong (ScriptNum.decode position)) :
      ShowsLongNumber limit "OP_SPLIT" (position :: item :: rest)
  /-- A number is to be written in a width that is out of the question. -/
  | size {size item : Bytes} {rest : List Bytes} (hsize : size.length ≤ limit)
      (hlong : Decimal.IsLong (ScriptNum.decode size)) :
      ShowsLongNumber limit "OP_NUM2BIN" (size :: item :: rest)
  /-- Two numbers should be the same and are not. -/
  | operands {b a : Bytes} {rest : List Bytes} (hb : b.length ≤ limit) (ha : a.length ≤ limit)
      (hdiffer : ScriptNum.decode a ≠ ScriptNum.decode b)
      (hlong : Decimal.IsLong (ScriptNum.decode a) ∨ Decimal.IsLong (ScriptNum.decode b)) :
      ShowsLongNumber limit "OP_NUMEQUALVERIFY" (b :: a :: rest)
  /-- There are to be fewer signatures than none, or more than keys. -/
  | signatureCount {name : String} {keyCount signatureCount : Bytes} {keys rest : List Bytes}
      (hname : name = "OP_CHECKMULTISIG" ∨ name = "OP_CHECKMULTISIGVERIFY")
      (hkeyCount : keyCount.length ≤ limit) (hkeys : ScriptNum.decode keyCount = keys.length)
      (hsignatureCount : signatureCount.length ≤ limit)
      (hbad : ScriptNum.decode signatureCount < 0 ∨
        ScriptNum.decode keyCount < ScriptNum.decode signatureCount)
      (hlong : Decimal.IsLong (ScriptNum.decode signatureCount)) :
      ShowsLongNumber limit name (keyCount :: (keys ++ signatureCount :: rest))

theorem Decimal.isWritable_eq_false_iff (n : Int) : isWritable n = false ↔ IsLong n := by
  rw [isWritable, decide_eq_false_iff_not, Nat.not_lt, IsLong]

theorem Fault.isWritable_eq_false_iff (fault : Fault) :
    fault.isWritable = false ↔ ∃ n ∈ fault.numbers, Decimal.IsLong n := by
  simp only [isWritable, List.all_eq_false, Bool.not_eq_true, Decimal.isWritable_eq_false_iff]

theorem Decimal.IsLong.neg_of_le {n : Int} (hlong : IsLong n) (hsmall : n ≤ paddingLimit) :
    n < 0 := by
  have hbound : paddingLimit.toNat < Nat.pow 10 digitLimit := by decide +kernel
  unfold IsLong at hlong
  unfold paddingLimit at hbound hsmall
  omega

theorem ScriptNum.not_isLong_decode {item : Bytes} (hshort : item.length ≤ 1785) :
    ¬ Decimal.IsLong (decode item) := by
  have hwidth := Nat.le_trans (width_decode_le item) hshort
  have hmagnitude := (width_le_iff (decode item) (by decide)).mp hwidth
  have hbound : signBit 1785 ≤ Nat.pow 10 Decimal.digitLimit := by decide +kernel
  exact Nat.not_le.mpr (Nat.lt_of_lt_of_le hmagnitude hbound)

theorem ShowsLongNumber.exists_isLong {limit : Int} {name : String} {stack : List Bytes}
    (hshows : ShowsLongNumber limit name stack) :
    ∃ item ∈ stack, Decimal.IsLong (ScriptNum.decode item) := by
  cases hshows with
  | depth _ _ _ hlong => exact ⟨_, by simp, hlong⟩
  | position _ _ hlong => exact ⟨_, by simp, hlong⟩
  | size _ hlong => exact ⟨_, by simp, hlong⟩
  | operands _ _ _ hlong =>
      rcases hlong with hlong | hlong
      · exact ⟨_, by simp, hlong⟩
      · exact ⟨_, by simp, hlong⟩
  | signatureCount _ _ _ _ _ hlong => exact ⟨_, by simp, hlong⟩

/-- Every question about a signature and a key is answered, be it for want of a check. -/
def ChecksAnswer (check? : Option SignatureCheck) : Prop :=
  ∀ signature key, ∃ good, checkWith check? signature key = .ok good

theorem checksAnswer_none : ChecksAnswer none :=
  fun _ _ => ⟨true, rfl⟩

theorem exists_matchInOrder_of_answers {check : SignatureCheck}
    (hcheck : ∀ signature key, ∃ good, check signature key = .ok good)
    (signatures keys : List Bytes) : ∃ good, matchInOrder check signatures keys = .ok good := by
  fun_induction matchInOrder check signatures keys with
  | case1 | case2 | case4 => exact ⟨_, rfl⟩
  | case3 signature signatures key keys cause herror =>
      obtain ⟨good, hgood⟩ := hcheck signature key
      simp [hgood] at herror
  | case5 => assumption

theorem ChecksAnswer.exists_matchWith {check? : Option SignatureCheck}
    (hcheck : ChecksAnswer check?) (signatures keys : List Bytes) :
    ∃ good, matchWith check? signatures keys = .ok good := by
  cases check? with
  | none => exact ⟨true, rfl⟩
  | some check => exact exists_matchInOrder_of_answers hcheck signatures keys

theorem Outcome.map_eq_abort_iff {α β : Type} (f : α → β) (outcome : Outcome α) (cause : Abort)
    (left : β) :
    outcome.map f = .abort cause left ↔ ∃ rest, outcome = .abort cause rest ∧ f rest = left := by
  cases outcome <;> simp [map, and_assoc]

section Unchecked

variable {rules : Rules} {name : String} {cause : Abort} {check? : Option SignatureCheck}

theorem Effect.checkSignature_ne_abort (hcheck : ChecksAnswer check?) (stack left : List Bytes) :
    checkSignature check? name stack ≠ .abort cause left := by
  unfold checkSignature
  split
  · rename_i key signature rest
    obtain ⟨good, hgood⟩ := hcheck signature key
    rw [hgood]
    dsimp only
    split
    · split <;> simp
    · simp
  · simp

theorem Effect.verdict_ne_abort (good : Bool) (rest left : List Bytes) :
    (if name = "OP_CHECKMULTISIGVERIFY" then
      if good then .done rest else .fault .multisignatureRefused
    else .done (ScriptNum.ofBool good :: rest) : Outcome (List Bytes)) ≠ .abort cause left := by
  split
  · split <;> simp
  · simp

theorem Effect.checkMultisignature_eq_abort_iff (hcheck : ChecksAnswer check?)
    (stack left : List Bytes) :
    checkMultisignature rules check? name stack = .abort cause left ↔
      checkMultisignature rules none name stack = .abort cause left := by
  unfold checkMultisignature
  split
  · rfl
  · split
    · rfl
    · split
      · rfl
      · dsimp only
        split
        · rfl
        · split
          · rfl
          · split
            · rfl
            · -- all operands are in order, so only the check itself could break off
              rename_i keyCount belowCount _ _ _ _ signatureCount belowKeys _ _ _
              obtain ⟨good, hgood⟩ := hcheck.exists_matchWith
                (belowKeys.take signatureCount.toNat).reverse
                (belowCount.take keyCount.toNat).reverse
              refine iff_of_false ?_ (verdict_ne_abort true _ _)
              rw [hgood]
              exact verdict_ne_abort good _ _

theorem Operation.run_eq_abort_iff_unchecked (hcheck : ChecksAnswer check?) (op : Operation)
    (state left : Stacks) :
    op.run rules check? name state = .abort cause left ↔
      op.run rules none name state = .abort cause left := by
  cases op with
  | checkSignature =>
      simp only [run, runMain, Outcome.map_eq_abort_iff, Effect.checkSignature_ne_abort hcheck,
        Effect.checkSignature_ne_abort checksAnswer_none]
  | checkMultisignature =>
      simp only [run, runMain, Outcome.map_eq_abort_iff,
        Effect.checkMultisignature_eq_abort_iff hcheck]
  | _ => rfl

theorem Instruction.execute_eq_abort_iff_unchecked (hcheck : ChecksAnswer check?)
    (instruction : Instruction) (state left : Stacks) :
    instruction.execute rules check? state = .abort cause left ↔
      instruction.execute rules none state = .abort cause left := by
  unfold execute
  split
  · rfl
  · split
    · rfl
    · split
      · exact Operation.run_eq_abort_iff_unchecked hcheck _ state left
      · rfl

end Unchecked

theorem popNumber_cons {rules : Rules} {item : Bytes}
    (hshort : (item.length : Int) ≤ rules.numberLimit) (name : String) (rest : List Bytes) :
    popNumber rules name (item :: rest) = .ok (ScriptNum.decode item, rest) := by
  rw [popNumber, if_neg (Int.not_lt.mpr hshort)]

theorem exists_item_of_popNumber {rules : Rules} {name : String} {stack rest : List Bytes}
    {n : Int} (hpop : popNumber rules name stack = .ok (n, rest)) :
    ∃ item, stack = item :: rest ∧ (item.length : Int) ≤ rules.numberLimit ∧
      ScriptNum.decode item = n := by
  cases stack with
  | nil => simp [popNumber] at hpop
  | cons item below =>
      rw [popNumber] at hpop
      split at hpop
      · simp at hpop
      · rename_i hshort
        cases hpop
        exact ⟨item, rfl, Int.not_lt.mp hshort, rfl⟩

theorem Operation.named_of_mem_table : ∀ entry ∈ Opcode.table,
    (ofCode? entry.2 = some .fetch ↔ entry.1 = "OP_PICK" ∨ entry.1 = "OP_ROLL") ∧
    (ofCode? entry.2 = some .split ↔ entry.1 = "OP_SPLIT") ∧
    (ofCode? entry.2 = some .resize ↔ entry.1 = "OP_NUM2BIN") ∧
    (ofCode? entry.2 = some .binary ∧ Binary.ofName entry.1 = .equalVerify ↔
      entry.1 = "OP_NUMEQUALVERIFY") ∧
    (ofCode? entry.2 = some .checkMultisignature ↔
      entry.1 = "OP_CHECKMULTISIG" ∨ entry.1 = "OP_CHECKMULTISIGVERIFY") := by
  decide +kernel

namespace Instruction

theorem nameOf_push_shows_nothing : ∀ code < 79, 1 ≤ code →
    Opcode.nameOf (code : Nat) ∉ ["OP_PICK", "OP_ROLL", "OP_SPLIT", "OP_NUM2BIN",
      "OP_NUMEQUALVERIFY", "OP_CHECKMULTISIG", "OP_CHECKMULTISIGVERIFY"] := by
  decide +kernel

theorem Parsed.operation_named {instruction : Instruction} (hparsed : instruction.Parsed) :
    (instruction.data = none ∧ Operation.ofCode? instruction.code = some .fetch ↔
      instruction.name = "OP_PICK" ∨ instruction.name = "OP_ROLL") ∧
    (instruction.data = none ∧ Operation.ofCode? instruction.code = some .split ↔
      instruction.name = "OP_SPLIT") ∧
    (instruction.data = none ∧ Operation.ofCode? instruction.code = some .resize ↔
      instruction.name = "OP_NUM2BIN") ∧
    (instruction.data = none ∧ Operation.ofCode? instruction.code = some .binary ∧
        Binary.ofName instruction.name = .equalVerify ↔
      instruction.name = "OP_NUMEQUALVERIFY") ∧
    (instruction.data = none ∧ Operation.ofCode? instruction.code = some .checkMultisignature ↔
      instruction.name = "OP_CHECKMULTISIG" ∨ instruction.name = "OP_CHECKMULTISIGVERIFY") := by
  cases hdata : instruction.data with
  | some item =>
      obtain ⟨code, hlow, hhigh, rfl⟩ := hparsed.exists_code_of_data hdata
      have hnothing := nameOf_push_shows_nothing code hhigh hlow
      simp only [List.mem_cons, List.not_mem_nil, or_false, not_or] at hnothing
      simp [hnothing]
  | none =>
      cases hparsed with
      | data item hsome => simp at hdata
      | payload code limit item hlimit hfits => simp at hdata
      | mnemonic code hcode hlimit =>
          obtain ⟨entry, hentry, rfl⟩ := List.mem_map.mp hcode
          simp only [true_and, ofCode, Opcode.nameOf_of_mem_table entry hentry]
          exact Operation.named_of_mem_table entry hentry

variable {instruction : Instruction} {rules : Rules} {stack : List Bytes}

theorem Parsed.showsLongNumber_of_refuses {op : Operation} {fault : Fault} {rest : List Bytes}
    (hparsed : instruction.Parsed) (hdata : instruction.data = none)
    (hop : Operation.ofCode? instruction.code = some op)
    (hrefuses : op.Refuses rules instruction.name stack fault rest)
    (hunwritable : fault.isWritable = false) :
    ShowsLongNumber rules.numberLimit instruction.name stack := by
  obtain ⟨hfetch, hsplit, hresize, hequal, hmultiple⟩ := hparsed.operation_named
  obtain ⟨n, hn, hlong⟩ := (Fault.isWritable_eq_false_iff fault).mp hunwritable
  cases hrefuses with
  | negativeDepth hdepth hnegative =>
      obtain ⟨depth, rfl, hshort, rfl⟩ := exists_item_of_popNumber hdepth
      obtain rfl := List.mem_singleton.mp hn
      exact .depth (hfetch.mp ⟨hdata, hop⟩) hshort hnegative hlong
  | positionOutOfRange hposition houtside =>
      obtain ⟨position, rfl, hshort, rfl⟩ := exists_item_of_popNumber hposition
      obtain rfl := List.mem_singleton.mp hn
      rw [hsplit.mp ⟨hdata, hop⟩]
      exact .position hshort houtside hlong
  | sizeTooLarge hsize _ | sizeTooSmall hsize _ _ =>
      obtain ⟨size, rfl, hshort, rfl⟩ := exists_item_of_popNumber hsize
      obtain rfl := List.mem_singleton.mp hn
      rw [hresize.mp ⟨hdata, hop⟩]
      exact .size hshort hlong
  | numbersDiffer hname hb ha hdiffer =>
      obtain ⟨b, rfl, hshortB, rfl⟩ := exists_item_of_popNumber hb
      obtain ⟨a, rfl, hshortA, rfl⟩ := exists_item_of_popNumber ha
      rw [hequal.mp ⟨hdata, hop, hname⟩]
      refine .operands hshortB hshortA hdiffer ?_
      rcases List.mem_cons.mp hn with rfl | hn
      · exact .inl hlong
      · obtain rfl := List.mem_singleton.mp hn
        exact .inr hlong
  | @badSignatureCount _ belowCount rest _ _ hkeys hsome henough hsignatures hbad =>
      obtain ⟨keyCount, rfl, hshortKeys, rfl⟩ := exists_item_of_popNumber hkeys
      obtain ⟨signatureCount, hdrop, hshortSignatures, rfl⟩ := exists_item_of_popNumber hsignatures
      obtain rfl := List.mem_singleton.mp hn
      rw [← List.take_append_drop (ScriptNum.decode keyCount).toNat belowCount, hdrop]
      refine .signatureCount (hmultiple.mp ⟨hdata, hop⟩) hshortKeys ?_ hshortSignatures hbad hlong
      rw [List.length_take]
      omega

theorem Parsed.exists_refuses_of_showsLongNumber (hparsed : instruction.Parsed)
    (hlimit : rules.numberLimit ≤ paddingLimit)
    (hshows : ShowsLongNumber rules.numberLimit instruction.name stack) :
    instruction.data = none ∧ ∃ op fault rest, Operation.ofCode? instruction.code = some op ∧
      op.Refuses rules instruction.name stack fault rest ∧ fault.isWritable = false := by
  obtain ⟨hfetch, hsplit, hresize, hequal, hmultiple⟩ := hparsed.operation_named
  have hunwritable : ∀ {fault : Fault} {n : Int}, n ∈ fault.numbers → Decimal.IsLong n →
      fault.isWritable = false :=
    fun hn hlong => (Fault.isWritable_eq_false_iff _).mpr ⟨_, hn, hlong⟩
  generalize instruction.name = name at *
  cases hshows with
  | depth hnames hshort hnegative hlong =>
      obtain ⟨hdata, hop⟩ := hfetch.mpr hnames
      exact ⟨hdata, _, _, _, hop, .negativeDepth (popNumber_cons hshort _ _) hnegative,
        hunwritable List.mem_cons_self hlong⟩
  | position hshort houtside hlong =>
      obtain ⟨hdata, hop⟩ := hsplit.mpr rfl
      exact ⟨hdata, _, _, _, hop, .positionOutOfRange (popNumber_cons hshort _ _) houtside,
        hunwritable List.mem_cons_self hlong⟩
  | @size size item rest hshort hlong =>
      obtain ⟨hdata, hop⟩ := hresize.mpr rfl
      refine ⟨hdata, .resize, ?_⟩
      rcases Int.lt_or_le rules.numberLimit (ScriptNum.decode size) with hlarge | hallowed
      · exact ⟨_, _, hop, .sizeTooLarge (popNumber_cons hshort _ _) hlarge,
          hunwritable List.mem_cons_self hlong⟩
      · -- a long number that is not too large a width is negative
        have hnegative := hlong.neg_of_le (Int.le_trans hallowed hlimit)
        exact ⟨_, _, hop, .sizeTooSmall (popNumber_cons hshort _ _) hallowed (.inl hnegative),
          hunwritable List.mem_cons_self hlong⟩
  | operands hshortB hshortA hdiffer hlong =>
      obtain ⟨hdata, hop, hverify⟩ := hequal.mpr rfl
      refine ⟨hdata, _, _, _, hop, .numbersDiffer hverify (popNumber_cons hshortB _ _)
        (popNumber_cons hshortA _ _) hdiffer, ?_⟩
      rcases hlong with hlong | hlong
      · exact hunwritable List.mem_cons_self hlong
      · exact hunwritable (List.mem_cons_of_mem _ List.mem_cons_self) hlong
  | @signatureCount name keyCount signatureCount keys rest hnames hshortKeys hkeys
      hshortSignatures hbad hlong =>
      obtain ⟨hdata, hop⟩ := hmultiple.mpr hnames
      have hcount : popNumber rules name
          ((keys ++ signatureCount :: rest).drop (ScriptNum.decode keyCount).toNat) =
            .ok (ScriptNum.decode signatureCount, rest) := by
        rw [hkeys, Int.toNat_natCast, List.drop_left]
        exact popNumber_cons hshortSignatures name rest
      refine ⟨hdata, _, _, _, hop, .badSignatureCount (popNumber_cons hshortKeys _ _) ?_ ?_ hcount
        hbad, hunwritable List.mem_cons_self hlong⟩
      · omega
      · rw [hkeys, List.length_append, List.length_cons]
        omega

/-- With a check of signatures that always answers, an instruction that was read from text breaks
off exactly if it takes effect and has to show a number that is too long. -/
theorem Parsed.exists_execute_eq_abort_iff {check? : Option SignatureCheck} {state : Stacks}
    (hparsed : instruction.Parsed) (hcheck : ChecksAnswer check?)
    (hlimit : rules.numberLimit ≤ paddingLimit) (cause : Abort) :
    (∃ left, instruction.execute rules check? state = .abort cause left) ↔
      cause = .unwritableNumber ∧ state.isExecuting = true ∧
        ShowsLongNumber rules.numberLimit instruction.name state.main := by
  simp only [execute_eq_abort_iff_unchecked hcheck, hparsed.execute_eq_abort_iff hlimit]
  constructor
  · rintro ⟨_, hcause, rest, ⟨hexecuting, hdata, op, fault, hop, hrefuses, hunwritable⟩, -⟩
    exact ⟨hcause, hexecuting, hparsed.showsLongNumber_of_refuses hdata hop hrefuses hunwritable⟩
  · rintro ⟨hcause, hexecuting, hshows⟩
    obtain ⟨hdata, op, fault, rest, hop, hrefuses, hunwritable⟩ :=
      hparsed.exists_refuses_of_showsLongNumber hlimit hshows
    exact ⟨_, hcause, rest, ⟨hexecuting, hdata, op, fault, hop, hrefuses, hunwritable⟩, rfl⟩

end Instruction

theorem Setup.exists_instruction? (setup : Setup) {position : Int}
    (hlow : -setup.length ≤ position) (hhigh : position < setup.length) :
    ∃ instruction, setup.instruction? position = some instruction := by
  unfold length at hlow hhigh
  obtain ⟨index, hindex, hinside⟩ : ∃ index,
      Position.index? setup.program.size position = some index ∧ index < setup.program.size := by
    unfold Position.index?
    dsimp only
    split
    · exact ⟨_, if_pos (by omega), by omega⟩
    · exact ⟨_, if_pos (by omega), by omega⟩
  rw [instruction?, hindex]
  exact ⟨_, Array.getElem?_eq_getElem hinside⟩

theorem Machine.step_eq_error_iff_execute {machine : Machine} {instruction : Instruction}
    (hunfinished : machine.isFinished = false)
    (hat : machine.setup.instruction? machine.counter = some instruction) (cause : Abort) :
    machine.step.2 = .error cause ↔
      ∃ left, instruction.execute machine.setup.rules machine.setup.check? machine.state =
        .abort cause left := by
  simp only [step, hunfinished, hat, Bool.false_eq_true, ↓reduceIte]
  cases instruction.execute machine.setup.rules machine.setup.check? machine.state <;> simp

/-- Exactly when a step breaks off. In a program that was read from text, with a check of signatures
that always answers if there is one, from any stacks and at any position of the program, a step
breaks off exactly if its instruction takes effect and has to show a number of more than 4300
digits. There is no other reason, and items of at most 1785 bytes never give it. -/
theorem step_breaks_off_iff_long_number_shown (text : String) (program : List Instruction)
    (hparse : Script.parse text = .ok program) (machine : Machine)
    (hprogram : machine.setup.program.toList = program)
    (hcheck : ChecksAnswer machine.setup.check?)
    (hlimit : machine.setup.rules.numberLimit ≤ paddingLimit)
    (hlow : -machine.setup.length ≤ machine.counter)
    (hhigh : machine.counter < machine.setup.length) (hhalt : machine.halt? = none) :
    (∀ cause, machine.step.2 = .error cause ↔
      cause = .unwritableNumber ∧ machine.state.isExecuting = true ∧
        ∃ instruction, machine.setup.instruction? machine.counter = some instruction ∧
          ShowsLongNumber machine.setup.rules.numberLimit instruction.name machine.state.main) ∧
    ((∀ item ∈ machine.state.main, item.length ≤ 1785) →
      ∃ more, machine.step.2 = .ok more) := by
  obtain ⟨instruction, hat⟩ := machine.setup.exists_instruction? hlow hhigh
  have hunfinished := machine.isFinished_eq_false_iff.mpr ⟨hhalt, hhigh⟩
  have hparsed : instruction.Parsed := by
    apply Script.parsed_of_parse hparse
    rw [← hprogram]
    exact Setup.mem_of_instruction? hat
  have herror : ∀ cause, machine.step.2 = .error cause ↔
      cause = .unwritableNumber ∧ machine.state.isExecuting = true ∧
        ∃ instruction, machine.setup.instruction? machine.counter = some instruction ∧
          ShowsLongNumber machine.setup.rules.numberLimit instruction.name machine.state.main := by
    intro cause
    rw [Machine.step_eq_error_iff_execute hunfinished hat,
      hparsed.exists_execute_eq_abort_iff hcheck hlimit]
    simp [hat]
  refine ⟨herror, ?_⟩
  intro hshort
  cases hanswer : machine.step.2 with
  | ok more => exact ⟨more, rfl⟩
  | error cause =>
      obtain ⟨-, -, _, -, hshows⟩ := (herror cause).mp hanswer
      obtain ⟨item, hitem, hlong⟩ := hshows.exists_isLong
      exact (ScriptNum.not_isLong_decode (hshort item hitem) hlong).elim

/-- A machine inside a conditional, in front of an instruction that fetches an item, with signatures
that are all good. -/
def fetchInBranch (stack : List Bytes) : Machine :=
  Machine.resume
    ⟨#[⟨"OP_IF", 0x63, none⟩, ⟨"OP_ROLL", 0x7a, none⟩, ⟨"OP_ENDIF", 0x68, none⟩], 0,
      some fun _ _ => .ok true, {}⟩
    1 ⟨stack, [], [true]⟩

theorem step_breaks_off_iff_long_number_shown_in_branch :
    Script.parse "if roll endif" = .ok (fetchInBranch []).setup.program.toList ∧
    (fetchInBranch [longNegative]).step.2 = .error .unwritableNumber ∧
    ∃ more, (fetchInBranch [[0x81]]).step.2 = .ok more := by
  have hparse : Script.parse "if roll endif" = .ok (fetchInBranch []).setup.program.toList :=
    Script.parse_of_toOption (by decide +kernel)
  have hcheck : ChecksAnswer (some fun _ _ => .ok true) := fun _ _ => ⟨true, rfl⟩
  have hdepth : (longNegative.length : Int) ≤ 750000 := by
    rw [longNegative, List.length_replicate]
    decide
  obtain ⟨hnegative, hunwritable⟩ := decode_longNegative
  have hshows : ShowsLongNumber 750000 "OP_ROLL" [longNegative] :=
    .depth (.inr rfl) hdepth hnegative ((Decimal.isWritable_eq_false_iff _).mp hunwritable)
  refine ⟨hparse, ?_, ?_⟩
  · exact ((step_breaks_off_iff_long_number_shown _ _ hparse (fetchInBranch [longNegative]) rfl
      hcheck (by decide) (by decide) (by decide) rfl).1 _).mpr
        ⟨rfl, rfl, ⟨"OP_ROLL", 0x7a, none⟩, rfl, hshows⟩
  · exact (step_breaks_off_iff_long_number_shown _ _ hparse (fetchInBranch [[0x81]]) rfl hcheck
      (by decide) (by decide) (by decide) rfl).2 (by decide)

end Lockstep
