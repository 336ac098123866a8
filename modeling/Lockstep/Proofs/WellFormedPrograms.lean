import Lockstep.Proofs.DataLength
import Lockstep.Proofs.RecordedFaults

namespace Lockstep

theorem Outcome.map_eq_fault_iff {α β : Type} (f : α → β) (outcome : Outcome α) (cause : Fault) :
    outcome.map f = .fault cause ↔ outcome = .fault cause := by
  cases outcome <;> simp [map]

theorem popNumber_ne_missingData (rules : Rules) (name other : String) (stack : List Bytes) :
    popNumber rules name stack ≠ .error (.missingData other) := by
  unfold popNumber
  grind

theorem Binary.result_ne_missingData (op : Binary) (a b : Int) (other : String) :
    op.result a b ≠ .error (.missingData other) := by
  unfold result
  grind

namespace Operation

variable (rules : Rules) (check? : Option SignatureCheck) (name : String) (op : Operation)

theorem runMain_ne_missingData (stack : List Bytes) (other : String) :
    op.runMain rules check? name stack ≠ .fault (.missingData other) := by
  have hpop := popNumber_ne_missingData rules name other
  have hresult := (Binary.ofName name).result_ne_missingData
  intro hfault
  simp only [runMain] at hfault
  cases op with
  | verify | dupIfTrue | shuffle | join | shorten | measure | invert | bitwise | compare | digest
  | checkSignature =>
      -- these tell stacks apart by their two top items
      rcases stack with _ | ⟨top, _ | ⟨second, rest⟩⟩ <;>
        grind [Effect.verify, Effect.dupIfTrue, Effect.shuffle, Effect.join, Effect.shorten,
          Effect.measure, Effect.invert, Effect.bitwise, Effect.compare, Effect.digest,
          Effect.checkSignature]
  | _ =>
      grind [Effect.fetch, Effect.split, Effect.resize, Effect.unary, Effect.binary, Effect.within,
        Effect.checkMultisignature, Outcome.refuse]

theorem run_ne_missingData (state : Stacks) (other : String) :
    op.run rules check? name state ≠ .fault (.missingData other) := by
  unfold run
  split
  case h_6 =>
    rw [Ne, Outcome.map_eq_fault_iff]
    exact runMain_ne_missingData rules check? name op state.main other
  all_goals
    grind [Effect.openBranch, Effect.switchBranch, Effect.closeBranch, Effect.toAlt,
      Effect.fromAlt]

theorem operation_or_behind_pushes_of_mem_table : ∀ entry ∈ Opcode.table,
    Opcode.pushDataLimit? entry.2 = none →
      (ofCode? entry.2).isSome = true ∨ Opcode.pushData4 < entry.2 := by
  decide +kernel

end Operation

namespace Instruction

/-- The name of an instruction belongs to its code. Without data, the code is one of the table that
asks for no payload. With data, the code is either the length of the data, from 1 to 75, or one with
an explicit length that can carry the data. -/
structure WellFormed (instruction : Instruction) : Prop where
  name_eq : instruction.name = Opcode.nameOf instruction.code
  code_of_none : instruction.data = none →
    instruction.code ∈ Opcode.table.map Prod.snd ∧ Opcode.pushDataLimit? instruction.code = none
  code_of_some : ∀ item, instruction.data = some item →
    (1 ≤ item.length ∧ item.length ≤ 75 ∧ instruction.code = item.length) ∨
      ∃ limit, Opcode.pushDataLimit? instruction.code = some limit ∧ item.length ≤ limit

theorem code_of_forLength {length : Nat} (hpos : 1 ≤ length) (hlong : length ≤ 0xffffffff) :
    (1 ≤ length ∧ length ≤ 75 ∧ Opcode.forLength length = length) ∨
      ∃ limit, Opcode.pushDataLimit? (Opcode.forLength length) = some limit ∧ length ≤ limit := by
  unfold Opcode.forLength Opcode.maxDirectPush
  split
  · exact .inl ⟨hpos, by omega, rfl⟩
  · split
    · exact .inr ⟨0xff, rfl, by omega⟩
    · split
      · exact .inr ⟨0xffff, rfl, by omega⟩
      · exact .inr ⟨0xffffffff, rfl, hlong⟩

theorem Parsed.wellFormed {instruction : Instruction} (hparsed : instruction.Parsed)
    (hlength : ∀ item, instruction.data = some item → item.length ≤ 0xffffffff) :
    instruction.WellFormed := by
  cases hparsed with
  | mnemonic code hcode hlimit =>
      refine ⟨rfl, fun _ => ⟨hcode, hlimit⟩, ?_⟩
      intro item hdata
      simp [ofCode] at hdata
  | payload code limit item hlimit hfits =>
      refine ⟨rfl, by simp, ?_⟩
      intro data hdata
      cases hdata
      exact .inr ⟨limit, hlimit, hfits⟩
  | data item hsome =>
      refine ⟨rfl, by simp, ?_⟩
      intro data hdata
      cases hdata
      exact code_of_forLength (List.length_pos_iff.mpr hsome) (hlength item rfl)

variable {instruction : Instruction} {rules : Rules} {check? : Option SignatureCheck}
  {state : Stacks}

theorem WellFormed.execute_ne_missingData (hformed : instruction.WellFormed) (name : String) :
    instruction.execute rules check? state ≠ .fault (.missingData name) := by
  intro hfault
  unfold execute at hfault
  split at hfault
  · simp at hfault
  · split at hfault
    · simp at hfault
    · rename_i hdata
      split at hfault
      · exact Operation.run_ne_missingData _ _ _ _ _ _ hfault
      · rename_i hnone
        obtain ⟨hcode, hlimit⟩ := hformed.code_of_none hdata
        obtain ⟨entry, hentry, hentryCode⟩ := List.mem_map.mp hcode
        rw [← hentryCode] at hfault hnone hlimit
        -- without an operation, the code stands behind all codes that push data
        rcases Operation.operation_or_behind_pushes_of_mem_table entry hentry hlimit with
          hsome | hbehind
        · simp [hnone] at hsome
        · rw [if_neg (by omega)] at hfault
          simp at hfault

theorem WellFormed.digest_named (hformed : instruction.WellFormed)
    (hdata : instruction.data = none)
    (hdigest : Operation.ofCode? instruction.code = some .digest) :
    ∃ kind, DigestKind.ofName? instruction.name = some kind := by
  obtain ⟨hcode, -⟩ := hformed.code_of_none hdata
  obtain ⟨entry, hentry, hentryCode⟩ := List.mem_map.mp hcode
  rw [← hentryCode] at hdigest
  rw [hformed.name_eq, ← hentryCode, Opcode.nameOf_of_mem_table entry hentry,
    ← Option.isSome_iff_exists]
  exact Operation.digest_named_of_mem_table entry hentry hdigest

end Instruction

theorem Script.wellFormed_of_parse {text : String} {program : List Instruction}
    (hparse : Script.parse text = .ok program) (hshort : text.length < 0x200000000) :
    ∀ instruction ∈ program, instruction.WellFormed := by
  intro instruction hmem
  apply (Script.parsed_of_parse hparse instruction hmem).wellFormed
  intro item hdata
  have hbound := Script.length_data_of_parse hparse instruction hmem item hdata
  unfold dataBound Decimal.digitLimit at hbound
  omega

namespace Machine

/-- The machine has not stopped for want of data. -/
def LacksNoData (machine : Machine) : Prop :=
  ∀ halt name, machine.halt? = some halt → halt.cause ≠ .missingData name

theorem LacksNoData.step {machine : Machine} (hlacks : machine.LacksNoData)
    (hformed : ∀ instruction ∈ machine.setup.program.toList, instruction.WellFormed) :
    machine.step.1.LacksNoData := by
  have hcase := machine.step_cases
  generalize machine.step = result at hcase
  cases hcase with
  | finished | outside | abort => exact hlacks
  | done hunfinished instruction state hat hdone =>
      intro halt name hhalt
      unfold advance at hhalt
      dsimp only at hhalt
      split at hhalt
      · cases hhalt
        simp
      · exact hlacks halt name hhalt
  | fault hunfinished instruction cause hat hfault =>
      intro halt name hhalt
      cases hhalt
      rintro rfl
      exact (hformed instruction (Setup.mem_of_instruction? hat)).execute_ne_missingData name hfault

theorem LacksNoData.steps {machine : Machine} (hlacks : machine.LacksNoData)
    (hformed : ∀ instruction ∈ machine.setup.program.toList, instruction.WellFormed)
    (count : Nat) : (machine.steps count).LacksNoData := by
  induction count with
  | zero => exact hlacks
  | succ count ih =>
      apply ih.step
      rwa [setup_steps]

end Machine

/-- Every instruction of a program that was read from a text of fewer than 2 ^ 33 characters is well
formed. So no run of the program, from whatever position and stacks and with whatever check of
signatures, stops for want of data, or gets to an instruction that should compute a digest but has
the name of none. -/
theorem parsed_programs_well_formed (text : String) (hshort : text.length < 0x200000000)
    (program : List Instruction) (hparse : Script.parse text = .ok program) :
    (∀ instruction ∈ program, instruction.WellFormed) ∧
    ∀ setup : Setup, setup.program.toList = program →
      ∀ (counter : Int) (state : Stacks) (count : Nat),
        ((Machine.resume setup counter state).steps count).LacksNoData ∧
        ∀ instruction,
          setup.instruction? ((Machine.resume setup counter state).steps count).counter =
            some instruction →
          instruction.data = none → Operation.ofCode? instruction.code = some .digest →
            ∃ kind, DigestKind.ofName? instruction.name = some kind := by
  have hformed := Script.wellFormed_of_parse hparse hshort
  refine ⟨hformed, ?_⟩
  rintro setup rfl counter state count
  refine ⟨?_, ?_⟩
  · apply Machine.LacksNoData.steps _ hformed
    intro halt name hhalt
    simp [Machine.resume] at hhalt
  · intro instruction hat hdata hdigest
    exact (hformed instruction (Setup.mem_of_instruction? hat)).digest_named hdata hdigest

/-- A digest, and a push with an explicit length of nothing. -/
def digestAndEmptyPush : List Instruction :=
  [⟨"OP_HASH160", 0xa9, none⟩, ⟨"OP_PUSHDATA1", 0x4c, some []⟩]

theorem parsed_programs_well_formed_digest :
    Script.parse "hash160 pushdata1 0x" = .ok digestAndEmptyPush ∧
    (∀ instruction ∈ digestAndEmptyPush, instruction.WellFormed) ∧
    (∀ counter state count, ((Machine.resume ⟨digestAndEmptyPush.toArray, 0, none, {}⟩ counter
      state).steps count).LacksNoData) ∧
    ∃ kind, DigestKind.ofName? "OP_HASH160" = some kind := by
  have hparse : Script.parse "hash160 pushdata1 0x" = .ok digestAndEmptyPush :=
    Script.parse_of_toOption (by decide +kernel)
  obtain ⟨hformed, hruns⟩ := parsed_programs_well_formed _ (by decide) _ hparse
  refine ⟨hparse, hformed, ?_, ?_⟩
  · intro counter state count
    exact (hruns ⟨digestAndEmptyPush.toArray, 0, none, {}⟩ rfl counter state count).1
  · exact (hruns ⟨digestAndEmptyPush.toArray, 0, none, {}⟩ rfl 0 ⟨[], [], []⟩ 0).2
      ⟨"OP_HASH160", 0xa9, none⟩ rfl rfl (by decide)

end Lockstep
