import Lockstep.Proofs.ReaderAgreement

namespace Lockstep

/-- The instructions that the readers make. -/
inductive Instruction.Parsed : Instruction → Prop where
  /-- A mnemonic that takes no payload, or a number that has a mnemonic. -/
  | mnemonic (code : Int) (hcode : code ∈ Opcode.table.map Prod.snd)
      (hlimit : Opcode.pushDataLimit? code = none) : Parsed (Instruction.ofCode code)
  /-- Data by itself, with the smallest code for its length. -/
  | data (item : Bytes) (hsome : item ≠ []) :
      Parsed ⟨Opcode.nameOf (Opcode.forLength item.length), Opcode.forLength item.length, some item⟩
  /-- Data behind the mnemonic of a push with an explicit length. -/
  | payload (code : Int) (limit : Nat) (item : Bytes)
      (hlimit : Opcode.pushDataLimit? code = some limit) (hfits : item.length ≤ limit) :
      Parsed ⟨Opcode.nameOf code, code, some item⟩

theorem Instruction.Parsed.data_or_no_limit {instruction : Instruction}
    (hparsed : instruction.Parsed) :
    instruction.data.isSome = true ∨ Opcode.pushDataLimit? instruction.code = none := by
  cases hparsed with
  | mnemonic code hcode hlimit => exact .inr hlimit
  | data item hsome => exact .inl rfl
  | payload code limit item hlimit hfits => exact .inl rfl

theorem Instruction.Parsed.exists_code_of_data {instruction : Instruction} {item : Bytes}
    (hparsed : instruction.Parsed) (hdata : instruction.data = some item) :
    ∃ code : Nat, 1 ≤ code ∧ code < 79 ∧ instruction = ⟨Opcode.nameOf code, code, some item⟩ := by
  have hexists : ∀ code : Int, 1 ≤ code → code < 79 → ∃ natural : Nat, 1 ≤ natural ∧
      natural < 79 ∧ (⟨Opcode.nameOf code, code, some item⟩ : Instruction) =
        ⟨Opcode.nameOf natural, natural, some item⟩ := by
    intro code hlow hhigh
    have hnat : code = (code.toNat : Int) := by omega
    exact ⟨code.toNat, by omega, by omega, by rw [← hnat]⟩
  cases hparsed with
  | mnemonic code hcode hlimit => simp [ofCode] at hdata
  | data item' hsome =>
      have hlength : 0 < item'.length := List.length_pos_iff.mpr hsome
      cases hdata
      apply hexists
      · unfold Opcode.forLength Opcode.pushData1 Opcode.pushData2 Opcode.pushData4
        split <;> omega
      · unfold Opcode.forLength Opcode.pushData1 Opcode.pushData2 Opcode.pushData4
          Opcode.maxDirectPush
        grind
  | payload code limit item' hlimit hfits =>
      cases hdata
      unfold Opcode.pushDataLimit? Opcode.pushData1 Opcode.pushData2 Opcode.pushData4 at hlimit
      apply hexists <;> grind

namespace Script

theorem parsed_push (item : Bytes) : (Instruction.push item).Parsed := by
  unfold Instruction.push
  split
  · exact .mnemonic Opcode.zero (by decide) rfl
  · rename_i hsome
    exact .data item (by simpa using hsome)

theorem mem_table_small : ∀ k < 17, 1 ≤ k →
    Opcode.one + (k : Nat) - 1 ∈ Opcode.table.map Prod.snd ∧
      Opcode.pushDataLimit? (Opcode.one + (k : Nat) - 1) = none := by
  decide +kernel

theorem mem_table_of_forNumber {n code : Int} (hcode : Opcode.forNumber n = .ok code) :
    code ∈ Opcode.table.map Prod.snd ∧ Opcode.pushDataLimit? code = none := by
  unfold Opcode.forNumber at hcode
  split at hcode
  · cases hcode
    decide
  · split at hcode
    · cases hcode
      decide
    · split at hcode
      · rename_i hsmall
        cases hcode
        have hk : n = (n.toNat : Int) := by omega
        rw [hk]
        exact mem_table_small n.toNat (by omega) (by omega)
      · simp at hcode

theorem parsed_pushNumber (n : Int) : (Instruction.pushNumber n).Parsed := by
  unfold Instruction.pushNumber
  split
  · rename_i code hcode
    obtain ⟨hmem, hlimit⟩ := mem_table_of_forNumber hcode
    exact .mnemonic code hmem hlimit
  · exact parsed_push _

theorem parsed_of_readToken {token : String} {instruction : Instruction}
    (hread : readToken token = .ok instruction)
    (hwhole : ∀ limit, instruction.data = none →
      Opcode.pushDataLimit? instruction.code = some limit → False) : instruction.Parsed := by
  unfold readToken at hread
  split at hread
  · cases hread
    exact parsed_push _
  · split at hread
    · split at hread
      · simp at hread
      · cases hread
        exact parsed_pushNumber _
    · split at hread
      · rename_i code hfound
        cases hread
        have hmem := Opcode.mem_table_of_codeOf? hfound
        refine .mnemonic code (List.mem_map_of_mem hmem) ?_
        cases hlimit : Opcode.pushDataLimit? code with
        | none => rfl
        | some limit => exact (hwhole limit rfl hlimit).elim
      · simp at hread

theorem map_cons_eq_ok {instruction : Instruction} {read : Except ParseError (List Instruction)}
    {program : List Instruction} (hmap : read.map (instruction :: ·) = .ok program) :
    ∃ rest, read = .ok rest ∧ program = instruction :: rest := by
  cases read with
  | error e => simp [Except.map] at hmap
  | ok rest =>
      cases hmap
      exact ⟨rest, rfl, rfl⟩

theorem parsed_of_readTolerantTokens {tokens : List String} {program : List Instruction}
    (hread : readTolerantTokens tokens = .ok program) :
    ∀ instruction ∈ program, instruction.Parsed := by
  fun_induction readTolerantTokens tokens generalizing program with
  | case1 =>
      cases hread
      simp
  | case2 | case3 | case4 | case5 => simp at hread
  | case6 token instruction _ limit hlimit hdata payload rest item hitem name hfits =>
      rename_i ih
      obtain ⟨after, hafter, rfl⟩ := map_cons_eq_ok hread
      refine List.forall_mem_cons.mpr ⟨?_, ih hafter⟩
      exact .payload instruction.code limit item hlimit (by omega)
  | case7 token rest instruction htoken hwhole ih =>
      obtain ⟨after, hafter, rfl⟩ := map_cons_eq_ok hread
      exact List.forall_mem_cons.mpr ⟨parsed_of_readToken htoken hwhole, ih hafter⟩

/-- Every instruction of a program that was read from text is one that the readers make. -/
theorem parsed_of_parse {text : String} {program : List Instruction}
    (hparse : parse text = .ok program) : ∀ instruction ∈ program, instruction.Parsed := by
  rw [parse_eq_readTolerant] at hparse
  exact parsed_of_readTolerantTokens hparse

end Script

end Lockstep
