import Lockstep.Proofs.DataLength

namespace Lockstep

namespace Instruction

/-- The instructions whose name belongs to their code and whose code goes with their data, but for
the length of a payload. -/
inductive Formattable : Instruction → Prop where
  | mnemonic (name : String) (code : Int) (hentry : (name, code) ∈ Opcode.table)
      (hlimit : Opcode.pushDataLimit? code = none) : Formattable ⟨name, code, none⟩
  | direct (item : Bytes) (hsome : 1 ≤ item.length) (hshort : item.length ≤ 75) :
      Formattable ⟨Opcode.nameOf item.length, item.length, some item⟩
  | payload (code : Int) (limit : Nat) (item : Bytes)
      (hlimit : Opcode.pushDataLimit? code = some limit) :
      Formattable ⟨Opcode.nameOf code, code, some item⟩

/-- Whether the payload of a push with an explicit length, if it is one, has at least one byte and
no more than the push can carry. -/
def payloadFits (instruction : Instruction) : Bool :=
  match instruction.data, Opcode.pushDataLimit? instruction.code with
  | some item, some limit => 1 ≤ item.length && item.length ≤ limit
  | _, _ => true

end Instruction

theorem Text.fields_of_mem_table : ∀ entry ∈ Opcode.table, fields entry.1 = [entry.1] := by
  decide +kernel

namespace Script

theorem fields_format (program : List Instruction) :
    Text.fields (format program) = program.flatMap fun instruction =>
      Text.fields instruction.toText := by
  rw [format, Text.fields_intercalate, List.flatMap_map]

theorem toText_payload {code : Int} {limit : Nat}
    (hlimit : Opcode.pushDataLimit? code = some limit) (item : Bytes) :
    Text.fields (⟨Opcode.nameOf code, code, some item⟩ : Instruction).toText =
      Opcode.nameOf code :: if item = [] then [] else [item.toHex] := by
  have hentry := Opcode.mem_table_of_codeOf? (Opcode.codeOf?_nameOf_of_pushDataLimit? hlimit)
  simp only [Instruction.toText, hlimit]
  rw [Text.fields_append_space, Text.fields_of_mem_table _ hentry, Text.fields_toHex]
  rfl

theorem toText_direct {item : Bytes} (hsome : 1 ≤ item.length) (hshort : item.length ≤ 75) :
    Text.fields (⟨Opcode.nameOf item.length, item.length, some item⟩ : Instruction).toText =
      [item.toHex] := by
  have hlimit : Opcode.pushDataLimit? item.length = none := by
    unfold Opcode.pushDataLimit? Opcode.pushData1 Opcode.pushData2 Opcode.pushData4
    grind
  have hne : item ≠ [] := List.ne_nil_of_length_pos hsome
  simp only [Instruction.toText, hlimit]
  rw [Text.fields_toHex, if_neg hne]

theorem mem_fields_toText {instruction : Instruction} (hkind : instruction.Formattable)
    {field : String} (hfield : field ∈ Text.fields instruction.toText) :
    (∃ code, Opcode.codeOf? field = some code) ∨
      ∃ item, item ≠ [] ∧ plainHex? field = some item := by
  cases hkind with
  | mnemonic name code hentry hlimit =>
      rw [show (⟨name, code, none⟩ : Instruction).toText = name from rfl,
        Text.fields_of_mem_table _ hentry, List.mem_singleton] at hfield
      subst hfield
      exact .inl ⟨code, Opcode.codeOf?_of_mem_table _ hentry⟩
  | direct item hsome hshort =>
      rw [toText_direct hsome hshort, List.mem_singleton] at hfield
      subst hfield
      have hne : item ≠ [] := List.ne_nil_of_length_pos hsome
      exact .inr ⟨item, hne, plainHex?_toHex hne⟩
  | payload code limit item hlimit =>
      rw [toText_payload hlimit] at hfield
      rcases List.mem_cons.mp hfield with rfl | hfield
      · exact .inl ⟨code, Opcode.codeOf?_nameOf_of_pushDataLimit? hlimit⟩
      · split at hfield
        · simp at hfield
        · rename_i hne
          rw [List.mem_singleton] at hfield
          subst hfield
          exact .inr ⟨item, hne, plainHex?_toHex hne⟩

theorem tokens_format {program : List Instruction}
    (hkinds : ∀ instruction ∈ program, instruction.Formattable) :
    tokens (format program) = program.flatMap fun instruction =>
      Text.fields instruction.toText := by
  rw [← fields_format]
  apply tokens_eq_fields
  intro field hfield
  rw [fields_format] at hfield
  obtain ⟨instruction, hmem, hfield⟩ := List.mem_flatMap.mp hfield
  rcases mem_fields_toText (hkinds instruction hmem) hfield with ⟨code, hcode⟩ | ⟨item, -, hitem⟩
  · exact isComment_of_codeOf? hcode
  · exact isComment_of_plainHex? hitem

theorem parse_format {program : List Instruction}
    (hkinds : ∀ instruction ∈ program, instruction.Formattable) :
    parse (format program) =
      readTolerantTokens (program.flatMap fun instruction =>
        Text.fields instruction.toText) := by
  rw [parse_eq_readTolerant, readTolerant, tokens_format hkinds]

theorem readTolerantTokens_toText {instruction : Instruction} (hkind : instruction.Formattable)
    (hfits : instruction.payloadFits = true) (rest : List String) :
    readTolerantTokens (Text.fields instruction.toText ++ rest) =
      (readTolerantTokens rest).map (instruction :: ·) := by
  cases hkind with
  | mnemonic name code hentry hlimit =>
      rw [show (⟨name, code, none⟩ : Instruction).toText = name from rfl,
        Text.fields_of_mem_table _ hentry]
      exact readTolerantTokens_of_codeOf? rest (Opcode.codeOf?_of_mem_table _ hentry) hlimit
  | direct item hsome hshort =>
      have hne : item ≠ [] := List.ne_nil_of_length_pos hsome
      have hpush : Instruction.push item = ⟨Opcode.nameOf item.length, item.length, some item⟩ := by
        have hcode : Opcode.forLength item.length = item.length := by
          unfold Opcode.forLength Opcode.maxDirectPush
          exact if_pos (by omega)
        simp [Instruction.push, hne, hcode]
      rw [toText_direct hsome hshort, ← hpush]
      exact readTolerantTokens_of_plainHex? rest (plainHex?_toHex hne)
  | payload code limit item hlimit =>
      simp only [Instruction.payloadFits, hlimit, Bool.and_eq_true, decide_eq_true_eq] at hfits
      have hne : item ≠ [] := List.ne_nil_of_length_pos hfits.1
      rw [toText_payload hlimit, if_neg hne]
      exact readTolerantTokens_payload (Opcode.codeOf?_nameOf_of_pushDataLimit? hlimit) hlimit
        (hexData?_of_plainHex? (plainHex?_toHex hne)) (by omega)

/-- A payload that does not fit is not read back, whatever instructions follow. -/
theorem readTolerantTokens_toText_ne {instruction : Instruction}
    (hkind : instruction.Formattable) (hmisfit : instruction.payloadFits = false)
    {later : List Instruction} (hlater : ∀ next ∈ later, next.Formattable)
    (program : List Instruction) :
    readTolerantTokens (Text.fields instruction.toText ++
        later.flatMap fun next => Text.fields next.toText) ≠ .ok (instruction :: program) := by
  cases hkind with
  | mnemonic name code hentry hlimit => simp [Instruction.payloadFits] at hmisfit
  | direct item hsome hshort =>
      unfold Instruction.payloadFits Opcode.pushDataLimit? Opcode.pushData1 Opcode.pushData2
        Opcode.pushData4 at hmisfit
      grind
  | payload code limit item hlimit =>
      have hcode := Opcode.codeOf?_nameOf_of_pushDataLimit? hlimit
      rw [toText_payload hlimit, List.cons_append, readTolerantTokens, readToken_of_codeOf? hcode]
      simp only [hlimit]
      by_cases hempty : item = []
      · subst hempty
        -- the place of the payload is taken by the next field, which has data or is refused
        simp only [↓reduceIte, List.nil_append]
        cases hfields : later.flatMap fun next => Text.fields next.toText with
        | nil => simp
        | cons field fields =>
            have hfield : field ∈ later.flatMap fun next => Text.fields next.toText := by
              rw [hfields]
              exact List.mem_cons_self
            obtain ⟨next, hmem, hfield⟩ := List.mem_flatMap.mp hfield
            rcases mem_fields_toText (hlater next hmem) hfield with
              ⟨code', hcode'⟩ | ⟨item, hne, hitem⟩
            · simp [hexData?_of_codeOf? hcode']
            · simp only [hexData?_of_plainHex? hitem]
              split
              · simp
              · intro hread
                obtain ⟨rest, -, hprogram⟩ := map_cons_eq_ok hread
                obtain ⟨hfirst, -⟩ := List.cons.inj hprogram
                exact hne (Option.some.inj (congrArg Instruction.data hfirst)).symm
      · have hlong : limit < item.length := by
          have hsome : 1 ≤ item.length := List.length_pos_iff.mpr hempty
          simp only [Instruction.payloadFits, hlimit, Bool.and_eq_false_iff,
            decide_eq_false_iff_not] at hmisfit
          omega
        simp [hempty, hexData?_of_plainHex? (plainHex?_toHex hempty), hlong]

theorem readTolerantTokens_format_iff {program : List Instruction}
    (hkinds : ∀ instruction ∈ program, instruction.Formattable) :
    readTolerantTokens (program.flatMap fun instruction => Text.fields instruction.toText) =
        .ok program ↔
      ∀ instruction ∈ program, instruction.payloadFits = true := by
  induction program with
  | nil => simp [readTolerantTokens]
  | cons instruction rest ih =>
      rw [List.forall_mem_cons] at hkinds
      rw [List.flatMap_cons, List.forall_mem_cons]
      cases hfits : instruction.payloadFits with
      | false => simp [readTolerantTokens_toText_ne hkinds.1 hfits hkinds.2 rest]
      | true =>
          rw [readTolerantTokens_toText hkinds.1 hfits, ← ih hkinds.2]
          constructor
          · intro hread
            obtain ⟨program, hprogram, heq⟩ := map_cons_eq_ok hread
            obtain ⟨-, rfl⟩ := List.cons.inj heq
            exact ⟨rfl, hprogram⟩
          · rintro ⟨-, hread⟩
            rw [hread]
            rfl

/-- Exactly which instructions survive being written and read: all of them, if every payload behind
the name of a push with an explicit length has a byte and no more bytes than that push can carry. -/
theorem format_read_back_iff_payloads_fit (program : List Instruction)
    (hkinds : ∀ instruction ∈ program, instruction.Formattable) :
    parse (format program) = .ok program ↔
      ∀ instruction ∈ program, instruction.payloadFits = true := by
  rw [parse_format hkinds]
  exact readTolerantTokens_format_iff hkinds

theorem format_read_back_iff_payloads_fit_neighbours :
    parse (format [⟨"OP_PUSHDATA2", 0x4d, some [0xab]⟩, ⟨"OP_PUSHBYTES_1", 1, some [0x00]⟩,
      ⟨"OP_DUP", 0x76, none⟩]) = .ok [⟨"OP_PUSHDATA2", 0x4d, some [0xab]⟩,
        ⟨"OP_PUSHBYTES_1", 1, some [0x00]⟩, ⟨"OP_DUP", 0x76, none⟩] ∧
    parse (format [⟨"OP_PUSHDATA1", 0x4c, some []⟩, ⟨"OP_PUSHBYTES_1", 1, some [0x00]⟩]) ≠
      .ok [⟨"OP_PUSHDATA1", 0x4c, some []⟩, ⟨"OP_PUSHBYTES_1", 1, some [0x00]⟩] := by
  have hdirect : (⟨"OP_PUSHBYTES_1", 1, some [0x00]⟩ : Instruction).Formattable :=
    .direct [0x00] (by decide) (by decide)
  have hlong : (⟨"OP_PUSHDATA2", 0x4d, some [0xab]⟩ : Instruction).Formattable :=
    .payload 0x4d 0xffff [0xab] rfl
  have hempty : (⟨"OP_PUSHDATA1", 0x4c, some []⟩ : Instruction).Formattable :=
    .payload 0x4c 0xff [] rfl
  have hdup : (⟨"OP_DUP", 0x76, none⟩ : Instruction).Formattable :=
    .mnemonic "OP_DUP" 0x76 (by decide) rfl
  constructor
  · refine (format_read_back_iff_payloads_fit _ ?_).mpr (by decide)
    simp [hlong, hdirect, hdup]
  · intro hread
    have hfits := (format_read_back_iff_payloads_fit _ (by simp [hempty, hdirect])).mp hread
    exact absurd hfits (by decide)

end Script

namespace Instruction

theorem Parsed.formattable {instruction : Instruction} (hparsed : instruction.Parsed) :
    instruction.Formattable := by
  cases hparsed with
  | mnemonic code hcode hlimit =>
      obtain ⟨entry, hentry, rfl⟩ := List.mem_map.mp hcode
      rw [ofCode, Opcode.nameOf_of_mem_table entry hentry]
      exact .mnemonic entry.1 entry.2 hentry hlimit
  | payload code limit item hlimit hfits => exact .payload code limit item hlimit
  | data item hsome =>
      have hlength : 1 ≤ item.length := List.length_pos_iff.mpr hsome
      unfold Opcode.forLength
      split
      · rename_i hdirect
        exact .direct item hlength (by unfold Opcode.maxDirectPush at hdirect; omega)
      · split
        · exact .payload Opcode.pushData1 0xff item rfl
        · split
          · exact .payload Opcode.pushData2 0xffff item rfl
          · exact .payload Opcode.pushData4 0xffffffff item rfl

theorem length_le_of_pushDataLimit?_forLength {length limit : Nat} (hlength : length ≤ 0xffffffff)
    (hlimit : Opcode.pushDataLimit? (Opcode.forLength length) = some limit) : length ≤ limit := by
  unfold Opcode.forLength Opcode.pushDataLimit? Opcode.pushData1 Opcode.pushData2
    Opcode.pushData4 Opcode.maxDirectPush at hlimit
  grind

theorem Parsed.payloadFits_iff {instruction : Instruction} (hparsed : instruction.Parsed)
    (hlength : ∀ item, instruction.data = some item → item.length ≤ 0xffffffff) :
    instruction.payloadFits = true ↔ instruction.data ≠ some [] := by
  cases hparsed with
  | mnemonic code hcode hlimit => simp [payloadFits, ofCode]
  | data item hsome =>
      have hlong : 1 ≤ item.length := List.length_pos_iff.mpr hsome
      have hne : some item ≠ some [] := by simpa using hsome
      refine iff_of_true ?_ hne
      unfold payloadFits
      cases hlimit : Opcode.pushDataLimit? (Opcode.forLength item.length) with
      | none => simp
      | some limit =>
          have hfits := length_le_of_pushDataLimit?_forLength (hlength item rfl) hlimit
          simp [hlong, hfits]
  | payload code limit item hlimit hfits =>
      simp [payloadFits, hlimit, hfits, Nat.one_le_iff_ne_zero]

end Instruction

namespace Script

/-- What was read from a text of fewer than 2 ^ 33 characters is read from its own text again,
unless a push with an explicit length has an empty payload; and then it never is. -/
theorem parsed_read_back_iff_no_empty_payload (text : String) (hshort : text.length < 0x200000000)
    (program : List Instruction) (hparse : parse text = .ok program) :
    parse (format program) = .ok program ↔
      ∀ instruction ∈ program, instruction.data ≠ some [] := by
  have hparsed := parsed_of_parse hparse
  rw [parse_format fun instruction hmem => (hparsed instruction hmem).formattable,
    readTolerantTokens_format_iff fun instruction hmem => (hparsed instruction hmem).formattable]
  refine forall₂_congr fun instruction hmem => (hparsed instruction hmem).payloadFits_iff ?_
  intro item hdata
  have hbound := length_data_of_parse hparse instruction hmem item hdata
  unfold dataBound Decimal.digitLimit at hbound
  omega

theorem parsed_read_back_iff_no_empty_payload_mixed :
    parse "dup OP_PUSHDATA2 0xAB -200" = .ok [⟨"OP_DUP", 0x76, none⟩,
      ⟨"OP_PUSHDATA2", 0x4d, some [0xab]⟩, ⟨"OP_PUSHBYTES_2", 2, some [0xc8, 0x80]⟩] ∧
    parse (format [⟨"OP_DUP", 0x76, none⟩, ⟨"OP_PUSHDATA2", 0x4d, some [0xab]⟩,
      ⟨"OP_PUSHBYTES_2", 2, some [0xc8, 0x80]⟩]) = .ok [⟨"OP_DUP", 0x76, none⟩,
        ⟨"OP_PUSHDATA2", 0x4d, some [0xab]⟩, ⟨"OP_PUSHBYTES_2", 2, some [0xc8, 0x80]⟩] := by
  have hparse : parse "dup OP_PUSHDATA2 0xAB -200" = .ok [⟨"OP_DUP", 0x76, none⟩,
      ⟨"OP_PUSHDATA2", 0x4d, some [0xab]⟩, ⟨"OP_PUSHBYTES_2", 2, some [0xc8, 0x80]⟩] :=
    parse_of_toOption (by decide +kernel)
  exact ⟨hparse, (parsed_read_back_iff_no_empty_payload _ (by decide) _ hparse).mpr (by decide)⟩

theorem empty_payload_not_read_back :
    parse "OP_PUSHDATA1 0x" = .ok [⟨"OP_PUSHDATA1", 0x4c, some []⟩] ∧
    parse (format [⟨"OP_PUSHDATA1", 0x4c, some []⟩]) =
      .error (.missingPayload "OP_PUSHDATA1" "OP_PUSHDATA1") := by
  have hkind : (⟨"OP_PUSHDATA1", 0x4c, some []⟩ : Instruction).Formattable :=
    .payload 0x4c 0xff [] rfl
  have hfields : Text.fields (⟨"OP_PUSHDATA1", 0x4c, some []⟩ : Instruction).toText =
      ["OP_PUSHDATA1"] := by decide +kernel
  refine ⟨parse_of_toOption (by decide +kernel), ?_⟩
  rw [parse_format (by simpa using hkind), List.flatMap_singleton, hfields, readTolerantTokens,
    readToken_of_codeOf? (show Opcode.codeOf? "OP_PUSHDATA1" = some 0x4c by decide)]
  rfl

end Script

end Lockstep
