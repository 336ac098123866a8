import Lockstep.Proofs.HexText
import Lockstep.Proofs.OpcodeTable
import Lockstep.Proofs.TextFields
import Lockstep.Script.Assembly

namespace Lockstep

theorem Text.isBlank_of_isHexDigit {c : Char} (hdigit : Bytes.isHexDigit c = true) :
    isBlank c = false := by
  have hrange : 48 ≤ c.toNat ∧ c.toNat ≤ 57 ∨ 97 ≤ c.toNat ∧ c.toNat ≤ 102 ∨
      65 ≤ c.toNat ∧ c.toNat ≤ 70 := by
    unfold Bytes.isHexDigit Bytes.hexValue? at hdigit
    split at hdigit
    · rename_i hdecimal
      exact .inl hdecimal
    · split at hdigit
      · rename_i hlower
        exact .inr (.inl hlower)
      · split at hdigit
        · rename_i hupper
          exact .inr (.inr hupper)
        · simp at hdigit
  simp only [isBlank, Bool.or_eq_false_iff, Bool.and_eq_false_iff, decide_eq_false_iff_not,
    beq_eq_false_iff_ne]
  omega

theorem Text.isBlank_of_mem_toHex {item : Bytes} :
    ∀ c ∈ item.toHex.toList, isBlank c = false := by
  intro c hc
  exact isBlank_of_isHexDigit (Bytes.isHexDigit_of_ofHexChars? (Bytes.ofHexChars?_toHex item) c hc)

theorem Text.fields_toHex (item : Bytes) :
    fields item.toHex = if item = [] then [] else [item.toHex] := by
  by_cases hempty : item = []
  · subst hempty
    rfl
  · rw [if_neg hempty, ← String.ofList_toList (s := item.toHex)]
    exact fields_of_forall_not_blank _ (Bytes.toList_toHex_ne_nil hempty) isBlank_of_mem_toHex

namespace Script

theorem exists_tokenChars_of_codeOf? {token : String} {code : Int}
    (hcode : Opcode.codeOf? token = some code) :
    ∃ rest, tokenChars token = 'O' :: 'P' :: rest := by
  have hspelled := Opcode.isSpelled_of_mem_table _ (Opcode.mem_table_of_codeOf? hcode)
  obtain ⟨tail, hchars⟩ := Opcode.exists_toList_of_isSpelled hspelled
  simp only [tokenChars, hchars]
  split
  · exact ⟨('_' :: tail).dropLast, rfl⟩
  · exact ⟨'_' :: tail, rfl⟩

theorem hexData?_of_codeOf? {token : String} {code : Int}
    (hcode : Opcode.codeOf? token = some code) : hexData? token = none := by
  obtain ⟨rest, hrest⟩ := exists_tokenChars_of_codeOf? hcode
  have hpair : Bytes.ofHexPair? 'O' 'P' = none := by decide
  simp [hexData?, hrest, Bytes.ofHexChars?_cons_cons, hpair]

theorem readToken_of_codeOf? {token : String} {code : Int}
    (hcode : Opcode.codeOf? token = some code) :
    readToken token = .ok ⟨token, code, none⟩ := by
  -- the letters in front keep a mnemonic from being taken for data or a number
  have hhex := hexData?_of_codeOf? hcode
  have hdecimal : decimal? token = none := by
    obtain ⟨rest, hrest⟩ := exists_tokenChars_of_codeOf? hcode
    simp [decimal?, hrest, isDecimal]
  simp only [readToken, hhex, hdecimal, Opcode.find?_of_codeOf? hcode, Instruction.ofCode,
    Opcode.nameOf_of_codeOf? hcode]

theorem hexData?_of_plainHex? {token : String} {item : Bytes}
    (hplain : plainHex? token = some item) : hexData? token = some item := by
  unfold plainHex? at hplain
  split at hplain
  · simp at hplain
  · have hdigits := Bytes.isHexDigit_of_ofHexChars? hplain
    -- neither a line feed at the end nor `0x` in front can be part of the digits
    have hwhole : tokenChars token = token.toList := by
      simp only [tokenChars]
      split
      · rename_i hlast
        have hfeed := hdigits '\n' (List.mem_of_getLast? hlast)
        simp [show Bytes.isHexDigit '\n' = false by decide] at hfeed
      · rfl
    unfold hexData?
    rw [hwhole]
    split
    · rename_i digits hfront
      have hx := hdigits 'x' (by simp [hfront])
      simp [show Bytes.isHexDigit 'x' = false by decide] at hx
    · rename_i digits hfront
      have hx := hdigits 'X' (by simp [hfront])
      simp [show Bytes.isHexDigit 'X' = false by decide] at hx
    · exact hplain

theorem readToken_of_plainHex? {token : String} {item : Bytes}
    (hplain : plainHex? token = some item) :
    readToken token = .ok (Instruction.push item) := by
  simp [readToken, hexData?_of_plainHex? hplain]

theorem plainHex?_toHex {item : Bytes} (hsome : item ≠ []) :
    plainHex? item.toHex = some item := by
  have hnonempty : item.toHex.isEmpty = false := by
    rw [String.isEmpty_eq_false_iff]
    intro hempty
    exact Bytes.toList_toHex_ne_nil hsome (by rw [hempty, String.toList_empty])
  rw [plainHex?, hnonempty]
  exact Bytes.ofHexChars?_toHex item

theorem readToken_zero : readToken "0" = .ok (Instruction.ofCode Opcode.zero) := by
  rfl

theorem readToken_minusOne : readToken "-1" = .ok (Instruction.ofCode Opcode.oneNegate) := by
  rfl

theorem readTolerantTokens_cons {token : String} {rest : List String} {instruction : Instruction}
    (hread : readToken token = .ok instruction)
    (hwhole : instruction.data.isSome ∨ Opcode.pushDataLimit? instruction.code = none) :
    readTolerantTokens (token :: rest) =
      (readTolerantTokens rest).map (instruction :: ·) := by
  rw [readTolerantTokens, hread]
  dsimp only
  split
  · rename_i limit hdata hlimit
    simp [hdata, hlimit] at hwhole
  · rfl

theorem readTolerantTokens_of_codeOf? {token : String} (rest : List String) {code : Int}
    (hcode : Opcode.codeOf? token = some code) (hlimit : Opcode.pushDataLimit? code = none) :
    readTolerantTokens (token :: rest) =
      (readTolerantTokens rest).map (⟨token, code, none⟩ :: ·) :=
  readTolerantTokens_cons (readToken_of_codeOf? hcode) (.inr hlimit)

theorem readTolerantTokens_of_plainHex? {token : String} (rest : List String) {item : Bytes}
    (hplain : plainHex? token = some item) :
    readTolerantTokens (token :: rest) =
      (readTolerantTokens rest).map (Instruction.push item :: ·) := by
  apply readTolerantTokens_cons (readToken_of_plainHex? hplain)
  unfold Instruction.push
  split
  · exact .inr rfl
  · exact .inl rfl

theorem readTolerantTokens_payload {token payload : String} {rest : List String} {code : Int}
    {limit : Nat} {item : Bytes} (hcode : Opcode.codeOf? token = some code)
    (hlimit : Opcode.pushDataLimit? code = some limit) (hitem : hexData? payload = some item)
    (hfits : ¬ limit < item.length) :
    readTolerantTokens (token :: payload :: rest) =
      (readTolerantTokens rest).map (⟨token, code, some item⟩ :: ·) := by
  rw [readTolerantTokens, readToken_of_codeOf? hcode]
  simp only [hlimit, hitem, hfits, ↓reduceIte, Opcode.nameOf_of_codeOf? hcode]

theorem readTolerantTokens_of_readStrictTokens {tokens : List String}
    {program : List Instruction} (hstrict : readStrictTokens tokens = some program) :
    readTolerantTokens tokens = .ok program := by
  fun_induction readStrictTokens tokens generalizing program with
  | case1 =>
      cases hstrict
      rfl
  | case2 rest ih =>
      obtain ⟨after, hafter, rfl⟩ := Option.map_eq_some_iff.mp hstrict
      rw [readTolerantTokens_cons readToken_zero (.inr rfl), ih hafter]
      rfl
  | case3 rest _ ih =>
      obtain ⟨after, hafter, rfl⟩ := Option.map_eq_some_iff.mp hstrict
      rw [readTolerantTokens_cons readToken_minusOne (.inr rfl), ih hafter]
      rfl
  | case4 token rest _ _ code hcode hlimit ih =>
      obtain ⟨after, hafter, rfl⟩ := Option.map_eq_some_iff.mp hstrict
      rw [readTolerantTokens_of_codeOf? rest hcode hlimit, ih hafter]
      rfl
  | case5 | case6 | case7 | case10 => simp at hstrict
  | case8 token _ _ code hcode limit hlimit payload rest item hitem hfits ih =>
      obtain ⟨after, hafter, rfl⟩ := Option.map_eq_some_iff.mp hstrict
      rw [readTolerantTokens_payload hcode hlimit (hexData?_of_plainHex? hitem) hfits, ih hafter]
      rfl
  | case9 token rest _ _ _ item hitem ih =>
      obtain ⟨after, hafter, rfl⟩ := Option.map_eq_some_iff.mp hstrict
      rw [readTolerantTokens_of_plainHex? rest hitem, ih hafter]
      rfl

theorem isComment_of_codeOf? {token : String} {code : Int}
    (hcode : Opcode.codeOf? token = some code) : isComment token = false := by
  have hspelled := Opcode.isSpelled_of_mem_table _ (Opcode.mem_table_of_codeOf? hcode)
  obtain ⟨tail, hchars⟩ := Opcode.exists_toList_of_isSpelled hspelled
  rw [isComment, hchars]
  rfl

theorem isComment_of_plainHex? {token : String} {item : Bytes}
    (hplain : plainHex? token = some item) : isComment token = false := by
  unfold plainHex? at hplain
  split at hplain
  · simp at hplain
  · have hdigits := Bytes.isHexDigit_of_ofHexChars? hplain
    rw [isComment]
    cases hchars : token.toList with
    | nil => rfl
    | cons c rest =>
        rw [hchars] at hdigits
        have hc := hdigits c List.mem_cons_self
        have hslash : ('/' == c) = false := by
          rw [beq_eq_false_iff_ne]
          rintro rfl
          simp [show Bytes.isHexDigit '/' = false by decide] at hc
        have hhash : ('#' == c) = false := by
          rw [beq_eq_false_iff_ne]
          rintro rfl
          simp [show Bytes.isHexDigit '#' = false by decide] at hc
        simp only [String.reduceToList, List.isPrefixOf, hslash, hhash, Bool.false_and,
          Bool.or_self]

theorem isComment_of_readStrictTokens {tokens : List String} {program : List Instruction}
    (hstrict : readStrictTokens tokens = some program) :
    ∀ token ∈ tokens, isComment token = false := by
  fun_induction readStrictTokens tokens generalizing program with
  | case1 => simp
  | case2 rest ih =>
      obtain ⟨after, hafter, rfl⟩ := Option.map_eq_some_iff.mp hstrict
      exact List.forall_mem_cons.mpr ⟨by decide, ih hafter⟩
  | case3 rest _ ih =>
      obtain ⟨after, hafter, rfl⟩ := Option.map_eq_some_iff.mp hstrict
      exact List.forall_mem_cons.mpr ⟨by decide, ih hafter⟩
  | case4 token rest _ _ code hcode hlimit ih =>
      obtain ⟨after, hafter, rfl⟩ := Option.map_eq_some_iff.mp hstrict
      exact List.forall_mem_cons.mpr ⟨isComment_of_codeOf? hcode, ih hafter⟩
  | case5 | case6 | case7 | case10 => simp at hstrict
  | case8 token _ _ code hcode limit hlimit payload rest item hitem hfits ih =>
      obtain ⟨after, hafter, rfl⟩ := Option.map_eq_some_iff.mp hstrict
      refine List.forall_mem_cons.mpr ⟨isComment_of_codeOf? hcode, ?_⟩
      exact List.forall_mem_cons.mpr ⟨isComment_of_plainHex? hitem, ih hafter⟩
  | case9 token rest _ _ _ item hitem ih =>
      obtain ⟨after, hafter, rfl⟩ := Option.map_eq_some_iff.mp hstrict
      exact List.forall_mem_cons.mpr ⟨isComment_of_plainHex? hitem, ih hafter⟩

theorem tokens_eq_fields (text : String)
    (hplain : ∀ field ∈ Text.fields text, isComment field = false) :
    tokens text = Text.fields text := by
  rw [Text.fields_eq_flatMap_lines] at hplain ⊢
  rw [tokens, List.flatMap_def, List.flatMap_def]
  refine congrArg List.flatten (List.map_congr_left ?_)
  intro line hline
  rw [lineTokens]
  cases hfields : Text.fields line with
  | nil => rfl
  | cons field rest =>
      have hfield := hplain field (List.mem_flatMap.mpr ⟨line, hline, by simp [hfields]⟩)
      simp [hfield]

theorem readTolerant_of_readStrict {text : String} {program : List Instruction}
    (hstrict : readStrict text = some program) : readTolerant text = .ok program := by
  rw [readTolerant, tokens_eq_fields text (isComment_of_readStrictTokens hstrict)]
  exact readTolerantTokens_of_readStrictTokens hstrict

theorem parse_of_readStrict {text : String} {program : List Instruction}
    (hstrict : readStrict text = some program) : parse text = .ok program := by
  rw [parse, hstrict]

theorem parse_of_toOption {text : String} {program : List Instruction}
    (hparse : (parse text).toOption = some program) : parse text = .ok program := by
  cases hread : parse text with
  | error e => simp [hread, Except.toOption] at hparse
  | ok read =>
      rw [hread] at hparse
      exact congrArg Except.ok (Option.some.inj hparse)

theorem parse_eq_readTolerant (text : String) : parse text = readTolerant text := by
  unfold parse
  split
  · rename_i program hstrict
    exact (readTolerant_of_readStrict hstrict).symm
  · rfl

theorem parse_of_fields {text : String} {fields : List String}
    (hfields : Text.fields text = fields) (hplain : ∀ field ∈ fields, isComment field = false) :
    parse text = readTolerantTokens fields := by
  subst hfields
  rw [parse_eq_readTolerant, readTolerant, tokens_eq_fields text hplain]

/-- It makes no difference that the strict reader is tried first: the tolerant one gives the same
program for every text that the strict one takes, and so the same program or the same error as both
together for every text at all. -/
theorem strict_reader_unobservable (text : String) :
    (∀ program, readStrict text = some program → readTolerant text = .ok program) ∧
      parse text = readTolerant text :=
  ⟨fun _ hstrict => readTolerant_of_readStrict hstrict, parse_eq_readTolerant text⟩

end Script

end Lockstep
