import Lockstep.Debugger.Store
import Lockstep.Proofs.ParsedInstructions

/-!
Script text is read line by line. The tokens of two texts with a line break between them are those
of the one followed by those of the other, and they are read one after the other. Only the name of a
push that waits for its payload at the end of the first text reaches into the second.
-/

namespace Lockstep

theorem Text.lines_append_newline (front back : String) :
    lines (front ++ "\n" ++ back) = lines front ++ lines back := by
  have hchars : (front ++ "\n" ++ back).toList = front.toList ++ '\n' :: back.toList := by simp
  rw [lines, hchars, List.splitOnP_append_cons _ _ (by rfl), List.map_append]
  rfl

namespace Script

theorem tokens_append_newline (front back : String) :
    tokens (front ++ "\n" ++ back) = tokens front ++ tokens back := by
  rw [tokens, Text.lines_append_newline, List.flatMap_append]
  rfl

theorem parse_append_newline (front back : String) :
    parse (front ++ "\n" ++ back) = readTolerantTokens (tokens front ++ tokens back) := by
  rw [parse_eq_readTolerant, readTolerant, tokens_append_newline]

section

variable {token payload : String} {rest : List String} {instruction : Instruction}

theorem readTolerantTokens_cons_error {error : ParseError}
    (htoken : readToken token = .error error) :
    readTolerantTokens (token :: rest) = .error error := by
  rw [readTolerantTokens, htoken]

theorem readTolerantTokens_cons_whole (htoken : readToken token = .ok instruction)
    (hwhole : ∀ limit, instruction.data = none →
      Opcode.pushDataLimit? instruction.code = some limit → False) :
    readTolerantTokens (token :: rest) =
      (readTolerantTokens rest).map (instruction :: ·) := by
  apply readTolerantTokens_cons htoken
  cases hdata : instruction.data with
  | some item => exact .inl rfl
  | none =>
      cases hlimit : Opcode.pushDataLimit? instruction.code with
      | none => exact .inr rfl
      | some limit => exact (hwhole limit hdata hlimit).elim

variable {limit : Nat}

theorem readTolerantTokens_cons_waiting (htoken : readToken token = .ok instruction)
    (hdata : instruction.data = none)
    (hlimit : Opcode.pushDataLimit? instruction.code = some limit) :
    readTolerantTokens (token :: payload :: rest) =
      match hexData? payload with
      | none => .error (.missingPayload instruction.name token)
      | some item =>
        if limit < item.length then
          .error (.payloadTooLong (Opcode.nameOf instruction.code) item.length payload)
        else (readTolerantTokens rest).map
          (⟨Opcode.nameOf instruction.code, instruction.code, some item⟩ :: ·) := by
  rw [readTolerantTokens, htoken]
  cases hitem : hexData? payload with
  | none => simp only [hdata, hlimit, hitem]
  | some item => simp only [hdata, hlimit, hitem]

end

theorem map_append_eq_map_cons (instruction : Instruction) (program : List Instruction)
    (read : Except ParseError (List Instruction)) :
    (read.map (program ++ ·)).map (instruction :: ·) =
      read.map (instruction :: program ++ ·) := by
  cases read with
  | error error => rfl
  | ok later => rfl

theorem readTolerantTokens_append_of_ok {front : List String} {program : List Instruction}
    (hread : readTolerantTokens front = .ok program) (back : List String) :
    readTolerantTokens (front ++ back) = (readTolerantTokens back).map (program ++ ·) := by
  fun_induction readTolerantTokens front generalizing program with
  | case1 =>
      cases hread
      rw [List.nil_append]
      cases readTolerantTokens back <;> rfl
  | case2 | case3 | case4 | case5 => simp at hread
  | case6 token instruction htoken limit hlimit hdata payload rest item hitem name hfits =>
      rename_i ih
      obtain ⟨after, hafter, rfl⟩ := map_cons_eq_ok hread
      rw [List.cons_append, List.cons_append, readTolerantTokens_cons_waiting htoken hdata hlimit,
        hitem]
      dsimp only
      rw [if_neg hfits, ih hafter, map_append_eq_map_cons]
  | case7 token rest instruction htoken hwhole ih =>
      obtain ⟨after, hafter, rfl⟩ := map_cons_eq_ok hread
      rw [List.cons_append, readTolerantTokens_cons_whole htoken hwhole, ih hafter,
        map_append_eq_map_cons]

theorem map_cons_eq_error {instruction : Instruction} {read : Except ParseError (List Instruction)}
    {error : ParseError} (hmap : read.map (instruction :: ·) = .error error) :
    read = .error error := by
  cases read with
  | error error' => exact hmap
  | ok program => simp [Except.map] at hmap

/-- An error does not depend on the tokens behind it, unless it is that the last token finds no
payload. -/
theorem readTolerantTokens_append_of_error {front : List String} {error : ParseError}
    (hread : readTolerantTokens front = .error error) :
    (∃ before last program name, front = before ++ [last] ∧
      readTolerantTokens before = .ok program ∧ error = .missingPayload name last) ∨
    ∀ back, readTolerantTokens (front ++ back) = .error error := by
  fun_induction readTolerantTokens front generalizing error with
  | case1 => simp at hread
  | case2 token rest error' htoken =>
      cases hread
      exact .inr fun back => readTolerantTokens_cons_error htoken
  | case3 token instruction htoken limit hlimit hdata =>
      cases hread
      exact .inl ⟨[], token, [], instruction.name, rfl, rfl, rfl⟩
  | case4 token instruction htoken limit hlimit hdata payload rest hitem =>
      cases hread
      refine .inr fun back => ?_
      rw [List.cons_append, List.cons_append, readTolerantTokens_cons_waiting htoken hdata hlimit,
        hitem]
  | case5 token instruction htoken limit hlimit hdata payload rest item hitem name =>
      rename_i hlong
      cases hread
      refine .inr fun back => ?_
      rw [List.cons_append, List.cons_append, readTolerantTokens_cons_waiting htoken hdata hlimit,
        hitem]
      exact if_pos hlong
  | case6 token instruction htoken limit hlimit hdata payload rest item hitem name hfits =>
      rename_i ih
      have hunit : ∀ later, readTolerantTokens (token :: payload :: later) =
          (readTolerantTokens later).map (⟨name, instruction.code, some item⟩ :: ·) := by
        intro later
        rw [readTolerantTokens_cons_waiting htoken hdata hlimit, hitem]
        exact if_neg hfits
      obtain ⟨before, last, program, waiting, rfl, hbefore, rfl⟩ | hstands :=
        ih (map_cons_eq_error hread)
      · refine .inl ⟨token :: payload :: before, last,
          ⟨name, instruction.code, some item⟩ :: program, waiting, rfl, ?_, rfl⟩
        rw [hunit, hbefore]
        rfl
      · refine .inr fun back => ?_
        rw [List.cons_append, List.cons_append, hunit, hstands]
        rfl
  | case7 token rest instruction htoken hwhole ih =>
      obtain ⟨before, last, program, waiting, rfl, hbefore, rfl⟩ | hstands :=
        ih (map_cons_eq_error hread)
      · refine .inl ⟨token :: before, last, instruction :: program, waiting, rfl, ?_, rfl⟩
        rw [readTolerantTokens_cons_whole htoken hwhole, hbefore]
        rfl
      · refine .inr fun back => ?_
        rw [List.cons_append, readTolerantTokens_cons_whole htoken hwhole, hstands]
        rfl

theorem one_le_of_pushDataLimit? {code : Int} {limit : Nat}
    (hlimit : Opcode.pushDataLimit? code = some limit) : 1 ≤ limit := by
  unfold Opcode.pushDataLimit? at hlimit
  grind

theorem readToken_ne_missingPayload (token name waiting : String) :
    readToken token ≠ .error (.missingPayload name waiting) := by
  intro hread
  unfold readToken at hread
  split at hread
  · simp at hread
  · split at hread
    · split at hread <;> simp at hread
    · split at hread <;> simp at hread

theorem exists_readTolerantTokens_of_waiting {before : List String} {last name : String}
    {program : List Instruction} (hbefore : readTolerantTokens before = .ok program)
    (hread : readTolerantTokens (before ++ [last]) = .error (.missingPayload name last)) :
    ∃ extended, readTolerantTokens (before ++ [last] ++ ["00"]) = .ok extended := by
  rw [readTolerantTokens_append_of_ok hbefore] at hread
  rw [List.append_assoc, readTolerantTokens_append_of_ok hbefore]
  cases htoken : readToken last with
  | error error =>
      rw [readTolerantTokens_cons_error htoken] at hread
      cases hread
      exact (readToken_ne_missingPayload last name last htoken).elim
  | ok instruction =>
      by_cases hwaiting : ∃ limit, instruction.data = none ∧
          Opcode.pushDataLimit? instruction.code = some limit
      · obtain ⟨limit, hdata, hlimit⟩ := hwaiting
        have hbyte : hexData? "00" = some [0] := by decide +kernel
        have hfits : ¬ limit < [(0 : UInt8)].length :=
          Nat.not_lt.mpr (one_le_of_pushDataLimit? hlimit)
        rw [List.singleton_append, readTolerantTokens_cons_waiting htoken hdata hlimit, hbyte]
        dsimp only
        rw [if_neg hfits]
        exact ⟨_, rfl⟩
      · have hwhole : ∀ limit, instruction.data = none →
            Opcode.pushDataLimit? instruction.code = some limit → False :=
          fun limit hdata hlimit => hwaiting ⟨limit, hdata, hlimit⟩
        rw [readTolerantTokens_cons_whole htoken hwhole] at hread
        simp [readTolerantTokens, Except.map] at hread

/-- The error of a text is that its last token, the name of a push, finds no payload. -/
def WaitsForPayload (text : String) : Prop :=
  ∃ before last program name, tokens text = before ++ [last] ∧
    readTolerantTokens before = .ok program ∧
    parse text = .error (.missingPayload name last)

theorem readTolerantTokens_tokens (text : String) :
    readTolerantTokens (tokens text) = parse text :=
  (parse_eq_readTolerant text).symm

/-- Reading is compositional over lines. Behind a text that can be read, with a line break between,
another text is read as it is by itself, to the same instructions or the same error. The error of a
text that cannot be read is that of all texts which begin with its lines, unless it is that the last
token finds no payload. So the program of a run is what is read from its two scripts as one text. -/
theorem parse_composes_over_lines (front : String) :
    (∀ program, parse front = .ok program → ∀ back,
      parse (front ++ "\n" ++ back) = (parse back).map (program ++ ·)) ∧
    (∀ error, parse front = .error error →
      ((∀ back, parse (front ++ "\n" ++ back) = .error error) ↔ ¬ WaitsForPayload front)) ∧
    ∀ back unlocking locking, parse front = .ok unlocking → parse back = .ok locking →
      ∀ breakpoints check? rules, parse (front ++ "\n" ++ back) =
        .ok (Store.start unlocking locking breakpoints check? rules).2.setup.program.toList := by
  have hok : ∀ program, parse front = .ok program → ∀ back,
      parse (front ++ "\n" ++ back) = (parse back).map (program ++ ·) := by
    intro program hfront back
    rw [← readTolerantTokens_tokens] at hfront
    rw [parse_append_newline, readTolerantTokens_append_of_ok hfront, readTolerantTokens_tokens]
  refine ⟨hok, ?_, ?_⟩
  · intro error hfront
    constructor
    · rintro hstands ⟨before, last, program, name, htokens, hbefore, hwaits⟩
      rw [← readTolerantTokens_tokens, htokens] at hwaits
      obtain ⟨extended, hextended⟩ := exists_readTolerantTokens_of_waiting hbefore hwaits
      have herror := hstands "00"
      rw [parse_append_newline, htokens] at herror
      cases hextended.symm.trans herror
    · intro hready back
      rw [← readTolerantTokens_tokens] at hfront
      rw [parse_append_newline]
      obtain ⟨before, last, program, name, htokens, hbefore, rfl⟩ | hstands :=
        readTolerantTokens_append_of_error hfront
      · rw [readTolerantTokens_tokens] at hfront
        exact (hready ⟨before, last, program, name, htokens, hbefore, hfront⟩).elim
      · exact hstands (tokens back)
  · intro back unlocking locking hunlocking hlocking breakpoints check? rules
    rw [hok unlocking hunlocking, hlocking]
    rfl

theorem parse_composes_over_lines_two_names :
    parse "2\r" = .ok [⟨"OP_2", 0x52, none⟩] ∧
    parse "// top\ndup" = .ok [⟨"OP_DUP", 0x76, none⟩] ∧
    parse ("2\r" ++ "\n" ++ "// top\ndup") =
      .ok (Store.start [⟨"OP_2", 0x52, none⟩] [⟨"OP_DUP", 0x76, none⟩] [] none
        {}).2.setup.program.toList ∧
    parse ("2\r" ++ "\n" ++ "// top\ndup") =
      .ok [⟨"OP_2", 0x52, none⟩, ⟨"OP_DUP", 0x76, none⟩] ∧
    WaitsForPayload "pushdata1" ∧ ¬ WaitsForPayload "pushdata1 pushdata1" ∧
    ∀ back, parse ("pushdata1 pushdata1" ++ "\n" ++ back) =
      .error (.missingPayload "OP_PUSHDATA1" "pushdata1") := by
  have hfront : parse "2\r" = .ok [⟨"OP_2", 0x52, none⟩] := parse_of_toOption (by decide +kernel)
  have hback : parse "// top\ndup" = .ok [⟨"OP_DUP", 0x76, none⟩] :=
    parse_of_toOption (by decide +kernel)
  obtain ⟨hok, -, hprogram⟩ := parse_composes_over_lines "2\r"
  have hjoined := hok _ hfront "// top\ndup"
  rw [hback] at hjoined
  have hhex : hexData? "pushdata1" = none := by decide +kernel
  have hdecimal : decimal? "pushdata1" = none := by decide +kernel
  have hfound : Opcode.find? "pushdata1" = some Opcode.pushData1 := by decide +kernel
  have htoken : readToken "pushdata1" = .ok (Instruction.ofCode Opcode.pushData1) := by
    simp only [readToken, hhex, hdecimal, hfound]
  have hlast : readTolerantTokens ["pushdata1"] =
      .error (.missingPayload "OP_PUSHDATA1" "pushdata1") := by
    rw [readTolerantTokens, htoken]
    rfl
  have hone : tokens "pushdata1" = [] ++ ["pushdata1"] := by decide +kernel
  have htwo : tokens "pushdata1 pushdata1" = ["pushdata1"] ++ ["pushdata1"] := by decide +kernel
  have herror : parse "pushdata1 pushdata1" =
      .error (.missingPayload "OP_PUSHDATA1" "pushdata1") := by
    rw [← readTolerantTokens_tokens, htwo, List.singleton_append,
      readTolerantTokens_cons_waiting htoken rfl rfl, hhex]
    rfl
  have hready : ¬ WaitsForPayload "pushdata1 pushdata1" := by
    rintro ⟨before, last, program, name, htokens, hbefore, -⟩
    rw [← (List.append_inj' (htwo.symm.trans htokens) rfl).1] at hbefore
    cases hlast.symm.trans hbefore
  have hwaits : WaitsForPayload "pushdata1" := by
    refine ⟨[], "pushdata1", [], "OP_PUSHDATA1", hone, rfl, ?_⟩
    rw [← readTolerantTokens_tokens, hone]
    exact hlast
  exact ⟨hfront, hback, hprogram _ _ _ hfront hback _ _ _, hjoined, hwaits, hready,
    ((parse_composes_over_lines _).2.1 _ herror).mpr hready⟩

end Script

end Lockstep
