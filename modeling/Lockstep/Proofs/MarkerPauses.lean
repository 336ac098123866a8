import Lockstep.Proofs.FormattedText
import Lockstep.Proofs.InputVerification
import Lockstep.Proofs.SigningPreimage

namespace Lockstep

/-- The instruction itself, or one that does nothing in place of a marker. -/
def Instruction.unmarked (instruction : Instruction) : Instruction :=
  if instruction.code = Opcode.marker then ⟨"OP_NOP", 0x61, none⟩ else instruction

namespace Script

/-- The token itself, or `OP_NOP` in place of a marker in any spelling. -/
def unmarkToken (token : String) : String :=
  match readToken token with
  | .ok instruction => if instruction.code = Opcode.marker then "OP_NOP" else token
  | .error _ => token

/-- A text is another text with all markers replaced by `OP_NOP`; blanks and comments may differ. -/
def Unmarks (marked plain : String) : Prop :=
  tokens plain = (tokens marked).map unmarkToken

instance (marked plain : String) : Decidable (Unmarks marked plain) :=
  inferInstanceAs (Decidable (tokens plain = (tokens marked).map unmarkToken))

theorem codeOf?_nop : Opcode.codeOf? "OP_NOP" = some 0x61 := by
  decide

theorem unmarkToken_of_code_ne {token : String} {instruction : Instruction}
    (hread : readToken token = .ok instruction) (hcode : instruction.code ≠ Opcode.marker) :
    unmarkToken token = token := by
  simp [unmarkToken, hread, hcode]

theorem unmarkToken_of_code_eq {token : String} {instruction : Instruction}
    (hread : readToken token = .ok instruction) (hcode : instruction.code = Opcode.marker) :
    unmarkToken token = "OP_NOP" := by
  simp [unmarkToken, hread, hcode]

theorem code_push_ne_marker (item : Bytes) : (Instruction.push item).code ≠ Opcode.marker := by
  unfold Instruction.push
  split
  · decide
  · unfold Opcode.forLength Opcode.maxDirectPush Opcode.pushData1 Opcode.pushData2
      Opcode.pushData4 Opcode.marker
    grind

theorem unmarkToken_of_hexData? {token : String} {item : Bytes}
    (hitem : hexData? token = some item) : unmarkToken token = token := by
  apply unmarkToken_of_code_ne _ (code_push_ne_marker item)
  rw [readToken, hitem]

theorem hexData?_unmarkToken {token : String} (hnone : hexData? token = none) :
    hexData? (unmarkToken token) = none := by
  unfold unmarkToken
  split
  · split
    · exact hexData?_of_codeOf? codeOf?_nop
    · exact hnone
  · exact hnone

theorem code_ne_marker_of_pushDataLimit? {code : Int} {limit : Nat}
    (hlimit : Opcode.pushDataLimit? code = some limit) : code ≠ Opcode.marker := by
  rintro rfl
  have hnone : Opcode.pushDataLimit? Opcode.marker = none := by decide
  simp [hnone] at hlimit

theorem readTolerantTokens_unmarkToken (tokens : List String) :
    readTolerantTokens (tokens.map unmarkToken) =
      (readTolerantTokens tokens).map (List.map Instruction.unmarked) := by
  fun_induction readTolerantTokens tokens with
  | case1 => rfl
  | case2 token rest e hread =>
      have hsame : unmarkToken token = token := by simp [unmarkToken, hread]
      rw [List.map_cons, hsame, readTolerantTokens, hread]
      rfl
  | case3 token instruction hread limit hlimit hdata =>
      have hsame := unmarkToken_of_code_ne hread (code_ne_marker_of_pushDataLimit? hlimit)
      simp [hsame, readTolerantTokens, hread, hlimit, hdata, Except.map]
  | case4 token instruction hread limit hlimit hdata payload rest hitem =>
      have hsame := unmarkToken_of_code_ne hread (code_ne_marker_of_pushDataLimit? hlimit)
      simp [hsame, readTolerantTokens, hread, hlimit, hdata, hexData?_unmarkToken hitem,
        Except.map]
  | case5 token instruction hread limit hlimit hdata payload rest item hitem name hlong =>
      have hsame := unmarkToken_of_code_ne hread (code_ne_marker_of_pushDataLimit? hlimit)
      simp [hsame, unmarkToken_of_hexData? hitem, readTolerantTokens, hread, hlimit, hdata, hitem,
        hlong, Except.map, name]
  | case6 token instruction hread limit hlimit hdata payload rest item hitem name hfits ih =>
      have hcode := code_ne_marker_of_pushDataLimit? hlimit
      have hsame := unmarkToken_of_code_ne hread hcode
      simp only [List.map_cons, hsame, unmarkToken_of_hexData? hitem, readTolerantTokens, hread,
        hlimit, hdata, hitem, hfits, ↓reduceIte, ih]
      cases readTolerantTokens rest with
      | error e => rfl
      | ok program => simp [Except.map, Instruction.unmarked, hcode, name]
  | case7 token rest instruction hread hwhole ih =>
      have hmap : readTolerantTokens ((token :: rest).map unmarkToken) =
          (readTolerantTokens (rest.map unmarkToken)).map (instruction.unmarked :: ·) := by
        rw [List.map_cons]
        by_cases hcode : instruction.code = Opcode.marker
        · rw [unmarkToken_of_code_eq hread hcode, Instruction.unmarked, if_pos hcode]
          exact readTolerantTokens_of_codeOf? _ codeOf?_nop (by decide)
        · rw [unmarkToken_of_code_ne hread hcode, Instruction.unmarked, if_neg hcode]
          apply readTolerantTokens_cons hread
          cases hdata : instruction.data with
          | some item => exact .inl rfl
          | none =>
              refine .inr (Option.eq_none_iff_forall_ne_some.mpr ?_)
              intro limit hlimit
              exact hwhole limit hdata hlimit
      rw [hmap, ih]
      cases readTolerantTokens rest with
      | error e => rfl
      | ok program => rfl

theorem parse_of_unmarks {marked plain : String} (hunmarks : Unmarks marked plain) :
    parse plain = (parse marked).map (List.map Instruction.unmarked) := by
  rw [parse_eq_readTolerant, parse_eq_readTolerant, readTolerant, readTolerant, hunmarks,
    readTolerantTokens_unmarkToken]

theorem exists_parse_of_unmarks {marked plain : String} {program : List Instruction}
    (hunmarks : Unmarks marked plain) (hplain : parse plain = .ok program) :
    ∃ program', parse marked = .ok program' := by
  rw [parse_of_unmarks hunmarks] at hplain
  cases hmarked : parse marked with
  | error e => simp [hmarked, Except.map] at hplain
  | ok program' => exact ⟨program', rfl⟩

end Script

theorem Instruction.Parsed.eq_ofCode_marker {instruction : Instruction}
    (hparsed : instruction.Parsed) (hcode : instruction.code = Opcode.marker) :
    instruction = Instruction.ofCode Opcode.marker := by
  cases hparsed with
  | mnemonic code hmem hlimit => exact congrArg Instruction.ofCode hcode
  | data item hsome =>
      have hpush := Script.code_push_ne_marker item
      simp only [Instruction.push, List.isEmpty_eq_false_iff.mpr hsome] at hpush
      exact absurd hcode hpush
  | payload code limit item hlimit hfits =>
      exact absurd hcode (Script.code_ne_marker_of_pushDataLimit? hlimit)

theorem Instruction.Parsed.execute_unmarked {instruction : Instruction}
    (hparsed : instruction.Parsed) (rules : Rules) (check? : Option SignatureCheck)
    (state : Stacks) :
    instruction.unmarked.execute rules check? state = instruction.execute rules check? state := by
  by_cases hcode : instruction.code = Opcode.marker
  · rw [Instruction.unmarked, if_pos hcode, hparsed.eq_ofCode_marker hcode]
    have hname : Instruction.ofCode Opcode.marker = ⟨"OP_NOP10", 0xb9, none⟩ := by decide
    rw [hname]
    rfl
  · rw [Instruction.unmarked, if_neg hcode]

theorem Script.execute_map_unmarked {rules : Rules} {check? : Option SignatureCheck}
    {program : List Instruction} (hparsed : ∀ instruction ∈ program, instruction.Parsed)
    (state : Stacks) :
    Script.execute rules check? (program.map Instruction.unmarked) state =
      Script.execute rules check? program state := by
  induction program generalizing state with
  | nil => rfl
  | cons instruction rest ih =>
      rw [List.forall_mem_cons] at hparsed
      simp only [List.map_cons, Script.execute, hparsed.1.execute_unmarked, ih hparsed.2]

theorem isBreakpoint_map_unmarked (program : List Instruction) (position : Int) :
    isBreakpoint [] (program.map Instruction.unmarked).toArray position = false := by
  have hcode : ∀ instruction : Instruction, instruction.unmarked.code ≠ Opcode.marker := by
    intro instruction
    unfold Instruction.unmarked
    split
    · decide
    · assumption
  cases hat : program[position.toNat]? with
  | none => simp [isBreakpoint, hat]
  | some instruction => simp [isBreakpoint, hat, hcode]

/-- Without markers nothing but the length of the scripts counts. -/
theorem Setup.pausesFrom_map_unmarked_iff (unlocking locking : List Instruction)
    (check? : Option SignatureCheck) (rules : Rules) {steps : Int} (hsteps : 0 ≤ steps) :
    (Setup.ofScripts (unlocking.map Instruction.unmarked) (locking.map Instruction.unmarked)
      check? rules).PausesFrom [] steps 0 ↔
        ((unlocking.length + locking.length : Nat) : Int) ≤ steps := by
  have hlength : (Setup.ofScripts (unlocking.map Instruction.unmarked)
      (locking.map Instruction.unmarked) check? rules).length =
        (unlocking.length + locking.length : Nat) := by
    simp [Setup.length, Setup.ofScripts]
  constructor
  · intro hpauses
    by_cases hempty : unlocking.length + locking.length = 0
    · omega
    · rcases hpauses 0 (Int.le_refl 0) (by omega) with hend | ⟨position, -, -, hbreak⟩
      · omega
      · simp only [Setup.ofScripts, ← List.map_append] at hbreak
        rw [isBreakpoint_map_unmarked] at hbreak
        cases hbreak
  · intro hshort
    exact Setup.pausesFrom_of_length_le (by omega) []

/-- The number of instructions of an unlocking script followed by a locking one; scripts that cannot
be read have none. -/
def Script.instructionCount (unlocking locking : String) : Nat :=
  match parse unlocking, parse locking with
  | .ok first, .ok second => first.length + second.length
  | _, _ => 0

namespace Transaction

variable {rules : Rules} {tx : Transaction} {index : Nat} {input : TxInput}
  {unlocking locking text : String}

theorem input?_withUnlocking (hinput : tx.inputs[index]? = some input) (unlocking : String) :
    (tx.withUnlocking index unlocking).input? index = some { input with unlocking } := by
  rw [input?_natCast]
  simp [withUnlocking, hinput]

theorem verifyInput_withUnlocking_iff_of_parse [Curve.Ecdsa] {first second : List Instruction}
    (hinput : tx.inputs[index]? = some input)
    (hunlocking : Script.Unmarks input.unlocking unlocking)
    (hlocking : Script.Unmarks text locking)
    (hfirst : Script.parse input.unlocking = .ok first) (hsecond : Script.parse text = .ok second) :
    (tx.withUnlocking index unlocking).verifyInput rules index locking = .ok true ↔
      tx.verifyInput rules index text = .ok true ∧
        ((first.length + second.length : Nat) : Int) ≤ Store.defaultMaxSteps := by
  have hplainFirst := Script.parse_of_unmarks hunlocking
  have hplainSecond := Script.parse_of_unmarks hlocking
  rw [hfirst] at hplainFirst
  rw [hsecond] at hplainSecond
  have hparsed : ∀ instruction ∈ first ++ second, instruction.Parsed := by
    intro instruction hmem
    rcases List.mem_append.mp hmem with hmem | hmem
    · exact Script.parsed_of_parse hfirst instruction hmem
    · exact Script.parsed_of_parse hsecond instruction hmem
  -- signatures do not depend on the unlocking scripts, so they are checked alike
  have hcheck : (tx.withUnlocking index unlocking).checkFor index = tx.checkFor index :=
    checkFor_eq_of_blanked (tx.blanked_withUnlocking index unlocking) index
  rw [verifyInput_eq_true_iff (input?_withUnlocking hinput unlocking) hplainFirst hplainSecond,
    verifyInput_eq_true_iff ((tx.input?_natCast index).trans hinput) hfirst hsecond, hcheck,
    Setup.pausesFrom_map_unmarked_iff first second _ _ (by decide), ← List.map_append]
  simp only [Script.execute_map_unmarked hparsed]
  constructor
  · rintro ⟨hexecute, hshort⟩
    refine ⟨⟨hexecute, Setup.pausesFrom_of_length_le ?_ []⟩, hshort⟩
    simpa [Setup.length, Setup.ofScripts] using hshort
  · rintro ⟨⟨hexecute, -⟩, hshort⟩
    exact ⟨hexecute, hshort⟩

theorem verifyInput_withUnlocking_eq_true_iff [Curve.Ecdsa] (rules : Rules)
    (hinput : tx.inputs[index]? = some input)
    (hunlocking : Script.Unmarks input.unlocking unlocking)
    (hlocking : Script.Unmarks text locking) :
    (tx.withUnlocking index unlocking).verifyInput rules index locking = .ok true ↔
      tx.verifyInput rules index text = .ok true ∧
        (Script.instructionCount input.unlocking text : Int) ≤ Store.defaultMaxSteps := by
  constructor
  · intro hplain
    obtain ⟨first', second', -, hfirst', hsecond', -⟩ :=
      execute_of_verifyInput (input?_withUnlocking hinput unlocking) hplain
    obtain ⟨first, hfirst⟩ := Script.exists_parse_of_unmarks hunlocking hfirst'
    obtain ⟨second, hsecond⟩ := Script.exists_parse_of_unmarks hlocking hsecond'
    simp only [Script.instructionCount, hfirst, hsecond]
    exact (verifyInput_withUnlocking_iff_of_parse hinput hunlocking hlocking hfirst hsecond).mp
      hplain
  · rintro ⟨hmarked, hshort⟩
    obtain ⟨first, second, -, hfirst, hsecond, -⟩ :=
      execute_of_verifyInput ((tx.input?_natCast index).trans hinput) hmarked
    simp only [Script.instructionCount, hfirst, hsecond] at hshort
    exact (verifyInput_withUnlocking_iff_of_parse hinput hunlocking hlocking hfirst hsecond).mpr
      ⟨hmarked, hshort⟩

/-- How markers decide on the verdict. With all markers of both scripts replaced by `OP_NOP` an
input gets the verdict that it has with them, unless the scripts have more instructions than one run
may take steps; then it fails, even where it unlocks with the markers. -/
theorem markers_keep_verdict_of_short_scripts [Curve.Ecdsa] (rules : Rules) (tx : Transaction)
    (index : Nat) (input : TxInput) (hinput : tx.inputs[index]? = some input)
    (plainUnlocking locking plainLocking : String)
    (hunlocking : Script.Unmarks input.unlocking plainUnlocking)
    (hlocking : Script.Unmarks locking plainLocking) (marked plain : Bool)
    (hmarked : tx.verifyInput rules index locking = .ok marked)
    (hplain : (tx.withUnlocking index plainUnlocking).verifyInput rules index plainLocking =
      .ok plain) :
    plain = (marked && decide ((Script.instructionCount input.unlocking locking : Int) ≤
      Store.defaultMaxSteps)) := by
  have hiff := verifyInput_withUnlocking_eq_true_iff rules hinput hunlocking hlocking
  rw [hplain, hmarked, Except.ok.injEq, Except.ok.injEq] at hiff
  rw [Bool.eq_iff_iff, Bool.and_eq_true, decide_eq_true_eq]
  exact hiff

/-- A transaction with one input, which has a given unlocking script. -/
def singleSpend (unlocking : String) : Transaction where
  version := 1
  inputs := [⟨"c0", 0, unlocking, TxInput.finalSequence⟩]
  outputs := [⟨10, "OP_1"⟩]
  lockTime := 0
  timestamp := .whole 0

theorem markers_keep_verdict_of_short_scripts_both :
    Script.Unmarks "1 OP_BREAKPOINT" "1 OP_NOP" ∧
      Script.Unmarks "nop10 OP_VERIFY\n// done\nOP_1 OP_NOP10" "OP_NOP OP_VERIFY OP_1 OP_NOP" ∧
      (singleSpend "1 OP_BREAKPOINT").verifyInput {} (0 : Nat)
        "nop10 OP_VERIFY\n// done\nOP_1 OP_NOP10" = .ok true ∧
      ((singleSpend "1 OP_BREAKPOINT").withUnlocking 0 "1 OP_NOP").verifyInput {} (0 : Nat)
        "OP_NOP OP_VERIFY OP_1 OP_NOP" = .ok true ∧
      true = (true && decide ((Script.instructionCount "1 OP_BREAKPOINT"
        "nop10 OP_VERIFY\n// done\nOP_1 OP_NOP10" : Int) ≤ Store.defaultMaxSteps)) := by
  have hunlocking : Script.Unmarks "1 OP_BREAKPOINT" "1 OP_NOP" := by decide +kernel
  have hlocking : Script.Unmarks "nop10 OP_VERIFY\n// done\nOP_1 OP_NOP10"
      "OP_NOP OP_VERIFY OP_1 OP_NOP" := by decide +kernel
  have hmarked : (singleSpend "1 OP_BREAKPOINT").verifyInput {} (0 : Nat)
      "nop10 OP_VERIFY\n// done\nOP_1 OP_NOP10" = .ok true := by decide +kernel
  have hplain : ((singleSpend "1 OP_BREAKPOINT").withUnlocking 0 "1 OP_NOP").verifyInput {}
      (0 : Nat) "OP_NOP OP_VERIFY OP_1 OP_NOP" = .ok true := by decide +kernel
  have hverdict := markers_keep_verdict_of_short_scripts {} (singleSpend "1 OP_BREAKPOINT") 0
    ⟨"c0", 0, "1 OP_BREAKPOINT", TxInput.finalSequence⟩ rfl _ _ _ hunlocking hlocking true true
    hmarked hplain
  exact ⟨hunlocking, hlocking, hmarked, hplain, hverdict⟩

/-- A script that leaves a one, with an instruction of choice between two stretches that do
nothing. -/
def longScript (stretch : Nat) (middle : String × Int) : List Instruction :=
  List.replicate stretch ⟨"OP_NOP", 0x61, none⟩ ++
    ⟨middle.1, middle.2, none⟩ ::
      (List.replicate stretch ⟨"OP_NOP", 0x61, none⟩ ++ [⟨"OP_1", 0x51, none⟩])

theorem length_longScript (stretch : Nat) (middle : String × Int) :
    (longScript stretch middle).length = 2 * stretch + 2 := by
  simp only [longScript, List.length_append, List.length_replicate, List.length_cons,
    List.length_nil]
  omega

theorem map_unmarked_longScript (stretch : Nat) :
    (longScript stretch ("OP_NOP10", Opcode.marker)).map Instruction.unmarked =
      longScript stretch ("OP_NOP", 0x61) := by
  simp only [longScript, List.map_append, List.map_cons, List.map_replicate, List.map_nil]
  rfl

section LongScript

variable {middle : String × Int} (hmiddle : middle ∈ Opcode.table)
  (hlimit : Opcode.pushDataLimit? middle.2 = none)

include hmiddle hlimit

theorem exists_of_mem_longScript {stretch : Nat} {instruction : Instruction}
    (hmem : instruction ∈ longScript stretch middle) :
    ∃ entry ∈ Opcode.table, Opcode.pushDataLimit? entry.2 = none ∧
      instruction = ⟨entry.1, entry.2, none⟩ := by
  simp only [longScript, List.mem_append, List.mem_cons, List.mem_replicate,
    List.not_mem_nil, or_false] at hmem
  rcases hmem with ⟨-, rfl⟩ | rfl | ⟨-, rfl⟩ | rfl
  · exact ⟨("OP_NOP", 0x61), by decide, by decide, rfl⟩
  · exact ⟨middle, hmiddle, hlimit, rfl⟩
  · exact ⟨("OP_NOP", 0x61), by decide, by decide, rfl⟩
  · exact ⟨("OP_1", 0x51), by decide, by decide, rfl⟩

theorem formattable_of_mem_longScript (stretch : Nat) :
    ∀ instruction ∈ longScript stretch middle, instruction.Formattable := by
  intro instruction hmem
  obtain ⟨entry, hentry, hnone, rfl⟩ := exists_of_mem_longScript hmiddle hlimit hmem
  exact .mnemonic entry.1 entry.2 hentry hnone

theorem parse_longScript (stretch : Nat) :
    Script.parse (Script.format (longScript stretch middle)) =
      .ok (longScript stretch middle) := by
  have hkinds := formattable_of_mem_longScript hmiddle hlimit stretch
  rw [Script.parse_format hkinds, Script.readTolerantTokens_format_iff hkinds]
  intro instruction hmem
  obtain ⟨entry, -, -, rfl⟩ := exists_of_mem_longScript hmiddle hlimit hmem
  rfl

theorem tokens_longScript (stretch : Nat) :
    Script.tokens (Script.format (longScript stretch middle)) =
      (longScript stretch middle).map Instruction.name := by
  rw [Script.tokens_format (formattable_of_mem_longScript hmiddle hlimit stretch),
    List.map_eq_flatMap, List.flatMap_def, List.flatMap_def]
  refine congrArg List.flatten (List.map_congr_left ?_)
  intro instruction hmem
  obtain ⟨entry, hentry, -, rfl⟩ := exists_of_mem_longScript hmiddle hlimit hmem
  exact Text.fields_of_mem_table entry hentry

end LongScript

theorem execute_longScript {middle : String × Int}
    (hnothing : Operation.ofCode? middle.2 = some .nothing) (stretch : Nat) (rules : Rules)
    (check? : Option SignatureCheck) :
    Script.execute rules check? (longScript stretch middle) ⟨[], [], []⟩ =
      .done ⟨[ScriptNum.encode 1], [], []⟩ := by
  have hstretch : Script.execute rules check?
      (List.replicate stretch ⟨"OP_NOP", 0x61, none⟩) ⟨[], [], []⟩ = .done ⟨[], [], []⟩ := by
    induction stretch with
    | zero => rfl
    | succ stretch ih => exact ih
  have hmiddle : (⟨middle.1, middle.2, none⟩ : Instruction).execute rules check? ⟨[], [], []⟩ =
      .done ⟨[], [], []⟩ := by
    rw [Instruction.execute_of_operation rfl rfl hnothing]
    rfl
  refine (Script.execute_append_done_iff _ _ _ _).mpr ⟨_, hstretch, ?_⟩
  rw [Script.execute, hmiddle]
  exact (Script.execute_append_done_iff _ _ _ _).mpr ⟨_, hstretch, rfl⟩

theorem unmarks_longScript (stretch : Nat) :
    Script.Unmarks (Script.format (longScript stretch ("OP_NOP10", Opcode.marker)))
      (Script.format (longScript stretch ("OP_NOP", 0x61))) := by
  have hmarker : Script.unmarkToken "OP_NOP10" = "OP_NOP" :=
    Script.unmarkToken_of_code_eq
      (Script.readToken_of_codeOf? (show _ = some Opcode.marker by decide)) rfl
  have hnop : Script.unmarkToken "OP_NOP" = "OP_NOP" :=
    Script.unmarkToken_of_code_ne (Script.readToken_of_codeOf? Script.codeOf?_nop) (by decide)
  have hone : Script.unmarkToken "OP_1" = "OP_1" :=
    Script.unmarkToken_of_code_ne
      (Script.readToken_of_codeOf? (show _ = some 0x51 by decide)) (by decide)
  rw [Script.Unmarks, tokens_longScript (by decide) (by decide),
    tokens_longScript (by decide) (by decide)]
  simp only [longScript, List.map_append, List.map_cons, List.map_replicate, List.map_nil, hmarker,
    hnop, hone]

theorem pausesFrom_longScript {stretch : Nat} {steps : Int} (hsteps : stretch + 2 ≤ steps)
    (check? : Option SignatureCheck) (rules : Rules) :
    (Setup.ofScripts [] (longScript stretch ("OP_NOP10", Opcode.marker)) check?
      rules).PausesFrom [] steps 0 := by
  have hlength : (Setup.ofScripts [] (longScript stretch ("OP_NOP10", Opcode.marker)) check?
      rules).length = 2 * stretch + 2 := by
    simp [Setup.length, Setup.ofScripts, length_longScript]
  intro counter hstart hinside
  by_cases hbefore : counter < stretch
  · refine .inr ⟨stretch, hbefore, by omega, ?_⟩
    simp [isBreakpoint, Setup.ofScripts, longScript]
  · exact .inl (by omega)

theorem failedInput_singleSpend : (singleSpend "").failedInput = .ok false := by
  have hwritable : (singleSpend "").IsWritable :=
    ⟨by decide +kernel, by decide +kernel, ⟨0, rfl, by decide +kernel⟩, by decide +kernel,
      by decide +kernel⟩
  rw [failedInput, serialize_eq hwritable]

theorem verifyInput_longScript_marked {stretch : Nat}
    (hshort : (stretch : Int) + 2 ≤ Store.defaultMaxSteps) :
    (singleSpend "").verifyInput {} (0 : Nat)
      (Script.format (longScript stretch ("OP_NOP10", Opcode.marker))) = .ok true := by
  have hread : Script.parse (Script.format (longScript stretch ("OP_NOP10", Opcode.marker))) =
      .ok _ := parse_longScript (by decide) (by decide) stretch
  refine (verifyInput_eq_true_iff rfl rfl hread).mpr ⟨?_, pausesFrom_longScript hshort _ _⟩
  exact ⟨_, execute_longScript (by decide) stretch _ _, rfl, by decide⟩

theorem verifyInput_longScript_plain {stretch : Nat}
    (hlong : Store.defaultMaxSteps < 2 * stretch + 2) :
    (singleSpend "").verifyInput {} (0 : Nat)
      (Script.format (longScript stretch ("OP_NOP", 0x61))) = .ok false := by
  have hat : (singleSpend "").input? (0 : Nat) = some _ := rfl
  have hread : Script.parse (Script.format (longScript stretch ("OP_NOP", 0x61))) = .ok _ :=
    parse_longScript (by decide) (by decide) stretch
  have hexecute : Script.execute {} (some ((singleSpend "").checkFor (0 : Nat)))
      ([] ++ longScript stretch ("OP_NOP", 0x61)) ⟨[], [], []⟩ = .done _ :=
    execute_longScript (by decide) stretch _ _
  rcases verifyInput_of_done hat rfl hread hexecute rfl with ⟨hpauses, -⟩ | ⟨-, hfailed⟩
  · rw [← map_unmarked_longScript] at hpauses
    have hshort := (Setup.pausesFrom_map_unmarked_iff [] _ _ _ (by decide)).mp hpauses
    rw [length_longScript, List.length_nil] at hshort
    omega
  · rw [hfailed, failedInput_singleSpend]

theorem marker_lets_long_script_unlock :
    Script.Unmarks (Script.format (longScript 5000 ("OP_NOP10", Opcode.marker)))
        (Script.format (longScript 5000 ("OP_NOP", 0x61))) ∧
      (singleSpend "").verifyInput {} (0 : Nat)
        (Script.format (longScript 5000 ("OP_NOP10", Opcode.marker))) = .ok true ∧
      (singleSpend "").verifyInput {} (0 : Nat)
        (Script.format (longScript 5000 ("OP_NOP", 0x61))) = .ok false :=
  ⟨unmarks_longScript 5000, verifyInput_longScript_marked (by decide),
    verifyInput_longScript_plain (by decide)⟩

end Transaction

end Lockstep
