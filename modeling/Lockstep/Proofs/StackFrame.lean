import Lockstep.Proofs.ParsedInstructions
import Lockstep.Proofs.ScriptExecution

/-!
The frame law of the machine. Apart from the one that counts the items, instructions reach the
stacks from the top only. So a run that comes to its end without a fault does the same on top of any
further items and leaves these as they were. Stacks are listed top first, and what lies further down
is what is appended.
-/

namespace Lockstep

theorem Outcome.refuse_ne_done {α : Type} (cause : Fault) (left value : α) :
    refuse cause left ≠ .done value := by
  unfold refuse
  split <;> simp

theorem popNumber_append {rules : Rules} {name : String} {stack rest : List Bytes} {n : Int}
    (hpop : popNumber rules name stack = .ok (n, rest)) (below : List Bytes) :
    popNumber rules name (stack ++ below) = .ok (n, rest ++ below) := by
  cases stack with
  | nil => simp [popNumber] at hpop
  | cons item others =>
      simp only [popNumber, List.cons_append] at hpop ⊢
      split at hpop
      · simp at hpop
      · rename_i hshort
        cases hpop
        rw [if_neg hshort]

theorem Shuffle.apply_append {α : Type} {kind : Shuffle} {stack stack' : List α}
    (happly : kind.apply stack = some stack') (below : List α) :
    kind.apply (stack ++ below) = some (stack' ++ below) := by
  unfold apply at happly
  split at happly <;> cases happly <;> rfl

namespace Effect

/-- Whatever lies below the items that an effect succeeds on has no part in it. -/
def LeavesBelow (effect : List Bytes → Outcome (List Bytes)) : Prop :=
  ∀ ⦃stack stack' : List Bytes⦄, effect stack = .done stack' →
    ∀ below, effect (stack ++ below) = .done (stack' ++ below)

variable {rules : Rules} {check? : Option SignatureCheck} {name : String}

theorem leavesBelow_verify : LeavesBelow (verify name) := by
  rintro (_ | ⟨item, rest⟩) stack' hdone below
  · simp [verify] at hdone
  · simp only [verify, List.cons_append] at hdone ⊢
    grind

theorem leavesBelow_dupIfTrue : LeavesBelow (dupIfTrue name) := by
  rintro (_ | ⟨item, rest⟩) stack' hdone below
  · simp [dupIfTrue] at hdone
  · simp only [dupIfTrue, List.cons_append] at hdone ⊢
    grind

theorem leavesBelow_shuffle (kind : Shuffle) : LeavesBelow (shuffle name kind) := by
  intro stack stack' hdone below
  unfold shuffle at hdone ⊢
  cases happly : kind.apply stack with
  | none => simp [happly] at hdone
  | some shuffled =>
      simp only [happly, Outcome.done.injEq] at hdone
      rw [Shuffle.apply_append happly below, hdone]

theorem leavesBelow_fetch : LeavesBelow (fetch rules name) := by
  intro stack stack' hdone below
  unfold fetch at hdone ⊢
  rcases hpop : popNumber rules name stack with cause | ⟨depth, rest⟩
  · simp [hpop] at hdone
  · rw [popNumber_append hpop below]
    simp only [hpop] at hdone ⊢
    split at hdone
    · exact absurd hdone (Outcome.refuse_ne_done _ _ _)
    · rename_i hnonneg
      rw [if_neg hnonneg]
      cases hat : rest[depth.toNat]? with
      | none => simp [hat] at hdone
      | some item =>
          have hinside : depth.toNat < rest.length := (List.getElem?_eq_some_iff.mp hat).1
          rw [List.getElem?_append_left hinside, hat]
          simp only [hat] at hdone ⊢
          rw [List.eraseIdx_append_of_lt_length hinside]
          grind

theorem leavesBelow_join : LeavesBelow (join rules name) := by
  rintro (_ | ⟨b, _ | ⟨a, rest⟩⟩) stack' hdone below
  · simp [join] at hdone
  · simp [join] at hdone
  · simp only [join, List.cons_append] at hdone ⊢
    grind

theorem leavesBelow_split : LeavesBelow (split rules name) := by
  intro stack stack' hdone below
  unfold split at hdone ⊢
  split at hdone
  · simp at hdone
  · rename_i henough
    rw [if_neg (by rw [List.length_append]; omega)]
    rcases hpop : popNumber rules name stack with cause | ⟨position, _ | ⟨item, rest⟩⟩
    · simp [hpop] at hdone
    · simp [hpop] at hdone
    · rw [popNumber_append hpop below]
      simp only [hpop, List.cons_append] at hdone ⊢
      split at hdone
      · exact absurd hdone (Outcome.refuse_ne_done _ _ _)
      · rename_i hinside
        cases hdone
        rw [if_neg hinside]
        rfl

theorem leavesBelow_resize : LeavesBelow (resize rules name) := by
  intro stack stack' hdone below
  unfold resize at hdone ⊢
  split at hdone
  · simp at hdone
  · rename_i henough
    rw [if_neg (by rw [List.length_append]; omega)]
    rcases hpop : popNumber rules name stack with cause | ⟨size, _ | ⟨item, rest⟩⟩
    · simp [hpop] at hdone
    · simp [hpop] at hdone
    · rw [popNumber_append hpop below]
      simp only [hpop, List.cons_append] at hdone ⊢
      split at hdone
      · exact absurd hdone (Outcome.refuse_ne_done _ _ _)
      · rename_i hallowed
        rw [if_neg hallowed]
        split at hdone
        · exact absurd hdone (Outcome.refuse_ne_done _ _ _)
        · rename_i hfits
          rw [if_neg hfits]
          split at hdone
          · rename_i hsame
            cases hdone
            rw [if_pos hsame, List.cons_append]
          · rename_i hlonger
            rw [if_neg hlonger]
            cases hpadding :
                paddingRefusal? (size - (ScriptNum.encode (ScriptNum.decode item)).length) with
            | some cause => simp [hpadding] at hdone
            | none =>
                simp only [hpadding, Outcome.done.injEq] at hdone ⊢
                rw [← hdone, List.cons_append]

theorem leavesBelow_shorten : LeavesBelow (shorten name) := by
  rintro (_ | ⟨item, rest⟩) stack' hdone below
  · simp [shorten] at hdone
  · cases hdone
    rfl

theorem leavesBelow_measure : LeavesBelow (measure name) := by
  rintro (_ | ⟨item, rest⟩) stack' hdone below
  · simp [measure] at hdone
  · cases hdone
    rfl

theorem leavesBelow_invert : LeavesBelow (invert name) := by
  rintro (_ | ⟨item, rest⟩) stack' hdone below
  · simp [invert] at hdone
  · cases hdone
    rfl

theorem leavesBelow_bitwise : LeavesBelow (bitwise name) := by
  rintro (_ | ⟨b, _ | ⟨a, rest⟩⟩) stack' hdone below
  · simp [bitwise] at hdone
  · simp [bitwise] at hdone
  · simp only [bitwise, List.cons_append] at hdone ⊢
    grind

theorem leavesBelow_compare : LeavesBelow (compare name) := by
  rintro (_ | ⟨b, _ | ⟨a, rest⟩⟩) stack' hdone below
  · simp [compare] at hdone
  · simp [compare] at hdone
  · simp only [compare, List.cons_append] at hdone ⊢
    grind

theorem leavesBelow_unary : LeavesBelow (unary rules name) := by
  intro stack stack' hdone below
  unfold unary at hdone ⊢
  rcases hpop : popNumber rules name stack with cause | ⟨a, rest⟩
  · simp [hpop] at hdone
  · rw [popNumber_append hpop below]
    simp only [hpop, Outcome.done.injEq] at hdone ⊢
    rw [← hdone, List.cons_append]

theorem leavesBelow_binary : LeavesBelow (binary rules name) := by
  intro stack stack' hdone below
  unfold binary at hdone ⊢
  split at hdone
  · simp at hdone
  · rename_i henough
    rw [if_neg (by rw [List.length_append]; omega)]
    rcases hb : popNumber rules name stack with cause | ⟨b, lower⟩
    · simp [hb] at hdone
    · rw [popNumber_append hb below]
      rcases ha : popNumber rules name lower with cause | ⟨a, rest⟩
      · simp [hb, ha] at hdone
      · simp only [hb, ha, popNumber_append ha below] at hdone ⊢
        cases hresult : (Binary.ofName name).result a b with
        | ok items =>
            simp only [hresult, Outcome.done.injEq] at hdone ⊢
            rw [← hdone, List.append_assoc]
        | error cause =>
            rw [hresult] at hdone
            exact absurd hdone (Outcome.refuse_ne_done _ _ _)

theorem leavesBelow_within : LeavesBelow (within rules name) := by
  intro stack stack' hdone below
  unfold within at hdone ⊢
  split at hdone
  · simp at hdone
  · rename_i henough
    rw [if_neg (by rw [List.length_append]; omega)]
    rcases hupper : popNumber rules name stack with cause | ⟨upper, lower⟩
    · simp [hupper] at hdone
    · rcases hlower : popNumber rules name lower with cause | ⟨least, lowest⟩
      · simp [hupper, hlower] at hdone
      · rcases hx : popNumber rules name lowest with cause | ⟨x, rest⟩
        · simp [hupper, hlower, hx] at hdone
        · simp only [hupper, hlower, hx, popNumber_append hupper below,
            popNumber_append hlower below, popNumber_append hx below,
            Outcome.done.injEq] at hdone ⊢
          rw [← hdone, List.cons_append]

theorem leavesBelow_digest : LeavesBelow (digest rules name) := by
  rintro (_ | ⟨item, rest⟩) stack' hdone below
  · simp [digest] at hdone
  · simp only [digest, List.cons_append] at hdone ⊢
    cases hkind : DigestKind.ofName? name with
    | none => simp [hkind] at hdone
    | some kind =>
        simp only [hkind] at hdone ⊢
        grind

theorem leavesBelow_checkSignature : LeavesBelow (checkSignature check? name) := by
  rintro (_ | ⟨key, _ | ⟨signature, rest⟩⟩) stack' hdone below
  · simp [checkSignature] at hdone
  · simp [checkSignature] at hdone
  · simp only [checkSignature, List.cons_append] at hdone ⊢
    cases hcheck : checkWith check? signature key with
    | error cause => simp [hcheck] at hdone
    | ok good =>
        simp only [hcheck] at hdone ⊢
        grind

theorem leavesBelow_checkMultisignature :
    LeavesBelow (checkMultisignature rules check? name) := by
  intro stack stack' hdone below
  unfold checkMultisignature at hdone ⊢
  rcases hkeys : popNumber rules name stack with cause | ⟨keyCount, belowCount⟩
  · simp [hkeys] at hdone
  · rw [popNumber_append hkeys below]
    simp only [hkeys] at hdone ⊢
    split at hdone
    · simp at hdone
    · rename_i hnonneg
      rw [if_neg hnonneg]
      split at hdone
      · simp at hdone
      · rename_i henough
        have hinside : keyCount.toNat ≤ belowCount.length := by omega
        rw [if_neg (by rw [List.length_append]; omega), List.take_append_of_le_length hinside,
          List.drop_append_of_le_length hinside]
        rcases hsigs : popNumber rules name (belowCount.drop keyCount.toNat) with
          cause | ⟨signatureCount, belowKeys⟩
        · simp [hsigs] at hdone
        · rw [popNumber_append hsigs below]
          simp only [hsigs] at hdone ⊢
          split at hdone
          · exact absurd hdone (Outcome.refuse_ne_done _ _ _)
          · rename_i hfits
            rw [if_neg hfits]
            split at hdone
            · simp at hdone
            · rename_i hmany
              have htake : signatureCount.toNat ≤ belowKeys.length := by omega
              have hdrop : signatureCount.toNat + 1 ≤ belowKeys.length := by omega
              rw [if_neg (by rw [List.length_append]; omega),
                List.take_append_of_le_length htake, List.drop_append_of_le_length hdrop]
              cases hmatch : matchWith check? (belowKeys.take signatureCount.toNat).reverse
                  (belowCount.take keyCount.toNat).reverse with
              | error cause => simp [hmatch] at hdone
              | ok good =>
                  simp only [hmatch] at hdone ⊢
                  grind

end Effect

/-- The stacks with further items below those that are there. -/
def Stacks.above (state : Stacks) (main alt : List Bytes) : Stacks :=
  { state with main := state.main ++ main, alt := state.alt ++ alt }

theorem Stacks.isExecuting_above (state : Stacks) (main alt : List Bytes) :
    (state.above main alt).isExecuting = state.isExecuting :=
  rfl

section Above

variable {rules : Rules} {check? : Option SignatureCheck} {name : String} {main alt : List Bytes}
  {state state' : Stacks}

theorem Effect.openBranch_above (hdone : openBranch name state = .done state') :
    openBranch name (state.above main alt) = .done (state'.above main alt) := by
  unfold openBranch at hdone ⊢
  rw [Stacks.isExecuting_above]
  split at hdone
  · rename_i htaken
    rw [if_pos htaken]
    cases hmain : state.main with
    | nil => simp [hmain] at hdone
    | cons item rest =>
        simp only [hmain, Outcome.done.injEq] at hdone
        subst hdone
        simp only [Stacks.above, hmain, List.cons_append]
  · rename_i hskipped
    rw [if_neg hskipped]
    cases hdone
    rfl

theorem Effect.switchBranch_above (hdone : switchBranch state = .done state') :
    switchBranch (state.above main alt) = .done (state'.above main alt) := by
  unfold switchBranch at hdone ⊢
  cases hbranches : state.branches with
  | nil => simp [hbranches] at hdone
  | cons taken outer =>
      simp only [hbranches, Outcome.done.injEq] at hdone
      subst hdone
      simp only [Stacks.above, hbranches]

theorem Effect.closeBranch_above (hdone : closeBranch state = .done state') :
    closeBranch (state.above main alt) = .done (state'.above main alt) := by
  unfold closeBranch at hdone ⊢
  cases hbranches : state.branches with
  | nil => simp [hbranches] at hdone
  | cons taken outer =>
      simp only [hbranches, Outcome.done.injEq] at hdone
      subst hdone
      simp only [Stacks.above, hbranches]

theorem Effect.toAlt_above (hdone : toAlt name state = .done state') :
    toAlt name (state.above main alt) = .done (state'.above main alt) := by
  unfold toAlt at hdone ⊢
  cases hmain : state.main with
  | nil => simp [hmain] at hdone
  | cons item rest =>
      simp only [hmain, Outcome.done.injEq] at hdone
      subst hdone
      simp only [Stacks.above, hmain, List.cons_append]

theorem Effect.fromAlt_above (hdone : fromAlt state = .done state') :
    fromAlt (state.above main alt) = .done (state'.above main alt) := by
  unfold fromAlt at hdone ⊢
  cases halt : state.alt with
  | nil => simp [halt] at hdone
  | cons item rest =>
      simp only [halt, Outcome.done.injEq] at hdone
      subst hdone
      simp only [Stacks.above, halt, List.cons_append]

theorem Operation.leavesBelow_runMain {op : Operation} (hdepth : op ≠ depth) :
    Effect.LeavesBelow (op.runMain rules check? name) := by
  cases op with
  | constant | nothing | openBranch | switchBranch | closeBranch | toAlt | fromAlt =>
      intro stack stack' hdone below
      cases hdone
      rfl
  | giveUp =>
      intro stack stack' hdone below
      cases hdone
  | depth => exact absurd rfl hdepth
  | verify => exact Effect.leavesBelow_verify
  | shuffle kind => exact Effect.leavesBelow_shuffle kind
  | dupIfTrue => exact Effect.leavesBelow_dupIfTrue
  | fetch => exact Effect.leavesBelow_fetch
  | join => exact Effect.leavesBelow_join
  | split => exact Effect.leavesBelow_split
  | resize => exact Effect.leavesBelow_resize
  | shorten => exact Effect.leavesBelow_shorten
  | measure => exact Effect.leavesBelow_measure
  | invert => exact Effect.leavesBelow_invert
  | bitwise => exact Effect.leavesBelow_bitwise
  | compare => exact Effect.leavesBelow_compare
  | unary => exact Effect.leavesBelow_unary
  | binary => exact Effect.leavesBelow_binary
  | within => exact Effect.leavesBelow_within
  | digest => exact Effect.leavesBelow_digest
  | checkSignature => exact Effect.leavesBelow_checkSignature
  | checkMultisignature => exact Effect.leavesBelow_checkMultisignature

theorem Operation.run_above {op : Operation} (hdepth : op ≠ depth)
    (hdone : op.run rules check? name state = .done state') :
    op.run rules check? name (state.above main alt) = .done (state'.above main alt) := by
  unfold run at hdone ⊢
  split at hdone
  · exact Effect.openBranch_above hdone
  · exact Effect.switchBranch_above hdone
  · exact Effect.closeBranch_above hdone
  · exact Effect.toAlt_above hdone
  · exact Effect.fromAlt_above hdone
  · cases hmain : runMain rules check? name op state.main with
    | fault cause => simp [hmain, Outcome.map] at hdone
    | abort cause left => simp [hmain, Outcome.map] at hdone
    | done stack =>
        simp only [hmain, Outcome.map, Outcome.done.injEq] at hdone
        subst hdone
        have habove : runMain rules check? name op (state.above main alt).main =
            .done (stack ++ main) := Operation.leavesBelow_runMain hdepth hmain main
        simp only [habove, Outcome.map]
        rfl

theorem Instruction.execute_above {instruction : Instruction}
    (hdepth : instruction.data = none → Operation.ofCode? instruction.code ≠ some .depth)
    (hdone : instruction.execute rules check? state = .done state') :
    instruction.execute rules check? (state.above main alt) = .done (state'.above main alt) := by
  unfold execute at hdone ⊢
  rw [Stacks.isExecuting_above]
  split at hdone
  · rename_i hskipped
    rw [if_pos hskipped]
    cases hdone
    rfl
  · rename_i htaken
    rw [if_neg htaken]
    cases hdata : instruction.data with
    | some item =>
        simp only [hdata, Outcome.done.injEq] at hdone
        subst hdone
        rfl
    | none =>
        simp only [hdata] at hdone ⊢
        cases hop : Operation.ofCode? instruction.code with
        | some op =>
            simp only [hop] at hdone ⊢
            exact Operation.run_above (fun hcounts => hdepth hdata (hcounts ▸ hop)) hdone
        | none =>
            simp only [hop] at hdone
            split at hdone <;> simp at hdone

end Above

/-- No instruction asks for the number of items. -/
def Script.CountsNoItems (program : List Instruction) : Prop :=
  ∀ instruction ∈ program, instruction.data = none →
    Operation.ofCode? instruction.code ≠ some .depth

namespace Machine

/-- The machine with further items below those on its stacks. -/
def above (machine : Machine) (main alt : List Bytes) : Machine :=
  { machine with state := machine.state.above main alt }

variable {machine next final : Machine} (main alt : List Bytes)

theorem advance_above (machine : Machine) (state : Stacks) :
    (machine.above main alt).advance (state.above main alt) =
      ((machine.advance state).1.above main alt, (machine.advance state).2) := by
  unfold advance
  have hbranches : (state.above main alt).branches = state.branches := rfl
  have hcounter : (machine.above main alt).counter = machine.counter := rfl
  have hsetup : (machine.above main alt).setup = machine.setup := rfl
  rw [hbranches, hcounter, hsetup]
  dsimp only
  split <;> rfl

/-- A step that leaves no fault is the same step on top of further items. -/
theorem step_above {more : Bool} (hcounts : Script.CountsNoItems machine.setup.program.toList)
    (hstep : machine.step = (next, .ok more)) (hhalt : next.halt? = none) :
    (machine.above main alt).step = (next.above main alt, .ok more) := by
  have hcase := hstep ▸ machine.step_cases
  generalize hout : (next, (.ok more : Except Abort Bool)) = out at hcase
  cases hcase with
  | outside | abort => simp at hout
  | finished hfinished =>
      cases hout
      have habove : (machine.above main alt).isFinished = true := hfinished
      rw [step, if_pos habove]
  | fault =>
      cases hout
      simp at hhalt
  | done hunfinished instruction state hat hdone =>
      cases hout
      have hsame : (machine.above main alt).isFinished = machine.isFinished := rfl
      have hfound : (machine.above main alt).setup.instruction? (machine.above main alt).counter =
          some instruction := hat
      have hexecute : instruction.execute (machine.above main alt).setup.rules
          (machine.above main alt).setup.check? (machine.above main alt).state =
            .done (state.above main alt) :=
        Instruction.execute_above (hcounts instruction (Setup.mem_of_instruction? hat)) hdone
      rw [step, hsame, hunfinished]
      simp only [Bool.false_eq_true, ↓reduceIte, hfound, hexecute, advance_above]

theorem RunsFor.above {count : Nat}
    (hcounts : Script.CountsNoItems machine.setup.program.toList)
    (hrun : machine.RunsFor count) :
    (machine.above main alt).RunsFor count ∧
      (machine.above main alt).steps count = (machine.steps count).above main alt := by
  induction count with
  | zero => exact ⟨runsFor_zero _, rfl⟩
  | succ count ih =>
      obtain ⟨hbefore, hmore⟩ := (runsFor_succ_iff machine count).mp hrun
      obtain ⟨hrunAbove, hsteps⟩ := ih hbefore
      have hstep : (machine.steps count).step = (machine.steps (count + 1), .ok true) :=
        Prod.ext rfl hmore
      obtain ⟨-, -, -, -, hresume, -⟩ := step_more hstep
      have hhalt : (machine.steps (count + 1)).halt? = none := congrArg halt? hresume
      rw [← setup_steps machine count] at hcounts
      have hstepAbove := step_above main alt hcounts hstep hhalt
      refine ⟨(runsFor_succ_iff _ count).mpr ⟨hrunAbove, ?_⟩, ?_⟩
      · rw [hsteps, hstepAbove]
      · rw [steps_succ, hsteps, hstepAbove]

theorem EndsIn.above (hcounts : Script.CountsNoItems machine.setup.program.toList)
    (hends : machine.EndsIn final) (hhalt : final.halt? = none) :
    (machine.above main alt).EndsIn (final.above main alt) := by
  obtain ⟨count, hrun, hlast⟩ := hends
  obtain ⟨hrunAbove, hsteps⟩ := hrun.above main alt hcounts
  refine ⟨count, hrunAbove, ?_⟩
  rw [hsteps]
  rw [← setup_steps machine count] at hcounts
  exact step_above main alt hcounts hlast hhalt

end Machine

theorem Script.name_of_counting_code : ∀ entry ∈ Opcode.table,
    Operation.ofCode? entry.2 = some .depth → entry.1 = "OP_DEPTH" := by
  decide +kernel

theorem Script.countsNoItems_of_parsed {program : List Instruction}
    (hparsed : ∀ instruction ∈ program, instruction.Parsed)
    (hdepth : ∀ instruction ∈ program, instruction.name ≠ "OP_DEPTH") :
    Script.CountsNoItems program := by
  intro instruction hmem hdata hop
  apply hdepth instruction hmem
  cases hparsed instruction hmem with
  | data item hsome => simp at hdata
  | payload code limit item hlimit hfits => simp at hdata
  | mnemonic code hcode hlimit =>
      obtain ⟨entry, hentry, rfl⟩ := List.mem_map.mp hcode
      exact (Opcode.nameOf_of_mem_table entry hentry).trans
        (Script.name_of_counting_code entry hentry hop)

/-- The frame law. A program that was read from text and has no `OP_DEPTH`, run from any stacks and
inside any branches, does the same on top of any further items: if it comes to its end without a
fault, then so it does there, and the further items are still below what it leaves. -/
theorem run_keeps_items_below (text : String) (program : List Instruction)
    (hparse : Script.parse text = .ok program)
    (hdepth : ∀ instruction ∈ program, instruction.name ≠ "OP_DEPTH")
    (setup : Setup) (hprogram : setup.program.toList = program)
    (main alt : List Bytes) (branches : List Bool) (final : Machine)
    (hends : (Machine.resume setup 0 ⟨main, alt, branches⟩).EndsIn final)
    (hhalt : final.halt? = none) (belowMain belowAlt : List Bytes) :
    (Machine.resume setup 0 ⟨main ++ belowMain, alt ++ belowAlt, branches⟩).EndsIn
      { final with
        state := ⟨final.state.main ++ belowMain, final.state.alt ++ belowAlt,
          final.state.branches⟩ } := by
  subst hprogram
  have hparsed := Script.parsed_of_parse hparse
  have hcounts := Script.countsNoItems_of_parsed hparsed hdepth
  exact hends.above belowMain belowAlt hcounts hhalt

/-- A program that begins inside a conditional and reaches for items at a depth that it computes. -/
def deepReach : List Instruction := [
  ⟨"OP_2", 0x52, none⟩, ⟨"OP_PICK", 0x79, none⟩, ⟨"OP_TOALTSTACK", 0x6b, none⟩,
  ⟨"OP_TUCK", 0x7d, none⟩, ⟨"OP_ENDIF", 0x68, none⟩, ⟨"OP_1", 0x51, none⟩,
  ⟨"OP_ROLL", 0x7a, none⟩, ⟨"OP_FROMALTSTACK", 0x6c, none⟩]

theorem run_keeps_items_below_deep_reach :
    Script.parse ("OP_2 OP_PICK OP_TOALTSTACK OP_TUCK OP_ENDIF OP_1 OP_ROLL OP_FROMALTSTACK") =
        .ok deepReach ∧
      (∀ instruction ∈ deepReach, instruction.name ≠ "OP_DEPTH") ∧
      ∃ setup : Setup, setup.program.toList = deepReach ∧
        (Machine.resume setup 0 ⟨[[2], [1], [7]], [[9]], [true]⟩).EndsIn
          (Machine.resume setup setup.length ⟨[[7], [1], [2], [2], [7]], [[9]], []⟩) ∧
        (Machine.resume setup 0 ⟨[[2], [1], [7], [], [5]], [[9], [6]], [true]⟩).EndsIn
          (Machine.resume setup setup.length
            ⟨[[7], [1], [2], [2], [7], [], [5]], [[9], [6]], []⟩) := by
  have hparse := Script.parse_of_readStrict (show Script.readStrict
    "OP_2 OP_PICK OP_TOALTSTACK OP_TUCK OP_ENDIF OP_1 OP_ROLL OP_FROMALTSTACK" = some deepReach by
      decide +kernel)
  have hdepth : ∀ instruction ∈ deepReach, instruction.name ≠ "OP_DEPTH" := by decide
  have hexecute : Script.execute {} none deepReach ⟨[[2], [1], [7]], [[9]], [true]⟩ =
      .done ⟨[[7], [1], [2], [2], [7]], [[9]], []⟩ := by rfl
  have hends : (Machine.resume ⟨deepReach.toArray, 0, none, {}⟩ 0
      ⟨[[2], [1], [7]], [[9]], [true]⟩).EndsIn _ := Machine.endsIn_of_execute hexecute rfl
  exact ⟨hparse, hdepth, _, rfl, hends,
    run_keeps_items_below _ _ hparse hdepth _ rfl _ _ _ _ hends rfl [[], [5]] [[6]]⟩

end Lockstep
