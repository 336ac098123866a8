import Lockstep.Proofs.ParsedInstructions
import Lockstep.Proofs.ScriptExecution

/-!
Nesting of conditionals. Whether branches are taken or not, the machine has as many of them open as
the text in front of the counter leaves open, so a locking script that is properly nested is never
begun inside a conditional of the unlocking script.
-/

namespace Lockstep

namespace Instruction

def opens (instruction : Instruction) : Bool :=
  instruction.name == "OP_IF" || instruction.name == "OP_NOTIF"

/-- Whether the instruction changes to the other branch of a conditional. -/
def switches (instruction : Instruction) : Bool :=
  instruction.name == "OP_ELSE"

def closes (instruction : Instruction) : Bool :=
  instruction.name == "OP_ENDIF"

/-- How many conditionals are open behind an instruction if `depth` are open in front of it; none
if the instruction needs an open one and there is none. -/
def depthBehind? (instruction : Instruction) (depth : Nat) : Option Nat :=
  if instruction.opens then some (depth + 1)
  else if instruction.switches then if depth = 0 then none else some depth
  else if instruction.closes then if depth = 0 then none else some (depth - 1)
  else some depth

end Instruction

namespace Script

/-- How many conditionals are open behind a program if `depth` are open in front of it. -/
def depth? : Nat → List Instruction → Option Nat
  | depth, [] => some depth
  | depth, instruction :: rest =>
    match instruction.depthBehind? depth with
    | none => none
    | some depth' => depth? depth' rest

/-- Every conditional of a program is closed in it, and what belongs to a conditional stands in
one. -/
def ProperlyNested (program : List Instruction) : Prop :=
  depth? 0 program = some 0

instance (program : List Instruction) : Decidable (ProperlyNested program) :=
  inferInstanceAs (Decidable (depth? 0 program = some 0))

theorem depth?_append (front back : List Instruction) (depth : Nat) :
    depth? depth (front ++ back) = (depth? depth front).bind (depth? · back) := by
  induction front generalizing depth with
  | nil => rfl
  | cons instruction front ih =>
      simp only [List.cons_append, depth?]
      cases instruction.depthBehind? depth with
      | none => rfl
      | some depth' => exact ih depth'

end Script

namespace Instruction

theorem depthBehind?_add {instruction : Instruction} {depth after : Nat}
    (hbehind : instruction.depthBehind? depth = some after) (outer : Nat) :
    instruction.depthBehind? (depth + outer) = some (after + outer) := by
  unfold depthBehind? at hbehind ⊢
  grind

theorem depthBehind?_eq_count {instruction : Instruction} {depth after : Nat}
    (hbehind : instruction.depthBehind? depth = some after) :
    (after : Int) + [instruction].countP closes = depth + [instruction].countP opens := by
  have hexclusive : instruction.opens = true → instruction.closes = false := by
    simp only [opens, closes, Bool.or_eq_true, beq_iff_eq, beq_eq_false_iff_ne]
    rintro (h | h) <;> simp [h]
  have hswitch : instruction.switches = true → instruction.closes = false := by
    simp only [switches, closes, beq_iff_eq, beq_eq_false_iff_ne]
    intro h
    simp [h]
  unfold depthBehind? at hbehind
  simp only [List.countP_singleton]
  grind

end Instruction

namespace Script

theorem depth?_add {program : List Instruction} {depth after : Nat}
    (hdepth : depth? depth program = some after) (outer : Nat) :
    depth? (depth + outer) program = some (after + outer) := by
  induction program generalizing depth with
  | nil =>
      cases hdepth
      rfl
  | cons instruction rest ih =>
      simp only [depth?] at hdepth ⊢
      cases hbehind : instruction.depthBehind? depth with
      | none => simp [hbehind] at hdepth
      | some depth' =>
          rw [hbehind] at hdepth
          rw [Instruction.depthBehind?_add hbehind outer]
          exact ih hdepth

theorem depth?_eq_count {program : List Instruction} {depth after : Nat}
    (hdepth : depth? depth program = some after) :
    (after : Int) + program.countP Instruction.closes =
      depth + program.countP Instruction.opens := by
  induction program generalizing depth with
  | nil =>
      cases hdepth
      simp
  | cons instruction rest ih =>
      simp only [depth?] at hdepth
      cases hbehind : instruction.depthBehind? depth with
      | none => simp [hbehind] at hdepth
      | some depth' =>
          rw [hbehind] at hdepth
          have hfirst := Instruction.depthBehind?_eq_count hbehind
          have hrest := ih hdepth
          rw [← List.singleton_append, List.countP_append, List.countP_append]
          omega

end Script

namespace Instruction

theorem isConditional_eq (instruction : Instruction) :
    instruction.isConditional =
      (instruction.opens || instruction.switches || instruction.closes) := by
  rw [Bool.eq_iff_iff]
  simp [isConditional, opens, switches, closes, or_assoc]

theorem depthBehind?_of_not_isConditional {instruction : Instruction}
    (hplain : instruction.isConditional = false) (depth : Nat) :
    instruction.depthBehind? depth = some depth := by
  rw [isConditional_eq] at hplain
  simp only [Bool.or_eq_false_iff] at hplain
  simp [depthBehind?, hplain]

theorem operation_of_mem_table : ∀ entry ∈ Opcode.table,
    (ofCode entry.2).opens = decide (Operation.ofCode? entry.2 = some .openBranch) ∧
    (ofCode entry.2).switches = decide (Operation.ofCode? entry.2 = some .switchBranch) ∧
    (ofCode entry.2).closes = decide (Operation.ofCode? entry.2 = some .closeBranch) := by
  decide +kernel

theorem Parsed.isConditional_iff {instruction : Instruction} {op : Operation}
    (hparsed : instruction.Parsed) (hdata : instruction.data = none)
    (hop : Operation.ofCode? instruction.code = some op) :
    instruction.isConditional = true ↔
      op = .openBranch ∨ op = .switchBranch ∨ op = .closeBranch := by
  cases hparsed with
  | data item hsome => simp at hdata
  | payload code limit item hlimit hfits => simp at hdata
  | mnemonic code hcode hlimit =>
      obtain ⟨entry, hentry, rfl⟩ := List.mem_map.mp hcode
      obtain ⟨hopens, hswitches, hcloses⟩ := operation_of_mem_table entry hentry
      have hentryOp : Operation.ofCode? entry.2 = some op := hop
      rw [isConditional_eq, hopens, hswitches, hcloses]
      simp [hentryOp, or_assoc]

theorem nameOf_push_not_conditional : ∀ code < 79, 1 ≤ code →
    (⟨Opcode.nameOf (code : Nat), (code : Nat), none⟩ : Instruction).isConditional = false := by
  decide +kernel

theorem Parsed.isConditional_of_data {instruction : Instruction} {item : Bytes}
    (hparsed : instruction.Parsed) (hdata : instruction.data = some item) :
    instruction.isConditional = false := by
  obtain ⟨code, hlow, hhigh, rfl⟩ := hparsed.exists_code_of_data hdata
  exact nameOf_push_not_conditional code hhigh hlow

end Instruction

namespace Operation

theorem branches_of_run_done {rules : Rules} {check? : Option SignatureCheck} {name : String}
    {op : Operation} {state state' : Stacks} (hopen : op ≠ openBranch)
    (hswitch : op ≠ switchBranch) (hclose : op ≠ closeBranch)
    (hrun : op.run rules check? name state = .done state') :
    state'.branches = state.branches := by
  unfold run at hrun
  split at hrun
  · exact absurd rfl hopen
  · exact absurd rfl hswitch
  · exact absurd rfl hclose
  · unfold Effect.toAlt at hrun
    split at hrun <;> simp at hrun
    simp [← hrun]
  · unfold Effect.fromAlt at hrun
    split at hrun <;> simp at hrun
    simp [← hrun]
  · cases hmain : runMain rules check? name op state.main with
    | done main =>
        simp only [hmain, Outcome.map, Outcome.done.injEq] at hrun
        simp [← hrun]
    | fault cause => simp [hmain, Outcome.map] at hrun
    | abort cause left => simp [hmain, Outcome.map] at hrun

theorem branches_of_run_abort {rules : Rules} {check? : Option SignatureCheck} {name : String}
    {op : Operation} {state left : Stacks} {cause : Abort}
    (hrun : op.run rules check? name state = .abort cause left) :
    left.branches = state.branches := by
  unfold run at hrun
  split at hrun
  · unfold Effect.openBranch at hrun
    grind
  · unfold Effect.switchBranch at hrun
    grind
  · unfold Effect.closeBranch at hrun
    grind
  · unfold Effect.toAlt at hrun
    grind
  · unfold Effect.fromAlt at hrun
    grind
  · cases hmain : runMain rules check? name op state.main with
    | done main => simp [hmain, Outcome.map] at hrun
    | fault cause => simp [hmain, Outcome.map] at hrun
    | abort cause main =>
        simp only [hmain, Outcome.map, Outcome.abort.injEq] at hrun
        simp [← hrun.2]

end Operation

namespace Effect

theorem length_branches_openBranch {name : String} {state state' : Stacks}
    (hdone : openBranch name state = .done state') :
    state'.branches.length = state.branches.length + 1 := by
  unfold openBranch at hdone
  grind

theorem length_branches_switchBranch {state state' : Stacks}
    (hdone : switchBranch state = .done state') :
    state.branches.length ≠ 0 ∧ state'.branches.length = state.branches.length := by
  unfold switchBranch at hdone
  grind

theorem length_branches_closeBranch {state state' : Stacks}
    (hdone : closeBranch state = .done state') :
    state.branches.length ≠ 0 ∧ state'.branches.length = state.branches.length - 1 := by
  unfold closeBranch at hdone
  grind

end Effect

namespace Instruction

theorem depthBehind?_of_run_done {rules : Rules} {check? : Option SignatureCheck}
    {code : Int} {name : String} {op : Operation} {state state' : Stacks}
    (hcode : code ∈ Opcode.table.map Prod.snd) (hop : Operation.ofCode? code = some op)
    (hrun : op.run rules check? name state = .done state') :
    (ofCode code).depthBehind? state.branches.length = some state'.branches.length := by
  obtain ⟨entry, hentry, rfl⟩ := List.mem_map.mp hcode
  obtain ⟨hopens, hswitches, hcloses⟩ := operation_of_mem_table entry hentry
  simp only [hop, Option.some.injEq] at hopens hswitches hcloses
  unfold depthBehind?
  -- what the name says is now a question about the operation
  rw [hopens, hswitches, hcloses]
  by_cases hopen : op = .openBranch
  · subst hopen
    simp [Effect.length_branches_openBranch hrun]
  · by_cases hswitch : op = .switchBranch
    · subst hswitch
      obtain ⟨hinside, hlength⟩ := Effect.length_branches_switchBranch hrun
      simp [hinside, hlength]
    · by_cases hclose : op = .closeBranch
      · subst hclose
        obtain ⟨hinside, hlength⟩ := Effect.length_branches_closeBranch hrun
        simp [hinside, hlength]
      · simp [hopen, hswitch, hclose, Operation.branches_of_run_done hopen hswitch hclose hrun]

theorem Parsed.depthBehind?_of_done {rules : Rules} {check? : Option SignatureCheck}
    {instruction : Instruction} {state state' : Stacks} (hparsed : instruction.Parsed)
    (hdone : instruction.execute rules check? state = .done state') :
    instruction.depthBehind? state.branches.length = some state'.branches.length := by
  rcases execute_done_cases hdone with ⟨-, hplain, rfl⟩ | ⟨item, hdata, rfl⟩ |
    ⟨op, hdata, hop, hrun⟩
  · exact depthBehind?_of_not_isConditional hplain _
  · exact depthBehind?_of_not_isConditional (hparsed.isConditional_of_data hdata) _
  · cases hparsed with
    | mnemonic code hcode hlimit => exact depthBehind?_of_run_done hcode hop hrun
    | data item hsome => simp at hdata
    | payload code limit item hlimit hfits => simp at hdata

theorem branches_of_execute_abort {rules : Rules} {check? : Option SignatureCheck}
    {instruction : Instruction} {state left : Stacks} {cause : Abort}
    (habort : instruction.execute rules check? state = .abort cause left) :
    left.branches = state.branches := by
  unfold execute at habort
  split at habort
  · simp at habort
  · split at habort
    · simp at habort
    · split at habort
      · exact Operation.branches_of_run_abort habort
      · split at habort <;> simp at habort

end Instruction

namespace Script

theorem depth?_of_forall_not_isConditional {program : List Instruction}
    (hplain : ∀ instruction ∈ program, instruction.isConditional = false) (depth : Nat) :
    depth? depth program = some depth := by
  induction program with
  | nil => rfl
  | cons instruction rest ih =>
      rw [List.forall_mem_cons] at hplain
      rw [depth?, Instruction.depthBehind?_of_not_isConditional hplain.1]
      exact ih hplain.2

theorem depth?_of_execute {rules : Rules} {check? : Option SignatureCheck}
    {program : List Instruction} {state final : Stacks}
    (hparsed : ∀ instruction ∈ program, instruction.Parsed)
    (hexecute : execute rules check? program state = .done final) :
    depth? state.branches.length program = some final.branches.length := by
  induction program generalizing state with
  | nil =>
      cases hexecute
      rfl
  | cons instruction rest ih =>
      rw [List.forall_mem_cons] at hparsed
      rw [← List.singleton_append, execute_append_done_iff] at hexecute
      obtain ⟨middle, hfirst, hrest⟩ := hexecute
      rw [execute_singleton_done_iff] at hfirst
      rw [depth?, hparsed.1.depthBehind?_of_done hfirst]
      exact ih hparsed.2 hrest

end Script

namespace Machine

variable {setup : Setup}

/-- However often a machine is stepped, and whatever comes of it, as many branches are open as the
instructions in front of the counter leave open. -/
theorem depth?_steps (setup : Setup)
    (hparsed : ∀ instruction ∈ setup.program.toList, instruction.Parsed) (count : Nat) :
    ∃ counter : Nat, ((start setup).steps count).counter = counter ∧
      Script.depth? 0 (setup.program.toList.take counter) =
        some ((start setup).steps count).state.branches.length := by
  induction count with
  | zero => exact ⟨0, rfl, rfl⟩
  | succ count ih =>
      obtain ⟨counter, hcounter, hdepth⟩ := ih
      have hsetup : ((start setup).steps count).setup = setup := setup_steps _ _
      rw [steps_succ]
      generalize (start setup).steps count = machine at hcounter hdepth hsetup
      have hcase := machine.step_cases
      generalize machine.step = result at hcase
      cases hcase with
      | finished | outside | fault => exact ⟨counter, hcounter, hdepth⟩
      | abort _ instruction cause left hat habort =>
          refine ⟨counter, hcounter, ?_⟩
          rw [Instruction.branches_of_execute_abort habort]
          exact hdepth
      | done _ instruction state hat hdone =>
          rw [hsetup, hcounter] at hat
          have hmem : instruction ∈ setup.program.toList := by
            rw [Setup.instruction?_natCast] at hat
            exact List.mem_of_getElem? hat
          have hbehind := (hparsed instruction hmem).depthBehind?_of_done hdone
          refine ⟨counter + 1, ?_, ?_⟩
          · simp only [advance, hcounter]
            split <;> rfl
          · have hstate : (machine.advance state).1.state = state := by
              simp only [advance]
              split <;> rfl
            rw [take_succ_of_instruction? hat, Script.depth?_append, hdepth, hstate]
            simp [Script.depth?, hbehind]

theorem EndsIn.properlyNested {final : Machine}
    (hparsed : ∀ instruction ∈ setup.program.toList, instruction.Parsed)
    (hends : (start setup).EndsIn final) (hhalt : final.halt? = none) :
    Script.ProperlyNested setup.program.toList := by
  obtain ⟨hexecute, hbranches, -⟩ := hends.execute_eq rfl hhalt
  have hdepth := Script.depth?_of_execute hparsed hexecute
  rw [hbranches] at hdepth
  exact hdepth

end Machine

/-- A properly nested locking script is never begun inside a conditional. At any time of a run of
two scripts that were read from text, the machine has as many branches open as conditionals are
opened less closed in front of the counter. If the run ends without a fault, the scripts together
are properly nested; and if the locking script is properly nested by itself, no branch is open when
the counter stands at its beginning. -/
theorem locking_script_not_skipped (unlockingText lockingText : String)
    (unlocking locking : List Instruction)
    (hunlocking : Script.parse unlockingText = .ok unlocking)
    (hlocking : Script.parse lockingText = .ok locking)
    (check? : Option SignatureCheck) (rules : Rules) :
    let fresh := Machine.start (Setup.ofScripts unlocking locking check? rules)
    (∀ count, ∃ counter : Nat, (fresh.steps count).counter = counter ∧
      ((fresh.steps count).state.branches.length : Int) =
        ((unlocking ++ locking).take counter).countP Instruction.opens -
          ((unlocking ++ locking).take counter).countP Instruction.closes) ∧
    ∀ final, fresh.EndsIn final → final.halt? = none →
      Script.ProperlyNested (unlocking ++ locking) ∧
      (Script.ProperlyNested locking → ∀ count,
        (fresh.steps count).counter = unlocking.length →
          (fresh.steps count).state.branches = []) := by
  intro fresh
  have hparsed : ∀ instruction ∈ (Setup.ofScripts unlocking locking check? rules).program.toList,
      instruction.Parsed := by
    intro instruction hmem
    rw [Setup.toList_program_ofScripts] at hmem
    rcases List.mem_append.mp hmem with hmem | hmem
    · exact Script.parsed_of_parse hunlocking instruction hmem
    · exact Script.parsed_of_parse hlocking instruction hmem
  have hdepths : ∀ count, ∃ counter : Nat, (fresh.steps count).counter = counter ∧
      Script.depth? 0 ((unlocking ++ locking).take counter) =
        some (fresh.steps count).state.branches.length := Machine.depth?_steps _ hparsed
  refine ⟨fun count => ?_, fun final hends hhalt => ?_⟩
  · obtain ⟨counter, hcounter, hdepth⟩ := hdepths count
    refine ⟨counter, hcounter, ?_⟩
    have hcount := Script.depth?_eq_count hdepth
    omega
  · have hnested : Script.ProperlyNested (unlocking ++ locking) :=
      hends.properlyNested hparsed hhalt
    refine ⟨hnested, fun hinner count hcounter => ?_⟩
    obtain ⟨counter, hcounter', hdepth⟩ := hdepths count
    have hunlockingLength : counter = unlocking.length := by
      rw [hcounter] at hcounter'
      omega
    rw [hunlockingLength] at hdepth
    rw [List.take_left] at hdepth
    -- the locking script closes as many conditionals as it finds open, which is none
    have hbehind : Script.depth? ((fresh.steps count).state.branches.length) locking = some 0 := by
      have hwhole := hnested
      rw [Script.ProperlyNested, Script.depth?_append, hdepth] at hwhole
      exact hwhole
    have houter := Script.depth?_add hinner (fresh.steps count).state.branches.length
    rw [Nat.zero_add, hbehind, Option.some.injEq] at houter
    exact List.eq_nil_of_length_eq_zero (by omega)

def closedUnlocking : List Instruction :=
  [⟨"OP_1", 0x51, none⟩, ⟨"OP_1", 0x51, none⟩, ⟨"OP_IF", 0x63, none⟩, ⟨"OP_ELSE", 0x67, none⟩,
    ⟨"OP_ENDIF", 0x68, none⟩]

def conditionalLocking : List Instruction :=
  [⟨"OP_IF", 0x63, none⟩, ⟨"OP_1", 0x51, none⟩, ⟨"OP_ELSE", 0x67, none⟩, ⟨"OP_0", 0x00, none⟩,
    ⟨"OP_ENDIF", 0x68, none⟩]

theorem locking_script_not_skipped_conditional :
    Script.parse "OP_1 OP_1 OP_IF OP_ELSE OP_ENDIF" = .ok closedUnlocking ∧
    Script.parse "OP_IF OP_1 OP_ELSE OP_0 OP_ENDIF" = .ok conditionalLocking ∧
    ∃ final, (Machine.start
        (Setup.ofScripts closedUnlocking conditionalLocking none {})).EndsIn final ∧
      final.halt? = none ∧ Script.ProperlyNested conditionalLocking ∧
      ((Machine.start
        (Setup.ofScripts closedUnlocking conditionalLocking none {})).steps 5).state.branches =
          [] := by
  have hunlocking := Script.parse_of_readStrict (show
    Script.readStrict "OP_1 OP_1 OP_IF OP_ELSE OP_ENDIF" = some closedUnlocking by decide +kernel)
  have hlocking := Script.parse_of_readStrict (show
    Script.readStrict "OP_IF OP_1 OP_ELSE OP_0 OP_ENDIF" = some conditionalLocking by
      decide +kernel)
  have hexecute : Script.execute {} none (closedUnlocking ++ conditionalLocking) ⟨[], [], []⟩ =
      .done ⟨[[1]], [], []⟩ := by rfl
  have hends : (Machine.start
      (Setup.ofScripts closedUnlocking conditionalLocking none {})).EndsIn _ :=
    Machine.endsIn_of_execute hexecute rfl
  have hnested : Script.ProperlyNested conditionalLocking := by decide
  have hresult := locking_script_not_skipped _ _ _ _ hunlocking hlocking none {}
  exact ⟨hunlocking, hlocking, _, hends, rfl, hnested,
    (hresult.2 _ hends rfl).2 hnested 5 (by decide +kernel)⟩

end Lockstep
