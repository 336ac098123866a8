import Lockstep.Proofs.BranchNesting

/-!
Conditionals as trees. A properly nested program is a tree of plain instructions and conditionals,
and evaluating the tree needs no branch stack: a conditional takes its condition from the stack and
evaluates every other of its blocks. The machine, which knows only a list of truth values, does the
same to the stacks and stops at the same instruction for the same reason.
-/

namespace Lockstep

/-- Why a script stopped, and the position of the instruction that it stopped at. -/
inductive Stop where
  | fault (cause : Fault) (position : Nat)
  | abort (cause : Abort) (position : Nat)
deriving DecidableEq

/-- The items on the two stacks, without any conditional. -/
structure Items where
  main : List Bytes
  alt : List Bytes
deriving DecidableEq

/-- The stacks of a machine that has these items and is inside these conditionals. -/
def Items.inside (items : Items) (branches : List Bool) : Stacks :=
  ⟨items.main, items.alt, branches⟩

def Stacks.items (state : Stacks) : Items :=
  ⟨state.main, state.alt⟩

def Outcome.located {α : Type} (position : Nat) : Outcome α → Except Stop α
  | done value => .ok value
  | fault cause => .error (.fault cause position)
  | abort cause _ => .error (.abort cause position)

namespace Script

/-- Executes instructions as `execute` does, and says where it stopped. -/
def executeFrom (rules : Rules) (check? : Option SignatureCheck) :
    Nat → List Instruction → Stacks → Except Stop Stacks
  | _, [], state => .ok state
  | position, instruction :: rest, state =>
    ((instruction.execute rules check? state).located position).bind
      (executeFrom rules check? (position + 1) rest)

/-- What opens a conditional; a negated one is taken if the condition is false. -/
def opener (negated : Bool) : Instruction :=
  if negated then ⟨"OP_NOTIF", 0x64, none⟩ else ⟨"OP_IF", 0x63, none⟩

def switcher : Instruction :=
  ⟨"OP_ELSE", 0x67, none⟩

def closer : Instruction :=
  ⟨"OP_ENDIF", 0x68, none⟩

mutual

/-- Plain instructions and conditionals, one after the other. -/
inductive Block where
  | nil
  | plain (instruction : Instruction) (hplain : instruction.isConditional = false) (rest : Block)
  | conditional (negated : Bool) (branches : Branches) (rest : Block)

/-- The blocks of a conditional, of which there is at least one. -/
inductive Branches where
  | last (block : Block)
  | cons (block : Block) (others : Branches)

end

mutual

def Block.flatten : Block → List Instruction
  | .nil => []
  | .plain instruction _ rest => instruction :: rest.flatten
  | .conditional negated branches rest =>
    opener negated :: (branches.flatten ++ closer :: rest.flatten)

/-- The instructions of the blocks of a conditional, with `OP_ELSE` between them. -/
def Branches.flatten : Branches → List Instruction
  | .last block => block.flatten
  | .cons block others => block.flatten ++ switcher :: others.flatten

end

mutual

/-- Evaluates a block whose first instruction has a position. A conditional takes its condition from
the stack and leaves the choice of blocks to it. -/
def Block.evaluate (rules : Rules) (check? : Option SignatureCheck) :
    Block → Nat → Items → Except Stop Items
  | .nil, _, items => .ok items
  | .plain instruction _ rest, position, items =>
    ((instruction.execute rules check? (items.inside [])).located position).bind fun state =>
      rest.evaluate rules check? (position + 1) state.items
  | .conditional negated branches rest, position, items =>
    match items.main with
    | [] => .error (.fault (.stackUnderflow (opener negated).name) position)
    | condition :: main =>
      (branches.evaluate rules check? (ScriptNum.isTrue condition != negated) (position + 1)
        ⟨main, items.alt⟩).bind
          (rest.evaluate rules check? (position + 1 + branches.flatten.length + 1))

/-- Evaluates every other block of a conditional, beginning with the first one if it is taken and
with the second one otherwise. -/
def Branches.evaluate (rules : Rules) (check? : Option SignatureCheck) :
    Branches → Bool → Nat → Items → Except Stop Items
  | .last block, taken, position, items =>
    if taken then block.evaluate rules check? position items else .ok items
  | .cons block others, taken, position, items =>
    (if taken then block.evaluate rules check? position items else .ok items).bind
      (others.evaluate rules check? (!taken) (position + block.flatten.length + 1))

end

section Instructions

variable {rules : Rules} {check? : Option SignatureCheck}

theorem execute_opener_of_skipped (negated : Bool) {branches : List Bool}
    (hskipped : branches.all id = false) (items : Items) :
    (opener negated).execute rules check? (items.inside branches) =
      .done (items.inside (false :: branches)) := by
  have hexecuting : (items.inside branches).isExecuting = false := hskipped
  have hconditional : (opener negated).isConditional = true := by
    cases negated <;> decide
  have hop : Operation.ofCode? (opener negated).code = some .openBranch := by
    cases negated <;> decide
  have hdata : (opener negated).data = none := by
    cases negated <;> rfl
  simp only [Instruction.execute, hexecuting, hconditional, hdata, hop, Operation.run,
    Effect.openBranch]
  rfl

theorem execute_opener_of_executing (negated : Bool) {branches : List Bool}
    (hexecuting : branches.all id = true) (items : Items) :
    (opener negated).execute rules check? (items.inside branches) =
      match items.main with
      | [] => .fault (.stackUnderflow (opener negated).name)
      | condition :: main =>
        .done ((⟨main, items.alt⟩ : Items).inside
          ((ScriptNum.isTrue condition != negated) :: branches)) := by
  have hstate : (items.inside branches).isExecuting = true := hexecuting
  have hop : Operation.ofCode? (opener negated).code = some .openBranch := by
    cases negated <;> decide
  have hdata : (opener negated).data = none := by
    cases negated <;> rfl
  rw [Instruction.execute_of_operation hstate hdata hop]
  simp only [Operation.run, Effect.openBranch, hstate, ↓reduceIte]
  cases hmain : items.main with
  | nil => simp [Items.inside, hmain]
  | cons condition main => cases negated <;> simp [Items.inside, hmain, opener]

theorem execute_switcher (items : Items) (taken : Bool) (outer : List Bool) :
    switcher.execute rules check? (items.inside (taken :: outer)) =
      .done (items.inside ((!taken) :: outer)) := by
  have hconditional : switcher.isConditional = true := by decide
  have hop : Operation.ofCode? switcher.code = some .switchBranch := by decide
  simp only [Instruction.execute, hconditional, hop, Bool.not_true, Bool.and_false,
    Bool.false_eq_true, ↓reduceIte]
  rfl

theorem execute_closer (items : Items) (taken : Bool) (outer : List Bool) :
    closer.execute rules check? (items.inside (taken :: outer)) = .done (items.inside outer) := by
  have hconditional : closer.isConditional = true := by decide
  have hop : Operation.ofCode? closer.code = some .closeBranch := by decide
  simp only [Instruction.execute, hconditional, hop, Bool.not_true, Bool.and_false,
    Bool.false_eq_true, ↓reduceIte]
  rfl

theorem execute_plain_of_skipped {instruction : Instruction}
    (hplain : instruction.isConditional = false) {branches : List Bool}
    (hskipped : branches.all id = false) (items : Items) :
    instruction.execute rules check? (items.inside branches) =
      .done (items.inside branches) := by
  have hexecuting : (items.inside branches).isExecuting = false := hskipped
  simp [Instruction.execute, hplain, hexecuting]

end Instructions

end Script

theorem Operation.run_inside {rules : Rules} {check? : Option SignatureCheck} {name : String}
    {op : Operation} (hopen : op ≠ openBranch) (hswitch : op ≠ switchBranch)
    (hclose : op ≠ closeBranch) (items : Items) (branches : List Bool) :
    op.run rules check? name (items.inside branches) =
      (op.run rules check? name (items.inside [])).map fun state =>
        state.items.inside branches := by
  have hmain : ∀ outcome : Outcome (List Bytes),
      (outcome.map fun main => ({ items.inside branches with main } : Stacks)) =
        (outcome.map fun main => ({ items.inside [] with main } : Stacks)).map fun state =>
          state.items.inside branches := by
    intro outcome
    cases outcome <;> rfl
  unfold run
  split
  · exact absurd rfl hopen
  · exact absurd rfl hswitch
  · exact absurd rfl hclose
  · simp only [Effect.toAlt, Items.inside]
    cases items.main <;> rfl
  · simp only [Effect.fromAlt, Items.inside]
    cases items.alt <;> rfl
  · exact hmain _

theorem Instruction.Parsed.execute_inside {rules : Rules} {check? : Option SignatureCheck}
    {instruction : Instruction} (hparsed : instruction.Parsed)
    (hplain : instruction.isConditional = false) {branches : List Bool}
    (hexecuting : branches.all id = true) (items : Items) :
    instruction.execute rules check? (items.inside branches) =
      (instruction.execute rules check? (items.inside [])).map fun state =>
        state.items.inside branches := by
  have hstate : (items.inside branches).isExecuting = true := hexecuting
  have hempty : (items.inside []).isExecuting = true := rfl
  simp only [execute, hstate, hempty, hplain, Bool.not_true, Bool.false_and, Bool.false_eq_true,
    ↓reduceIte]
  cases hdata : instruction.data with
  | some item => rfl
  | none =>
      cases hop : Operation.ofCode? instruction.code with
      | none =>
          dsimp only
          split <;> rfl
      | some op =>
          have hother := mt (hparsed.isConditional_iff hdata hop).mpr (by simp [hplain])
          simp only [not_or] at hother
          exact Operation.run_inside hother.1 hother.2.1 hother.2.2 items branches

namespace Script

variable {rules : Rules} {check? : Option SignatureCheck}

theorem executeFrom_cons_of_done {instruction : Instruction} {state state' : Stacks}
    (hdone : instruction.execute rules check? state = .done state') (position : Nat)
    (rest : List Instruction) :
    executeFrom rules check? position (instruction :: rest) state =
      executeFrom rules check? (position + 1) rest state' := by
  rw [executeFrom, hdone]
  rfl

mutual

theorem Block.executeFrom_of_skipped (block : Block) (position : Nat) (back : List Instruction)
    (items : Items) {outer : List Bool} (hskipped : outer.all id = false) :
    executeFrom rules check? position (block.flatten ++ back) (items.inside outer) =
      executeFrom rules check? (position + block.flatten.length) back (items.inside outer) := by
  cases block with
  | nil => rfl
  | plain instruction hplain rest =>
      rw [Block.flatten, List.cons_append,
        executeFrom_cons_of_done (execute_plain_of_skipped hplain hskipped items),
        Block.executeFrom_of_skipped rest _ back items hskipped, List.length_cons]
      congr 1
      omega
  | conditional negated branches rest =>
      rw [Block.flatten, List.cons_append, List.append_assoc, List.cons_append,
        executeFrom_cons_of_done (execute_opener_of_skipped negated hskipped items),
        Branches.executeFrom_of_skipped branches _ _ items false hskipped,
        Block.executeFrom_of_skipped rest _ back items hskipped, List.length_cons,
        List.length_append, List.length_cons]
      congr 1
      omega

theorem Branches.executeFrom_of_skipped (branches : Branches) (position : Nat)
    (back : List Instruction) (items : Items) (taken : Bool) {outer : List Bool}
    (hskipped : outer.all id = false) :
    executeFrom rules check? position (branches.flatten ++ closer :: back)
        (items.inside (taken :: outer)) =
      executeFrom rules check? (position + branches.flatten.length + 1) back
        (items.inside outer) := by
  have hinner : ∀ flag : Bool, (flag :: outer).all id = false := by
    intro flag
    simp [hskipped]
  cases branches with
  | last block =>
      rw [Branches.flatten, Block.executeFrom_of_skipped block _ _ items (hinner taken),
        executeFrom_cons_of_done (execute_closer items taken outer)]
  | cons block others =>
      rw [Branches.flatten, List.append_assoc, List.cons_append,
        Block.executeFrom_of_skipped block _ _ items (hinner taken),
        executeFrom_cons_of_done (execute_switcher items taken outer),
        Branches.executeFrom_of_skipped others _ back items (!taken) hskipped, List.length_append,
        List.length_cons]
      congr 1
      omega

end

mutual

/-- Where instructions take effect, a block does to the stacks what its evaluation says, and stops
where that stops. -/
theorem Block.executeFrom_of_executing (block : Block)
    (hparsed : ∀ instruction ∈ block.flatten, instruction.Parsed) (position : Nat)
    (back : List Instruction) (items : Items) {outer : List Bool}
    (hexecuting : outer.all id = true) :
    executeFrom rules check? position (block.flatten ++ back) (items.inside outer) =
      (block.evaluate rules check? position items).bind fun items' =>
        executeFrom rules check? (position + block.flatten.length) back (items'.inside outer) := by
  cases block with
  | nil => rfl
  | plain instruction hplain rest =>
      rw [Block.flatten, List.forall_mem_cons] at hparsed
      rw [Block.flatten, List.cons_append, executeFrom,
        hparsed.1.execute_inside hplain hexecuting items, Block.evaluate, List.length_cons]
      cases instruction.execute rules check? (items.inside []) with
      | fault cause => rfl
      | abort cause left => rfl
      | done state =>
          have hrest := Block.executeFrom_of_executing rest hparsed.2 (position + 1) back
            state.items hexecuting
          rw [Nat.add_right_comm, Nat.add_assoc] at hrest
          exact hrest
  | conditional negated branches rest =>
      rw [Block.flatten, List.forall_mem_cons, List.forall_mem_append,
        List.forall_mem_cons] at hparsed
      rw [Block.flatten, List.cons_append, List.append_assoc, List.cons_append, Block.evaluate]
      have hopen := @execute_opener_of_executing rules check? negated outer hexecuting items
      cases hmain : items.main with
      | nil =>
          rw [hmain] at hopen
          rw [executeFrom, hopen]
          rfl
      | cons condition main =>
          rw [hmain] at hopen
          rw [executeFrom_cons_of_done hopen,
            Branches.executeFrom_of_executing branches hparsed.2.1 _ _ _ _ hexecuting]
          dsimp only
          cases branches.evaluate rules check? (ScriptNum.isTrue condition != negated)
              (position + 1) ⟨main, items.alt⟩ with
          | error stop => rfl
          | ok items' =>
              have hrest := Block.executeFrom_of_executing rest hparsed.2.2.2
                (position + 1 + branches.flatten.length + 1) back items' hexecuting
              have hlength : position + 1 + branches.flatten.length + 1 + rest.flatten.length =
                  position + (opener negated ::
                    (branches.flatten ++ closer :: rest.flatten)).length := by
                simp only [List.length_cons, List.length_append]
                omega
              rw [hlength] at hrest
              exact hrest

theorem Branches.executeFrom_of_executing (branches : Branches)
    (hparsed : ∀ instruction ∈ branches.flatten, instruction.Parsed) (taken : Bool)
    (position : Nat) (back : List Instruction) (items : Items) {outer : List Bool}
    (hexecuting : outer.all id = true) :
    executeFrom rules check? position (branches.flatten ++ closer :: back)
        (items.inside (taken :: outer)) =
      (branches.evaluate rules check? taken position items).bind fun items' =>
        executeFrom rules check? (position + branches.flatten.length + 1) back
          (items'.inside outer) := by
  have hpassed : (false :: outer).all id = false := rfl
  have hreached : (true :: outer).all id = true := hexecuting
  cases branches with
  | last block =>
      rw [Branches.flatten] at hparsed
      rw [Branches.flatten, Branches.evaluate]
      cases taken with
      | false =>
          rw [Block.executeFrom_of_skipped block _ _ items hpassed,
            executeFrom_cons_of_done (execute_closer items false outer)]
          rfl
      | true =>
          rw [Block.executeFrom_of_executing block hparsed _ _ items hreached]
          simp only [↓reduceIte]
          congr 1
          funext items'
          exact executeFrom_cons_of_done (execute_closer items' true outer) _ _
  | cons block others =>
      rw [Branches.flatten, List.forall_mem_append, List.forall_mem_cons] at hparsed
      rw [Branches.flatten, List.append_assoc, List.cons_append, Branches.evaluate]
      have hlength : position + block.flatten.length + 1 + others.flatten.length + 1 =
          position + (block.flatten ++ switcher :: others.flatten).length + 1 := by
        simp only [List.length_append, List.length_cons]
        omega
      have hothers : ∀ (flag : Bool) (items : Items),
          executeFrom rules check? (position + block.flatten.length)
              (switcher :: (others.flatten ++ closer :: back)) (items.inside (flag :: outer)) =
            (others.evaluate rules check? (!flag) (position + block.flatten.length + 1)
              items).bind fun items' =>
                executeFrom rules check?
                  (position + (block.flatten ++ switcher :: others.flatten).length + 1) back
                  (items'.inside outer) := by
        intro flag items
        rw [executeFrom_cons_of_done (execute_switcher items flag outer),
          Branches.executeFrom_of_executing others hparsed.2.2 _ _ _ _ hexecuting, hlength]
      cases taken with
      | false =>
          rw [Block.executeFrom_of_skipped block _ _ items hpassed]
          exact hothers false items
      | true =>
          rw [Block.executeFrom_of_executing block hparsed.1 _ _ items hreached]
          simp only [↓reduceIte]
          cases block.evaluate rules check? position items with
          | error stop => rfl
          | ok items' => exact hothers true items'

end

theorem execute_of_executeFrom {program : List Instruction} {position : Nat}
    {state final : Stacks}
    (hexecute : executeFrom rules check? position program state = .ok final) :
    execute rules check? program state = .done final := by
  induction program generalizing position state with
  | nil =>
      cases hexecute
      rfl
  | cons instruction rest ih =>
      rw [executeFrom] at hexecute
      rw [execute]
      cases hfirst : instruction.execute rules check? state with
      | done state' =>
          rw [hfirst] at hexecute
          exact ih hexecute
      | fault cause => simp [hfirst, Outcome.located, Except.bind] at hexecute
      | abort cause left => simp [hfirst, Outcome.located, Except.bind] at hexecute

/-- An execution that stops has executed a front of the program and stops at the instruction behind
it. -/
theorem exists_front_of_executeFrom {program : List Instruction} {position : Nat} {state : Stacks}
    {stop : Stop} (hexecute : executeFrom rules check? position program state = .error stop) :
    ∃ front instruction back before, program = front ++ instruction :: back ∧
      execute rules check? front state = .done before ∧
      (instruction.execute rules check? before).located (position + front.length) =
        .error stop := by
  induction program generalizing position state with
  | nil => simp [executeFrom] at hexecute
  | cons instruction rest ih =>
      rw [executeFrom] at hexecute
      cases hfirst : instruction.execute rules check? state with
      | done state' =>
          rw [hfirst] at hexecute
          obtain ⟨front, stopped, back, before, rfl, hfront, hstop⟩ := ih hexecute
          refine ⟨instruction :: front, stopped, back, before, rfl, ?_, ?_⟩
          · rw [execute, hfirst]
            exact hfront
          · rw [List.length_cons, Nat.add_comm front.length 1, ← Nat.add_assoc]
            exact hstop
      | fault cause =>
          rw [hfirst] at hexecute
          exact ⟨[], instruction, rest, state, rfl, rfl, by rw [hfirst]; exact hexecute⟩
      | abort cause left =>
          rw [hfirst] at hexecute
          exact ⟨[], instruction, rest, state, rfl, rfl, by rw [hfirst]; exact hexecute⟩

end Script

namespace Instruction

theorem conditional_of_mem_table : ∀ entry ∈ Opcode.table,
    ((ofCode entry.2).opens = true →
      ofCode entry.2 = Script.opener false ∨ ofCode entry.2 = Script.opener true) ∧
    ((ofCode entry.2).switches = true → ofCode entry.2 = Script.switcher) ∧
    ((ofCode entry.2).closes = true → ofCode entry.2 = Script.closer) := by
  decide +kernel

theorem Parsed.conditional_cases {instruction : Instruction} (hparsed : instruction.Parsed) :
    instruction.isConditional = false ∨ (∃ negated, instruction = Script.opener negated) ∨
      instruction = Script.switcher ∨ instruction = Script.closer := by
  cases hconditional : instruction.isConditional with
  | false => exact .inl rfl
  | true =>
      right
      cases hparsed with
      | data item hsome =>
          rw [(Parsed.data item hsome).isConditional_of_data rfl] at hconditional
          simp at hconditional
      | payload code limit item hlimit hfits =>
          rw [(Parsed.payload code limit item hlimit hfits).isConditional_of_data rfl]
            at hconditional
          simp at hconditional
      | mnemonic code hcode hlimit =>
          obtain ⟨entry, hentry, rfl⟩ := List.mem_map.mp hcode
          obtain ⟨hopens, hswitches, hcloses⟩ := conditional_of_mem_table entry hentry
          rw [isConditional_eq, Bool.or_eq_true, Bool.or_eq_true] at hconditional
          rcases hconditional with (hopen | hswitch) | hclose
          · rcases hopens hopen with heq | heq
            · exact .inl ⟨false, heq⟩
            · exact .inl ⟨true, heq⟩
          · exact .inr (.inl (hswitches hswitch))
          · exact .inr (.inr (hcloses hclose))

end Instruction

namespace Script

theorem depthBehind?_opener (negated : Bool) (depth : Nat) :
    (opener negated).depthBehind? depth = some (depth + 1) := by
  cases negated <;> rfl

theorem depthBehind?_switcher (depth : Nat) :
    switcher.depthBehind? depth = if depth = 0 then none else some depth := rfl

theorem depthBehind?_closer (depth : Nat) :
    closer.depthBehind? depth = if depth = 0 then none else some (depth - 1) := rfl

/-- A program that begins inside a number of conditionals and closes them all, as trees: a block, or
the blocks that are left of the innermost conditional with what follows it. -/
def ReadsAsTree : Nat → List Instruction → Prop
  | 0, program => ∃ block : Block, block.flatten = program
  | depth + 1, program => ∃ (branches : Branches) (back : List Instruction),
      branches.flatten ++ closer :: back = program ∧ depth? depth back = some 0

theorem ReadsAsTree.extend {program : List Instruction} {depth : Nat}
    (hreads : ReadsAsTree depth program) (front : List Instruction) (extend : Block → Block)
    (hextend : ∀ block, (extend block).flatten = front ++ block.flatten) :
    ReadsAsTree depth (front ++ program) := by
  cases depth with
  | zero =>
      obtain ⟨block, rfl⟩ := hreads
      exact ⟨extend block, hextend block⟩
  | succ depth =>
      obtain ⟨branches, back, rfl, hback⟩ := hreads
      cases branches with
      | last block =>
          refine ⟨.last (extend block), back, ?_, hback⟩
          rw [Branches.flatten, Branches.flatten, hextend, List.append_assoc]
      | cons block others =>
          refine ⟨.cons (extend block) others, back, ?_, hback⟩
          rw [Branches.flatten, Branches.flatten, hextend]
          simp only [List.append_assoc]

theorem readsAsTree_of_depth? {program : List Instruction} {depth : Nat}
    (hparsed : ∀ instruction ∈ program, instruction.Parsed)
    (hdepth : depth? depth program = some 0) : ReadsAsTree depth program := by
  -- what follows a conditional is read after it, so the induction is on the length
  induction hlength : program.length using Nat.strongRecOn generalizing program depth with
  | ind length ih =>
      cases program with
      | nil =>
          cases hdepth
          exact ⟨.nil, rfl⟩
      | cons instruction rest =>
          rw [List.forall_mem_cons] at hparsed
          obtain ⟨hfirst, hrest⟩ := hparsed
          have hshorter : rest.length < length := by
            rw [← hlength, List.length_cons]
            omega
          rw [depth?] at hdepth
          rcases hfirst.conditional_cases with hplain | ⟨negated, rfl⟩ | rfl | rfl
          · rw [Instruction.depthBehind?_of_not_isConditional hplain] at hdepth
            exact (ih _ hshorter hrest hdepth rfl).extend [instruction] (.plain instruction hplain)
              fun _ => rfl
          · rw [depthBehind?_opener] at hdepth
            obtain ⟨branches, back, rfl, hback⟩ := ih _ hshorter hrest hdepth rfl
            rw [List.forall_mem_append, List.forall_mem_cons] at hrest
            have hbackShorter : back.length < length := by
              simp only [List.length_append, List.length_cons] at hshorter
              omega
            have hreads := (ih _ hbackShorter hrest.2.2 hback rfl).extend
              (opener negated :: (branches.flatten ++ [closer])) (.conditional negated branches)
              fun block => by simp [Block.flatten]
            simpa using hreads
          · rw [depthBehind?_switcher] at hdepth
            cases depth with
            | zero => simp at hdepth
            | succ depth =>
                obtain ⟨branches, back, rfl, hback⟩ := ih _ hshorter hrest hdepth rfl
                exact ⟨.cons .nil branches, back, rfl, hback⟩
          · rw [depthBehind?_closer] at hdepth
            cases depth with
            | zero => simp at hdepth
            | succ depth => exact ⟨.last .nil, rest, rfl, hdepth⟩

end Script

/-- The branch stack implements structured conditionals. A properly nested program that was read
from text is the text of a tree, and for every such tree a machine that runs the program from any
items, outside all conditionals, does what the evaluation of the tree does: it leaves the same
items, or it halts with the same fault at the same position, or the same instruction breaks off. -/
theorem branch_stack_evaluates_tree (text : String) (program : List Instruction)
    (hparse : Script.parse text = .ok program) (hnested : Script.ProperlyNested program) :
    (∃ block : Script.Block, block.flatten = program) ∧
    ∀ block : Script.Block, block.flatten = program →
      ∀ setup : Setup, setup.program.toList = program → ∀ items : Items,
        match block.evaluate setup.rules setup.check? 0 items with
        | .ok items' => (Machine.resume setup 0 (items.inside [])).EndsIn
            (Machine.resume setup setup.length (items'.inside []))
        | .error (.fault cause position) => ∃ state : Stacks,
            (Machine.resume setup 0 (items.inside [])).EndsIn
              ⟨setup, position, state, some ⟨cause, position⟩⟩
        | .error (.abort cause position) =>
            (Machine.resume setup 0 (items.inside [])).RunsFor position ∧
            ((Machine.resume setup 0 (items.inside [])).steps position).step.2 =
              .error cause := by
  have hparsed := Script.parsed_of_parse hparse
  refine ⟨Script.readsAsTree_of_depth? hparsed hnested, ?_⟩
  rintro block rfl setup hprogram items
  have hwhole := @Script.Block.executeFrom_of_executing setup.rules setup.check? block hparsed 0 []
    items [] rfl
  rw [List.append_nil] at hwhole
  cases hevaluate : block.evaluate setup.rules setup.check? 0 items with
  | ok items' =>
      rw [hevaluate] at hwhole
      have hexecute := Script.execute_of_executeFrom hwhole
      rw [← hprogram] at hexecute
      exact Machine.endsIn_of_execute hexecute rfl
  | error stop =>
      rw [hevaluate] at hwhole
      obtain ⟨front, instruction, back, before, hsplit, hfront, hstop⟩ :=
        Script.exists_front_of_executeFrom hwhole
      rw [hsplit] at hprogram
      rw [Nat.zero_add] at hstop
      cases hlast : instruction.execute setup.rules setup.check? before with
      | done state => simp [hlast, Outcome.located] at hstop
      | fault cause =>
          simp only [hlast, Outcome.located, Except.error.injEq] at hstop
          subst hstop
          exact ⟨before, front.length, Machine.step_of_fault hprogram hfront hlast⟩
      | abort cause left =>
          simp only [hlast, Outcome.located, Except.error.injEq] at hstop
          subst hstop
          obtain ⟨hrun, hstep⟩ := Machine.step_of_abort hprogram hfront hlast
          exact ⟨hrun, congrArg Prod.snd hstep⟩

/-- A conditional with three blocks, of which the second is a conditional. -/
def threeBlocks : Script.Block :=
  .conditional false
    (.cons (.plain ⟨"OP_1", 0x51, none⟩ (by decide) .nil)
      (.cons (.conditional true
          (.cons (.plain ⟨"OP_RETURN", 0x6a, none⟩ (by decide) .nil)
            (.last (.plain ⟨"OP_3", 0x53, none⟩ (by decide) .nil))) .nil)
        (.last (.plain ⟨"OP_ADD", 0x93, none⟩ (by decide) .nil)))) .nil

theorem branch_stack_evaluates_tree_three_blocks :
    Script.parse ("OP_IF OP_1 OP_ELSE OP_NOTIF OP_RETURN OP_ELSE OP_3 OP_ENDIF " ++
      "OP_ELSE OP_ADD OP_ENDIF") = .ok threeBlocks.flatten ∧
    Script.ProperlyNested threeBlocks.flatten ∧
    ∃ setup : Setup, setup.program.toList = threeBlocks.flatten ∧
      (Machine.resume setup 0 ⟨[[1], [2]], [], []⟩).EndsIn
        (Machine.resume setup setup.length ⟨[[3]], [], []⟩) ∧
      ∃ state, (Machine.resume setup 0 ⟨[[]], [], []⟩).EndsIn
        ⟨setup, 3, state, some ⟨.stackUnderflow "OP_NOTIF", 3⟩⟩ := by
  have hparse := Script.parse_of_readStrict (show Script.readStrict
    ("OP_IF OP_1 OP_ELSE OP_NOTIF OP_RETURN OP_ELSE OP_3 OP_ENDIF " ++
      "OP_ELSE OP_ADD OP_ENDIF") = some threeBlocks.flatten by decide +kernel)
  have hnested : Script.ProperlyNested threeBlocks.flatten := by decide +kernel
  have htrue : threeBlocks.evaluate {} none 0 ⟨[[1], [2]], []⟩ = .ok ⟨[[3]], []⟩ := by rfl
  have hfalse : threeBlocks.evaluate {} none 0 ⟨[[]], []⟩ =
      .error (.fault (.stackUnderflow "OP_NOTIF") 3) := by rfl
  have hruns := (branch_stack_evaluates_tree _ _ hparse hnested).2 threeBlocks rfl
    ⟨threeBlocks.flatten.toArray, 0, none, {}⟩ rfl
  have hends := hruns ⟨[[1], [2]], []⟩
  have hstops := hruns ⟨[[]], []⟩
  rw [htrue] at hends
  rw [hfalse] at hstops
  exact ⟨hparse, hnested, _, rfl, hends, hstops⟩

end Lockstep
