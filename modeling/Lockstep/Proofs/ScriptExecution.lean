import Lockstep.Proofs.MachineRuns

namespace Lockstep

theorem Instruction.execute_done_cases {rules : Rules} {check? : Option SignatureCheck}
    {instruction : Instruction} {state state' : Stacks}
    (hdone : instruction.execute rules check? state = .done state') :
    (state.isExecuting = false ∧ instruction.isConditional = false ∧ state' = state) ∨
    (∃ item, instruction.data = some item ∧ state' = { state with main := item :: state.main }) ∨
    (∃ op, instruction.data = none ∧ Operation.ofCode? instruction.code = some op ∧
      op.run rules check? instruction.name state = .done state') := by
  unfold execute at hdone
  split at hdone
  · rename_i hskip
    cases hdone
    simp only [Bool.and_eq_true, Bool.not_eq_true'] at hskip
    exact .inl ⟨hskip.1, hskip.2, rfl⟩
  · split at hdone
    · rename_i item hdata
      cases hdone
      exact .inr (.inl ⟨item, hdata, rfl⟩)
    · rename_i hdata
      split at hdone
      · rename_i op hop
        exact .inr (.inr ⟨op, hdata, hop, hdone⟩)
      · split at hdone <;> simp at hdone

theorem Instruction.execute_of_operation {rules : Rules} {check? : Option SignatureCheck}
    {instruction : Instruction} {state : Stacks} {op : Operation}
    (hexecuting : state.isExecuting = true) (hdata : instruction.data = none)
    (hop : Operation.ofCode? instruction.code = some op) :
    instruction.execute rules check? state = op.run rules check? instruction.name state := by
  simp [execute, hexecuting, hdata, hop]

theorem Instruction.execute_of_data {rules : Rules} {check? : Option SignatureCheck}
    {instruction : Instruction} {state : Stacks} {item : Bytes}
    (hexecuting : state.isExecuting = true) (hdata : instruction.data = some item) :
    instruction.execute rules check? state =
      .done { state with main := item :: state.main } := by
  simp [execute, hexecuting, hdata]

namespace Script

/-- Executes instructions one after the other, up to the first that is refused or breaks off. -/
def execute (rules : Rules) (check? : Option SignatureCheck) :
    List Instruction → Stacks → Outcome Stacks
  | [], state => .done state
  | instruction :: rest, state =>
    match instruction.execute rules check? state with
    | .done state' => execute rules check? rest state'
    | .fault cause => .fault cause
    | .abort cause left => .abort cause left

variable {rules : Rules} {check? : Option SignatureCheck}

theorem execute_append (front back : List Instruction) (state : Stacks) :
    execute rules check? (front ++ back) state =
      match execute rules check? front state with
      | .done middle => execute rules check? back middle
      | .fault cause => .fault cause
      | .abort cause left => .abort cause left := by
  induction front generalizing state with
  | nil => rfl
  | cons instruction front ih =>
      simp only [List.cons_append, execute]
      cases instruction.execute rules check? state with
      | done state' => exact ih state'
      | fault cause => rfl
      | abort cause left => rfl

theorem execute_append_done_iff (front back : List Instruction) (state final : Stacks) :
    execute rules check? (front ++ back) state = .done final ↔
      ∃ middle, execute rules check? front state = .done middle ∧
        execute rules check? back middle = .done final := by
  rw [execute_append]
  cases execute rules check? front state with
  | done middle => simp
  | fault cause => simp
  | abort cause left => simp

theorem execute_singleton (instruction : Instruction) (state : Stacks) :
    execute rules check? [instruction] state = instruction.execute rules check? state := by
  rw [execute]
  cases instruction.execute rules check? state <;> rfl

theorem execute_singleton_done_iff (instruction : Instruction) (state final : Stacks) :
    execute rules check? [instruction] state = .done final ↔
      instruction.execute rules check? state = .done final := by
  rw [execute_singleton]

theorem exists_front_of_fault {program : List Instruction} {state : Stacks} {cause : Fault}
    (hfault : execute rules check? program state = .fault cause) :
    ∃ front instruction back before, program = front ++ instruction :: back ∧
      execute rules check? front state = .done before ∧
      instruction.execute rules check? before = .fault cause := by
  induction program generalizing state with
  | nil => simp [execute] at hfault
  | cons instruction program ih =>
      cases hexecute : instruction.execute rules check? state with
      | done state' =>
          rw [execute, hexecute] at hfault
          obtain ⟨front, next, back, before, rfl, hfront, hnext⟩ := ih hfault
          refine ⟨instruction :: front, next, back, before, rfl, ?_, hnext⟩
          rw [execute, hexecute]
          exact hfront
      | fault cause' =>
          rw [execute, hexecute] at hfault
          cases hfault
          exact ⟨[], instruction, program, state, rfl, rfl, hexecute⟩
      | abort cause' left =>
          rw [execute, hexecute] at hfault
          simp at hfault

end Script

namespace Machine

variable {setup : Setup} {initial : Stacks}

theorem take_succ_of_instruction? {instruction : Instruction} {count : Nat}
    (hat : setup.instruction? count = some instruction) :
    setup.program.toList.take (count + 1) = setup.program.toList.take count ++ [instruction] := by
  rw [Setup.instruction?_natCast] at hat
  rw [List.take_add_one, hat]
  rfl

theorem RunsFor.execute_take {count : Nat} (hrun : (resume setup 0 initial).RunsFor count) :
    Script.execute setup.rules setup.check? (setup.program.toList.take count) initial =
      .done ((resume setup 0 initial).steps count).state := by
  induction count with
  | zero => rfl
  | succ count ih =>
      obtain ⟨hbefore, hmore⟩ := (runsFor_succ_iff _ count).mp hrun
      obtain ⟨instruction, hat, hdone, -, -, -⟩ := step_more (Prod.ext rfl hmore)
      rw [setup_steps, hbefore.counter_eq] at hat
      rw [setup_steps] at hdone
      change setup.instruction? count = some instruction at hat
      rw [take_succ_of_instruction? hat]
      exact (Script.execute_append_done_iff _ _ _ _).mpr
        ⟨_, ih hbefore, (Script.execute_singleton_done_iff _ _ _).mpr hdone⟩

theorem isFinished_resume_of_instruction? {instruction : Instruction} {count : Nat}
    (hat : setup.instruction? count = some instruction) (state : Stacks) :
    (resume setup count state).isFinished = false := by
  have hlt : count < setup.program.toList.length := by
    rw [Setup.instruction?_natCast] at hat
    exact (List.getElem?_eq_some_iff.mp hat).1
  refine (isFinished_eq_false_iff _).mpr ⟨rfl, ?_⟩
  simp only [resume, Setup.length, Array.length_toList] at hlt ⊢
  omega

theorem step_resume_of_done {instruction : Instruction} {count : Nat} {state state' : Stacks}
    (hat : setup.instruction? count = some instruction)
    (hdone : instruction.execute setup.rules setup.check? state = .done state') :
    (resume setup count state).step =
      (((resume setup count state).advance state').1,
        .ok ((resume setup count state).advance state').2) := by
  simp only [step, isFinished_resume_of_instruction? hat, Bool.false_eq_true, ↓reduceIte]
  simp only [resume, hat, hdone]

theorem runsFor_of_execute_take {count : Nat} {state : Stacks}
    (hinside : (count : Int) < setup.length)
    (hexecute : Script.execute setup.rules setup.check? (setup.program.toList.take count) initial =
      .done state) :
    (resume setup 0 initial).RunsFor count ∧
      (resume setup 0 initial).steps count = resume setup count state := by
  induction count generalizing state with
  | zero =>
      cases hexecute
      exact ⟨runsFor_zero _, rfl⟩
  | succ count ih =>
      have hat : ∃ instruction, setup.instruction? count = some instruction := by
        have hlt : count < setup.program.toList.length := by
          simp only [Setup.length, Array.length_toList] at hinside ⊢
          omega
        exact ⟨_, (setup.instruction?_natCast count).trans (List.getElem?_eq_getElem hlt)⟩
      obtain ⟨instruction, hat⟩ := hat
      rw [take_succ_of_instruction? hat] at hexecute
      obtain ⟨middle, hfront, hlast⟩ := (Script.execute_append_done_iff _ _ _ _).mp hexecute
      rw [Script.execute_singleton_done_iff] at hlast
      obtain ⟨hrun, hsteps⟩ := ih (by omega) hfront
      have hadvance : (resume setup count middle).advance state =
          (resume setup (count + 1) state, true) := by
        have hmore : (count : Int) + 1 < setup.length := by omega
        simp [advance, resume, hmore, Int.ne_of_lt hmore]
      have hstep := step_resume_of_done hat hlast
      rw [hadvance] at hstep
      refine ⟨(runsFor_succ_iff _ count).mpr ⟨hrun, by rw [hsteps, hstep]⟩, ?_⟩
      rw [steps_succ, hsteps, hstep]
      rfl

theorem EndsIn.execute_eq {final : Machine} (hclosed : initial.branches = [])
    (hends : (resume setup 0 initial).EndsIn final) (hhalt : final.halt? = none) :
    Script.execute setup.rules setup.check? setup.program.toList initial = .done final.state ∧
      final.state.branches = [] ∧ final = resume setup setup.length final.state := by
  obtain ⟨count, hrun, hlast⟩ := hends
  rcases step_last hlast with ⟨hfinished, rfl⟩ | ⟨-, -, cause, rfl⟩ |
    ⟨hbefore, instruction, hat, hdone, hend, hfinal⟩
  · have hlength : setup.length ≤ count := by
      simpa [isFinished, hhalt, hrun.counter_eq] using hfinished
    -- only an empty program is over before anything was executed
    cases count with
    | zero =>
        have hzero : setup.program.size = 0 := by
          simp only [Setup.length] at hlength
          omega
        have hempty : setup.program.toList = [] :=
          List.eq_nil_of_length_eq_zero (by simpa using hzero)
        rw [hempty, show setup.length = 0 by simp [Setup.length, hzero]]
        exact ⟨rfl, hclosed, rfl⟩
    | succ count =>
        have hlt := hrun.lt_length
        omega
  · simp at hhalt
  · simp only [setup_steps, setup_resume, hrun.counter_eq] at hat hend hdone hfinal
    have hwhole : setup.program.toList.take (count + 1) = setup.program.toList := by
      apply List.take_of_length_le
      simp only [Setup.length, Array.length_toList] at hend ⊢
      omega
    have hbranches : final.state.branches = [] := by
      rw [hfinal] at hhalt
      simpa using hhalt
    refine ⟨?_, hbranches, ?_⟩
    · rw [← hwhole, take_succ_of_instruction? hat]
      exact (Script.execute_append_done_iff _ _ _ _).mpr
        ⟨_, hrun.execute_take, (Script.execute_singleton_done_iff _ _ _).mpr hdone⟩
    · rw [hfinal, hend]
      simp [hbranches, resume]

theorem endsIn_of_execute {state : Stacks}
    (hexecute : Script.execute setup.rules setup.check? setup.program.toList initial = .done state)
    (hbranches : state.branches = []) :
    (resume setup 0 initial).EndsIn (resume setup setup.length state) := by
  rcases Nat.eq_zero_or_pos setup.program.size with hzero | hpos
  · have hempty : setup.program.toList = [] :=
      List.eq_nil_of_length_eq_zero (by simpa using hzero)
    rw [hempty] at hexecute
    cases hexecute
    refine ⟨0, runsFor_zero _, ?_⟩
    simp [step, isFinished, resume, Setup.length, hzero]
  · obtain ⟨count, hcount⟩ : ∃ count, setup.program.size = count + 1 :=
      ⟨setup.program.size - 1, by omega⟩
    have hlength : setup.length = (count : Int) + 1 := by
      simp only [Setup.length]
      omega
    have hlt : count < setup.program.toList.length := by
      simp only [Array.length_toList]
      omega
    have hat := (setup.instruction?_natCast count).trans (List.getElem?_eq_getElem hlt)
    have hwhole : setup.program.toList.take (count + 1) = setup.program.toList :=
      List.take_of_length_le (by simp only [Array.length_toList]; omega)
    rw [← hwhole, take_succ_of_instruction? hat] at hexecute
    obtain ⟨middle, hfront, hlast⟩ := (Script.execute_append_done_iff _ _ _ _).mp hexecute
    rw [Script.execute_singleton_done_iff] at hlast
    obtain ⟨hrun, hsteps⟩ := runsFor_of_execute_take (by omega) hfront
    have hadvance : (resume setup count middle).advance state =
        (resume setup setup.length state, false) := by
      simp [advance, resume, hbranches, hlength]
    have hstep := step_resume_of_done hat hlast
    rw [hadvance] at hstep
    exact ⟨count, hrun, by rw [hsteps, hstep]⟩

theorem runsFor_of_execute_front {front back : List Instruction} {instruction : Instruction}
    {before : Stacks} (hprogram : setup.program.toList = front ++ instruction :: back)
    (hexecute : Script.execute setup.rules setup.check? front initial = .done before) :
    (resume setup 0 initial).RunsFor front.length ∧
      (resume setup 0 initial).steps front.length = resume setup front.length before ∧
      setup.instruction? front.length = some instruction := by
  have hinside : (front.length : Int) < setup.length := by
    have hlength := congrArg List.length hprogram
    simp only [Array.length_toList, List.length_append, List.length_cons] at hlength
    simp only [Setup.length]
    omega
  have hfront : setup.program.toList.take front.length = front := by
    rw [hprogram, List.take_left]
  rw [← hfront] at hexecute
  obtain ⟨hrun, hsteps⟩ := runsFor_of_execute_take hinside hexecute
  refine ⟨hrun, hsteps, ?_⟩
  rw [Setup.instruction?_natCast, hprogram]
  simp

theorem step_of_fault {front back : List Instruction} {instruction : Instruction}
    {before : Stacks} {cause : Fault}
    (hprogram : setup.program.toList = front ++ instruction :: back)
    (hexecute : Script.execute setup.rules setup.check? front initial = .done before)
    (hfault : instruction.execute setup.rules setup.check? before = .fault cause) :
    (resume setup 0 initial).RunsFor front.length ∧
      ((resume setup 0 initial).steps front.length).step =
        (⟨setup, front.length, before, some ⟨cause, front.length⟩⟩, .ok false) := by
  obtain ⟨hrun, hsteps, hat⟩ := runsFor_of_execute_front hprogram hexecute
  refine ⟨hrun, ?_⟩
  rw [hsteps]
  simp only [step, isFinished_resume_of_instruction? hat, Bool.false_eq_true, ↓reduceIte]
  simp only [resume, hat, hfault]

theorem endsIn_of_execute_fault {cause : Fault}
    (hfault : Script.execute setup.rules setup.check? setup.program.toList initial =
      .fault cause) :
    ∃ final halt, (resume setup 0 initial).EndsIn final ∧ final.halt? = some halt ∧
      halt.cause = cause := by
  obtain ⟨front, instruction, back, before, hprogram, hfront, hrefused⟩ :=
    Script.exists_front_of_fault hfault
  obtain ⟨hrun, hstep⟩ := step_of_fault hprogram hfront hrefused
  exact ⟨_, _, ⟨front.length, hrun, hstep⟩, rfl, rfl⟩

theorem step_of_abort {front back : List Instruction} {instruction : Instruction}
    {before left : Stacks} {cause : Abort}
    (hprogram : setup.program.toList = front ++ instruction :: back)
    (hexecute : Script.execute setup.rules setup.check? front initial = .done before)
    (habort : instruction.execute setup.rules setup.check? before = .abort cause left) :
    (resume setup 0 initial).RunsFor front.length ∧
      ((resume setup 0 initial).steps front.length).step =
        (resume setup front.length left, .error cause) := by
  obtain ⟨hrun, hsteps, hat⟩ := runsFor_of_execute_front hprogram hexecute
  refine ⟨hrun, ?_⟩
  rw [hsteps]
  simp only [step, isFinished_resume_of_instruction? hat, Bool.false_eq_true, ↓reduceIte]
  simp only [resume, hat, habort]

/-- A machine comes to its end without a fault exactly if its program can be executed to the end
and leaves no conditional open. -/
theorem endsIn_without_fault_iff (hclosed : initial.branches = []) (final : Machine) :
    ((resume setup 0 initial).EndsIn final ∧ final.halt? = none) ↔
      ∃ state, Script.execute setup.rules setup.check? setup.program.toList initial =
          .done state ∧ state.branches = [] ∧ final = resume setup setup.length state := by
  constructor
  · rintro ⟨hends, hhalt⟩
    exact ⟨final.state, hends.execute_eq hclosed hhalt⟩
  · rintro ⟨state, hexecute, hbranches, rfl⟩
    exact ⟨endsIn_of_execute hexecute hbranches, rfl⟩

end Machine

end Lockstep
