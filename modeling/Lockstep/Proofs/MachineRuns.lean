import Lockstep.Machine

namespace Lockstep

/-- The setup of a run of an unlocking script followed by a locking one. -/
def Setup.ofScripts (unlocking locking : List Instruction) (check? : Option SignatureCheck)
    (rules : Rules) : Setup :=
  ⟨(unlocking ++ locking).toArray, unlocking.length, check?, rules⟩

@[simp]
theorem Setup.toList_program_ofScripts (unlocking locking : List Instruction)
    (check? : Option SignatureCheck) (rules : Rules) :
    (Setup.ofScripts unlocking locking check? rules).program.toList = unlocking ++ locking := rfl

theorem Position.index?_natCast (length position : Nat) :
    Position.index? length position = if position < length then some position else none := by
  unfold Position.index?
  have hnonneg : ¬ (position : Int) < 0 := by omega
  by_cases hinside : position < length
  · have hbounds : 0 ≤ (position : Int) ∧ (position : Int) < (length : Int) := by omega
    simp [hnonneg, hbounds, hinside]
  · simp [hnonneg, hinside]

theorem Setup.instruction?_natCast (setup : Setup) (position : Nat) :
    setup.instruction? position = setup.program.toList[position]? := by
  unfold Setup.instruction?
  rw [Position.index?_natCast]
  by_cases hinside : position < setup.program.size
  · simp [hinside]
  · simp [hinside]

theorem Setup.mem_of_instruction? {setup : Setup} {position : Int} {instruction : Instruction}
    (hat : setup.instruction? position = some instruction) :
    instruction ∈ setup.program.toList := by
  unfold Setup.instruction? at hat
  split at hat
  · exact Array.mem_toList_iff.mpr (Array.mem_of_getElem? hat)
  · simp at hat

namespace Machine

/-- The machine after a number of steps, whatever they answer. -/
def steps : Nat → Machine → Machine
  | 0, machine => machine
  | count + 1, machine => (steps count machine).step.1

/-- The first `count` steps of a machine all answer that there is more to run. -/
def RunsFor (machine : Machine) (count : Nat) : Prop :=
  ∀ k < count, (machine.steps k).step.2 = .ok true

/-- Stepping a machine until a step answers that there is no more to run leaves `final`. -/
def EndsIn (machine final : Machine) : Prop :=
  ∃ count, machine.RunsFor count ∧ (machine.steps count).step = (final, .ok false)

@[simp]
theorem setup_resume (setup : Setup) (counter : Int) (state : Stacks) :
    (resume setup counter state).setup = setup := rfl

@[simp]
theorem steps_zero (machine : Machine) : machine.steps 0 = machine := rfl

theorem steps_succ (machine : Machine) (count : Nat) :
    machine.steps (count + 1) = (machine.steps count).step.1 := rfl

theorem runsFor_zero (machine : Machine) : machine.RunsFor 0 := by
  intro k hk
  omega

theorem runsFor_succ_iff (machine : Machine) (count : Nat) :
    machine.RunsFor (count + 1) ↔
      machine.RunsFor count ∧ (machine.steps count).step.2 = .ok true := by
  constructor
  · intro hrun
    exact ⟨fun k hk => hrun k (by omega), hrun count (by omega)⟩
  · rintro ⟨hrun, hlast⟩ k hk
    rcases Nat.lt_succ_iff_lt_or_eq.mp hk with hk | rfl
    · exact hrun k hk
    · exact hlast

theorem EndsIn.step_of_runsFor {machine final : Machine} {count : Nat}
    (hends : machine.EndsIn final) (hrun : machine.RunsFor count) :
    (machine.steps count).step = (final, .ok false) ∨
      (machine.steps count).step.2 = .ok true := by
  obtain ⟨length, hbefore, hlast⟩ := hends
  rcases Nat.lt_trichotomy count length with hlt | rfl | hlt
  · exact .inr (hbefore count hlt)
  · exact .inl hlast
  · have hmore := hrun length hlt
    simp [hlast] at hmore

/-- Everything that a step can do. -/
inductive StepCase (machine : Machine) : Machine × Except Abort Bool → Prop where
  | finished (hfinished : machine.isFinished = true) : StepCase machine (machine, .ok false)
  | outside (hunfinished : machine.isFinished = false)
      (hnone : machine.setup.instruction? machine.counter = none) (cause : Abort) :
      StepCase machine (machine, .error cause)
  | done (hunfinished : machine.isFinished = false) (instruction : Instruction) (state : Stacks)
      (hat : machine.setup.instruction? machine.counter = some instruction)
      (hdone : instruction.execute machine.setup.rules machine.setup.check? machine.state =
        .done state) :
      StepCase machine ((machine.advance state).1, .ok (machine.advance state).2)
  | fault (hunfinished : machine.isFinished = false) (instruction : Instruction) (cause : Fault)
      (hat : machine.setup.instruction? machine.counter = some instruction)
      (hfault : instruction.execute machine.setup.rules machine.setup.check? machine.state =
        .fault cause) :
      StepCase machine ({ machine with halt? := some ⟨cause, machine.counter⟩ }, .ok false)
  | abort (hunfinished : machine.isFinished = false) (instruction : Instruction) (cause : Abort)
      (left : Stacks) (hat : machine.setup.instruction? machine.counter = some instruction)
      (habort : instruction.execute machine.setup.rules machine.setup.check? machine.state =
        .abort cause left) :
      StepCase machine ({ machine with state := left }, .error cause)

theorem step_cases (machine : Machine) : StepCase machine machine.step := by
  unfold step
  by_cases hfinished : machine.isFinished = true
  · rw [if_pos hfinished]
    exact .finished hfinished
  · rw [if_neg hfinished]
    have hunfinished : machine.isFinished = false := by simpa using hfinished
    cases hat : machine.setup.instruction? machine.counter with
    | none => exact .outside hunfinished hat _
    | some instruction =>
        dsimp only
        cases hexec : instruction.execute machine.setup.rules machine.setup.check?
            machine.state with
        | done state => exact .done hunfinished instruction state hat hexec
        | fault cause => exact .fault hunfinished instruction cause hat hexec
        | abort cause left => exact .abort hunfinished instruction cause left hat hexec

theorem isFinished_eq_false_iff (machine : Machine) :
    machine.isFinished = false ↔ machine.halt? = none ∧ machine.counter < machine.setup.length := by
  simp [isFinished]

theorem setup_advance (machine : Machine) (state : Stacks) :
    (machine.advance state).1.setup = machine.setup := by
  simp only [advance]
  split <;> rfl

theorem setup_step (machine : Machine) : machine.step.1.setup = machine.setup := by
  cases hstep : machine.step with
  | mk next answer =>
      have hcase := hstep ▸ machine.step_cases
      cases hcase with
      | finished | outside | fault | abort => rfl
      | done hunfinished instruction state hat hdone => exact machine.setup_advance state

@[simp]
theorem setup_steps (machine : Machine) (count : Nat) :
    (machine.steps count).setup = machine.setup := by
  induction count with
  | zero => rfl
  | succ count ih => rw [steps_succ, setup_step, ih]

theorem EndsIn.setup_eq {machine final : Machine} (hends : machine.EndsIn final) :
    final.setup = machine.setup := by
  obtain ⟨count, -, hlast⟩ := hends
  have hkept := setup_step (machine.steps count)
  rwa [hlast, setup_steps] at hkept

theorem step_more {machine next : Machine} (hstep : machine.step = (next, .ok true)) :
    ∃ instruction, machine.setup.instruction? machine.counter = some instruction ∧
      instruction.execute machine.setup.rules machine.setup.check? machine.state =
        .done next.state ∧
      machine.halt? = none ∧ next = resume machine.setup (machine.counter + 1) next.state ∧
      machine.counter + 1 < machine.setup.length := by
  have hcase := hstep ▸ machine.step_cases
  generalize hout : (next, (.ok true : Except Abort Bool)) = out at hcase
  cases hcase with
  | finished | outside | fault | abort => simp at hout
  | done hunfinished instruction state hat hdone =>
      obtain ⟨hhalt, -⟩ := machine.isFinished_eq_false_iff.mp hunfinished
      simp only [advance] at hout
      split at hout
      · simp at hout
      · simp only [Prod.mk.injEq, Except.ok.injEq] at hout
        obtain ⟨rfl, hmore⟩ := hout
        exact ⟨instruction, hat, hdone, hhalt, by simp [resume, hhalt],
          of_decide_eq_true hmore.symm⟩

theorem step_last {machine final : Machine} (hstep : machine.step = (final, .ok false)) :
    (machine.isFinished = true ∧ final = machine) ∨
    (machine.halt? = none ∧ machine.counter < machine.setup.length ∧
      ∃ cause, final = { machine with halt? := some ⟨cause, machine.counter⟩ }) ∨
    (machine.halt? = none ∧ ∃ instruction,
      machine.setup.instruction? machine.counter = some instruction ∧
      instruction.execute machine.setup.rules machine.setup.check? machine.state =
        .done final.state ∧
      machine.counter + 1 = machine.setup.length ∧
      final = { machine with
        counter := machine.counter + 1
        state := final.state
        halt? := if final.state.branches.isEmpty then none
          else some ⟨.ifWithoutEndIf, machine.counter + 1⟩ }) := by
  have hcase := hstep ▸ machine.step_cases
  generalize hout : (final, (.ok false : Except Abort Bool)) = out at hcase
  cases hcase with
  | outside | abort => simp at hout
  | finished hfinished =>
      simp only [Prod.mk.injEq, and_true] at hout
      exact .inl ⟨hfinished, hout⟩
  | fault hunfinished instruction cause hat hfault =>
      obtain ⟨hhalt, hinside⟩ := machine.isFinished_eq_false_iff.mp hunfinished
      simp only [Prod.mk.injEq, and_true] at hout
      exact .inr (.inl ⟨hhalt, hinside, cause, hout⟩)
  | done hunfinished instruction state hat hdone =>
      obtain ⟨hhalt, hinside⟩ := machine.isFinished_eq_false_iff.mp hunfinished
      refine .inr (.inr ⟨hhalt, instruction, hat, ?_⟩)
      simp only [advance] at hout
      split at hout
      · rename_i hunclosed
        simp only [Prod.mk.injEq, and_true] at hout
        subst hout
        refine ⟨hdone, hunclosed.1, ?_⟩
        simp only [Bool.not_eq_true'] at hunclosed
        simp [hunclosed.2]
      · rename_i hclosed
        simp only [Prod.mk.injEq, Except.ok.injEq] at hout
        obtain ⟨rfl, hmore⟩ := hout
        have hend : machine.counter + 1 = machine.setup.length := by
          have := of_decide_eq_false hmore.symm
          omega
        refine ⟨hdone, hend, ?_⟩
        have hempty : state.branches.isEmpty = true := by
          simpa [hend] using hclosed
        simp [hempty, hhalt]

theorem RunsFor.steps_eq {setup : Setup} {initial : Stacks} {count : Nat}
    (hrun : (resume setup 0 initial).RunsFor count) :
    (resume setup 0 initial).steps count =
      resume setup count ((resume setup 0 initial).steps count).state := by
  induction count with
  | zero => rfl
  | succ count ih =>
      obtain ⟨hbefore, hmore⟩ := (runsFor_succ_iff _ count).mp hrun
      have hstep : ((resume setup 0 initial).steps count).step =
          ((resume setup 0 initial).steps (count + 1), .ok true) := Prod.ext rfl hmore
      obtain ⟨-, -, -, -, hnext, -⟩ := step_more hstep
      rw [hnext, ih hbefore]
      rfl

theorem RunsFor.counter_eq {setup : Setup} {initial : Stacks} {count : Nat}
    (hrun : (resume setup 0 initial).RunsFor count) :
    ((resume setup 0 initial).steps count).counter = count :=
  congrArg counter hrun.steps_eq

theorem RunsFor.lt_length {setup : Setup} {initial : Stacks} {count : Nat}
    (hrun : (resume setup 0 initial).RunsFor (count + 1)) :
    (count : Int) + 1 < setup.length := by
  obtain ⟨hbefore, hmore⟩ := (runsFor_succ_iff _ count).mp hrun
  obtain ⟨-, -, -, -, -, hinside⟩ := step_more (Prod.ext rfl hmore)
  rw [hbefore.steps_eq] at hinside
  exact hinside

/-- The step that ends a run either leaves the stacks alone or moves the counter, so a machine ends
with the stacks that it has after as many steps as its counter says. -/
theorem EndsIn.state_eq {setup : Setup} {initial : Stacks} {final : Machine}
    (hends : (resume setup 0 initial).EndsIn final) :
    ∃ count : Nat, final.counter = count ∧
      final.state = ((resume setup 0 initial).steps count).state := by
  obtain ⟨count, hrun, hlast⟩ := hends
  have hcounter := hrun.counter_eq
  rcases step_last hlast with ⟨-, rfl⟩ | ⟨-, -, cause, rfl⟩ | ⟨-, -, -, -, -, hfinal⟩
  · exact ⟨count, hcounter, rfl⟩
  · exact ⟨count, hcounter, rfl⟩
  · refine ⟨count + 1, ?_, ?_⟩
    · rw [hfinal, hcounter]
      rfl
    · rw [steps_succ, hlast]

end Machine

end Lockstep
