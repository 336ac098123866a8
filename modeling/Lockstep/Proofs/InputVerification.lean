import Lockstep.Proofs.DebuggerSession
import Lockstep.Proofs.ScriptExecution
import Lockstep.Transaction.Validity

/-!
What it means that an input unlocks a locking script. The verdict comes from a debugger that pauses
at breakpoints and counts its steps from one pause to the next. Where no stretch between two pauses
is longer than that count allows, it is the verdict of a single machine that runs both scripts from
the start; where one is, the input fails.
-/

namespace Lockstep

/-- From a position on, the end of the program or a breakpoint is never more than a number of steps
away. -/
def Setup.PausesFrom (setup : Setup) (breakpoints : Breakpoints) (steps start : Int) : Prop :=
  ∀ counter, start ≤ counter → counter < setup.length → setup.length ≤ counter + steps ∨
    ∃ position, counter < position ∧ position ≤ counter + steps ∧
      isBreakpoint breakpoints setup.program position = true

theorem Setup.pausesFrom_of_length_le {setup : Setup} {start steps : Int}
    (hlength : setup.length ≤ start + steps) (breakpoints : Breakpoints) :
    setup.PausesFrom breakpoints steps start := by
  intro counter hstart hinside
  exact .inl (by omega)

theorem Setup.pausesFrom_iff_of_isBreakpoint {setup : Setup} {breakpoints : Breakpoints}
    {steps start position : Int} (hbehind : start < position) (hnear : position ≤ start + steps)
    (hbreak : isBreakpoint breakpoints setup.program position = true) :
    setup.PausesFrom breakpoints steps position ↔ setup.PausesFrom breakpoints steps start := by
  constructor
  · intro hpauses counter hstart hinside
    by_cases hbefore : counter < position
    · exact .inr ⟨position, hbefore, by omega, hbreak⟩
    · exact hpauses counter (by omega) hinside
  · intro hpauses counter hposition hinside
    exact hpauses counter (by omega) hinside

/-- How a run can end that meets no fault of the script: with the script, on a breakpoint, or with
its steps used up. -/
inductive Snapshot.RunsTo (setup : Setup) (final : Machine) (limit : Int) (budget : Nat)
    (snapshot next : Snapshot) : Prop where
  | ended (hover : next.complete = true) (hreflects : next.Reflects final)
      (hnear : setup.length ≤ snapshot.counter + budget)
  | paused (hopen : next.complete = false) (hfurther : snapshot.counter < next.counter)
      (hnear : next.counter ≤ snapshot.counter + budget) (hinside : next.counter < setup.length)
      (hbreak : isBreakpoint snapshot.breakpoints setup.program next.counter = true)
  | limited (hover : next.complete = true)
      (hfault : next.fault? = some (.stepLimitExceeded limit))
      (hfar : snapshot.counter + budget < setup.length)
      (hnone : ∀ position, snapshot.counter < position → position ≤ snapshot.counter + budget →
        isBreakpoint snapshot.breakpoints setup.program position = false)

namespace Store.Consistent

variable {setup : Setup} {store : Store} {snapshots : List Snapshot} {snapshot : Snapshot}
  {final : Machine}

theorem step_of_endsIn (h : store.Consistent setup snapshots) (hmem : snapshot ∈ snapshots)
    (hopen : snapshot.complete = false) (hends : (Machine.start setup).EndsIn final)
    (hhalt : final.halt? = none) :
    ∃ store' next, store.step snapshot = (store', .ok next) ∧
      next.breakpoints = snapshot.breakpoints ∧
      ((next.complete = true ∧ next.Reflects final ∧ setup.length ≤ snapshot.counter + 1) ∨
        (next.complete = false ∧ next.counter = snapshot.counter + 1 ∧
          next.counter < setup.length)) := by
  have hsetup := h.setup_eq snapshot hmem
  obtain ⟨count, hrun, hcounter, hmachine⟩ := (h.tracks snapshot hmem).exists_count hsetup hopen
  have hstepSetup := Machine.setup_step snapshot.machine
  rcases hends.step_of_runsFor hrun with hlast | hmore
  · rw [← hmachine] at hlast
    obtain ⟨id, -, heq⟩ := h.step_eq hmem hopen hlast
    rw [hlast] at hstepSetup
    have hreflects := reflects_shown store snapshot final false id hstepSetup.symm
    refine ⟨_, _, heq, rfl, .inl ⟨by simp [shown], hreflects, ?_⟩⟩
    rw [← hsetup]
    rcases Machine.step_last hlast with ⟨hfinished, -⟩ | ⟨-, -, cause, rfl⟩ | ⟨-, -, -, -, hend, -⟩
    · have hpast : snapshot.setup.length ≤ snapshot.counter := of_decide_eq_true hfinished
      omega
    · simp at hhalt
    · exact Int.le_of_eq hend.symm
  · rw [← hmachine] at hmore
    have hstep : snapshot.machine.step = (snapshot.machine.step.1, .ok true) := Prod.ext rfl hmore
    obtain ⟨id, -, heq⟩ := h.step_eq hmem hopen hstep
    obtain ⟨-, -, -, -, hresume, hinside⟩ := Machine.step_more hstep
    have hnext : snapshot.machine.step.1.counter = snapshot.counter + 1 :=
      congrArg Machine.counter hresume
    have hlength : snapshot.counter + 1 < snapshot.setup.length := hinside
    refine ⟨_, _, heq, rfl, .inr ⟨?_, hnext, ?_⟩⟩
    · simp only [shown, Bool.not_true, Bool.false_or, decide_eq_false_iff_not, Int.not_le]
      rw [hstepSetup, hnext]
      exact hlength
    · rw [← hsetup]
      exact Int.lt_of_le_of_lt (Int.le_of_eq hnext) hlength

theorem run_of_endsIn (h : store.Consistent setup snapshots) (limit : Int) (budget : Nat)
    (hmem : snapshot ∈ snapshots) (hopen : snapshot.complete = false)
    (hends : (Machine.start setup).EndsIn final) (hhalt : final.halt? = none)
    (hpos : snapshot.counter < setup.length ∨ 0 < budget) :
    ∃ store' next, Store.run limit budget store snapshot = (store', .ok next) ∧
      next.breakpoints = snapshot.breakpoints ∧
      snapshot.RunsTo setup final limit budget next := by
  induction budget generalizing store snapshots snapshot with
  | zero =>
      rw [Store.run]
      simp only [hopen, Bool.false_eq_true, ↓reduceIte]
      refine ⟨_, _, rfl, rfl, .limited rfl rfl ?_ ?_⟩
      · omega
      · intro position hbehind hnear
        omega
  | succ budget ih =>
      obtain ⟨store', next, hstep, hkept, hnext⟩ := h.step_of_endsIn hmem hopen hends hhalt
      rw [Store.run]
      simp only [hopen, Bool.false_eq_true, ↓reduceIte, hstep]
      rcases hnext with ⟨hover, hreflects, hend⟩ | ⟨hopen', hcounter, hinside⟩
      · refine ⟨store', next, ?_, hkept, .ended hover hreflects (by omega)⟩
        have hunpaused : next.isPaused = false := by simp [Snapshot.isPaused, hover]
        rw [hunpaused, Store.run.eq_def]
        simp [hover]
      · have hpaused : next.isPaused =
            isBreakpoint snapshot.breakpoints setup.program (snapshot.counter + 1) := by
          have hsetup := (h.step hmem hstep).setup_eq next List.mem_cons_self
          simp [Snapshot.isPaused, hopen', hkept, hsetup, hcounter]
        split
        · rename_i hbreak
          rw [hpaused, ← hcounter] at hbreak
          exact ⟨store', next, rfl, hkept, .paused hopen' (by omega) (by omega) hinside hbreak⟩
        · rename_i hunbroken
          obtain ⟨store'', last, hrun, hkept', hlast⟩ := ih (h.step hmem hstep) List.mem_cons_self
            hopen' (.inl hinside)
          refine ⟨store'', last, hrun, hkept'.trans hkept, ?_⟩
          cases hlast with
          | ended hover hreflects hnear => exact .ended hover hreflects (by omega)
          | paused hopen'' hfurther hnear hinside' hbreak =>
              rw [hkept] at hbreak
              exact .paused hopen'' (by omega) (by omega) hinside' hbreak
          | limited hover hfault hfar hnone =>
              refine .limited hover hfault (by omega) ?_
              intro position hbehind hnear
              rcases Int.lt_or_eq_of_le (Int.add_one_le_of_lt hbehind) with hlater | rfl
              · rw [← hkept]
                exact hnone position (by omega) (by omega)
              · rw [← hpaused]
                simpa using hunbroken

/-- Running again after each pause gets to the end of a script exactly if no stretch between two
pauses is too long. -/
theorem runThrough_of_endsIn {fuel : Nat} (h : store.Consistent setup snapshots)
    (hmem : snapshot ∈ snapshots) (hopen : snapshot.complete = false)
    (hends : (Machine.start setup).EndsIn final) (hhalt : final.halt? = none) (hpos : 0 < fuel)
    (hfuel : setup.length ≤ snapshot.counter + fuel) :
    ∃ last, store.runThrough fuel snapshot = .ok last ∧ last.complete = true ∧
      ((setup.PausesFrom snapshot.breakpoints Store.defaultMaxSteps snapshot.counter ∧
          last.Reflects final) ∨
        (¬ setup.PausesFrom snapshot.breakpoints Store.defaultMaxSteps snapshot.counter ∧
          last.fault? = some (.stepLimitExceeded Store.defaultMaxSteps))) := by
  induction fuel generalizing store snapshots snapshot with
  | zero => omega
  | succ fuel ih =>
      have hsteps : (Store.defaultMaxSteps.toNat : Int) = Store.defaultMaxSteps := rfl
      obtain ⟨store', next, hrun, hkept, hnext⟩ := h.run_of_endsIn Store.defaultMaxSteps
        Store.defaultMaxSteps.toNat hmem hopen hends hhalt (.inr (by decide))
      simp only [Store.runThrough, Store.runToCompletion, hrun]
      cases hnext with
      | ended hover hreflects hnear =>
          refine ⟨next, by simp [hover], hover, .inl ⟨?_, hreflects⟩⟩
          exact Setup.pausesFrom_of_length_le (by omega) _
      | limited hover hfault hfar hnone =>
          refine ⟨next, by simp [hover], hover, .inr ⟨?_, hfault⟩⟩
          intro hpauses
          rcases hpauses snapshot.counter (Int.le_refl _) (by omega) with
            hend | ⟨position, hbehind, hnear, hbreak⟩
          · omega
          · simp [hnone position hbehind (by omega)] at hbreak
      | paused hopen' hfurther hnear hinside hbreak =>
          simp only [hopen', Bool.false_eq_true, ↓reduceIte]
          obtain ⟨last, hlast, hover, hpauses⟩ := ih (h.run hmem hrun) List.mem_cons_self hopen'
            (by omega) (by omega)
          -- up to the pause the breakpoint is near enough, so only what is behind it matters
          rw [hkept, Setup.pausesFrom_iff_of_isBreakpoint hfurther (by omega) hbreak] at hpauses
          exact ⟨last, hlast, hover, hpauses⟩

theorem tracks_of_runThrough {fuel : Nat} {last : Snapshot} (h : store.Consistent setup snapshots)
    (hmem : snapshot ∈ snapshots) (hrun : store.runThrough fuel snapshot = .ok last) :
    last.Tracks (Machine.start setup) := by
  induction fuel generalizing store snapshots snapshot with
  | zero =>
      simp only [Store.runThrough, Except.ok.injEq] at hrun
      exact hrun ▸ h.tracks snapshot hmem
  | succ fuel ih =>
      simp only [Store.runThrough, Store.runToCompletion] at hrun
      split at hrun
      · simp at hrun
      · rename_i store' next hnext
        have hconsistent := h.run hmem hnext
        split at hrun
        · rw [Except.ok.injEq] at hrun
          exact hrun ▸ hconsistent.tracks next List.mem_cons_self
        · exact ih hconsistent List.mem_cons_self hrun

end Store.Consistent

theorem Snapshot.Tracks.endsIn_of_valid {fresh : Machine} {snapshot : Snapshot}
    (htracks : snapshot.Tracks fresh) (hover : snapshot.complete = true)
    (hfault : snapshot.fault? = none) (hvalid : snapshot.valid = true) :
    ∃ final, fresh.EndsIn final ∧ final.halt? = none ∧
      stackIsValid final.setup.rules final.state.main = true := by
  cases htracks with
  | running _ _ hopen _ => simp [hover] at hopen
  | limited _ _ _ _ hlimit _ _ => simp [hfault] at hlimit
  | ended final hends _ hreflects =>
      rw [hreflects.fault, Option.map_eq_none_iff] at hfault
      rw [hreflects.valid, hover, hfault] at hvalid
      exact ⟨final, hends, hfault, by simpa using hvalid⟩

namespace Transaction

variable {rules : Rules} {tx : Transaction} {index : Int} {input : TxInput} {text : String}

theorem input?_natCast (tx : Transaction) (index : Nat) : tx.input? index = tx.inputs[index]? := by
  unfold input?
  rw [Position.index?_natCast]
  by_cases hinside : index < tx.inputs.length
  · simp [hinside]
  · simp [hinside]

theorem failedInput_ne_true (tx : Transaction) : tx.failedInput ≠ .ok true := by
  unfold failedInput
  split <;> simp

variable [Curve.Ecdsa]

theorem verifyInput_of_parse {unlocking locking : List Instruction}
    (hinput : tx.input? index = some input)
    (hunlocking : Script.parse input.unlocking = .ok unlocking)
    (hlocking : Script.parse text = .ok locking) :
    tx.verifyInput rules index text =
      match (Store.start unlocking locking [] (some (tx.checkFor index)) rules).1.runThrough
          ((unlocking ++ locking).length + 1)
          (Store.start unlocking locking [] (some (tx.checkFor index)) rules).2 with
      | .error cause => .error cause
      | .ok last =>
        if last.fault?.isSome then tx.failedInput else .ok (last.complete && last.valid) := by
  simp only [verifyInput, hinput, hunlocking, hlocking]
  rfl

theorem execute_of_verifyInput (hinput : tx.input? index = some input)
    (hverify : tx.verifyInput rules index text = .ok true) :
    ∃ unlocking locking state, Script.parse input.unlocking = .ok unlocking ∧
      Script.parse text = .ok locking ∧
      Script.execute rules (some (tx.checkFor index)) (unlocking ++ locking) ⟨[], [], []⟩ =
        .done state ∧
      state.branches = [] ∧ stackIsValid rules state.main = true := by
  cases hunlocking : Script.parse input.unlocking with
  | error e =>
      simp only [verifyInput, hinput, hunlocking] at hverify
      exact absurd hverify tx.failedInput_ne_true
  | ok unlocking =>
      cases hlocking : Script.parse text with
      | error e =>
          simp only [verifyInput, hinput, hunlocking, hlocking] at hverify
          exact absurd hverify tx.failedInput_ne_true
      | ok locking =>
          rw [verifyInput_of_parse hinput hunlocking hlocking] at hverify
          have hconsistent :=
            Store.consistent_start unlocking locking [] (some (tx.checkFor index)) rules
          split at hverify
          · simp at hverify
          · rename_i last hrun
            split at hverify
            · exact absurd hverify tx.failedInput_ne_true
            · rename_i hfault
              have htracks := hconsistent.tracks_of_runThrough List.mem_cons_self hrun
              simp only [Except.ok.injEq, Bool.and_eq_true] at hverify
              obtain ⟨final, hends, hhalt, hvalid⟩ :=
                htracks.endsIn_of_valid hverify.1 (by simpa using hfault) hverify.2
              obtain ⟨hexecute, hbranches, hfinal⟩ := hends.execute_eq rfl hhalt
              rw [hfinal] at hvalid
              exact ⟨unlocking, locking, final.state, rfl, rfl, hexecute, hbranches, hvalid⟩

theorem verifyInput_of_done {unlocking locking : List Instruction} {state : Stacks}
    (hinput : tx.input? index = some input)
    (hunlocking : Script.parse input.unlocking = .ok unlocking)
    (hlocking : Script.parse text = .ok locking)
    (hexecute : Script.execute rules (some (tx.checkFor index)) (unlocking ++ locking)
      ⟨[], [], []⟩ = .done state)
    (hbranches : state.branches = []) :
    let setup := Setup.ofScripts unlocking locking (some (tx.checkFor index)) rules
    (setup.PausesFrom [] Store.defaultMaxSteps 0 ∧
        tx.verifyInput rules index text = .ok (stackIsValid rules state.main)) ∨
      (¬ setup.PausesFrom [] Store.defaultMaxSteps 0 ∧
        tx.verifyInput rules index text = tx.failedInput) := by
  intro setup
  have hconsistent :=
    Store.consistent_start unlocking locking [] (some (tx.checkFor index)) rules
  have hends : (Machine.start setup).EndsIn (Machine.resume setup setup.length state) :=
    Machine.endsIn_of_execute hexecute hbranches
  have hsize : setup.length ≤
      (Store.start unlocking locking [] (some (tx.checkFor index)) rules).2.counter +
        ((unlocking ++ locking).length + 1 : Nat) := by
    simp only [setup, Setup.length, Setup.ofScripts, Store.start, List.size_toArray]
    omega
  obtain ⟨last, hrun, hover, hlast⟩ := hconsistent.runThrough_of_endsIn List.mem_cons_self rfl
    hends rfl (Nat.succ_pos _) hsize
  rw [verifyInput_of_parse hinput hunlocking hlocking, hrun]
  rcases hlast with ⟨hpauses, hreflects⟩ | ⟨hpauses, hfault⟩
  · have hfault : last.fault? = none := hreflects.fault
    have hverdict : last.valid = stackIsValid rules state.main := by
      rw [hreflects.valid, hover]
      rfl
    exact .inl ⟨hpauses, by simp [hfault, hover, hverdict]⟩
  · exact .inr ⟨hpauses, by simp [hfault]⟩

theorem verifyInput_of_execute {unlocking locking : List Instruction} {state : Stacks}
    (hinput : tx.input? index = some input)
    (hunlocking : Script.parse input.unlocking = .ok unlocking)
    (hlocking : Script.parse text = .ok locking)
    (hlength : ((unlocking ++ locking).length : Int) ≤ Store.defaultMaxSteps)
    (hexecute : Script.execute rules (some (tx.checkFor index)) (unlocking ++ locking)
      ⟨[], [], []⟩ = .done state)
    (hbranches : state.branches = []) (hvalid : stackIsValid rules state.main = true) :
    tx.verifyInput rules index text = .ok true := by
  rcases verifyInput_of_done hinput hunlocking hlocking hexecute hbranches with
    ⟨-, hverify⟩ | ⟨hfar, -⟩
  · rw [hverify, hvalid]
  · refine absurd (Setup.pausesFrom_of_length_le ?_ _) hfar
    simpa [Setup.length, Setup.ofScripts] using hlength

/-- An input unlocks a script exactly if both scripts, executed one after the other, leave a valid
stack and no conditional open, and no stretch between two markers is too long. -/
theorem verifyInput_eq_true_iff {unlocking locking : List Instruction}
    (hinput : tx.input? index = some input)
    (hunlocking : Script.parse input.unlocking = .ok unlocking)
    (hlocking : Script.parse text = .ok locking) :
    tx.verifyInput rules index text = .ok true ↔
      (∃ state, Script.execute rules (some (tx.checkFor index)) (unlocking ++ locking)
          ⟨[], [], []⟩ = .done state ∧ state.branches = [] ∧
          stackIsValid rules state.main = true) ∧
        (Setup.ofScripts unlocking locking (some (tx.checkFor index)) rules).PausesFrom []
          Store.defaultMaxSteps 0 := by
  constructor
  · intro hverify
    obtain ⟨unlocking', locking', state, hunlocking', hlocking', hexecute, hbranches, hvalid⟩ :=
      execute_of_verifyInput hinput hverify
    obtain rfl := Except.ok.inj (hunlocking.symm.trans hunlocking')
    obtain rfl := Except.ok.inj (hlocking.symm.trans hlocking')
    refine ⟨⟨state, hexecute, hbranches, hvalid⟩, ?_⟩
    rcases verifyInput_of_done hinput hunlocking hlocking hexecute hbranches with
      ⟨hpauses, -⟩ | ⟨-, hfailed⟩
    · exact hpauses
    · exact absurd (hfailed.symm.trans hverify) tx.failedInput_ne_true
  · rintro ⟨⟨state, hexecute, hbranches, hvalid⟩, hpauses⟩
    rcases verifyInput_of_done hinput hunlocking hlocking hexecute hbranches with
      ⟨-, hverify⟩ | ⟨hfar, -⟩
    · rw [hverify, hvalid]
    · exact absurd hpauses hfar

end Transaction

end Lockstep
