import Lockstep.Proofs.InterruptedSessions

namespace Lockstep

theorem nextBreakpoint?_eq_some {positions : List Int} {program : Array Instruction}
    {position : Int} {index : Nat} (hbehind : position < index) (hinside : index < program.size)
    (hbreak : isBreakpoint positions program index = true)
    (hclear : ∀ k : Nat, position < (k : Int) → k < index →
      isBreakpoint positions program k = false) :
    nextBreakpoint? positions program position = some index := by
  unfold nextBreakpoint?
  apply List.find?_range_eq_some.mpr
  refine ⟨by simp [hbehind, hbreak], List.mem_range.mpr hinside, ?_⟩
  intro k hk
  by_cases hlater : position < (k : Int)
  · simp [hclear k hlater hk]
  · simp [hlater]

namespace Store

variable {store store' : Store} {snapshot next : Snapshot}

theorem run_of_complete (hover : snapshot.complete = true) (limit : Int) (budget : Nat)
    (store : Store) : run limit budget store snapshot = (store, .ok snapshot) := by
  rw [run.eq_def, if_pos hover]

theorem exists_of_step_ok (hopen : snapshot.complete = false)
    (hstep : store.step snapshot = (store', .ok next)) :
    ∃ machine more, (store.continuation snapshot).2.step = (machine, .ok more) ∧
      store' = { store.put (store.continuation snapshot).1 ⟨machine, store.nextSerial⟩ with
        nextSerial := store.nextSerial + 1 } ∧
      next = store.shown snapshot machine more (store.continuation snapshot).1 := by
  rcases hmachine : (store.continuation snapshot).2.step with ⟨machine, cause | more⟩
  · rw [step_of_error hopen hmachine] at hstep
    simp at hstep
  · rw [step_of_ok hopen hmachine] at hstep
    cases hstep
    exact ⟨machine, more, rfl, rfl, rfl⟩

theorem continuation_shown {id : Nat} (hid : id ≤ store.lineages.size) (machine : Machine)
    (more : Bool) (nextSerial : Nat) :
    (({ store.put id ⟨machine, store.nextSerial⟩ with nextSerial } : Store).continuation
        (store.shown snapshot machine more id)).2 =
      if (store.shown snapshot machine more id).complete then
        (store.shown snapshot machine more id).machine
      else machine := by
  split
  · rename_i hover
    have hidle : (store.shown snapshot machine more id).lineage? = none := if_pos hover
    simp [continuation, live?, hidle]
  · rename_i hopen
    have hlive : ({ store.put id ⟨machine, store.nextSerial⟩ with nextSerial } : Store).live?
        (store.shown snapshot machine more id) = some (id, machine) := by
      apply (live?_eq_some_iff _ _ _ _).mpr
      refine ⟨if_neg hopen, ?_⟩
      rw [getElem?_lineages_put store id _ hid, if_pos rfl]
      rfl
    rw [continuation, hlive, Option.getD_some]

end Store

theorem Snapshot.Continues.step {store store' : Store} {snapshot next : Snapshot}
    (hcontinues : snapshot.Continues (store.continuation snapshot).2)
    (hopen : snapshot.complete = false) (hstep : store.step snapshot = (store', .ok next)) :
    next.setup = snapshot.setup ∧ next.breakpoints = snapshot.breakpoints ∧
      snapshot.MovesTo next ∧
      (next.complete = false → next.Continues (store'.continuation next).2) := by
  obtain ⟨machine, more, hmachine, rfl, rfl⟩ := Store.exists_of_step_ok hopen hstep
  refine ⟨rfl, rfl, hcontinues.movesTo_shown hmachine store _, ?_⟩
  intro hopen'
  obtain rfl : more = true := by
    cases more with
    | true => rfl
    | false => simp [Store.shown] at hopen'
  rw [Store.continuation_shown (store.continuation_le snapshot), if_neg (by simp [hopen']),
    ← hcontinues.machine_shown hmachine store (store.continuation snapshot).1]
  exact Snapshot.continues_machine _

/-- Where a run that is not over can stop: on the first breakpoint behind it, or at its end with no
breakpoint on the way. -/
inductive Snapshot.StopsOn (snapshot next : Snapshot) : Prop where
  | paused (hopen : next.complete = false) (hfurther : snapshot.counter < next.counter)
      (hinside : next.counter < snapshot.setup.length)
      (hbreak : isBreakpoint snapshot.breakpoints snapshot.setup.program next.counter = true)
      (hclear : snapshot.setup.IsClear snapshot.breakpoints snapshot.counter (next.counter - 1))
  | ended (hover : next.complete = true)
      (hclear : snapshot.setup.IsClear snapshot.breakpoints snapshot.counter next.counter)

theorem Snapshot.StopsOn.of_onward {snapshot middle next : Snapshot} (hstops : middle.StopsOn next)
    (hsetup : middle.setup = snapshot.setup) (hkept : middle.breakpoints = snapshot.breakpoints)
    (hcounter : middle.counter = snapshot.counter + 1)
    (hunbroken : isBreakpoint snapshot.breakpoints snapshot.setup.program
      (snapshot.counter + 1) = false) :
    snapshot.StopsOn next := by
  cases hstops with
  | paused hopen hfurther hinside hbreak hclear =>
      rw [hsetup] at hinside
      rw [hsetup, hkept] at hbreak
      rw [hsetup, hkept, hcounter] at hclear
      exact .paused hopen (by omega) hinside hbreak (.cons hunbroken hclear)
  | ended hover hclear =>
      rw [hsetup, hkept, hcounter] at hclear
      exact .ended hover (.cons hunbroken hclear)

theorem Store.run_stopsOn {limit : Int} {budget : Nat} {store : Store} {snapshot next : Snapshot}
    (hcontinues : snapshot.Continues (store.continuation snapshot).2)
    (hopen : snapshot.complete = false)
    (hrun : (Store.run limit budget store snapshot).2 = .ok next) : snapshot.StopsOn next := by
  fun_induction Store.run limit budget store snapshot with
  | case1 budget store snapshot hover =>
      rw [hopen] at hover
      simp at hover
  | case2 store snapshot _ _ ended hhalt =>
      cases hrun
      obtain rfl : (store.halt snapshot limit).2 = next := congrArg Prod.snd hhalt
      exact .ended rfl (snapshot.setup.isClear_self _ _)
  | case3 => simp at hrun
  | case4 store snapshot _ budget store' middle hstep hpaused =>
      cases hrun
      obtain ⟨hsetup, hkept, hmoves, -⟩ := hcontinues.step hopen hstep
      simp only [Snapshot.isPaused, Bool.and_eq_true, Bool.not_eq_true', hsetup, hkept] at hpaused
      obtain ⟨hopen', hbreak⟩ := hpaused
      cases hmoves with
      | ended hover => simp [hopen'] at hover
      | onward _ hcounter hinside =>
          refine .paused hopen' (by omega) hinside hbreak ?_
          rw [hcounter, Int.add_sub_cancel]
          exact snapshot.setup.isClear_self _ _
  | case5 store snapshot _ budget store' middle hstep hunpaused ih =>
      obtain ⟨hsetup, hkept, hmoves, hnext⟩ := hcontinues.step hopen hstep
      cases hmoves with
      | ended hover hcounter =>
          rw [run_of_complete hover] at hrun
          cases hrun
          refine .ended hover ?_
          intro position hbehind hlast hinside
          omega
      | onward hopen' hcounter hinside =>
          refine (ih (hnext hopen') hopen' hrun).of_onward hsetup hkept hcounter ?_
          simpa [Snapshot.isPaused, hopen', hsetup, hkept, hcounter] using hunpaused

/-- A run stops on the next breakpoint. In a session of any commands on any snapshots, whatever came
of these, either command that runs either pauses on the first breakpoint behind the snapshot or ends
the run without a breakpoint between the snapshot and the end. -/
theorem runs_stop_on_next_breakpoint (unlocking locking : List Instruction)
    (breakpoints : List Int) (check? : Option SignatureCheck) (rules : Rules)
    (commands : List (Nat × Command)) (maxSteps : Int) (snapshot next : Snapshot)
    (hmem : snapshot ∈
      ((Session.start unlocking locking breakpoints check? rules).pursue commands).snapshots)
    (hopen : snapshot.complete = false)
    (hrun :
      let store :=
        ((Session.start unlocking locking breakpoints check? rules).pursue commands).store
      (store.runToCompletion snapshot maxSteps).2 = .ok next ∨
        (store.runToBreakpoint snapshot maxSteps).2 = .ok next) :
    (next.complete = false →
      snapshot.nextBreakpoint?.map (fun index : Nat => (index : Int)) = some next.counter) ∧
    (next.complete = true → ∀ position, snapshot.counter < position → position ≤ next.counter →
      position < snapshot.setup.length →
        isBreakpoint snapshot.breakpoints snapshot.setup.program position = false) := by
  have hsound := Session.sound_pursue_start unlocking locking breakpoints check? rules commands
  generalize (Session.start unlocking locking breakpoints check? rules).pursue commands = session
    at hmem hrun hsound
  have hcontinues := Store.Sound.continuation hsound hmem
  have hstops : snapshot.StopsOn next := by
    rcases hrun with hrun | hrun
    · exact Store.run_stopsOn hcontinues hopen hrun
    · rw [Store.runToBreakpoint_eq_run] at hrun
      exact Store.run_stopsOn hcontinues hopen hrun
  cases hstops with
  | ended hover hclear => exact ⟨fun hopen' => by simp [hover] at hopen', fun _ => hclear⟩
  | paused hopen' hfurther hinside hbreak hclear =>
      refine ⟨fun _ => ?_, fun hover => by simp [hopen'] at hover⟩
      have hnonneg := hsound.counter_nonneg snapshot hmem
      obtain ⟨index, hindex⟩ := Int.eq_ofNat_of_zero_le (show 0 ≤ next.counter by omega)
      rw [hindex] at hfurther hinside hbreak hclear ⊢
      have hsize : index < snapshot.setup.program.size := Int.ofNat_lt.mp hinside
      have hfirst := nextBreakpoint?_eq_some hfurther hsize hbreak
        (fun k hbehind hk => hclear k hbehind (by omega) (by simp [Setup.length]; omega))
      rw [Snapshot.nextBreakpoint?, hfirst]
      rfl

/-- A check that breaks off on one signature and takes all others for good. -/
def brittleCheck : SignatureCheck := fun signature _ =>
  if signature = [0xaa] then .error .pointAtInfinity else .ok true

/-- A session that pauses on a check of signatures and breaks off there, so that the live machine has
lost the signature and the key that its head still shows. -/
def brokenSession : Session :=
  (Session.start [.push [0xbb], .push [0xcc], .push [0xaa], .push [0xdd]]
    [⟨"OP_CHECKSIG", 0xac, none⟩, ⟨"OP_NOP10", 0xb9, none⟩, ⟨"OP_1", 0x51, none⟩] [-1, 4, 99]
    (some brittleCheck) {}).pursue [(0, .runToCompletion 10), (1, .step)]

theorem runs_stop_on_next_breakpoint_after_break : ∃ snapshot next,
    brokenSession.snapshots[1]? = some snapshot ∧ snapshot.counter = 4 ∧
    snapshot.complete = false ∧ snapshot.machine.step.2.toOption = none ∧
    (brokenSession.store.runToBreakpoint snapshot 10).2 = .ok next ∧ next.complete = false ∧
    snapshot.nextBreakpoint?.map (fun index : Nat => (index : Int)) = some next.counter := by
  have hshown : (brokenSession.snapshots[1]?.map fun snapshot =>
      (snapshot.counter, snapshot.complete, snapshot.machine.step.2.toOption,
        (brokenSession.store.runToBreakpoint snapshot 10).2.toOption.map Snapshot.complete)) =
      some (4, false, none, some false) := by decide +kernel
  cases hat : brokenSession.snapshots[1]? with
  | none => simp [hat] at hshown
  | some snapshot =>
      cases hrun : (brokenSession.store.runToBreakpoint snapshot 10).2 with
      | error cause => simp [hat, hrun, Except.toOption] at hshown
      | ok next =>
          simp only [hat, hrun, Except.toOption, Option.map_some, Option.some.injEq,
            Prod.mk.injEq] at hshown
          obtain ⟨hcounter, hopen, hbreaks, hpaused⟩ := hshown
          exact ⟨snapshot, next, rfl, hcounter, hopen, hbreaks, hrun, hpaused,
            (runs_stop_on_next_breakpoint _ _ _ _ _ _ 10 snapshot next (List.mem_of_getElem? hat)
              hopen (.inr hrun)).1 hpaused⟩

/-- Two snapshots show the same. Where both runs were ended for taking too many steps, they may
report different limits. -/
structure Snapshot.AgreesWith (a b : Snapshot) : Prop where
  setup : a.setup = b.setup
  counter : a.counter = b.counter
  state : a.state = b.state
  complete : a.complete = b.complete
  valid : a.valid = b.valid
  phase : a.phase = b.phase
  breakpoints : a.breakpoints = b.breakpoints
  fault : a.fault? = b.fault? ∨ ∃ m n,
    a.fault? = some (.stepLimitExceeded m) ∧ b.fault? = some (.stepLimitExceeded n)

namespace Snapshot.AgreesWith

variable {a b : Snapshot}

theorem refl (a : Snapshot) : a.AgreesWith a :=
  ⟨rfl, rfl, rfl, rfl, rfl, rfl, rfl, .inl rfl⟩

theorem symm (h : a.AgreesWith b) : b.AgreesWith a := by
  refine ⟨h.setup.symm, h.counter.symm, h.state.symm, h.complete.symm, h.valid.symm, h.phase.symm,
    h.breakpoints.symm, ?_⟩
  rcases h.fault with hsame | ⟨m, n, ha, hb⟩
  · exact .inl hsame.symm
  · exact .inr ⟨n, m, hb, ha⟩

theorem machine_eq (h : a.AgreesWith b) : a.machine = b.machine := by
  rw [Snapshot.machine, Snapshot.machine, h.setup, h.counter, h.state]

theorem isPaused_eq (h : a.AgreesWith b) : a.isPaused = b.isPaused := by
  rw [Snapshot.isPaused, Snapshot.isPaused, h.setup, h.counter, h.complete, h.breakpoints]

theorem halt (h : a.AgreesWith b) (store store' : Store) (limit limit' : Int) :
    (store.halt a limit).2.AgreesWith (store'.halt b limit').2 :=
  { h with complete := rfl, valid := rfl, fault := .inr ⟨limit, limit', rfl, rfl⟩ }

theorem shown (h : a.AgreesWith b) (store store' : Store) (machine : Machine) (more : Bool)
    (id id' : Nat) :
    (store.shown a machine more id).AgreesWith (store'.shown b machine more id') where
  setup := h.setup
  counter := rfl
  state := rfl
  complete := rfl
  valid := by simp only [Store.shown, h.setup]
  phase := rfl
  breakpoints := h.breakpoints
  fault := .inl rfl

end Snapshot.AgreesWith

namespace Store

variable {limit limit' : Int} {budget : Nat} {store store' store₁ : Store}
  {snapshot other next a b a₁ b₁ : Snapshot}

theorem run_of_step (hopen : snapshot.complete = false)
    (hstep : store.step snapshot = (store', .ok next)) (limit : Int) (budget : Nat) :
    run limit (budget + 1) store snapshot =
      if next.isPaused then (store', .ok next) else run limit budget store' next := by
  simp only [run, hopen, hstep, Bool.false_eq_true, ↓reduceIte]

/-- What a step comes to depends on what its snapshot shows and on the machine that it steps, but not
on the store. -/
theorem step_agrees (hagree : a.AgreesWith b)
    (hmachine : (store.continuation a).2 = (store'.continuation b).2)
    (hopen : a.complete = false) (hstep : store.step a = (store₁, .ok a₁)) :
    ∃ store₂ b₁, store'.step b = (store₂, .ok b₁) ∧ a₁.AgreesWith b₁ ∧
      (store₁.continuation a₁).2 = (store₂.continuation b₁).2 := by
  obtain ⟨machine, more, hmoves, rfl, rfl⟩ := exists_of_step_ok hopen hstep
  have hshown := hagree.shown store store' machine more (store.continuation a).1
    (store'.continuation b).1
  refine ⟨_, _, step_of_ok (hagree.complete ▸ hopen) (hmachine ▸ hmoves), hshown, ?_⟩
  rw [continuation_shown (store.continuation_le a), continuation_shown (store'.continuation_le b),
    hshown.complete, hshown.machine_eq]

theorem run_agrees (hagree : a.AgreesWith b)
    (hmachine : (store.continuation a).2 = (store'.continuation b).2)
    (ha : (run limit budget store a).2 = .ok a₁) (hb : (run limit' budget store' b).2 = .ok b₁) :
    a₁.AgreesWith b₁ := by
  fun_induction run limit budget store a generalizing store' b with
  | case1 budget store a hover =>
      rw [run_of_complete (hagree.complete ▸ hover)] at hb
      cases ha
      cases hb
      exact hagree
  | case2 store a hopen _ _ hhalt =>
      rw [hagree.complete] at hopen
      simp only [run, hopen, Bool.false_eq_true, ↓reduceIte] at hb
      cases hhalt
      cases ha
      cases hb
      exact hagree.halt store store' limit limit'
  | case3 => simp at ha
  | case4 store a hopen budget _ middle hstep hpaused =>
      rw [Bool.not_eq_true] at hopen
      obtain ⟨store₂, b₂, hstep', hagree', -⟩ := step_agrees hagree hmachine hopen hstep
      rw [run_of_step (hagree.complete ▸ hopen) hstep', ← hagree'.isPaused_eq,
        if_pos hpaused] at hb
      cases ha
      cases hb
      exact hagree'
  | case5 store a hopen budget _ middle hstep hunpaused ih =>
      rw [Bool.not_eq_true] at hopen
      obtain ⟨store₂, b₂, hstep', hagree', hmachine'⟩ := step_agrees hagree hmachine hopen hstep
      rw [run_of_step (hagree.complete ▸ hopen) hstep', ← hagree'.isPaused_eq,
        if_neg hunpaused] at hb
      exact ih hagree' hmachine' ha hb

/-- A snapshot of the store that has no machine and cannot get one any more. -/
structure HasLeft (store : Store) (snapshot : Snapshot) : Prop where
  live : store.live? snapshot = none
  serial_lt : snapshot.serial < store.nextSerial

theorem hasLeft_of_step (hlt : snapshot.serial < store.nextSerial)
    (hopen : snapshot.complete = false) (hstep : store.step snapshot = (store', .ok next)) :
    store'.HasLeft snapshot := by
  obtain ⟨machine, more, -, rfl, -⟩ := exists_of_step_ok hopen hstep
  refine ⟨?_, Nat.lt_succ_of_lt hlt⟩
  rw [live?_put (store.continuation_le snapshot) (Nat.ne_of_gt hlt)]
  unfold continuation
  cases hlive : store.live? snapshot with
  | none => exact ite_self none
  | some live =>
      obtain ⟨hlineage, -⟩ := (live?_eq_some_iff store snapshot live.1 live.2).mp hlive
      exact if_pos hlineage

namespace HasLeft

theorem step (h : store.HasLeft other) (hstep : store.step snapshot = (store', .ok next)) :
    store'.HasLeft other := by
  cases hopen : snapshot.complete with
  | true =>
      simp only [Store.step, hopen, ↓reduceIte, Prod.mk.injEq] at hstep
      exact hstep.1 ▸ h
  | false =>
      obtain ⟨machine, more, -, rfl, -⟩ := exists_of_step_ok hopen hstep
      refine ⟨?_, Nat.lt_succ_of_lt h.serial_lt⟩
      rw [live?_put (store.continuation_le snapshot) (Nat.ne_of_gt h.serial_lt), h.live]
      exact ite_self none

theorem run (h : store.HasLeft other)
    (hrun : Store.run limit budget store snapshot = (store', .ok next)) :
    store'.HasLeft other := by
  fun_induction Store.run limit budget store snapshot with
  | case1 =>
      cases hrun
      exact h
  | case2 store snapshot _ _ _ hhalt =>
      cases hrun
      cases hhalt
      exact ⟨h.live, Nat.lt_succ_of_lt h.serial_lt⟩
  | case3 => simp at hrun
  | case4 _ _ _ _ _ _ hstep =>
      cases hrun
      exact h.step hstep
  | case5 _ _ _ _ _ _ hstep _ ih => exact ih (h.step hstep) hrun

end HasLeft

theorem hasLeft_of_run (hlt : snapshot.serial < store.nextSerial)
    (hopen : snapshot.complete = false)
    (hrun : run limit (budget + 1) store snapshot = (store', .ok next)) :
    store'.HasLeft snapshot := by
  rcases hstep : store.step snapshot with ⟨middle, cause | first⟩
  · simp [run, hopen, hstep] at hrun
  · have hleft := hasLeft_of_step hlt hopen hstep
    rw [run_of_step hopen hstep] at hrun
    split at hrun
    · cases hrun
      exact hleft
    · exact hleft.run hrun

theorem Sound.run_again {snapshots : List Snapshot} (h : store.Sound snapshots)
    (hmem : snapshot ∈ snapshots)
    (ha : Store.run limit budget store snapshot = (store', .ok a))
    (hb : (Store.run limit' budget store' snapshot).2 = .ok b) : a.AgreesWith b := by
  cases hopen : snapshot.complete with
  | true =>
      rw [run_of_complete hopen] at ha hb
      cases ha
      cases hb
      exact .refl snapshot
  | false =>
      refine run_agrees (.refl snapshot) ?_ (congrArg Prod.snd ha) hb
      cases budget with
      | zero =>
          simp only [Store.run, hopen, Bool.false_eq_true, ↓reduceIte] at ha
          cases ha
          rfl
      | succ budget =>
          -- the machine of the first run has moved on, and the second makes one from the snapshot
          have hleft := hasLeft_of_run (h.serial_lt snapshot hmem) hopen ha
          have hnew : (store'.continuation snapshot).2 = snapshot.machine := by
            rw [Store.continuation, hleft.live, Option.getD_none]
          rcases (h.continuation hmem).machine with hsame | ⟨cause, hbroken⟩
          · rw [hsame, hnew]
          · -- the first run had a machine with less on its stacks; a new one breaks off here
            have hstep : (store'.continuation snapshot).2.step =
                (snapshot.machine.step.1, .error cause) := by rw [hnew, ← hbroken]
            simp [Store.run, hopen, step_of_error hopen hstep] at hb

/-- A number of steps, one instruction each, and what has come of them: the run rests or is ended
for taking too many steps, or the last step has broken off. -/
inductive Executes : Nat → Store → Snapshot → Store × Except Abort Snapshot → Prop where
  | rest (store : Store) (snapshot : Snapshot) : Executes 0 store snapshot (store, .ok snapshot)
  | ended (store : Store) (snapshot : Snapshot) (limit : Int) :
      Executes 0 store snapshot
        ((store.halt snapshot limit).1, .ok (store.halt snapshot limit).2)
  | broken {store store' : Store} {snapshot : Snapshot} {cause : Abort}
      (hopen : snapshot.complete = false)
      (hstep : store.step snapshot = (store', .error cause)) :
      Executes 1 store snapshot (store', .error cause)
  | more {count : Nat} {store store' : Store} {snapshot next : Snapshot}
      {answer : Store × Except Abort Snapshot} (hopen : snapshot.complete = false)
      (hstep : store.step snapshot = (store', .ok next))
      (hmore : Executes count store' next answer) : Executes (count + 1) store snapshot answer

theorem exists_executes_run (limit : Int) (budget : Nat) (store : Store) (snapshot : Snapshot) :
    ∃ count ≤ budget, Executes count store snapshot (Store.run limit budget store snapshot) := by
  fun_induction Store.run limit budget store snapshot with
  | case1 budget store snapshot => exact ⟨0, Nat.zero_le budget, .rest store snapshot⟩
  | case2 store snapshot _ _ _ hhalt =>
      cases hhalt
      exact ⟨0, Nat.le_refl 0, .ended store snapshot limit⟩
  | case3 store snapshot hopen budget _ _ hstep =>
      exact ⟨1, Nat.le_add_left 1 budget, .broken (by simpa using hopen) hstep⟩
  | case4 store snapshot hopen budget store' next hstep =>
      exact ⟨1, Nat.le_add_left 1 budget, .more (by simpa using hopen) hstep (.rest store' next)⟩
  | case5 store snapshot hopen budget store' next hstep _ ih =>
      obtain ⟨count, hcount, hmore⟩ := ih
      exact ⟨count + 1, Nat.succ_le_succ hcount, .more (by simpa using hopen) hstep hmore⟩

end Store

/-- The two commands that run are one. In a session of any commands, whatever came of these, they
come to the same wherever neither breaks off, each on its own or one after the other, and neither
executes more instructions than it may. -/
theorem run_commands_agree (unlocking locking : List Instruction) (breakpoints : List Int)
    (check? : Option SignatureCheck) (rules : Rules) (commands : List (Nat × Command))
    (maxSteps : Int) (snapshot : Snapshot)
    (hmem : snapshot ∈
      ((Session.start unlocking locking breakpoints check? rules).pursue commands).snapshots) :
    let store := ((Session.start unlocking locking breakpoints check? rules).pursue commands).store
    let completion := store.runToCompletion snapshot maxSteps
    let breakpoint := store.runToBreakpoint snapshot maxSteps
    (∀ a b, completion.2 = .ok a → breakpoint.2 = .ok b → a.AgreesWith b) ∧
    (∀ a b, completion.2 = .ok a →
      (completion.1.runToBreakpoint snapshot maxSteps).2 = .ok b → a.AgreesWith b) ∧
    (∀ a b, (breakpoint.1.runToCompletion snapshot maxSteps).2 = .ok a →
      breakpoint.2 = .ok b → a.AgreesWith b) ∧
    (∃ count : Nat, count ≤ max 0 maxSteps ∧ store.Executes count snapshot completion) ∧
    (∃ count : Nat, count ≤ max 0 maxSteps ∧ store.Executes count snapshot breakpoint) := by
  have hsound := Session.sound_pursue_start unlocking locking breakpoints check? rules commands
  generalize (Session.start unlocking locking breakpoints check? rules).pursue commands = session
    at hmem hsound
  obtain ⟨store, snapshots⟩ := session
  change store.Sound snapshots at hsound
  have hbudget : (maxSteps.toNat : Int) = max 0 maxSteps := by omega
  simp only [Store.runToCompletion, Store.runToBreakpoint_eq_run, ← hbudget, Int.ofNat_le]
  refine ⟨?_, ?_, ?_, Store.exists_executes_run _ _ _ _, Store.exists_executes_run _ _ _ _⟩
  · intro a b ha hb
    exact Store.run_agrees (.refl snapshot) rfl ha hb
  · intro a b ha hb
    exact hsound.run_again hmem (Prod.ext rfl ha) hb
  · intro a b ha hb
    exact (hsound.run_again hmem (Prod.ext rfl hb) ha).symm

/-- A session that pauses on the second of four instructions. -/
def pausedSession : Session :=
  (Session.start [.push [0x01], .push [0x02], .push [0x03]] [⟨"OP_1", 0x51, none⟩] [1] none
    {}).pursue [(0, .runToCompletion 10)]

theorem run_commands_agree_one_step : ∃ snapshot a b,
    pausedSession.snapshots[1]? = some snapshot ∧ snapshot.isPaused = true ∧
    (pausedSession.store.runToCompletion snapshot 1).2 = .ok a ∧
    ((pausedSession.store.runToCompletion snapshot 1).1.runToBreakpoint snapshot 1).2 = .ok b ∧
    a.fault? = some (.stepLimitExceeded 1) ∧ b.fault? = some (.stepLimitExceeded 0) ∧
    a.AgreesWith b := by
  have hshown : (pausedSession.snapshots[1]?.map fun snapshot =>
      let completion := pausedSession.store.runToCompletion snapshot 1
      (snapshot.isPaused, completion.2.toOption.map Snapshot.fault?,
        (completion.1.runToBreakpoint snapshot 1).2.toOption.map Snapshot.fault?)) =
      some (true, some (some (.stepLimitExceeded 1)), some (some (.stepLimitExceeded 0))) := by
    decide +kernel
  cases hat : pausedSession.snapshots[1]? with
  | none => simp [hat] at hshown
  | some snapshot =>
      simp only [hat, Option.map_some, Option.some.injEq, Prod.mk.injEq] at hshown
      obtain ⟨hpaused, hcompletion, hbreakpoint⟩ := hshown
      cases ha : (pausedSession.store.runToCompletion snapshot 1).2 with
      | error cause => simp [ha, Except.toOption] at hcompletion
      | ok a =>
          cases hb : ((pausedSession.store.runToCompletion snapshot 1).1.runToBreakpoint
              snapshot 1).2 with
          | error cause => simp [hb, Except.toOption] at hbreakpoint
          | ok b =>
              simp only [ha, Except.toOption, Option.map_some, Option.some.injEq] at hcompletion
              simp only [hb, Except.toOption, Option.map_some, Option.some.injEq] at hbreakpoint
              exact ⟨snapshot, a, b, rfl, hpaused, ha, hb, hcompletion, hbreakpoint,
                (run_commands_agree _ _ _ _ _ _ 1 snapshot (List.mem_of_getElem? hat)).2.1
                  a b ha hb⟩

end Lockstep
