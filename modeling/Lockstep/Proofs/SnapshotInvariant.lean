import Lockstep.Proofs.BreakpointRuns

/-!
What holds of every snapshot of a session. A snapshot is made by the start, by a step, by the step
limit or by toggling a breakpoint, and whatever these four keep holds throughout, however the
history forks. It follows that the fields of a snapshot never contradict each other.
-/

namespace Lockstep

/-- A property of snapshots that is handed on to every snapshot that is made from one that has
it. -/
structure Snapshot.Inherited (setup : Setup) (P : Snapshot → Prop) : Prop where
  shown : ∀ (store : Store) (snapshot : Snapshot) (machine : Machine) (more : Bool) (id : Nat),
    P snapshot → snapshot.setup = setup → snapshot.complete = false →
      snapshot.machine.step = (machine, .ok more) → P (store.shown snapshot machine more id)
  halted : ∀ (store : Store) (snapshot : Snapshot) (limit : Int),
    P snapshot → snapshot.complete = false → P (store.halt snapshot limit).2
  toggled : ∀ (snapshot : Snapshot) (serial : Nat) (breakpoints : Breakpoints),
    P snapshot → P { snapshot with serial, breakpoints }

namespace Snapshot.Inherited

variable {setup : Setup} {P : Snapshot → Prop} {store store' : Store} {snapshots : List Snapshot}
  {snapshot next : Snapshot}

theorem step (hinherited : Inherited setup P) (h : store.Consistent setup snapshots)
    (hmem : snapshot ∈ snapshots) (hsnapshot : P snapshot)
    (hstep : store.step snapshot = (store', .ok next)) : P next := by
  cases hopen : snapshot.complete with
  | true =>
      simp only [Store.step, hopen, ↓reduceIte, Prod.mk.injEq, Except.ok.injEq] at hstep
      exact hstep.2 ▸ hsnapshot
  | false =>
      rcases hmachine : snapshot.machine.step with ⟨machine, cause | more⟩
      · have habort := h.step_abort hmem hopen hmachine
        rw [hstep] at habort
        simp at habort
      · obtain ⟨id, -, heq⟩ := h.step_eq hmem hopen hmachine
        rw [hstep, Prod.mk.injEq, Except.ok.injEq] at heq
        rw [heq.2]
        exact hinherited.shown store snapshot machine more id hsnapshot
          (h.setup_eq snapshot hmem) hopen hmachine

theorem run {limit : Int} {budget : Nat} (hinherited : Inherited setup P)
    (h : store.Consistent setup snapshots) (hmem : snapshot ∈ snapshots) (hsnapshot : P snapshot)
    (hrun : Store.run limit budget store snapshot = (store', .ok next)) : P next := by
  fun_induction Store.run limit budget store snapshot generalizing snapshots with
  | case1 =>
      cases hrun
      exact hsnapshot
  | case2 store snapshot hopen _ ended hhalt =>
      cases hrun
      have hended : (store.halt snapshot limit).2 = next := congrArg Prod.snd hhalt
      exact hended ▸ hinherited.halted store snapshot limit hsnapshot (by simpa using hopen)
  | case3 => simp at hrun
  | case4 store snapshot _ budget _ _ hstep =>
      cases hrun
      exact hinherited.step h hmem hsnapshot hstep
  | case5 store snapshot _ budget _ _ hstep _ ih =>
      exact ih (h.step hmem hstep) List.mem_cons_self
        (hinherited.step h hmem hsnapshot hstep) hrun

theorem toggle {position : Int} (hinherited : Inherited setup P) (hsnapshot : P snapshot)
    (htoggle : store.toggle snapshot position = .ok (store', next)) : P next := by
  unfold Store.toggle at htoggle
  split at htoggle
  · simp at htoggle
  · simp only [Except.ok.injEq, Prod.mk.injEq] at htoggle
    rw [← htoggle.2]
    exact hinherited.toggled snapshot _ _ hsnapshot

theorem add {session session' : Session} {produced : Store × Except Abort Snapshot}
    (hall : ∀ snapshot ∈ session.snapshots, P snapshot)
    (hproduced : ∀ next, produced.2 = .ok next → P next)
    (hadd : session.add produced = .ok session') : ∀ snapshot ∈ session'.snapshots, P snapshot := by
  rcases produced with ⟨store, cause | next⟩
  · simp [Session.add] at hadd
  · cases hadd
    intro snapshot hmem
    rcases List.mem_append.mp hmem with hold | hnew
    · exact hall snapshot hold
    · exact List.mem_singleton.mp hnew ▸ hproduced next rfl

theorem issue {session session' : Session} {index : Nat} {command : Command}
    (hinherited : Inherited setup P) (h : session.Consistent setup)
    (hall : ∀ snapshot ∈ session.snapshots, P snapshot)
    (hissue : session.issue index command = .ok session') :
    ∀ snapshot ∈ session'.snapshots, P snapshot := by
  unfold Session.issue at hissue
  cases hat : session.snapshots[index]? with
  | none =>
      simp only [hat, Except.ok.injEq] at hissue
      exact hissue ▸ hall
  | some snapshot =>
      have hmem : snapshot ∈ session.snapshots := List.mem_of_getElem? hat
      have hsnapshot := hall snapshot hmem
      simp only [hat] at hissue
      cases command with
      | step =>
          exact add hall (fun _ hok => hinherited.step h hmem hsnapshot (Prod.ext rfl hok)) hissue
      | runToCompletion maxSteps =>
          exact add hall (fun _ hok => hinherited.run h hmem hsnapshot (Prod.ext rfl hok)) hissue
      | runToBreakpoint maxSteps =>
          dsimp only at hissue
          rw [Store.runToBreakpoint_eq_run] at hissue
          exact add hall (fun _ hok => hinherited.run h hmem hsnapshot (Prod.ext rfl hok)) hissue
      | toggle position =>
          dsimp only at hissue
          split at hissue
          · cases hissue
            exact hall
          · rename_i store next htoggle
            refine add hall (fun other hok => ?_) hissue
            cases hok
            exact hinherited.toggle hsnapshot htoggle

/-- What the start has and every command hands on holds of all snapshots of a session. -/
theorem replay {session session' : Session} {commands : List (Nat × Command)}
    (hinherited : Inherited setup P) (h : session.Consistent setup)
    (hall : ∀ snapshot ∈ session.snapshots, P snapshot)
    (hreplay : session.replay commands = .ok session') :
    ∀ snapshot ∈ session'.snapshots, P snapshot := by
  induction commands generalizing session with
  | nil =>
      cases hreplay
      exact hall
  | cons entry commands ih =>
      obtain ⟨index, command⟩ := entry
      simp only [Session.replay] at hreplay
      split at hreplay
      · simp at hreplay
      · rename_i middle hissue
        exact ih (h.issue hissue) (hinherited.issue h hall hissue) hreplay

end Snapshot.Inherited

theorem Setup.phase_eq_unlocking_iff (setup : Setup) (position : Int) :
    setup.phase position = .unlocking ↔ position < setup.unlockingLength := by
  unfold Setup.phase
  split
  · simp_all
  · simp_all

namespace Snapshot

/-- The fields of a snapshot fit together. -/
structure Coherent (snapshot : Snapshot) : Prop where
  counter_nonneg : 0 ≤ snapshot.counter
  counter_le : snapshot.counter ≤ snapshot.setup.length
  /-- The phase is the one that the counter is in. -/
  phase_iff : snapshot.phase = .unlocking ↔ snapshot.counter < snapshot.setup.unlockingLength
  /-- A run that is not over has met no fault, has no verdict and has an instruction before it,
  unless there are none at all. -/
  of_open : snapshot.complete = false → snapshot.fault? = none ∧ snapshot.valid = false ∧
    (snapshot.setup.length ≠ 0 → snapshot.counter < snapshot.setup.length)
  /-- A run that is over without a fault has passed its last instruction and closed its
  conditionals. -/
  of_ended : snapshot.complete = true → snapshot.fault? = none →
    snapshot.counter = snapshot.setup.length ∧ snapshot.state.branches = []
  valid_iff : snapshot.valid = true ↔ snapshot.complete = true ∧ snapshot.fault? = none ∧
    stackIsValid snapshot.setup.rules snapshot.state.main = true
  of_empty : snapshot.setup.length = 0 → snapshot.state.branches = []

variable {snapshot : Snapshot} {machine : Machine}

theorem coherent_start (unlocking locking : List Instruction) (breakpoints : List Int)
    (check? : Option SignatureCheck) (rules : Rules) :
    (Store.start unlocking locking breakpoints check? rules).2.Coherent where
  counter_nonneg := Int.le_refl 0
  counter_le := Int.natCast_nonneg _
  phase_iff := Setup.phase_eq_unlocking_iff _ 0
  of_open := by
    intro _
    refine ⟨rfl, rfl, ?_⟩
    intro hsome
    exact Int.lt_iff_le_and_ne.mpr ⟨Int.natCast_nonneg _, hsome.symm⟩
  of_ended := by
    intro hover
    simp [Store.start] at hover
  valid_iff := by simp [Store.start]
  of_empty := by
    intro _
    rfl

theorem Reflects.phase_iff (hreflects : snapshot.Reflects machine)
    (hsetup : machine.setup = snapshot.setup) :
    snapshot.phase = .unlocking ↔ snapshot.counter < snapshot.setup.unlockingLength := by
  rw [hreflects.phase, hreflects.counter, ← hsetup]
  exact Setup.phase_eq_unlocking_iff _ _

theorem Reflects.valid_iff (hreflects : snapshot.Reflects machine)
    (hsetup : machine.setup = snapshot.setup) :
    snapshot.valid = true ↔ snapshot.complete = true ∧ snapshot.fault? = none ∧
      stackIsValid snapshot.setup.rules snapshot.state.main = true := by
  rw [hreflects.valid, hreflects.fault, hreflects.state, hsetup]
  simp [and_assoc]

theorem Coherent.step_last (h : snapshot.Coherent) (hopen : snapshot.complete = false)
    (hstep : snapshot.machine.step = (machine, .ok false)) :
    0 ≤ machine.counter ∧ machine.counter ≤ snapshot.setup.length ∧
      (machine.halt? = none →
        machine.counter = snapshot.setup.length ∧ machine.state.branches = []) ∧
      (snapshot.setup.length = 0 → machine.state.branches = []) := by
  have hnonneg := h.counter_nonneg
  obtain ⟨-, -, hinside⟩ := h.of_open hopen
  rcases Machine.step_last hstep with ⟨hfinished, rfl⟩ | ⟨-, hbefore, cause, rfl⟩ |
    ⟨-, -, -, -, hend, hfinal⟩
  · have hpast : snapshot.setup.length ≤ snapshot.counter := of_decide_eq_true hfinished
    have hempty : snapshot.setup.length = 0 := by omega
    have hend := Int.le_antisymm h.counter_le hpast
    exact ⟨hnonneg, h.counter_le, fun _ => ⟨hend, h.of_empty hempty⟩, fun _ => h.of_empty hempty⟩
  · refine ⟨hnonneg, h.counter_le, ?_, h.of_empty⟩
    simp
  · change snapshot.counter + 1 = snapshot.setup.length at hend
    have hcounter : machine.counter = snapshot.counter + 1 := congrArg Machine.counter hfinal
    refine ⟨by omega, by omega, ?_, by omega⟩
    intro hhalt
    refine ⟨by omega, ?_⟩
    rw [hfinal] at hhalt
    simpa using hhalt

theorem Coherent.shown {more : Bool} (h : snapshot.Coherent) (hopen : snapshot.complete = false)
    (hstep : snapshot.machine.step = (machine, .ok more)) (store : Store) (id : Nat) :
    (store.shown snapshot machine more id).Coherent := by
  have hsetup : machine.setup = snapshot.setup := by
    have hkept := Machine.setup_step snapshot.machine
    rwa [hstep] at hkept
  have hreflects := store.reflects_shown snapshot machine more id hsetup.symm
  cases more with
  | true =>
      obtain ⟨-, -, -, -, hresume, hinside⟩ := Machine.step_more hstep
      change snapshot.counter + 1 < snapshot.setup.length at hinside
      have hcounter : machine.counter = snapshot.counter + 1 := congrArg Machine.counter hresume
      have hhalt : machine.halt? = none := congrArg Machine.halt? hresume
      have hcomplete : (store.shown snapshot machine true id).complete = false := by
        simp [Store.shown, hsetup, hcounter, hinside]
      have hnonneg := h.counter_nonneg
      exact {
        counter_nonneg := by
          rw [hreflects.counter]
          omega
        counter_le := by
          rw [hreflects.counter, hcounter]
          exact Int.le_of_lt hinside
        phase_iff := hreflects.phase_iff hsetup
        of_open := by
          intro _
          refine ⟨by simp [hreflects.fault, hhalt], by simp [hreflects.valid, hcomplete], ?_⟩
          intro _
          rw [hreflects.counter, hcounter]
          exact hinside
        of_ended := by
          intro hover
          simp [hcomplete] at hover
        valid_iff := hreflects.valid_iff hsetup
        of_empty := by
          intro hempty
          change snapshot.setup.length = 0 at hempty
          omega }
  | false =>
      obtain ⟨hnonneg, hle, hended, hempty⟩ := h.step_last hopen hstep
      have hcomplete : (store.shown snapshot machine false id).complete = true := by
        simp [Store.shown]
      exact {
        counter_nonneg := hnonneg
        counter_le := hle
        phase_iff := hreflects.phase_iff hsetup
        of_open := by
          intro hopen'
          simp [hcomplete] at hopen'
        of_ended := by
          intro _ hfault
          rw [hreflects.fault, Option.map_eq_none_iff] at hfault
          exact hended hfault
        valid_iff := hreflects.valid_iff hsetup
        of_empty := hempty }

theorem Coherent.halted (h : snapshot.Coherent) (store : Store) (limit : Int) :
    (store.halt snapshot limit).2.Coherent where
  counter_nonneg := h.counter_nonneg
  counter_le := h.counter_le
  phase_iff := h.phase_iff
  of_open := by
    intro hopen
    simp [Store.halt] at hopen
  of_ended := by
    intro _ hfault
    simp [Store.halt] at hfault
  valid_iff := by simp [Store.halt]
  of_empty := h.of_empty

theorem inherited_coherent (setup : Setup) : Inherited setup Coherent where
  shown := by
    intro store snapshot machine more id h _ hopen hstep
    exact h.shown hopen hstep store id
  halted := by
    intro store snapshot limit h _
    exact h.halted store limit
  toggled := by
    intro snapshot serial breakpoints h
    exact { h with }

end Snapshot

/-- The snapshot invariant. In a session of any commands on any snapshots, in which nothing broke
off, every snapshot belongs to the same two scripts, and its counter, phase, fault, verdict and open
conditionals fit together. -/
theorem session_snapshots_coherent (unlocking locking : List Instruction) (breakpoints : List Int)
    (check? : Option SignatureCheck) (rules : Rules) (commands : List (Nat × Command))
    (session : Session)
    (hreplay : (Session.start unlocking locking breakpoints check? rules).replay commands =
      .ok session) :
    ∀ snapshot ∈ session.snapshots,
      snapshot.setup = Setup.ofScripts unlocking locking check? rules ∧ snapshot.Coherent := by
  have hconsistent := Session.consistent_start unlocking locking breakpoints check? rules
  intro snapshot hmem
  refine ⟨(hconsistent.replay hreplay).setup_eq snapshot hmem, ?_⟩
  refine (Snapshot.inherited_coherent _).replay hconsistent ?_ hreplay snapshot hmem
  intro first hfirst
  obtain rfl := List.mem_singleton.mp hfirst
  exact Snapshot.coherent_start unlocking locking breakpoints check? rules

/-- A session over a conditional that is never closed: run to its end, ended by the step limit, and
forked to a pause inside the conditional. -/
def unclosedSession : Except Abort Session :=
  (Session.start [⟨"OP_1", 0x51, none⟩] [⟨"OP_IF", 0x63, none⟩, ⟨"OP_2", 0x52, none⟩] [] none
    {}).replay [(0, .runToCompletion 10), (0, .runToCompletion 1), (0, .step), (3, .toggle 2),
      (4, .runToBreakpoint 5)]

theorem session_snapshots_coherent_unclosed : ∃ session, unclosedSession = .ok session ∧
    session.snapshots.map (fun snapshot =>
        (snapshot.counter, snapshot.state.branches, snapshot.complete, snapshot.fault?)) =
      [(0, [], false, none), (3, [true], true, some .ifWithoutEndIf),
        (1, [], true, some (.stepLimitExceeded 1)), (1, [], false, none), (1, [], false, none),
        (2, [true], false, none)] ∧
    ∀ snapshot ∈ session.snapshots, snapshot.Coherent := by
  have hshown : unclosedSession.toOption.map (fun session => session.snapshots.map fun snapshot =>
      (snapshot.counter, snapshot.state.branches, snapshot.complete, snapshot.fault?)) =
        some [(0, [], false, none), (3, [true], true, some .ifWithoutEndIf),
          (1, [], true, some (.stepLimitExceeded 1)), (1, [], false, none), (1, [], false, none),
          (2, [true], false, none)] := by decide +kernel
  cases hsession : unclosedSession with
  | error cause => simp [hsession, Except.toOption] at hshown
  | ok session =>
      refine ⟨session, rfl, by simpa [hsession, Except.toOption] using hshown, ?_⟩
      intro snapshot hmem
      exact (session_snapshots_coherent _ _ _ _ _ _ session hsession snapshot hmem).2

end Lockstep
