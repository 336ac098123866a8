import Lockstep.Proofs.DebuggerSession

namespace Lockstep

namespace Breakpoints

theorem mem_insert (position x : Int) (set : Breakpoints) :
    x ∈ insert position set ↔ x = position ∨ x ∈ set := by
  induction set with
  | nil => simp [insert]
  | cons first rest ih =>
      simp only [insert]
      split
      · simp
      · split
        · rename_i hsame
          simp [hsame]
        · simp only [List.mem_cons, ih]
          exact or_left_comm

theorem mem_ofList (positions : List Int) (x : Int) : x ∈ ofList positions ↔ x ∈ positions := by
  have hfold : ∀ set : Breakpoints,
      x ∈ positions.foldl (fun set position => insert position set) set ↔
        x ∈ set ∨ x ∈ positions := by
    induction positions with
    | nil => simp
    | cons position positions ih =>
        intro set
        rw [List.foldl_cons, ih, mem_insert, List.mem_cons, or_assoc, or_left_comm]
  rw [ofList, hfold]
  simp

end Breakpoints

theorem isBreakpoint_ofList (positions : List Int) (program : Array Instruction) (position : Int) :
    isBreakpoint (Breakpoints.ofList positions) program position =
      isBreakpoint positions program position := by
  have hcontains : (Breakpoints.ofList positions).contains position =
      positions.contains position := by
    rw [Bool.eq_iff_iff, List.contains_iff_mem, List.contains_iff_mem, Breakpoints.mem_ofList]
  rw [isBreakpoint, isBreakpoint, hcontains]

theorem Store.runToBreakpoint_eq_run (store : Store) (snapshot : Snapshot) (maxSteps : Int) :
    store.runToBreakpoint snapshot maxSteps =
      run (if snapshot.isPaused ∧ 0 < maxSteps then maxSteps - 1 else maxSteps) maxSteps.toNat
        store snapshot := by
  unfold runToBreakpoint
  split
  · rename_i hpaused
    have hopen : snapshot.complete = false := by
      simp only [Snapshot.isPaused, Bool.and_eq_true, Bool.not_eq_true'] at hpaused
      exact hpaused.1
    split
    · rename_i hnone
      rw [Int.toNat_of_nonpos hnone, if_neg (by omega), run]
      simp [hopen]
    · rename_i hsome
      obtain ⟨budget, hbudget⟩ : ∃ budget : Nat, maxSteps.toNat = budget + 1 :=
        ⟨maxSteps.toNat - 1, by omega⟩
      have hless : (maxSteps - 1).toNat = budget := by omega
      rw [if_pos ⟨hpaused, by omega⟩, hless, hbudget, run.eq_def _ (budget + 1)]
      simp only [hopen, Bool.false_eq_true, ↓reduceIte]
  · rename_i hunpaused
    rw [if_neg (by simp [hunpaused])]

/-- Behind a position and up to another one there is no breakpoint of the program. -/
def Setup.IsClear (setup : Setup) (breakpoints : Breakpoints) (start last : Int) : Prop :=
  ∀ position, start < position → position ≤ last → position < setup.length →
    isBreakpoint breakpoints setup.program position = false

theorem Setup.isClear_self (setup : Setup) (breakpoints : Breakpoints) (start : Int) :
    setup.IsClear breakpoints start start := by
  intro position hbehind hlast
  omega

theorem Setup.IsClear.cons {setup : Setup} {breakpoints : Breakpoints} {start last : Int}
    (hnext : isBreakpoint breakpoints setup.program (start + 1) = false)
    (hclear : setup.IsClear breakpoints (start + 1) last) :
    setup.IsClear breakpoints start last := by
  intro position hbehind hlast hinside
  rcases Int.lt_or_eq_of_le (Int.add_one_le_of_lt hbehind) with hlater | rfl
  · exact hclear position hlater hlast hinside
  · exact hnext

namespace Snapshot

/-- What a step of a run that is not over can come to: the next instruction, or the end of the run,
which is behind the last instruction or where the run stood. -/
inductive StepsTo (setup : Setup) (snapshot next : Snapshot) : Prop where
  | onward (hopen : next.complete = false) (hcounter : next.counter = snapshot.counter + 1)
      (hinside : next.counter < setup.length)
  | ended (hover : next.complete = true) (final : Machine)
      (hends : (Machine.start setup).EndsIn final) (hreflects : next.Reflects final)
      (hcounter : next.counter = snapshot.counter ∨
        next.counter = snapshot.counter + 1 ∧ next.counter = setup.length)

/-- Where a run that is not over can stop: on the first breakpoint that it meets, at the end of the
run, or with its steps used up. -/
inductive StopsAt (setup : Setup) (budget : Nat) (snapshot next : Snapshot) : Prop where
  | paused (hopen : next.complete = false) (hfurther : snapshot.counter < next.counter)
      (hinside : next.counter < setup.length)
      (hbreak : isBreakpoint snapshot.breakpoints setup.program next.counter = true)
      (hclear : setup.IsClear snapshot.breakpoints snapshot.counter (next.counter - 1))
  | ended (hover : next.complete = true) (final : Machine)
      (hends : (Machine.start setup).EndsIn final) (hreflects : next.Reflects final)
      (hfrom : snapshot.counter ≤ next.counter)
      (hclear : setup.IsClear snapshot.breakpoints snapshot.counter next.counter)
  | limited (hover : next.complete = true) (hcounter : next.counter = snapshot.counter + budget)
      (hinside : next.counter < setup.length ∨ budget = 0)
      (hclear : setup.IsClear snapshot.breakpoints snapshot.counter next.counter)

theorem StopsAt.of_onward {setup : Setup} {budget : Nat} {snapshot middle next : Snapshot}
    (hstops : middle.StopsAt setup budget next)
    (hkept : middle.breakpoints = snapshot.breakpoints)
    (hcounter : middle.counter = snapshot.counter + 1) (hbefore : middle.counter < setup.length)
    (hunbroken : isBreakpoint snapshot.breakpoints setup.program (snapshot.counter + 1) = false) :
    snapshot.StopsAt setup (budget + 1) next := by
  cases hstops with
  | paused hopen hfurther hinside hbreak hclear =>
      rw [hkept] at hbreak hclear
      rw [hcounter] at hclear
      exact .paused hopen (by omega) hinside hbreak (.cons hunbroken hclear)
  | ended hover final hends hreflects hfrom hclear =>
      rw [hkept, hcounter] at hclear
      exact .ended hover final hends hreflects (by omega) (.cons hunbroken hclear)
  | limited hover hfar hinside hclear =>
      rw [hkept, hcounter] at hclear
      exact .limited hover (by omega) (by omega) (.cons hunbroken hclear)

end Snapshot

namespace Store.Consistent

variable {setup : Setup} {store store' : Store} {snapshots : List Snapshot}
  {snapshot next : Snapshot}

theorem stepsTo (h : store.Consistent setup snapshots) (hmem : snapshot ∈ snapshots)
    (hopen : snapshot.complete = false) (hstep : store.step snapshot = (store', .ok next)) :
    next.breakpoints = snapshot.breakpoints ∧ snapshot.StepsTo setup next := by
  have hsetup := h.setup_eq snapshot hmem
  obtain ⟨count, hrun, -, hcount⟩ := (h.tracks snapshot hmem).exists_count hsetup hopen
  rcases hmachine : snapshot.machine.step with ⟨machine, cause | more⟩
  · have habort := h.step_abort hmem hopen hmachine
    rw [hstep] at habort
    simp at habort
  · obtain ⟨id, -, heq⟩ := h.step_eq hmem hopen hmachine
    rw [hstep, Prod.mk.injEq, Except.ok.injEq] at heq
    obtain ⟨-, rfl⟩ := heq
    refine ⟨rfl, ?_⟩
    have hkept : machine.setup = snapshot.setup := by
      have hkept := Machine.setup_step snapshot.machine
      rwa [hmachine] at hkept
    cases more with
    | true =>
        obtain ⟨-, -, -, -, hresume, hinside⟩ := Machine.step_more hmachine
        have hcounter : machine.counter = snapshot.counter + 1 := congrArg Machine.counter hresume
        have hlength : snapshot.counter + 1 < setup.length := hsetup ▸ hinside
        refine .onward ?_ hcounter (Int.lt_of_le_of_lt (Int.le_of_eq hcounter) hlength)
        simp [shown, hkept, hsetup, hcounter, hlength]
    | false =>
        have hends : (Machine.start setup).EndsIn machine := ⟨count, hrun, hcount ▸ hmachine⟩
        have hreflects := store.reflects_shown snapshot machine false id hkept.symm
        refine .ended (by simp [shown]) machine hends hreflects ?_
        rcases Machine.step_last hmachine with ⟨-, rfl⟩ | ⟨-, -, cause, rfl⟩ |
          ⟨-, -, -, -, hend, hfinal⟩
        · exact .inl rfl
        · exact .inl rfl
        · have hcounter : machine.counter = snapshot.counter + 1 := congrArg Machine.counter hfinal
          have hlength : snapshot.counter + 1 = setup.length := hsetup ▸ hend
          exact .inr ⟨hcounter, hcounter.trans hlength⟩

theorem run_stopsAt {limit : Int} {budget : Nat} (h : store.Consistent setup snapshots)
    (hmem : snapshot ∈ snapshots) (hopen : snapshot.complete = false)
    (hrun : Store.run limit budget store snapshot = (store', .ok next)) :
    next.breakpoints = snapshot.breakpoints ∧ snapshot.StopsAt setup budget next := by
  induction budget generalizing store snapshots snapshot with
  | zero =>
      rw [Store.run] at hrun
      simp only [hopen, Bool.false_eq_true, ↓reduceIte] at hrun
      cases hrun
      refine ⟨rfl, .limited rfl ?_ (.inr rfl) (setup.isClear_self _ _)⟩
      simp [Store.halt]
  | succ budget ih =>
      rw [Store.run] at hrun
      simp only [hopen, Bool.false_eq_true, ↓reduceIte] at hrun
      rcases hstep : store.step snapshot with ⟨store₁, cause | middle⟩
      · simp [hstep] at hrun
      · have hmiddle := h.step hmem hstep
        have hsetup := hmiddle.setup_eq middle List.mem_cons_self
        obtain ⟨hkept, hsteps⟩ := h.stepsTo hmem hopen hstep
        simp only [hstep] at hrun
        cases hsteps with
        | ended hover final hends hreflects hcounter =>
            have hunpaused : middle.isPaused = false := by simp [Snapshot.isPaused, hover]
            rw [hunpaused, Store.run.eq_def] at hrun
            simp only [hover, Bool.false_eq_true, ↓reduceIte] at hrun
            cases hrun
            refine ⟨hkept, .ended hover final hends hreflects (by omega) ?_⟩
            intro position hbehind hlast hinside
            omega
        | onward hopen' hcounter hinside =>
            have hpaused : middle.isPaused =
                isBreakpoint snapshot.breakpoints setup.program (snapshot.counter + 1) := by
              simp [Snapshot.isPaused, hopen', hkept, hsetup, hcounter]
            split at hrun
            · rename_i hbreak
              cases hrun
              rw [hpaused, ← hcounter] at hbreak
              refine ⟨hkept, .paused hopen' (by omega) hinside hbreak ?_⟩
              rw [hcounter, Int.add_sub_cancel]
              exact setup.isClear_self _ _
            · rename_i hunbroken
              rw [hpaused, Bool.not_eq_true] at hunbroken
              obtain ⟨hkept', hstops⟩ := ih hmiddle List.mem_cons_self hopen' hrun
              exact ⟨hkept'.trans hkept, hstops.of_onward hkept hcounter hinside hunbroken⟩

end Store.Consistent

end Lockstep
