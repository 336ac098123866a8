import Lockstep.Proofs.BreakpointRuns

namespace Lockstep

namespace Session

/-- The session with what a command has produced. One that broke off has changed the store only. -/
def keep (session : Session) : Store × Except Abort Snapshot → Session
  | (store, .error _) => ⟨store, session.snapshots⟩
  | (store, .ok next) => ⟨store, session.snapshots ++ [next]⟩

/-- Issues a command on the snapshot with a given number, if there is one. -/
def attempt (session : Session) (index : Nat) (command : Command) : Session :=
  match session.snapshots[index]? with
  | none => session
  | some snapshot =>
    match command with
    | .step => session.keep (session.store.step snapshot)
    | .runToCompletion maxSteps => session.keep (session.store.runToCompletion snapshot maxSteps)
    | .runToBreakpoint maxSteps => session.keep (session.store.runToBreakpoint snapshot maxSteps)
    | .toggle position =>
      match session.store.toggle snapshot position with
      | .error _ => session
      | .ok (store, next) => session.keep (store, .ok next)

/-- Issues commands one after the other, whatever comes of them. -/
def pursue (session : Session) (commands : List (Nat × Command)) : Session :=
  commands.foldl (fun session entry => session.attempt entry.1 entry.2) session

theorem keep_of_add {session session' : Session} {produced : Store × Except Abort Snapshot}
    (hadd : session.add produced = .ok session') : session.keep produced = session' := by
  rcases produced with ⟨store, cause | next⟩
  · simp [add] at hadd
  · exact Except.ok.inj hadd

theorem attempt_of_issue {session session' : Session} {index : Nat} {command : Command}
    (hissue : session.issue index command = .ok session') :
    session.attempt index command = session' := by
  unfold issue at hissue
  unfold attempt
  cases hat : session.snapshots[index]? with
  | none =>
      rw [hat] at hissue
      exact Except.ok.inj hissue
  | some snapshot =>
      rw [hat] at hissue
      cases command with
      | step | runToCompletion | runToBreakpoint => exact keep_of_add hissue
      | toggle position =>
          dsimp only at hissue ⊢
          rcases htoggle : session.store.toggle snapshot position with refusal | ⟨store, next⟩
          · rw [htoggle] at hissue
            exact Except.ok.inj hissue
          · rw [htoggle] at hissue
            exact keep_of_add hissue

theorem pursue_of_replay {session session' : Session} {commands : List (Nat × Command)}
    (hreplay : session.replay commands = .ok session') : session.pursue commands = session' := by
  induction commands generalizing session with
  | nil => exact Except.ok.inj hreplay
  | cons entry commands ih =>
      rw [replay] at hreplay
      split at hreplay
      · simp at hreplay
      · rename_i middle hissue
        obtain rfl := attempt_of_issue hissue
        exact ih hreplay

end Session

/-- A machine stands where a snapshot does. Its stacks are those of the snapshot, unless a new
machine breaks off here. -/
structure Snapshot.Continues (snapshot : Snapshot) (machine : Machine) : Prop where
  setup : machine.setup = snapshot.setup
  counter : machine.counter = snapshot.counter
  halt : machine.halt? = none
  machine : machine = snapshot.machine ∨ ∃ cause, snapshot.machine.step.2 = .error cause

theorem Snapshot.continues_machine (snapshot : Snapshot) : snapshot.Continues snapshot.machine :=
  ⟨rfl, rfl, rfl, .inl rfl⟩

theorem Snapshot.Continues.step_error {snapshot : Snapshot} {machine left : Machine} {cause : Abort}
    (hcontinues : snapshot.Continues machine) (hstep : machine.step = (left, .error cause)) :
    snapshot.Continues left := by
  have hbroken : ∃ cause, snapshot.machine.step.2 = .error cause := by
    rcases hcontinues.machine with rfl | hbroken
    · exact ⟨cause, by rw [hstep]⟩
    · exact hbroken
  have hcase := hstep ▸ machine.step_cases
  generalize hout : (left, (.error cause : Except Abort Bool)) = out at hcase
  cases hcase with
  | finished | fault => simp at hout
  | done => simp at hout
  | outside | abort =>
      obtain rfl := congrArg Prod.fst hout
      exact ⟨hcontinues.setup, hcontinues.counter, hcontinues.halt, .inr hbroken⟩

/-- What a step from a snapshot that is not over can come to: the next instruction, or the end of
the run where it stood or behind the last instruction. -/
inductive Snapshot.MovesTo (snapshot next : Snapshot) : Prop where
  | onward (hopen : next.complete = false) (hcounter : next.counter = snapshot.counter + 1)
      (hinside : next.counter < snapshot.setup.length)
  | ended (hover : next.complete = true) (hcounter : next.counter = snapshot.counter ∨
      next.counter = snapshot.counter + 1 ∧ next.counter = snapshot.setup.length)

namespace Snapshot.Continues

variable {snapshot : Snapshot} {machine next : Machine}

theorem machine_shown (hcontinues : snapshot.Continues machine)
    (hstep : machine.step = (next, .ok true)) (store : Store) (id : Nat) :
    (store.shown snapshot next true id).machine = next := by
  obtain ⟨-, -, -, -, hresume, -⟩ := Machine.step_more hstep
  rw [hcontinues.setup] at hresume
  rw [hresume]
  rfl

theorem movesTo_shown {more : Bool} (hcontinues : snapshot.Continues machine)
    (hstep : machine.step = (next, .ok more)) (store : Store) (id : Nat) :
    snapshot.MovesTo (store.shown snapshot next more id) := by
  have hsetup : next.setup = snapshot.setup := by
    have hkept := machine.setup_step
    rwa [hstep, hcontinues.setup] at hkept
  cases more with
  | true =>
      obtain ⟨-, -, -, -, hresume, hinside⟩ := Machine.step_more hstep
      have hcounter : next.counter = snapshot.counter + 1 := by
        rw [hresume, ← hcontinues.counter]
        rfl
      rw [hcontinues.setup, hcontinues.counter, ← hcounter] at hinside
      refine .onward ?_ hcounter hinside
      simp [Store.shown, hsetup, hinside]
  | false =>
      refine .ended (by simp [Store.shown]) ?_
      change next.counter = snapshot.counter ∨
        next.counter = snapshot.counter + 1 ∧ next.counter = snapshot.setup.length
      rw [← hcontinues.setup, ← hcontinues.counter]
      rcases Machine.step_last hstep with ⟨-, rfl⟩ | ⟨-, -, cause, rfl⟩ | ⟨-, -, -, -, hend, hfinal⟩
      · exact .inl rfl
      · exact .inl rfl
      · have hcounter : next.counter = machine.counter + 1 := congrArg Machine.counter hfinal
        exact .inr ⟨hcounter, hcounter.trans hend⟩

end Snapshot.Continues

namespace Store

/-- What holds of a store and the snapshots that it has produced, also where commands have broken
off. -/
structure Sound (store : Store) (snapshots : List Snapshot) : Prop
    extends Heads Snapshot.Continues store snapshots where
  serial_inj : ∀ a ∈ snapshots, ∀ b ∈ snapshots, a.serial = b.serial → a = b
  counter_nonneg : ∀ snapshot ∈ snapshots, 0 ≤ snapshot.counter

theorem sound_start (unlocking locking : List Instruction) (breakpoints : List Int)
    (check? : Option SignatureCheck) (rules : Rules) :
    (start unlocking locking breakpoints check? rules).1.Sound
      [(start unlocking locking breakpoints check? rules).2] where
  toHeads := heads_start _ unlocking locking breakpoints check? rules
  serial_inj := by
    rintro a (_ | ⟨_, ⟨⟩⟩) b (_ | ⟨_, ⟨⟩⟩) _
    rfl
  counter_nonneg := by
    rintro snapshot (_ | ⟨_, ⟨⟩⟩)
    exact Int.le_refl 0

namespace Sound

variable {store : Store} {snapshots : List Snapshot} {snapshot : Snapshot}

theorem weaken (h : store.Sound snapshots) {fewer : List Snapshot} (hfewer : fewer ⊆ snapshots) :
    store.Sound fewer where
  toHeads := h.toHeads.weaken hfewer
  serial_inj a ha b hb := h.serial_inj a (hfewer ha) b (hfewer hb)
  counter_nonneg snapshot hmem := h.counter_nonneg snapshot (hfewer hmem)

theorem continuation (h : store.Sound snapshots) (hmem : snapshot ∈ snapshots) :
    snapshot.Continues (store.continuation snapshot).2 :=
  h.toHeads.continuation hmem snapshot.continues_machine

theorem add {store' : Store} (h : store.Sound snapshots) {next : Snapshot}
    (hheads : store'.Heads Snapshot.Continues (next :: snapshots))
    (hserial : next.serial = store.nextSerial) (hcounter : 0 ≤ next.counter) :
    store'.Sound (next :: snapshots) where
  toHeads := hheads
  serial_inj := by
    rintro a (_ | ⟨_, ha⟩) b (_ | ⟨_, hb⟩) hsame
    · rfl
    · have hlt := h.serial_lt b hb
      omega
    · have hlt := h.serial_lt a ha
      omega
    · exact h.serial_inj a ha b hb hsame
  counter_nonneg := by
    rintro snapshot (_ | ⟨_, hmem⟩)
    · exact hcounter
    · exact h.counter_nonneg snapshot hmem

theorem add_idle (h : store.Sound snapshots) (next : Snapshot)
    (hserial : next.serial = store.nextSerial) (hcounter : 0 ≤ next.counter) :
    ({ store with nextSerial := store.nextSerial + 1 } : Store).Sound (next :: snapshots) :=
  h.add (h.toHeads.add_idle next hserial) hserial hcounter

theorem add_head (h : store.Sound snapshots) (next : Snapshot) {id : Nat} {machine : Machine}
    (hid : id ≤ store.lineages.size) (hserial : next.serial = store.nextSerial)
    (hcounter : 0 ≤ next.counter)
    (hcontinues : next.lineage? = some id → next.Continues machine) :
    ({ store.put id ⟨machine, next.serial⟩ with nextSerial := store.nextSerial + 1 } :
      Store).Sound (next :: snapshots) :=
  h.add (h.toHeads.add_head next hid hserial hcontinues) hserial hcounter

/-- A live machine whose step broke off still stands where its head does. -/
theorem put_broken (h : store.Sound snapshots) (hmem : snapshot ∈ snapshots) {id : Nat}
    {machine left : Machine} {cause : Abort} (hlive : store.live? snapshot = some (id, machine))
    (hstep : machine.step = (left, .error cause)) :
    (store.put id ⟨left, snapshot.serial⟩).Sound snapshots := by
  obtain ⟨-, hat⟩ := (live?_eq_some_iff _ _ _ _).mp hlive
  have hid : id ≤ store.lineages.size := Nat.le_of_lt (Array.getElem?_eq_some_iff.mp hat).1
  have hnext : (store.put id ⟨left, snapshot.serial⟩).nextSerial = store.nextSerial := by
    unfold put
    split <;> rfl
  refine ⟨⟨hnext ▸ h.serial_lt, ?_, ?_⟩, h.serial_inj, h.counter_nonneg⟩
  · intro k lineage hput
    rw [getElem?_lineages_put store id _ hid] at hput
    rw [hnext]
    split at hput
    · cases hput
      exact h.serial_lt snapshot hmem
    · exact h.head_lt k lineage hput
  · intro other hother k live hput
    obtain ⟨hlineage, hput⟩ := (live?_eq_some_iff _ _ _ _).mp hput
    rw [getElem?_lineages_put store id _ hid] at hput
    split at hput
    · simp only [Option.some.injEq, Lineage.mk.injEq] at hput
      obtain ⟨rfl, hserial⟩ := hput
      obtain rfl := h.serial_inj snapshot hmem other hother hserial
      exact (h.live snapshot hmem id machine hlive).step_error hstep
    · exact h.live other hother k live ((live?_eq_some_iff _ _ _ _).mpr ⟨hlineage, hput⟩)

theorem step (h : store.Sound snapshots) (hmem : snapshot ∈ snapshots) :
    (store.step snapshot).1.Sound ((store.step snapshot).2.toOption.toList ++ snapshots) := by
  cases hopen : snapshot.complete with
  | true =>
      simp only [Store.step, hopen, ↓reduceIte]
      exact h.weaken (List.cons_subset.mpr ⟨hmem, List.Subset.refl _⟩)
  | false =>
      have hcontinues := h.continuation hmem
      rcases hstep : (store.continuation snapshot).2.step with ⟨machine, cause | more⟩
      · rw [step_of_error hopen hstep]
        unfold Store.continuation at hstep ⊢
        cases hlive : store.live? snapshot with
        | none => exact h
        | some live =>
            rw [hlive] at hstep
            exact h.put_broken hmem hlive hstep
      · rw [step_of_ok hopen hstep]
        have hmoves := hcontinues.movesTo_shown hstep store (store.continuation snapshot).1
        have hnonneg := h.counter_nonneg snapshot hmem
        refine h.add_head (store.shown snapshot machine more (store.continuation snapshot).1)
          (store.continuation_le snapshot) rfl ?_ ?_
        · cases hmoves with
          | onward | ended => omega
        · intro hlineage
          obtain rfl := more_of_lineage?_shown hlineage
          have hmachine := hcontinues.machine_shown hstep store (store.continuation snapshot).1
          exact hmachine ▸ Snapshot.continues_machine _

theorem halt (h : store.Sound snapshots) (hmem : snapshot ∈ snapshots) (limit : Int) :
    (store.halt snapshot limit).1.Sound ((store.halt snapshot limit).2 :: snapshots) :=
  h.add_idle _ rfl (h.counter_nonneg snapshot hmem)

theorem run (h : store.Sound snapshots) (hmem : snapshot ∈ snapshots) (limit : Int)
    (budget : Nat) :
    (Store.run limit budget store snapshot).1.Sound
      ((Store.run limit budget store snapshot).2.toOption.toList ++ snapshots) := by
  fun_induction Store.run limit budget store snapshot generalizing snapshots with
  | case1 => exact h.weaken (List.cons_subset.mpr ⟨hmem, List.Subset.refl _⟩)
  | case2 store snapshot hopen _ ended hhalt =>
      have hended := h.halt hmem limit
      rwa [hhalt] at hended
  | case3 store snapshot _ budget _ _ hstep =>
      have hbroken := h.step hmem
      rwa [hstep] at hbroken
  | case4 store snapshot _ budget _ _ hstep =>
      have hnext := h.step hmem
      rwa [hstep] at hnext
  | case5 store snapshot _ budget _ _ hstep _ ih =>
      have hnext := h.step hmem
      rw [hstep] at hnext
      refine (ih hnext List.mem_cons_self).weaken ?_
      intro other hother
      rcases List.mem_append.mp hother with hnew | hold
      · exact List.mem_append_left _ hnew
      · exact List.mem_append_right _ (List.mem_cons_of_mem _ hold)

theorem toggle (h : store.Sound snapshots) (hmem : snapshot ∈ snapshots) {position : Int}
    {store' : Store} {next : Snapshot}
    (htoggle : store.toggle snapshot position = .ok (store', next)) :
    store'.Sound (next :: snapshots) := by
  unfold Store.toggle at htoggle
  split at htoggle
  · simp at htoggle
  · simp only [Except.ok.injEq, Prod.mk.injEq] at htoggle
    obtain ⟨rfl, rfl⟩ := htoggle
    have hcounter := h.counter_nonneg snapshot hmem
    cases hlive : store.live? snapshot with
    | none => exact h.add_idle _ rfl hcounter
    | some live =>
        obtain ⟨id, machine⟩ := live
        obtain ⟨-, hat⟩ := (live?_eq_some_iff _ _ _ _).mp hlive
        have hcontinues := h.live snapshot hmem id machine hlive
        exact h.add_head { snapshot with
          serial := store.nextSerial
          breakpoints := snapshot.breakpoints.toggle position }
            (Nat.le_of_lt (Array.getElem?_eq_some_iff.mp hat).1) rfl hcounter
            (fun _ => { hcontinues with })

end Sound

end Store

namespace Session

/-- What holds of a session at any time, whatever came of its commands. -/
def Sound (session : Session) : Prop :=
  session.store.Sound session.snapshots

theorem Sound.keep {session : Session} {produced : Store × Except Abort Snapshot}
    (hproduced : produced.1.Sound (produced.2.toOption.toList ++ session.snapshots)) :
    (session.keep produced).Sound := by
  rcases produced with ⟨store, cause | next⟩
  · exact hproduced
  · exact hproduced.weaken (by simp [Session.keep, Except.toOption])

theorem Sound.attempt {session : Session} (h : session.Sound) (index : Nat) (command : Command) :
    (session.attempt index command).Sound := by
  unfold Session.attempt
  cases hat : session.snapshots[index]? with
  | none => exact h
  | some snapshot =>
      have hmem : snapshot ∈ session.snapshots := List.mem_of_getElem? hat
      cases command with
      | step => exact .keep (Store.Sound.step h hmem)
      | runToCompletion maxSteps => exact .keep (Store.Sound.run h hmem _ _)
      | runToBreakpoint maxSteps =>
          dsimp only
          rw [Store.runToBreakpoint_eq_run]
          exact .keep (Store.Sound.run h hmem _ _)
      | toggle position =>
          dsimp only
          split
          · exact h
          · rename_i store next htoggle
            exact .keep (Store.Sound.toggle h hmem htoggle)

theorem Sound.pursue {session : Session} (h : session.Sound) (commands : List (Nat × Command)) :
    (session.pursue commands).Sound := by
  induction commands generalizing session with
  | nil => exact h
  | cons entry commands ih => exact ih (h.attempt entry.1 entry.2)

theorem sound_pursue_start (unlocking locking : List Instruction) (breakpoints : List Int)
    (check? : Option SignatureCheck) (rules : Rules) (commands : List (Nat × Command)) :
    ((start unlocking locking breakpoints check? rules).pursue commands).Sound := by
  have hstart : (start unlocking locking breakpoints check? rules).Sound :=
    Store.sound_start unlocking locking breakpoints check? rules
  exact hstart.pursue commands

end Session

end Lockstep
