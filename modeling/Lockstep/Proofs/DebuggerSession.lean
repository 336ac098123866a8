import Lockstep.Debugger.Store
import Lockstep.Proofs.MachineRuns

/-!
Sessions of the debugger: any commands on any snapshots, in any order. However the history forks,
every snapshot shows what a machine shows that was started afresh and only ever stepped.
-/

namespace Lockstep

/-- What the debugger can be asked to do with a snapshot. -/
inductive Command where
  | step
  | runToCompletion (maxSteps : Int)
  | runToBreakpoint (maxSteps : Int)
  | toggle (position : Int)
deriving DecidableEq

/-- A store with the snapshots that it has produced, oldest first. -/
structure Session where
  store : Store
  snapshots : List Snapshot

namespace Session

def start (unlocking locking : List Instruction) (breakpoints : List Int)
    (check? : Option SignatureCheck) (rules : Rules) : Session :=
  let (store, snapshot) := Store.start unlocking locking breakpoints check? rules
  ⟨store, [snapshot]⟩

def add (session : Session) : Store × Except Abort Snapshot → Except Abort Session
  | (_, .error cause) => .error cause
  | (store, .ok next) => .ok ⟨store, session.snapshots ++ [next]⟩

/-- Issues a command on the snapshot with a given number. A refused breakpoint changes nothing, and
neither does a command on a snapshot that there is not. -/
def issue (session : Session) (index : Nat) (command : Command) : Except Abort Session :=
  match session.snapshots[index]? with
  | none => .ok session
  | some snapshot =>
    match command with
    | .step => session.add (session.store.step snapshot)
    | .runToCompletion maxSteps => session.add (session.store.runToCompletion snapshot maxSteps)
    | .runToBreakpoint maxSteps => session.add (session.store.runToBreakpoint snapshot maxSteps)
    | .toggle position =>
      match session.store.toggle snapshot position with
      | .error _ => .ok session
      | .ok (store, next) => session.add (store, .ok next)

/-- Issues commands one after the other, up to the first that breaks off. -/
def replay (session : Session) : List (Nat × Command) → Except Abort Session
  | [] => .ok session
  | (index, command) :: rest =>
    match session.issue index command with
    | .error cause => .error cause
    | .ok session' => session'.replay rest

end Session

namespace Snapshot

/-- A snapshot shows a machine: counter, stacks, phase and fault are those of the machine, and the
script may spend if the run is over without a fault and the stack is valid. -/
structure Reflects (snapshot : Snapshot) (machine : Machine) : Prop where
  counter : snapshot.counter = machine.counter
  state : snapshot.state = machine.state
  phase : snapshot.phase = machine.phase
  fault : snapshot.fault? = machine.halt?.map Halt.cause
  valid : snapshot.valid = (snapshot.complete && machine.halt?.isNone &&
    stackIsValid machine.setup.rules machine.state.main)

/-- A snapshot shows where a machine gets to by stepping: somewhere on its way, at its end, or on
its way but ended by a step limit. -/
inductive Tracks (fresh : Machine) (snapshot : Snapshot) : Prop where
  | running (count : Nat) (hrun : fresh.RunsFor count) (hopen : snapshot.complete = false)
      (hreflects : snapshot.Reflects (fresh.steps count))
  | ended (final : Machine) (hends : fresh.EndsIn final) (hover : snapshot.complete = true)
      (hreflects : snapshot.Reflects final)
  | limited (count : Nat) (limit : Int) (hrun : fresh.RunsFor count)
      (hover : snapshot.complete = true)
      (hfault : snapshot.fault? = some (.stepLimitExceeded limit))
      (hcounter : snapshot.counter = count) (hstate : snapshot.state = (fresh.steps count).state)

theorem machine_eq_of_reflects {setup : Setup} {snapshot : Snapshot} {count : Nat}
    (hsetup : snapshot.setup = setup) (hrun : (Machine.start setup).RunsFor count)
    (hreflects : snapshot.Reflects ((Machine.start setup).steps count)) :
    snapshot.machine = (Machine.start setup).steps count := by
  rw [Snapshot.machine, hsetup, hreflects.counter, hreflects.state]
  have hsteps := hrun.steps_eq
  exact (congrArg (fun machine : Machine => Machine.resume setup machine.counter _) hsteps).trans
    hsteps.symm

theorem Tracks.exists_count {setup : Setup} {snapshot : Snapshot}
    (htracks : snapshot.Tracks (Machine.start setup)) (hsetup : snapshot.setup = setup)
    (hopen : snapshot.complete = false) :
    ∃ count : Nat, (Machine.start setup).RunsFor count ∧ snapshot.counter = count ∧
      snapshot.machine = (Machine.start setup).steps count := by
  cases htracks with
  | running count hrun _ hreflects =>
      exact ⟨count, hrun, hreflects.counter.trans hrun.counter_eq,
        machine_eq_of_reflects hsetup hrun hreflects⟩
  | ended _ _ hover _ => simp [hopen] at hover
  | limited _ _ _ hover _ _ _ => simp [hopen] at hover

end Snapshot

namespace Store

theorem reflects_shown (store : Store) (snapshot : Snapshot) (machine : Machine) (more : Bool)
    (id : Nat) (hsetup : snapshot.setup = machine.setup) :
    (store.shown snapshot machine more id).Reflects machine where
  counter := rfl
  state := rfl
  phase := rfl
  fault := rfl
  valid := by simp only [shown, hsetup]

theorem more_of_lineage?_shown {store : Store} {snapshot : Snapshot} {machine : Machine}
    {more : Bool} {id kept : Nat}
    (hlineage : (store.shown snapshot machine more id).lineage? = some kept) : more = true := by
  simp only [shown] at hlineage
  split at hlineage
  · simp at hlineage
  · rename_i hopen
    simp only [Bool.or_eq_true, not_or, Bool.not_eq_true', Bool.not_eq_false] at hopen
    exact hopen.1

theorem tracks_shown {setup : Setup} (store : Store) {snapshot : Snapshot} {next : Machine}
    {more : Bool} (id : Nat) (htracks : snapshot.Tracks (Machine.start setup))
    (hsetup : snapshot.setup = setup) (hopen : snapshot.complete = false)
    (hstep : snapshot.machine.step = (next, .ok more)) :
    (store.shown snapshot next more id).Tracks (Machine.start setup) := by
  obtain ⟨count, hrun, -, hmachine⟩ := htracks.exists_count hsetup hopen
  rw [hmachine] at hstep
  have hnext : next.setup = setup := by
    have := Machine.setup_step ((Machine.start setup).steps count)
    rwa [hstep, Machine.setup_steps] at this
  have hreflects := store.reflects_shown snapshot next more id (hsetup.trans hnext.symm)
  cases more with
  | false =>
      refine .ended next ⟨count, hrun, hstep⟩ ?_ hreflects
      simp [shown]
  | true =>
      have hlater : next = (Machine.start setup).steps (count + 1) := by
        rw [Machine.steps_succ, hstep]
      obtain ⟨-, -, -, -, hresume, hinside⟩ := Machine.step_more hstep
      refine .running (count + 1) ?_ ?_ (hlater ▸ hreflects)
      · exact (Machine.runsFor_succ_iff _ count).mpr ⟨hrun, by rw [hstep]⟩
      · have hcounter : next.counter < next.setup.length := by
          rw [hresume]
          exact hinside
        simp [shown, Int.not_le.mpr hcounter]

theorem live?_eq_some_iff (store : Store) (snapshot : Snapshot) (id : Nat) (machine : Machine) :
    store.live? snapshot = some (id, machine) ↔
      snapshot.lineage? = some id ∧ store.lineages[id]? = some ⟨machine, snapshot.serial⟩ := by
  unfold live?
  cases snapshot.lineage? with
  | none => simp
  | some own =>
      dsimp only
      constructor
      · intro h
        cases hat : store.lineages[own]? with
        | none => simp [hat] at h
        | some lineage =>
            rw [hat] at h
            dsimp only at h
            split at h
            · rename_i hhead
              simp only [Option.some.injEq, Prod.mk.injEq] at h
              obtain ⟨rfl, rfl⟩ := h
              exact ⟨rfl, by rw [hat, ← hhead]⟩
            · simp at h
      · rintro ⟨hown, hat⟩
        cases hown
        simp [hat]

theorem getElem?_lineages_put (store : Store) (id : Nat) (lineage : Lineage)
    (hid : id ≤ store.lineages.size) (k : Nat) :
    (store.put id lineage).lineages[k]? =
      if k = id then some lineage else store.lineages[k]? := by
  unfold put
  split
  · rename_i hinside
    simp only [Array.getElem?_setIfInBounds]
    grind
  · have hend : id = store.lineages.size := by omega
    subst hend
    simp only [Array.getElem?_push]

section Heads

variable {store : Store} {snapshot : Snapshot} {machine : Machine}

/-- The lineage that a step of a snapshot continues, by its index, and the machine that it steps. -/
def continuation (store : Store) (snapshot : Snapshot) : Nat × Machine :=
  (store.live? snapshot).getD (store.lineages.size, snapshot.machine)

theorem continuation_le (store : Store) (snapshot : Snapshot) :
    (store.continuation snapshot).1 ≤ store.lineages.size := by
  unfold continuation
  cases hlive : store.live? snapshot with
  | none => exact Nat.le_refl _
  | some live =>
      obtain ⟨-, hat⟩ := (live?_eq_some_iff _ _ _ _).mp hlive
      exact Nat.le_of_lt (Array.getElem?_eq_some_iff.mp hat).1

theorem step_of_ok {more : Bool} (hopen : snapshot.complete = false)
    (hstep : (store.continuation snapshot).2.step = (machine, .ok more)) :
    store.step snapshot =
      ({ store.put (store.continuation snapshot).1 ⟨machine, store.nextSerial⟩ with
          nextSerial := store.nextSerial + 1 },
        .ok (store.shown snapshot machine more (store.continuation snapshot).1)) := by
  unfold continuation at hstep
  simp [Store.step, continuation, hopen, hstep, shown]

theorem step_of_error {cause : Abort} (hopen : snapshot.complete = false)
    (hstep : (store.continuation snapshot).2.step = (machine, .error cause)) :
    store.step snapshot =
      (if (store.live? snapshot).isSome then
          store.put (store.continuation snapshot).1 ⟨machine, snapshot.serial⟩
        else store, .error cause) := by
  unfold continuation at hstep
  simp [Store.step, continuation, hopen, hstep]

theorem live?_put {id serial : Nat} (hid : id ≤ store.lineages.size)
    (hserial : serial ≠ snapshot.serial) (nextSerial : Nat) :
    ({ store.put id ⟨machine, serial⟩ with nextSerial } : Store).live? snapshot =
      if snapshot.lineage? = some id then none else store.live? snapshot := by
  unfold live?
  cases snapshot.lineage? with
  | none => simp
  | some own =>
      simp only [getElem?_lineages_put store id _ hid, Option.some.injEq]
      by_cases hown : own = id
      · simp [hown, hserial]
      · simp [hown]

/-- What holds of the serials and of the live machines, where each stands in a given relation to the
head of its lineage. -/
structure Heads (stands : Snapshot → Machine → Prop) (store : Store) (snapshots : List Snapshot) :
    Prop where
  serial_lt : ∀ snapshot ∈ snapshots, snapshot.serial < store.nextSerial
  head_lt : ∀ (id : Nat) (lineage : Lineage), store.lineages[id]? = some lineage →
    lineage.head < store.nextSerial
  live : ∀ snapshot ∈ snapshots, ∀ id machine,
    store.live? snapshot = some (id, machine) → stands snapshot machine

theorem heads_start (stands : Snapshot → Machine → Prop) (unlocking locking : List Instruction)
    (breakpoints : List Int) (check? : Option SignatureCheck) (rules : Rules) :
    (start unlocking locking breakpoints check? rules).1.Heads stands
      [(start unlocking locking breakpoints check? rules).2] where
  serial_lt := by
    rintro snapshot (_ | ⟨_, ⟨⟩⟩)
    exact Nat.zero_lt_one
  head_lt id lineage hat := by simp [start] at hat
  live := by
    rintro snapshot (_ | ⟨_, ⟨⟩⟩) id machine hlive
    simp [start, live?] at hlive

namespace Heads

variable {stands : Snapshot → Machine → Prop} {snapshots : List Snapshot}

theorem weaken (h : store.Heads stands snapshots) {fewer : List Snapshot}
    (hfewer : fewer ⊆ snapshots) : store.Heads stands fewer where
  serial_lt snapshot hmem := h.serial_lt snapshot (hfewer hmem)
  head_lt := h.head_lt
  live snapshot hmem := h.live snapshot (hfewer hmem)

theorem continuation (h : store.Heads stands snapshots) (hmem : snapshot ∈ snapshots)
    (hnew : stands snapshot snapshot.machine) :
    stands snapshot (store.continuation snapshot).2 := by
  unfold Store.continuation
  cases hlive : store.live? snapshot with
  | none => exact hnew
  | some live => exact h.live snapshot hmem live.1 live.2 hlive

theorem add_idle (h : store.Heads stands snapshots) (next : Snapshot)
    (hserial : next.serial = store.nextSerial) :
    ({ store with nextSerial := store.nextSerial + 1 } : Store).Heads stands
      (next :: snapshots) where
  serial_lt := by
    rintro snapshot (_ | ⟨_, hmem⟩)
    · exact Nat.lt_succ_of_le (Nat.le_of_eq hserial)
    · exact Nat.lt_succ_of_lt (h.serial_lt snapshot hmem)
  head_lt id lineage hat := Nat.lt_succ_of_lt (h.head_lt id lineage hat)
  live := by
    rintro snapshot (_ | ⟨_, hmem⟩) id machine hlive
    · obtain ⟨-, hat⟩ := (live?_eq_some_iff _ _ _ _).mp hlive
      have hlt := h.head_lt id _ hat
      -- the new serial is no head yet
      simp only [hserial, Nat.lt_irrefl] at hlt
    · exact h.live snapshot hmem id machine hlive

theorem add_head (h : store.Heads stands snapshots) (next : Snapshot) {id : Nat}
    (hid : id ≤ store.lineages.size) (hserial : next.serial = store.nextSerial)
    (hstands : next.lineage? = some id → stands next machine) :
    ({ store.put id ⟨machine, next.serial⟩ with nextSerial := store.nextSerial + 1 } :
      Store).Heads stands (next :: snapshots) where
  serial_lt := (h.add_idle next hserial).serial_lt
  head_lt := by
    intro k lineage hat
    rw [getElem?_lineages_put store id _ hid] at hat
    split at hat
    · cases hat
      exact Nat.lt_succ_of_le (Nat.le_of_eq hserial)
    · exact Nat.lt_succ_of_lt (h.head_lt k lineage hat)
  live := by
    rintro snapshot (_ | ⟨_, hmem⟩) k live hlive
    · obtain ⟨hlineage, hat⟩ := (live?_eq_some_iff _ _ _ _).mp hlive
      rw [getElem?_lineages_put store id _ hid] at hat
      split at hat
      · rename_i hk
        cases hat
        exact hstands (hk ▸ hlineage)
      · have hlt := h.head_lt k _ hat
        simp only [hserial, Nat.lt_irrefl] at hlt
    · have hother : next.serial ≠ snapshot.serial := by
        have hlt := h.serial_lt snapshot hmem
        omega
      rw [live?_put hid hother] at hlive
      split at hlive
      · simp at hlive
      · exact h.live snapshot hmem k live hlive

end Heads

end Heads

/-- What holds of a store and the snapshots that it has produced. The machine of a lineage stands
where the head of the lineage does, so that it makes no difference whether stepping a snapshot goes
on with a live machine or makes a new one. -/
structure Consistent (setup : Setup) (store : Store) (snapshots : List Snapshot) : Prop where
  setup_eq : ∀ snapshot ∈ snapshots, snapshot.setup = setup
  serial_lt : ∀ snapshot ∈ snapshots, snapshot.serial < store.nextSerial
  head_lt : ∀ (id : Nat) (lineage : Lineage), store.lineages[id]? = some lineage →
    lineage.head < store.nextSerial
  machine_eq : ∀ snapshot ∈ snapshots, ∀ id machine,
    store.live? snapshot = some (id, machine) → machine = snapshot.machine
  tracks : ∀ snapshot ∈ snapshots, snapshot.Tracks (Machine.start setup)

theorem consistent_start (unlocking locking : List Instruction) (breakpoints : List Int)
    (check? : Option SignatureCheck) (rules : Rules) :
    (start unlocking locking breakpoints check? rules).1.Consistent
      (Setup.ofScripts unlocking locking check? rules)
      [(start unlocking locking breakpoints check? rules).2] := by
  obtain ⟨hserial, hhead, hlive⟩ := heads_start (fun snapshot machine => machine = snapshot.machine)
    unlocking locking breakpoints check? rules
  refine ⟨?_, hserial, hhead, hlive, ?_⟩
  · rintro snapshot (_ | ⟨_, ⟨⟩⟩)
    rfl
  · rintro snapshot (_ | ⟨_, ⟨⟩⟩)
    exact .running 0 (Machine.runsFor_zero _) rfl ⟨rfl, rfl, rfl, rfl, rfl⟩

namespace Consistent

variable {setup : Setup} {store : Store} {snapshots : List Snapshot}

theorem weaken (h : store.Consistent setup snapshots) {fewer : List Snapshot}
    (hfewer : fewer ⊆ snapshots) : store.Consistent setup fewer where
  setup_eq snapshot hmem := h.setup_eq snapshot (hfewer hmem)
  serial_lt snapshot hmem := h.serial_lt snapshot (hfewer hmem)
  head_lt := h.head_lt
  machine_eq snapshot hmem := h.machine_eq snapshot (hfewer hmem)
  tracks snapshot hmem := h.tracks snapshot (hfewer hmem)

theorem heads (h : store.Consistent setup snapshots) :
    store.Heads (fun snapshot machine => machine = snapshot.machine) snapshots :=
  ⟨h.serial_lt, h.head_lt, h.machine_eq⟩

theorem add (h : store.Consistent setup snapshots) {store' : Store} {next : Snapshot}
    (hheads : store'.Heads (fun snapshot machine => machine = snapshot.machine)
      (next :: snapshots))
    (hsetup : next.setup = setup) (htracks : next.Tracks (Machine.start setup)) :
    store'.Consistent setup (next :: snapshots) where
  setup_eq := List.forall_mem_cons.mpr ⟨hsetup, h.setup_eq⟩
  serial_lt := hheads.serial_lt
  head_lt := hheads.head_lt
  machine_eq := hheads.live
  tracks := List.forall_mem_cons.mpr ⟨htracks, h.tracks⟩

theorem add_idle (h : store.Consistent setup snapshots) (next : Snapshot)
    (hserial : next.serial = store.nextSerial) (hsetup : next.setup = setup)
    (htracks : next.Tracks (Machine.start setup)) :
    ({ store with nextSerial := store.nextSerial + 1 } : Store).Consistent setup
      (next :: snapshots) :=
  h.add (h.heads.add_idle next hserial) hsetup htracks

theorem add_head (h : store.Consistent setup snapshots) (next : Snapshot) {id : Nat}
    {machine : Machine} (hid : id ≤ store.lineages.size)
    (hserial : next.serial = store.nextSerial) (hsetup : next.setup = setup)
    (hmachine : next.lineage? = some id → machine = next.machine)
    (htracks : next.Tracks (Machine.start setup)) :
    ({ store.put id ⟨machine, next.serial⟩ with nextSerial := store.nextSerial + 1 } :
      Store).Consistent setup (next :: snapshots) :=
  h.add (h.heads.add_head next hid hserial hmachine) hsetup htracks

/-- Stepping a snapshot steps the machine that stands where the snapshot does, whether that is a
live one or not. -/
theorem step_eq (h : store.Consistent setup snapshots) {snapshot : Snapshot}
    (hmem : snapshot ∈ snapshots) (hopen : snapshot.complete = false) {next : Machine}
    {more : Bool} (hstep : snapshot.machine.step = (next, .ok more)) :
    ∃ id ≤ store.lineages.size, store.step snapshot =
      ({ store.put id ⟨next, store.nextSerial⟩ with nextSerial := store.nextSerial + 1 },
        .ok (store.shown snapshot next more id)) := by
  have hmachine := h.heads.continuation hmem rfl
  rw [← hmachine] at hstep
  exact ⟨_, store.continuation_le snapshot, step_of_ok hopen hstep⟩

theorem step_abort (h : store.Consistent setup snapshots) {snapshot : Snapshot}
    (hmem : snapshot ∈ snapshots) (hopen : snapshot.complete = false) {next : Machine}
    {cause : Abort} (hstep : snapshot.machine.step = (next, .error cause)) :
    (store.step snapshot).2 = .error cause := by
  have hmachine := h.heads.continuation hmem rfl
  rw [← hmachine] at hstep
  rw [step_of_error hopen hstep]

theorem step (h : store.Consistent setup snapshots) {snapshot next : Snapshot} {store' : Store}
    (hmem : snapshot ∈ snapshots) (hstep : store.step snapshot = (store', .ok next)) :
    store'.Consistent setup (next :: snapshots) := by
  cases hopen : snapshot.complete with
  | true =>
      simp only [Store.step, hopen, ↓reduceIte, Prod.mk.injEq, Except.ok.injEq] at hstep
      obtain ⟨rfl, rfl⟩ := hstep
      exact h.weaken (List.cons_subset.mpr ⟨hmem, List.Subset.refl _⟩)
  | false =>
      have hsetup := h.setup_eq snapshot hmem
      rcases hmachine : snapshot.machine.step with ⟨machine, answer⟩
      cases answer with
      | error cause =>
          have habort := h.step_abort hmem hopen hmachine
          rw [hstep] at habort
          simp at habort
      | ok more =>
          obtain ⟨id, hid, heq⟩ := h.step_eq hmem hopen hmachine
          rw [hstep, Prod.mk.injEq, Except.ok.injEq] at heq
          obtain ⟨rfl, rfl⟩ := heq
          have htracks := tracks_shown store id (h.tracks snapshot hmem) hsetup hopen hmachine
          refine h.add_head (store.shown snapshot machine more id) hid rfl hsetup ?_ htracks
          intro hlineage
          have hmore := more_of_lineage?_shown hlineage
          subst hmore
          obtain ⟨-, -, -, -, hresume, -⟩ := Machine.step_more hmachine
          rw [hresume]
          rfl

theorem halt (h : store.Consistent setup snapshots) {snapshot : Snapshot}
    (hmem : snapshot ∈ snapshots) (hopen : snapshot.complete = false) (limit : Int) :
    (store.halt snapshot limit).1.Consistent setup
      ((store.halt snapshot limit).2 :: snapshots) := by
  have hsetup := h.setup_eq snapshot hmem
  obtain ⟨count, hrun, hcounter, hmachine⟩ := (h.tracks snapshot hmem).exists_count hsetup hopen
  refine h.add_idle _ rfl hsetup (.limited count limit hrun rfl rfl hcounter ?_)
  exact congrArg Machine.state hmachine

theorem run {limit : Int} {budget : Nat} {snapshot final : Snapshot} {store' : Store}
    (h : store.Consistent setup snapshots) (hmem : snapshot ∈ snapshots)
    (hrun : Store.run limit budget store snapshot = (store', .ok final)) :
    store'.Consistent setup (final :: snapshots) := by
  induction budget generalizing store snapshots snapshot with
  | zero =>
      unfold Store.run at hrun
      split at hrun
      · simp only [Prod.mk.injEq, Except.ok.injEq] at hrun
        obtain ⟨rfl, rfl⟩ := hrun
        exact h.weaken (List.cons_subset.mpr ⟨hmem, List.Subset.refl _⟩)
      · rename_i hopen
        simp only [Prod.mk.injEq, Except.ok.injEq] at hrun
        obtain ⟨rfl, rfl⟩ := hrun
        exact h.halt hmem (by simpa using hopen) limit
  | succ budget ih =>
      unfold Store.run at hrun
      split at hrun
      · simp only [Prod.mk.injEq, Except.ok.injEq] at hrun
        obtain ⟨rfl, rfl⟩ := hrun
        exact h.weaken (List.cons_subset.mpr ⟨hmem, List.Subset.refl _⟩)
      · rcases hstep : store.step snapshot with ⟨store₁, answer⟩
        cases answer with
        | error cause => simp [hstep] at hrun
        | ok next =>
            have hnext := h.step hmem hstep
            simp only [hstep] at hrun
            split at hrun
            · simp only [Prod.mk.injEq, Except.ok.injEq] at hrun
              obtain ⟨rfl, rfl⟩ := hrun
              exact hnext
            · exact (ih hnext List.mem_cons_self hrun).weaken (by grind)

theorem runToBreakpoint {snapshot final : Snapshot} {store' : Store} {maxSteps : Int}
    (h : store.Consistent setup snapshots) (hmem : snapshot ∈ snapshots)
    (hrun : store.runToBreakpoint snapshot maxSteps = (store', .ok final)) :
    store'.Consistent setup (final :: snapshots) := by
  unfold Store.runToBreakpoint at hrun
  split at hrun
  · rename_i hpaused
    split at hrun
    · simp only [Prod.mk.injEq, Except.ok.injEq] at hrun
      obtain ⟨rfl, rfl⟩ := hrun
      exact h.halt hmem (by simp_all [Snapshot.isPaused]) maxSteps
    · rcases hstep : store.step snapshot with ⟨store₁, answer⟩
      cases answer with
      | error cause => simp [hstep] at hrun
      | ok next =>
          have hnext := h.step hmem hstep
          simp only [hstep] at hrun
          split at hrun
          · simp only [Prod.mk.injEq, Except.ok.injEq] at hrun
            obtain ⟨rfl, rfl⟩ := hrun
            exact hnext
          · exact (hnext.run List.mem_cons_self hrun).weaken (by grind)
  · exact h.run hmem hrun

theorem toggle {snapshot next : Snapshot} {store' : Store} {position : Int}
    (h : store.Consistent setup snapshots) (hmem : snapshot ∈ snapshots)
    (htoggle : store.toggle snapshot position = .ok (store', next)) :
    store'.Consistent setup (next :: snapshots) := by
  unfold Store.toggle at htoggle
  split at htoggle
  · simp at htoggle
  · simp only [Except.ok.injEq, Prod.mk.injEq] at htoggle
    obtain ⟨rfl, rfl⟩ := htoggle
    have hsetup := h.setup_eq snapshot hmem
    have htracks : ({ snapshot with
        serial := store.nextSerial
        breakpoints := snapshot.breakpoints.toggle position } : Snapshot).Tracks
          (Machine.start setup) := by
      cases h.tracks snapshot hmem with
      | running count hrun hopen hreflects =>
          exact .running count hrun hopen { hreflects with }
      | ended final hends hover hreflects => exact .ended final hends hover { hreflects with }
      | limited count limit hrun hover hfault hcounter hstate =>
          exact .limited count limit hrun hover hfault hcounter hstate
    cases hlive : store.live? snapshot with
    | none => exact h.add_idle _ rfl hsetup htracks
    | some live =>
        obtain ⟨id, machine⟩ := live
        obtain ⟨-, hat⟩ := (live?_eq_some_iff _ _ _ _).mp hlive
        have hid : id < store.lineages.size := (Array.getElem?_eq_some_iff.mp hat).1
        have hmachine := h.machine_eq snapshot hmem id machine hlive
        exact h.add_head { snapshot with
          serial := store.nextSerial
          breakpoints := snapshot.breakpoints.toggle position } (Nat.le_of_lt hid) rfl hsetup
            (fun _ => hmachine) htracks

end Consistent

end Store

namespace Session

/-- What holds of a session at any time. -/
def Consistent (setup : Setup) (session : Session) : Prop :=
  session.store.Consistent setup session.snapshots

theorem consistent_start (unlocking locking : List Instruction) (breakpoints : List Int)
    (check? : Option SignatureCheck) (rules : Rules) :
    (start unlocking locking breakpoints check? rules).Consistent
      (Setup.ofScripts unlocking locking check? rules) :=
  Store.consistent_start unlocking locking breakpoints check? rules

theorem Consistent.add {setup : Setup} {session session' : Session}
    {produced : Store × Except Abort Snapshot}
    (hproduced : ∀ next, produced.2 = .ok next →
      produced.1.Consistent setup (next :: session.snapshots))
    (hadd : session.add produced = .ok session') : session'.Consistent setup := by
  rcases produced with ⟨store, answer⟩
  cases answer with
  | error cause => simp [Session.add] at hadd
  | ok next =>
      simp only [Session.add, Except.ok.injEq] at hadd
      subst hadd
      exact (hproduced next rfl).weaken (by simp)

theorem Consistent.issue {setup : Setup} {session session' : Session} {index : Nat}
    {command : Command} (h : session.Consistent setup)
    (hissue : session.issue index command = .ok session') : session'.Consistent setup := by
  unfold Session.issue at hissue
  cases hat : session.snapshots[index]? with
  | none =>
      simp only [hat, Except.ok.injEq] at hissue
      exact hissue ▸ h
  | some snapshot =>
      have hmem : snapshot ∈ session.snapshots := List.mem_of_getElem? hat
      simp only [hat] at hissue
      cases command with
      | step => exact .add (fun _ hok => Store.Consistent.step h hmem (Prod.ext rfl hok)) hissue
      | runToCompletion maxSteps =>
          exact .add (fun _ hok => Store.Consistent.run h hmem (Prod.ext rfl hok)) hissue
      | runToBreakpoint maxSteps =>
          exact .add (fun _ hok => h.runToBreakpoint hmem (Prod.ext rfl hok)) hissue
      | toggle position =>
          dsimp only at hissue
          split at hissue
          · cases hissue
            exact h
          · rename_i store next htoggle
            refine .add (fun other hok => ?_) hissue
            cases hok
            exact Store.Consistent.toggle h hmem htoggle

theorem Consistent.replay {setup : Setup} {session session' : Session}
    {commands : List (Nat × Command)} (h : session.Consistent setup)
    (hreplay : session.replay commands = .ok session') : session'.Consistent setup := by
  induction commands generalizing session with
  | nil =>
      cases hreplay
      exact h
  | cons entry commands ih =>
      obtain ⟨index, command⟩ := entry
      simp only [Session.replay] at hreplay
      split at hreplay
      · simp at hreplay
      · rename_i next hissue
        exact ih (h.issue hissue) hreplay

end Session

namespace Snapshot

theorem Tracks.state_eq {setup : Setup} {snapshot : Snapshot}
    (htracks : snapshot.Tracks (Machine.start setup)) :
    ∃ count : Nat, snapshot.counter = count ∧
      snapshot.state = ((Machine.start setup).steps count).state := by
  cases htracks with
  | running count hrun _ hreflects =>
      exact ⟨count, hreflects.counter.trans hrun.counter_eq, hreflects.state⟩
  | ended final hends _ hreflects =>
      obtain ⟨count, hcounter, hstate⟩ := hends.state_eq
      exact ⟨count, hreflects.counter.trans hcounter, hreflects.state.trans hstate⟩
  | limited count _ _ _ _ hcounter hstate => exact ⟨count, hcounter, hstate⟩

end Snapshot

/-- The debugger has no memory of how a snapshot came about. In a session of any commands on any
snapshots, in which nothing broke off, a snapshot that is not over shows the fresh machine after
exactly as many steps as its counter says, a snapshot that is over shows the fresh machine stepped
until it stops, and one that was ended by the step limit still has the stacks of the fresh machine
after as many steps as its counter says. So two snapshots at the same counter have the same
stacks. -/
theorem replay_history_independent (unlocking locking : List Instruction)
    (breakpoints : List Int) (check? : Option SignatureCheck) (rules : Rules)
    (commands : List (Nat × Command)) (session : Session)
    (hreplay : (Session.start unlocking locking breakpoints check? rules).replay commands =
      .ok session) :
    let fresh := Machine.start (Setup.ofScripts unlocking locking check? rules)
    (∀ snapshot ∈ session.snapshots,
      ((∀ limit, snapshot.fault? ≠ some (.stepLimitExceeded limit)) →
        (snapshot.complete = false → ∃ count : Nat, snapshot.counter = count ∧
          fresh.RunsFor count ∧ snapshot.Reflects (fresh.steps count)) ∧
        (snapshot.complete = true → ∃ final, fresh.EndsIn final ∧ snapshot.Reflects final)) ∧
      (∃ count : Nat, snapshot.counter = count ∧
        snapshot.state = (fresh.steps count).state)) ∧
    ∀ a ∈ session.snapshots, ∀ b ∈ session.snapshots, a.counter = b.counter →
      a.state = b.state := by
  intro fresh
  have hconsistent := (Session.consistent_start unlocking locking breakpoints check? rules).replay
    hreplay
  have htracks : ∀ snapshot ∈ session.snapshots, snapshot.Tracks fresh := hconsistent.tracks
  refine ⟨fun snapshot hmem => ⟨fun hlimit => ?_, (htracks snapshot hmem).state_eq⟩, ?_⟩
  · cases htracks snapshot hmem with
    | running count hrun hopen hreflects =>
        have hcounter := hreflects.counter.trans hrun.counter_eq
        exact ⟨fun _ => ⟨count, hcounter, hrun, hreflects⟩, fun hover => by simp [hopen] at hover⟩
    | ended final hends hover hreflects =>
        exact ⟨fun hopen => by simp [hover] at hopen, fun _ => ⟨final, hends, hreflects⟩⟩
    | limited count limit _ _ hfault _ _ => exact absurd hfault (hlimit limit)
  · intro a ha b hb hcounter
    obtain ⟨m, hm, hastate⟩ := (htracks a ha).state_eq
    obtain ⟨n, hn, hbstate⟩ := (htracks b hb).state_eq
    have hmn : m = n := by omega
    rw [hastate, hbstate, hmn]

/-- A session that forks at its first snapshot, moves a live machine by toggling, steps a snapshot
that lost its machine that way, and ends one branch by the step limit. -/
def forkedSession : Except Abort Session :=
  (Session.start [⟨"OP_1", 0x51, none⟩]
    [⟨"OP_IF", 0x63, none⟩, ⟨"OP_2", 0x52, none⟩, ⟨"OP_ENDIF", 0x68, none⟩] [] none {}).replay
      [(0, .step), (0, .step), (1, .toggle 2), (1, .step), (3, .runToCompletion 10),
        (4, .runToBreakpoint 1), (5, .runToCompletion 10)]

theorem replay_history_independent_forked : ∃ session, forkedSession = .ok session ∧
    session.snapshots.map (fun snapshot => (snapshot.counter, snapshot.complete)) =
      [(0, false), (1, false), (1, false), (1, false), (2, false), (2, false), (3, true),
        (4, true)] ∧
    ∀ a ∈ session.snapshots, ∀ b ∈ session.snapshots, a.counter = b.counter →
      a.state = b.state := by
  have hshown : forkedSession.toOption.map (fun session =>
      session.snapshots.map fun snapshot => (snapshot.counter, snapshot.complete)) =
        some [(0, false), (1, false), (1, false), (1, false), (2, false), (2, false), (3, true),
          (4, true)] := by decide +kernel
  cases hsession : forkedSession with
  | error cause => simp [hsession, Except.toOption] at hshown
  | ok session =>
      refine ⟨session, rfl, ?_, (replay_history_independent _ _ _ _ _ _ session hsession).2⟩
      simpa [hsession, Except.toOption] using hshown

end Lockstep
