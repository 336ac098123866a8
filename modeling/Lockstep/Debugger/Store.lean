import Lockstep.Debugger.Snapshot

/-!
Debugging: stepping, running and breakpoints on snapshots.

A lineage owns the live machine behind a chain of snapshots and knows the newest of them, its head.
Only the head continues with that machine. Stepping any other snapshot begins a lineage of its own
with a machine made from the snapshot, so histories that fork never share a machine.
-/

namespace Lockstep

/-- A live machine and the serial of the one snapshot that may continue with it. -/
structure Lineage where
  machine : Machine
  head : Nat

/-- The live machines, and the serial that the next snapshot gets. -/
structure Store where
  lineages : Array Lineage
  nextSerial : Nat

/-- Why a breakpoint cannot be changed: the program has no such position. -/
structure BreakpointError where
  position : Int
  length : Nat
deriving DecidableEq

def BreakpointError.message (error : BreakpointError) : String :=
  let position := error.position
  let length := error.length
  s!"breakpoint {position} outside program of {length} instructions"

namespace Store

/-- A new store with the snapshot of a run that has not begun. -/
def start (unlocking locking : List Instruction) (breakpoints : List Int)
    (check? : Option SignatureCheck) (rules : Rules) : Store × Snapshot :=
  let setup : Setup := ⟨(unlocking ++ locking).toArray, unlocking.length, check?, rules⟩
  (⟨#[], 1⟩,
    { serial := 0
      setup
      counter := 0
      state := ⟨[], [], []⟩
      complete := false
      valid := false
      phase := setup.phase 0
      fault? := none
      breakpoints := Breakpoints.ofList breakpoints
      lineage? := none })

/-- The lineage of which a snapshot is the head, by its index, with its machine. -/
def live? (store : Store) (snapshot : Snapshot) : Option (Nat × Machine) :=
  match snapshot.lineage? with
  | none => none
  | some id =>
    match store.lineages[id]? with
    | none => none
    | some lineage =>
      if lineage.head = snapshot.serial then some (id, lineage.machine) else none

/-- The store with a lineage put at an index: in place of the one that is there, or as a new
one. -/
def put (store : Store) (id : Nat) (lineage : Lineage) : Store :=
  if id < store.lineages.size then
    { store with lineages := store.lineages.setIfInBounds id lineage }
  else { store with lineages := store.lineages.push lineage }

/-- What a machine shows after a step from a snapshot. -/
def shown (store : Store) (snapshot : Snapshot) (machine : Machine) (more : Bool) (id : Nat) :
    Snapshot :=
  let complete := !more || machine.setup.length ≤ machine.counter
  { snapshot with
    serial := store.nextSerial
    counter := machine.counter
    state := machine.state
    complete
    valid := complete && machine.halt?.isNone &&
      stackIsValid snapshot.setup.rules machine.state.main
    phase := machine.phase
    fault? := machine.halt?.map Halt.cause
    lineage? := if complete then none else some id }

/-- Executes one instruction. A run that is over stays as it is. When the step breaks off, the live
machine of a head keeps what the step did to it. -/
def step (store : Store) (snapshot : Snapshot) : Store × Except Abort Snapshot :=
  if snapshot.complete then (store, .ok snapshot)
  else
    let live := store.live? snapshot
    let (id, machine) := live.getD (store.lineages.size, snapshot.machine)
    match machine.step with
    | (machine', .error cause) =>
      (if live.isSome then store.put id ⟨machine', snapshot.serial⟩ else store, .error cause)
    | (machine', .ok more) =>
      let next := store.shown snapshot machine' more id
      let store' := store.put id ⟨machine', next.serial⟩
      ({ store' with nextSerial := store.nextSerial + 1 }, .ok next)

/-- Ends a run that has taken as many steps as it may. -/
def halt (store : Store) (snapshot : Snapshot) (limit : Int) : Store × Snapshot :=
  ({ store with nextSerial := store.nextSerial + 1 },
    { snapshot with
      serial := store.nextSerial
      complete := true
      valid := false
      fault? := some (.stepLimitExceeded limit)
      lineage? := none })

/-- Steps until the run is over, pauses or has used up its budget. -/
def run (limit : Int) (budget : Nat) (store : Store) (snapshot : Snapshot) :
    Store × Except Abort Snapshot :=
  if snapshot.complete then (store, .ok snapshot)
  else
    match budget with
    | 0 =>
      let (store', ended) := store.halt snapshot limit
      (store', .ok ended)
    | budget + 1 =>
      match store.step snapshot with
      | (store', .error cause) => (store', .error cause)
      | (store', .ok next) =>
        if next.isPaused then (store', .ok next) else run limit budget store' next

/-- Steps until the run is over or pauses. The first step is taken even from a breakpoint. After
`maxSteps` steps the run is ended. -/
def runToCompletion (store : Store) (snapshot : Snapshot) (maxSteps : Int) :
    Store × Except Abort Snapshot :=
  run maxSteps maxSteps.toNat store snapshot

/-- Leaves the breakpoint that the run stands on, if any, and steps until the next one or until the
run is over. After `maxSteps` steps the run is ended. -/
def runToBreakpoint (store : Store) (snapshot : Snapshot) (maxSteps : Int) :
    Store × Except Abort Snapshot :=
  if snapshot.isPaused then
    if maxSteps ≤ 0 then
      let (store', ended) := store.halt snapshot maxSteps
      (store', .ok ended)
    else
      match store.step snapshot with
      | (store', .error cause) => (store', .error cause)
      | (store', .ok next) =>
        if next.isPaused then (store', .ok next)
        else run (maxSteps - 1) (maxSteps - 1).toNat store' next
  else run maxSteps maxSteps.toNat store snapshot

/-- Sets or clears a breakpoint. The new snapshot takes over the machine of the old one. -/
def toggle (store : Store) (snapshot : Snapshot) (position : Int) :
    Except BreakpointError (Store × Snapshot) :=
  if position < 0 ∨ snapshot.setup.length ≤ position then
    .error ⟨position, snapshot.setup.program.size⟩
  else
    let next := { snapshot with
      serial := store.nextSerial
      breakpoints := snapshot.breakpoints.toggle position }
    let store' := match store.live? snapshot with
      | some (id, machine) => store.put id ⟨machine, next.serial⟩
      | none => store
    .ok ({ store' with nextSerial := store.nextSerial + 1 }, next)

/-- The most steps of one run where nothing else is asked for. -/
def defaultMaxSteps : Int := 10000

end Store

end Lockstep
