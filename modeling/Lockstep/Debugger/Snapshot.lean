import Lockstep.Debugger.Breakpoint

namespace Lockstep

/-- Whether a finished script may spend: a true item is on top, and nothing below it if the stack
must be clean. -/
def stackIsValid (rules : Rules) : List Bytes → Bool
  | [] => false
  | top :: rest => (!rules.cleanStack || rest.isEmpty) && ScriptNum.isTrue top

/-- A run as it stands between two instructions. -/
structure Snapshot where
  /-- Tells this snapshot from all others of its store. -/
  serial : Nat
  setup : Setup
  counter : Int
  state : Stacks
  complete : Bool
  /-- Whether the run is over and the script may spend. -/
  valid : Bool
  phase : Phase
  fault? : Option Fault
  breakpoints : Breakpoints
  lineage? : Option Nat

namespace Snapshot

def instruction? (snapshot : Snapshot) : Option Instruction :=
  if snapshot.counter < snapshot.setup.length then snapshot.setup.instruction? snapshot.counter
  else none

/-- Whether the run stands on a breakpoint and is not over. -/
def isPaused (snapshot : Snapshot) : Bool :=
  !snapshot.complete &&
    isBreakpoint snapshot.breakpoints snapshot.setup.program snapshot.counter

def nextBreakpoint? (snapshot : Snapshot) : Option Nat :=
  Lockstep.nextBreakpoint? snapshot.breakpoints snapshot.setup.program snapshot.counter

def machine (snapshot : Snapshot) : Machine :=
  Machine.resume snapshot.setup snapshot.counter snapshot.state

/-- Whether two snapshots show the same; how signatures are checked and what may continue is not
looked at. -/
def shows (a b : Snapshot) : Bool :=
  a.setup.program == b.setup.program && a.setup.unlockingLength == b.setup.unlockingLength &&
    a.counter == b.counter && a.state.main == b.state.main && a.state.alt == b.state.alt &&
    a.state.branches == b.state.branches && a.complete == b.complete && a.valid == b.valid &&
    a.phase == b.phase && a.fault?.map Fault.message == b.fault?.map Fault.message &&
    a.breakpoints == b.breakpoints

end Snapshot

end Lockstep
