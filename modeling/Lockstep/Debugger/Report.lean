import Lockstep.Debugger.Snapshot
import Lockstep.Json

namespace Lockstep

/-- An instruction of a snapshot's program with its position. -/
def Snapshot.describe (snapshot : Snapshot) (position : Nat) (instruction : Instruction) : Json :=
  Json.object [
    ("index", .int position),
    ("opcode", .string instruction.name),
    ("code", .int instruction.code),
    ("data", match instruction.data with
      | some item => .string item.toHex
      | none => .null),
    ("script", .string
      (if (position : Int) < snapshot.setup.unlockingLength then "unlock" else "lock")),
    ("breakpoint", .bool
      (isBreakpoint snapshot.breakpoints snapshot.setup.program position))]

/-- The document of a stack, bottom first. -/
def stackReport (stack : List Bytes) : Json :=
  .arr (stack.reverse.map fun item => .string item.toHex)

def Snapshot.report (snapshot : Snapshot) : Json :=
  let program := snapshot.setup.program.toList
  Json.object [
    ("program", .arr (program.zipIdx.map fun (instruction, position) =>
      snapshot.describe position instruction)),
    ("counter", .int snapshot.counter),
    ("stack", stackReport snapshot.state.main),
    ("alt_stack", stackReport snapshot.state.alt),
    ("complete", .bool snapshot.complete),
    ("valid", .bool snapshot.valid),
    ("phase", .string snapshot.phase.name),
    ("error", match snapshot.fault? with
      | some fault => .string fault.message
      | none => .null),
    ("breakpoints", .arr (snapshot.breakpoints.map .int))]

end Lockstep
