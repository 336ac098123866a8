import Lockstep.Machine.Arithmetic
import Lockstep.Machine.Conditional
import Lockstep.Machine.Rearrange
import Lockstep.Machine.Signing
import Lockstep.Machine.Splice
import Lockstep.Script.Instruction

namespace Lockstep

/-- What the machine does for a code. -/
inductive Operation where
  | constant (n : Int)
  | nothing
  | openBranch
  /-- Change to the other branch of the innermost conditional. -/
  | switchBranch
  | closeBranch
  | verify
  | giveUp
  | toAlt
  | fromAlt
  | shuffle (kind : Shuffle)
  | dupIfTrue
  | depth
  | fetch
  | join
  | split
  | resize
  | shorten
  | measure
  | invert
  | bitwise
  | compare
  | unary
  | binary
  | within
  | digest
  | checkSignature
  | checkMultisignature
deriving DecidableEq

namespace Operation

/-- The codes that have an operation, apart from those of the numbers one to sixteen. -/
def table : List (Int × Operation) := [
  (0x00, constant 0), (0x4f, constant (-1)),
  (0x61, nothing), (0x63, openBranch), (0x64, openBranch), (0x67, switchBranch),
  (0x68, closeBranch), (0x69, verify), (0x6a, giveUp),
  (0x6b, toAlt), (0x6c, fromAlt), (0x6d, shuffle .drop2), (0x6e, shuffle .dup2),
  (0x6f, shuffle .dup3), (0x70, shuffle .over2), (0x71, shuffle .rot2), (0x72, shuffle .swap2),
  (0x73, dupIfTrue), (0x74, depth), (0x75, shuffle .drop), (0x76, shuffle .dup),
  (0x77, shuffle .nip), (0x78, shuffle .over1), (0x79, fetch), (0x7a, fetch), (0x7b, shuffle .rot),
  (0x7c, shuffle .swap), (0x7d, shuffle .tuck),
  (0x7e, join), (0x7f, split), (0x80, resize), (0x81, shorten), (0x82, measure),
  (0x83, invert), (0x84, bitwise), (0x85, bitwise), (0x86, bitwise), (0x87, compare),
  (0x88, compare),
  (0x8b, unary), (0x8c, unary), (0x8f, unary), (0x90, unary), (0x91, unary), (0x92, unary),
  (0x93, binary), (0x94, binary), (0x95, binary), (0x96, binary), (0x97, binary), (0x9a, binary),
  (0x9b, binary), (0x9c, binary), (0x9d, binary), (0x9e, binary), (0x9f, binary), (0xa0, binary),
  (0xa1, binary), (0xa2, binary), (0xa3, binary), (0xa4, binary), (0xa5, within),
  (0xa6, digest), (0xa7, digest), (0xa8, digest), (0xa9, digest), (0xaa, digest), (0xab, nothing),
  (0xac, checkSignature), (0xad, checkSignature), (0xae, checkMultisignature),
  (0xaf, checkMultisignature),
  (0xb0, nothing), (0xb1, nothing), (0xb2, nothing), (0xb3, nothing), (0xb4, nothing),
  (0xb5, nothing), (0xb6, nothing), (0xb7, nothing), (0xb8, nothing), (0xb9, nothing)]

def ofCode? (code : Int) : Option Operation :=
  if Opcode.one ≤ code ∧ code ≤ Opcode.sixteen then some (constant (code - Opcode.one + 1))
  else table.lookup code

/-- What an operation does to the main stack alone. -/
def runMain (rules : Rules) (check? : Option SignatureCheck) (name : String) (op : Operation)
    (stack : List Bytes) : Outcome (List Bytes) :=
  match op with
  | constant n => .done (ScriptNum.encode n :: stack)
  | nothing | openBranch | switchBranch | closeBranch | toAlt | fromAlt => .done stack
  | verify => Effect.verify name stack
  | giveUp => .fault .markedUnspendable
  | shuffle kind => Effect.shuffle name kind stack
  | dupIfTrue => Effect.dupIfTrue name stack
  | depth => .done (ScriptNum.encode stack.length :: stack)
  | fetch => Effect.fetch rules name stack
  | join => Effect.join rules name stack
  | split => Effect.split rules name stack
  | resize => Effect.resize rules name stack
  | shorten => Effect.shorten name stack
  | measure => Effect.measure name stack
  | invert => Effect.invert name stack
  | bitwise => Effect.bitwise name stack
  | compare => Effect.compare name stack
  | unary => Effect.unary rules name stack
  | binary => Effect.binary rules name stack
  | within => Effect.within rules name stack
  | digest => Effect.digest rules name stack
  | checkSignature => Effect.checkSignature check? name stack
  | checkMultisignature => Effect.checkMultisignature rules check? name stack

def run (rules : Rules) (check? : Option SignatureCheck) (name : String) (op : Operation)
    (state : Stacks) : Outcome Stacks :=
  match op with
  | openBranch => Effect.openBranch name state
  | switchBranch => Effect.switchBranch state
  | closeBranch => Effect.closeBranch state
  | toAlt => Effect.toAlt name state
  | fromAlt => Effect.fromAlt state
  | _ => (runMain rules check? name op state.main).map fun main => { state with main }

end Operation

namespace Instruction

/-- Whether the instruction is looked at even where instructions do not take effect. -/
def isConditional (instruction : Instruction) : Bool :=
  ["OP_IF", "OP_NOTIF", "OP_ELSE", "OP_ENDIF"].contains instruction.name

def execute (rules : Rules) (check? : Option SignatureCheck) (instruction : Instruction)
    (state : Stacks) : Outcome Stacks :=
  if !state.isExecuting && !instruction.isConditional then .done state
  else
    match instruction.data with
    | some item => .done { state with main := item :: state.main }
    | none =>
      match Operation.ofCode? instruction.code with
      | some op => op.run rules check? instruction.name state
      | none =>
        if 0 < instruction.code ∧ instruction.code ≤ Opcode.pushData4 then
          .fault (.missingData instruction.name)
        else .fault (.invalidOpcode instruction.name)

end Instruction

end Lockstep
