import Lockstep.Machine.Operation
import Lockstep.Position

/-!
The machine: a fixed program with a counter and stacks, run one instruction at a time.

A fault is recorded and stops the machine; the counter stays on the instruction and the stacks
stay as they were before it.
-/

namespace Lockstep

/-- What stays the same while a script runs: the program, which is an unlocking script followed by
a locking one, how signatures are checked, and the rules. -/
structure Setup where
  program : Array Instruction
  unlockingLength : Int
  check? : Option SignatureCheck
  rules : Rules

/-- The script that the counter is in. -/
inductive Phase where
  | unlocking
  | locking
deriving DecidableEq

def Phase.name : Phase → String
  | unlocking => "unlocking"
  | locking => "locking"

namespace Setup

def length (setup : Setup) : Int :=
  setup.program.size

/-- The instruction at a position; negative positions count from the end. -/
def instruction? (setup : Setup) (position : Int) : Option Instruction :=
  match Position.index? setup.program.size position with
  | some index => setup.program[index]?
  | none => none

def phase (setup : Setup) (position : Int) : Phase :=
  if position < setup.unlockingLength then .unlocking else .locking

end Setup

/-- A fault with the position of the counter when it was met. -/
structure Halt where
  cause : Fault
  counter : Int
deriving DecidableEq

structure Machine where
  setup : Setup
  counter : Int
  state : Stacks
  halt? : Option Halt

namespace Machine

/-- A machine that starts at a position with given stacks. -/
def resume (setup : Setup) (counter : Int) (state : Stacks) : Machine :=
  ⟨setup, counter, state, none⟩

/-- A machine that starts at the first instruction with empty stacks. -/
def start (setup : Setup) : Machine :=
  resume setup 0 ⟨[], [], []⟩

def phase (machine : Machine) : Phase :=
  machine.setup.phase machine.counter

/-- Whether the machine has stopped or passed its last instruction. -/
def isFinished (machine : Machine) : Bool :=
  machine.halt?.isSome || machine.setup.length ≤ machine.counter

/-- The machine with the counter on the next instruction, and whether there is one. A program must
not end inside a conditional. -/
def advance (machine : Machine) (state : Stacks) : Machine × Bool :=
  let counter := machine.counter + 1
  if counter = machine.setup.length ∧ !state.branches.isEmpty then
    ({ machine with counter, state, halt? := some ⟨.ifWithoutEndIf, counter⟩ }, false)
  else ({ machine with counter, state }, counter < machine.setup.length)

/-- Executes one instruction. The answer says whether there is more to run, or why the step broke
off. -/
def step (machine : Machine) : Machine × Except Abort Bool :=
  if machine.isFinished then (machine, .ok false)
  else
    match machine.setup.instruction? machine.counter with
    | none => (machine, .error (Position.refusal machine.counter .outsideProgram))
    | some instruction =>
      match instruction.execute machine.setup.rules machine.setup.check? machine.state with
      | .done state =>
        let (machine', more) := machine.advance state
        (machine', .ok more)
      | .fault cause => ({ machine with halt? := some ⟨cause, machine.counter⟩ }, .ok false)
      | .abort cause state => ({ machine with state }, .error cause)

end Machine

end Lockstep
