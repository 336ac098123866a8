import Lockstep.Abort
import Lockstep.Bytes.Basic
import Lockstep.Machine.Fault
import Lockstep.Script.Number

namespace Lockstep

/-- The rules that a run is held to. -/
structure Rules where
  /-- The longest item, in bytes, that is taken as a number or made by joining two. -/
  numberLimit : Int := 750000
  /-- Whether a script must leave exactly one item, or only a true one on top. -/
  cleanStack : Bool := true
  hasRipemd160 : Bool := true

/-- The stacks of a machine, top first. -/
structure Stacks where
  main : List Bytes
  alt : List Bytes
  /-- For each open conditional, innermost first, whether its current branch is taken. -/
  branches : List Bool
deriving DecidableEq

/-- Whether instructions take effect: every open conditional is in a branch that is taken. -/
def Stacks.isExecuting (state : Stacks) : Bool :=
  state.branches.all id

/-- What comes of an instruction that works on a value of type `α`. -/
inductive Outcome (α : Type) where
  /-- The instruction is done, and this is the new value. -/
  | done (value : α)
  | fault (cause : Fault)
  /-- The instruction breaks off and leaves this value behind. -/
  | abort (cause : Abort) (left : α)

namespace Outcome

/-- The same outcome seen as one of a larger value. -/
def map {α β : Type} (f : α → β) : Outcome α → Outcome β
  | done value => done (f value)
  | fault cause => fault cause
  | abort cause left => abort cause (f left)

/-- Refuses an instruction, or breaks it off if the refusal shows a number that cannot be
written. -/
def refuse {α : Type} (cause : Fault) (left : α) : Outcome α :=
  if cause.isWritable then fault cause else abort .unwritableNumber left

end Outcome

def popNumber (rules : Rules) (name : String) : List Bytes → Except Fault (Int × List Bytes)
  | [] => .error (.stackUnderflow name)
  | item :: rest =>
    if rules.numberLimit < item.length then .error (.numberTooLong name item.length)
    else .ok (ScriptNum.decode item, rest)

end Lockstep
