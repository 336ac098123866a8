import Lockstep.Bytes.Hex
import Lockstep.Script.Opcode
import Lockstep.Script.Number

namespace Lockstep

/-- One instruction of a script: a named code, with the data that it pushes if it pushes some. -/
structure Instruction where
  name : String
  code : Int
  data : Option Bytes
deriving DecidableEq

namespace Instruction

def ofCode (code : Int) : Instruction :=
  ⟨Opcode.nameOf code, code, none⟩

/-- The instruction that pushes an item with the smallest code that can carry it. -/
def push (item : Bytes) : Instruction :=
  if item.isEmpty then ofCode Opcode.zero
  else
    let code := Opcode.forLength item.length
    ⟨Opcode.nameOf code, code, some item⟩

/-- The instruction that pushes a number: a code of its own from minus one to sixteen, otherwise
the shortest form as data. -/
def pushNumber (n : Int) : Instruction :=
  match Opcode.forNumber n with
  | .ok code => ofCode code
  | .error _ => push (ScriptNum.encode n)

def hasData (instruction : Instruction) : Bool :=
  instruction.data.isSome

/-- The text of an instruction. The name of a code with an explicit length stands in front of its
data, so that it can be told from shorter ways to push the same data. -/
def toText (instruction : Instruction) : String :=
  match instruction.data with
  | none => instruction.name
  | some item =>
    match Opcode.pushDataLimit? instruction.code with
    | some _ => instruction.name ++ " " ++ item.toHex
    | none => item.toHex

end Instruction

end Lockstep
