import Lockstep.Decimal.Double
import Lockstep.Position

namespace Lockstep

/-- An input: which output it spends, and the script that unlocks it. -/
structure TxInput where
  previousId : String
  previousIndex : Int
  unlocking : String
  sequence : Int
deriving DecidableEq

/-- An output: its value, and the script that locks it. -/
structure TxOutput where
  value : Int
  locking : String
deriving DecidableEq

/-- When a transaction was made: a whole or a floating-point number of seconds. -/
inductive Timestamp where
  | whole (seconds : Int)
  | fractional (seconds : Double)
deriving DecidableEq

structure Transaction where
  version : Int
  inputs : List TxInput
  outputs : List TxOutput
  lockTime : Int
  timestamp : Timestamp
deriving DecidableEq

/-- The sequence number of an input for which none is given. -/
def TxInput.finalSequence : Int := 0xffffffff

/-- The input at an index; negative indices count from the end. -/
def Transaction.input? (tx : Transaction) (index : Int) : Option TxInput :=
  match Position.index? tx.inputs.length index with
  | some position => tx.inputs[position]?
  | none => none

/-- The transaction with another value of the output at an index; negative indices count from the
end. -/
def Transaction.setValue (tx : Transaction) (index value : Int) : Except Abort Transaction :=
  match Position.index? tx.outputs.length index with
  | some position =>
    .ok { tx with outputs := tx.outputs.modify position fun output => { output with value } }
  | none => .error (Position.refusal index .outsideTransaction)

def totalValue (values : List Int) : Int :=
  values.foldr (· + ·) 0

/-- The transaction with the unlocking scripts of all inputs left empty. -/
def Transaction.blanked (tx : Transaction) : Transaction :=
  { tx with inputs := tx.inputs.map fun input => { input with unlocking := "" } }

end Lockstep
