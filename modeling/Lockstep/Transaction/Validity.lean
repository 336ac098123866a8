import Lockstep.Debugger.Store
import Lockstep.Script.Assembly
import Lockstep.Transaction.Sighash

namespace Lockstep

/-- Runs to completion again and again until the run is over, whatever breakpoints it meets. The
fuel is more than the number of instructions. -/
def Store.runThrough : Nat → Store → Snapshot → Except Abort Snapshot
  | 0, _, snapshot => .ok snapshot
  | fuel + 1, store, snapshot =>
    match store.runToCompletion snapshot Store.defaultMaxSteps with
    | (_, .error cause) => .error cause
    | (store', .ok next) => if next.complete then .ok next else runThrough fuel store' next

/-- An output of a transaction, by the identifier of the transaction and its index there. -/
structure Outpoint where
  id : String
  index : Int
deriving DecidableEq

/-- Outputs that are not spent. Of several entries for the same output, the last one counts. -/
abbrev UtxoSet := List (Outpoint × TxOutput)

def UtxoSet.find? (utxos : UtxoSet) (outpoint : Outpoint) : Option TxOutput :=
  utxos.reverse.lookup outpoint

def TxInput.outpoint (input : TxInput) : Outpoint :=
  ⟨input.previousId, input.previousIndex⟩

namespace Transaction

/-- The verdict on an input that fails. Its report names the transaction by its identifier, so the
transaction must be one that can be written. -/
def failedInput (tx : Transaction) : Except Abort Bool :=
  match tx.serialize with
  | .error cause => .error cause
  | .ok _ => .ok false

variable [Curve.Ecdsa]

/-- Whether an input unlocks a locking script: both scripts can be read, and run one after the
other they may spend. -/
def verifyInput (rules : Rules) (tx : Transaction) (index : Int) (locking : String) :
    Except Abort Bool :=
  match tx.input? index with
  | none => .error (Position.refusal index .outsideTransaction)
  | some input =>
    match Script.parse input.unlocking, Script.parse locking with
    | .ok unlocking, .ok locking =>
      let (store, snapshot) := Store.start unlocking locking [] (some (tx.checkFor index)) rules
      match store.runThrough (snapshot.setup.program.size + 1) snapshot with
      | .error cause => .error cause
      | .ok final =>
        if final.fault?.isSome then tx.failedInput else .ok (final.complete && final.valid)
    | _, _ => tx.failedInput

/-- The value of the outputs that inputs, counted from an index on, spend and unlock; none if one
of them is spent already or does not unlock. -/
def spendable (rules : Rules) (tx : Transaction) (utxos : UtxoSet) :
    Nat → List TxInput → Except Abort (Option Int)
  | _, [] => .ok (some 0)
  | index, input :: rest =>
    match utxos.find? input.outpoint with
    | none => .ok none
    | some output =>
      match tx.verifyInput rules index output.locking with
      | .error cause => .error cause
      | .ok false => .ok none
      | .ok true =>
        match spendable rules tx utxos (index + 1) rest with
        | .error cause => .error cause
        | .ok none => .ok none
        | .ok (some total) => .ok (some (output.value + total))

def outputTotal (tx : Transaction) : Int :=
  totalValue (tx.outputs.map TxOutput.value)

/-- Whether a transaction is valid: its inputs are unspent and unlock, and it does not give out
more than they hold. -/
def validate (rules : Rules) (tx : Transaction) (utxos : UtxoSet) : Except Abort Bool :=
  match tx.spendable rules utxos 0 tx.inputs with
  | .error cause => .error cause
  | .ok none => .ok false
  | .ok (some total) => .ok (tx.outputTotal ≤ total)

end Transaction

end Lockstep
