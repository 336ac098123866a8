import Lockstep.Abort
import Lockstep.Json.Reader
import Lockstep.Text.Utf8
import Lockstep.Transaction.Basic

/-!
Transactions as documents.

A document has the shape of a transaction, but what its fields hold is not looked at: any JSON
value will do, and is written back as it was read.
-/

namespace Lockstep

structure InputDocument where
  previousId : Json
  previousIndex : Json
  unlocking : Json
  sequence : Json

structure OutputDocument where
  value : Json
  locking : Json

structure TxDocument where
  version : Json
  inputs : List InputDocument
  outputs : List OutputDocument
  lockTime : Json
  timestamp : Json

/-- Why bytes are not the document of a transaction. -/
inductive DocumentError where
  | notText
  | notJson (error : Json.ReadError)
  | missingField (name : String)
  /-- A value has another shape than a transaction, an input or an output. -/
  | wrongShape
deriving DecidableEq

namespace InputDocument

def toJson (input : InputDocument) : Json :=
  Json.object [
    ("prev_tx_id", input.previousId),
    ("prev_out_index", input.previousIndex),
    ("script_sig", input.unlocking),
    ("sequence", input.sequence)]

end InputDocument

namespace OutputDocument

def toJson (output : OutputDocument) : Json :=
  Json.object [("value", output.value), ("script_pubkey", output.locking)]

end OutputDocument

namespace TxDocument

def toJson (document : TxDocument) : Json :=
  Json.object [
    ("version", document.version),
    ("tx_in", .arr (document.inputs.map InputDocument.toJson)),
    ("tx_out", .arr (document.outputs.map OutputDocument.toJson)),
    ("lock_time", document.lockTime),
    ("timestamp", document.timestamp)]

/-- The most levels that writing a document may take. -/
def levelLimit : Nat := 989

def serialize (document : TxDocument) : Except Abort Bytes :=
  let value := document.toJson
  if levelLimit < value.levels then .error .nestedTooDeep
  else if value.isWritable then .ok (value.write.map fun c => UInt8.ofNat c.toNat)
  else .error .unwritableNumber

def sameValue (a b : TxDocument) : Bool :=
  a.toJson.sameValue b.toJson

end TxDocument

def fieldOf? (fields : List (CodePoints × Json)) (name : String) : Option Json :=
  fields.lookup (CodePoints.ofString name)

/-- The value of a field that must be there. -/
def requireField (fields : List (CodePoints × Json)) (name : String) :
    Except DocumentError Json :=
  match fieldOf? fields name with
  | some value => .ok value
  | none => .error (.missingField name)

/-- Whether all fields have one of the given names. -/
def hasOnly (names : List String) (fields : List (CodePoints × Json)) : Bool :=
  fields.all fun field => (names.map CodePoints.ofString).contains field.1

/-- Reads an input: an object with the fields of one, of which only the sequence number may be
left out. -/
def InputDocument.ofJson : Json → Except DocumentError InputDocument
  | .obj fields =>
    if !hasOnly ["prev_tx_id", "prev_out_index", "script_sig", "sequence"] fields then
      .error .wrongShape
    else
      match fieldOf? fields "prev_tx_id", fieldOf? fields "prev_out_index",
        fieldOf? fields "script_sig" with
      | some previousId, some previousIndex, some unlocking =>
        .ok ⟨previousId, previousIndex, unlocking,
          (fieldOf? fields "sequence").getD (.int TxInput.finalSequence)⟩
      | _, _, _ => .error .wrongShape
  | _ => .error .wrongShape

/-- Reads an output: an object with the fields of one. -/
def OutputDocument.ofJson : Json → Except DocumentError OutputDocument
  | .obj fields =>
    if !hasOnly ["value", "script_pubkey"] fields then .error .wrongShape
    else
      match fieldOf? fields "value", fieldOf? fields "script_pubkey" with
      | some value, some locking => .ok ⟨value, locking⟩
      | _, _ => .error .wrongShape
  | _ => .error .wrongShape

/-- The entries of a list of inputs or outputs. What has no entries will do for an empty list. -/
def entriesOf : Json → Except DocumentError (List Json)
  | .arr items => .ok items
  | .str [] | .obj [] => .ok []
  | _ => .error .wrongShape

namespace TxDocument

def ofJson : Json → Except DocumentError TxDocument
  | .obj fields => do
    let version ← requireField fields "version"
    let inputs ← (← entriesOf (← requireField fields "tx_in")).mapM InputDocument.ofJson
    let outputs ← (← entriesOf (← requireField fields "tx_out")).mapM OutputDocument.ofJson
    let lockTime := (fieldOf? fields "lock_time").getD (.int 0)
    let timestamp ← requireField fields "timestamp"
    return ⟨version, inputs, outputs, lockTime, timestamp⟩
  | _ => .error .wrongShape

def deserialize (bytes : Bytes) : Except DocumentError TxDocument :=
  match Text.ofUtf8? bytes with
  | none => .error .notText
  | some text =>
    match Json.read text with
    | .error e => .error (.notJson e)
    | .ok value => ofJson value

end TxDocument

def TxInput.toDocument (input : TxInput) : InputDocument where
  previousId := .string input.previousId
  previousIndex := .int input.previousIndex
  unlocking := .string input.unlocking
  sequence := .int input.sequence

def TxOutput.toDocument (output : TxOutput) : OutputDocument where
  value := .int output.value
  locking := .string output.locking

def Timestamp.toJson : Timestamp → Json
  | whole seconds => .int seconds
  | fractional seconds => .double seconds

namespace Transaction

def toDocument (tx : Transaction) : TxDocument where
  version := .int tx.version
  inputs := tx.inputs.map TxInput.toDocument
  outputs := tx.outputs.map TxOutput.toDocument
  lockTime := .int tx.lockTime
  timestamp := tx.timestamp.toJson

def serialize (tx : Transaction) : Except Abort Bytes :=
  tx.toDocument.serialize

end Transaction

end Lockstep
