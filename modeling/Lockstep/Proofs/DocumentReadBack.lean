import Lockstep.Proofs.JsonReadBack
import Mathlib.Data.List.Basic

namespace Lockstep

namespace InputDocument

/-- What the text of an input is read as: its fields in the order of their names. -/
def ordered (input : InputDocument) : Json :=
  Json.object [
    ("prev_out_index", input.previousIndex), ("prev_tx_id", input.previousId),
    ("script_sig", input.unlocking), ("sequence", input.sequence)]

theorem ofJson_ordered (input : InputDocument) : ofJson input.ordered = .ok input := by
  simp [ofJson, ordered, Json.object, hasOnly, fieldOf?, CodePoints.ofString, List.lookup_cons]

end InputDocument

namespace OutputDocument

/-- What the text of an output is read as: its fields in the order of their names. -/
def ordered (output : OutputDocument) : Json :=
  Json.object [("script_pubkey", output.locking), ("value", output.value)]

theorem ofJson_ordered (output : OutputDocument) : ofJson output.ordered = .ok output := by
  simp [ofJson, ordered, Json.object, hasOnly, fieldOf?, CodePoints.ofString, List.lookup_cons]

end OutputDocument

theorem mapM_map_eq_ok {α : Type} {write : α → Json} {read : Json → Except DocumentError α}
    (hread : ∀ x, read (write x) = .ok x) (items : List α) :
    (items.map write).mapM read = .ok items := by
  induction items with
  | nil => rfl
  | cons x items ih =>
      rw [List.map_cons, List.mapM_cons, hread, ih]
      rfl

namespace TxDocument

/-- What the text of a transaction is read as: its fields in the order of their names. -/
def ordered (document : TxDocument) : Json :=
  Json.object [
    ("lock_time", document.lockTime), ("timestamp", document.timestamp),
    ("tx_in", .arr (document.inputs.map InputDocument.ordered)),
    ("tx_out", .arr (document.outputs.map OutputDocument.ordered)),
    ("version", document.version)]

theorem ofJson_ordered (document : TxDocument) : ofJson document.ordered = .ok document := by
  have hinputs := mapM_map_eq_ok InputDocument.ofJson_ordered document.inputs
  have houtputs := mapM_map_eq_ok OutputDocument.ofJson_ordered document.outputs
  simp only [ofJson, ordered, Json.object, List.map_cons, List.map_nil]
  simp [requireField, fieldOf?, CodePoints.ofString, List.lookup_cons, entriesOf, bind,
    Except.bind, hinputs, houtputs]
  rfl

end TxDocument

/-- A transaction that can be written and read back: its timestamp is whole, and all its integers
have few enough digits. -/
structure Transaction.IsWritable (tx : Transaction) : Prop where
  version : Decimal.isWritable tx.version = true
  lockTime : Decimal.isWritable tx.lockTime = true
  timestamp : ∃ seconds, tx.timestamp = .whole seconds ∧ Decimal.isWritable seconds = true
  inputs : ∀ input ∈ tx.inputs, Decimal.isWritable input.previousIndex = true ∧
    Decimal.isWritable input.sequence = true
  outputs : ∀ output ∈ tx.outputs, Decimal.isWritable output.value = true

namespace TxInput

variable {input : TxInput}

theorem writtenAs_text (hindex : Decimal.isWritable input.previousIndex = true)
    (hsequence : Decimal.isWritable input.sequence = true) :
    Json.WrittenAs input.toDocument.ordered 1 input.toDocument.text := by
  have hnames : ["prev_out_index", "prev_tx_id", "script_sig", "sequence"].map
      CodePoints.ofString |>.Nodup := by decide
  refine Json.writtenAs_entries [
    ⟨"prev_out_index", .int input.previousIndex, (Json.int input.previousIndex).write⟩,
    ⟨"prev_tx_id", .string input.previousId, (Json.string input.previousId).write⟩,
    ⟨"script_sig", .string input.unlocking, (Json.string input.unlocking).write⟩,
    ⟨"sequence", .int input.sequence, (Json.int input.sequence).write⟩] ?_ hnames
  simp only [List.forall_mem_cons]
  exact ⟨Json.writtenAs_int hindex, Json.writtenAs_string _, Json.writtenAs_string _,
    Json.writtenAs_int hsequence, by simp⟩

end TxInput

namespace TxOutput

variable {output : TxOutput}

theorem writtenAs_text (hvalue : Decimal.isWritable output.value = true) :
    Json.WrittenAs output.toDocument.ordered 1 output.toDocument.text := by
  have hnames : ["script_pubkey", "value"].map CodePoints.ofString |>.Nodup := by decide
  refine Json.writtenAs_entries [
    ⟨"script_pubkey", .string output.locking, (Json.string output.locking).write⟩,
    ⟨"value", .int output.value, (Json.int output.value).write⟩] ?_ hnames
  simp only [List.forall_mem_cons]
  exact ⟨Json.writtenAs_string _, Json.writtenAs_int hvalue, by simp⟩

end TxOutput

namespace Json

theorem itemLevels_le_of_forall {items : List Json} {limit : Nat}
    (hitems : ∀ item ∈ items, item.levels ≤ limit) : itemLevels items ≤ limit := by
  induction items with
  | nil => exact Nat.zero_le limit
  | cons item items ih =>
      rw [List.forall_mem_cons] at hitems
      exact Nat.max_le.mpr ⟨hitems.1, ih hitems.2⟩

end Json

namespace Transaction

variable {tx : Transaction}

theorem levels_toJson_le (tx : Transaction) : tx.toDocument.toJson.levels ≤ 4 := by
  have hinputs : Json.itemLevels (tx.toDocument.inputs.map InputDocument.toJson) ≤ 2 := by
    apply Json.itemLevels_le_of_forall
    intro item hitem
    obtain ⟨document, hdocument, rfl⟩ := List.mem_map.mp hitem
    obtain ⟨input, hinput, rfl⟩ := List.mem_map.mp hdocument
    exact Nat.le_refl 2
  have houtputs : Json.itemLevels (tx.toDocument.outputs.map OutputDocument.toJson) ≤ 2 := by
    apply Json.itemLevels_le_of_forall
    intro item hitem
    obtain ⟨document, hdocument, rfl⟩ := List.mem_map.mp hitem
    obtain ⟨output, houtput, rfl⟩ := List.mem_map.mp hdocument
    exact Nat.le_refl 2
  have htimestamp : tx.toDocument.timestamp.levels = 0 := by
    change tx.timestamp.toJson.levels = 0
    cases tx.timestamp <;> rfl
  have hversion : tx.toDocument.version.levels = 0 := rfl
  have hlockTime : tx.toDocument.lockTime.levels = 0 := rfl
  simp [TxDocument.toJson, Json.object, Json.levels, Json.fieldLevels, hversion, hlockTime,
    htimestamp]
  omega

theorem isWritable_toJson (htx : tx.IsWritable) : tx.toDocument.toJson.isWritable = true := by
  obtain ⟨seconds, hseconds, hsecondsWritable⟩ := htx.timestamp
  have hinputs : Json.itemsWritable (tx.toDocument.inputs.map InputDocument.toJson) = true := by
    rw [Json.itemsWritable_eq_all, List.all_eq_true]
    intro item hitem
    obtain ⟨document, hdocument, rfl⟩ := List.mem_map.mp hitem
    obtain ⟨input, hinput, rfl⟩ := List.mem_map.mp hdocument
    obtain ⟨hindex, hsequence⟩ := htx.inputs input hinput
    simp [InputDocument.toJson, TxInput.toDocument, Json.object, Json.string, Json.isWritable,
      Json.fieldsWritable, hindex, hsequence]
  have houtputs : Json.itemsWritable (tx.toDocument.outputs.map OutputDocument.toJson) = true := by
    rw [Json.itemsWritable_eq_all, List.all_eq_true]
    intro item hitem
    obtain ⟨document, hdocument, rfl⟩ := List.mem_map.mp hitem
    obtain ⟨output, houtput, rfl⟩ := List.mem_map.mp hdocument
    simp [OutputDocument.toJson, TxOutput.toDocument, Json.object, Json.string, Json.isWritable,
      Json.fieldsWritable, htx.outputs output houtput]
  have hversion : tx.toDocument.version.isWritable = true := htx.version
  have hlockTime : tx.toDocument.lockTime.isWritable = true := htx.lockTime
  have htimestamp : tx.toDocument.timestamp.isWritable = true := by
    change tx.timestamp.toJson.isWritable = true
    rw [hseconds]
    exact hsecondsWritable
  simp only [TxDocument.toJson, Json.object, List.map_cons, List.map_nil, Json.isWritable,
    Json.fieldsWritable, hinputs, houtputs, hversion, hlockTime, htimestamp, Bool.and_self]

theorem writtenAs_text (htx : tx.IsWritable) :
    Json.WrittenAs tx.toDocument.ordered 3 tx.toDocument.text := by
  obtain ⟨seconds, hseconds, hsecondsWritable⟩ := htx.timestamp
  have hinputs : Json.WrittenAs (.arr (tx.toDocument.inputs.map InputDocument.ordered)) 2
      (Json.writeList (tx.toDocument.inputs.map InputDocument.text)) := by
    apply Json.writtenAs_list
    intro document hdocument
    obtain ⟨input, hinput, rfl⟩ := List.mem_map.mp hdocument
    exact TxInput.writtenAs_text (htx.inputs input hinput).1 (htx.inputs input hinput).2
  have houtputs : Json.WrittenAs (.arr (tx.toDocument.outputs.map OutputDocument.ordered)) 2
      (Json.writeList (tx.toDocument.outputs.map OutputDocument.text)) := by
    apply Json.writtenAs_list
    intro document hdocument
    obtain ⟨output, houtput, rfl⟩ := List.mem_map.mp hdocument
    exact TxOutput.writtenAs_text (htx.outputs output houtput)
  have htimestamp : Json.WrittenAs tx.timestamp.toJson 0 tx.timestamp.toJson.write := by
    rw [hseconds]
    exact Json.writtenAs_int hsecondsWritable
  have hnames : ["lock_time", "timestamp", "tx_in", "tx_out", "version"].map
      CodePoints.ofString |>.Nodup := by decide
  refine Json.writtenAs_entries [
    ⟨"lock_time", .int tx.lockTime, (Json.int tx.lockTime).write⟩,
    ⟨"timestamp", tx.timestamp.toJson, tx.timestamp.toJson.write⟩,
    ⟨"tx_in", _, Json.writeList (tx.toDocument.inputs.map InputDocument.text)⟩,
    ⟨"tx_out", _, Json.writeList (tx.toDocument.outputs.map OutputDocument.text)⟩,
    ⟨"version", .int tx.version, (Json.int tx.version).write⟩] ?_ hnames
  simp only [List.forall_mem_cons]
  exact ⟨(Json.writtenAs_int htx.lockTime).weaken (by decide), htimestamp.weaken (by decide),
    hinputs, houtputs, (Json.writtenAs_int htx.version).weaken (by decide), by simp⟩

theorem serialize_eq (htx : tx.IsWritable) :
    tx.serialize = .ok (tx.toDocument.text.map fun c => UInt8.ofNat c.toNat) := by
  apply TxDocument.serialize_eq
  · exact Nat.le_trans (levels_toJson_le tx) (by decide)
  · exact isWritable_toJson htx

theorem deserialize_text (htx : tx.IsWritable) :
    TxDocument.deserialize (tx.toDocument.text.map fun c => UInt8.ofNat c.toNat) =
      .ok tx.toDocument := by
  have hwritten := writtenAs_text htx
  rw [TxDocument.deserialize, Text.ofUtf8?_ascii hwritten.ascii]
  simp only [hwritten.read_eq (by decide), TxDocument.ofJson_ordered]

end Transaction

theorem TxInput.toDocument_injective : Function.Injective TxInput.toDocument := by
  rintro ⟨id, index, script, sequence⟩ ⟨id', index', script', sequence'⟩ heq
  simp only [toDocument, InputDocument.mk.injEq, Json.int.injEq] at heq
  obtain ⟨hid, rfl, hscript, rfl⟩ := heq
  rw [Json.string_injective hid, Json.string_injective hscript]

theorem TxOutput.toDocument_injective : Function.Injective TxOutput.toDocument := by
  rintro ⟨value, script⟩ ⟨value', script'⟩ heq
  simp only [toDocument, OutputDocument.mk.injEq, Json.int.injEq] at heq
  obtain ⟨rfl, hscript⟩ := heq
  rw [Json.string_injective hscript]

theorem Timestamp.toJson_injective : Function.Injective Timestamp.toJson := by
  rintro (seconds | seconds) (seconds' | seconds') heq
  · rw [Json.int.inj heq]
  · cases heq
  · cases heq
  · rw [Json.double.inj heq]

namespace Transaction

theorem toDocument_injective : Function.Injective Transaction.toDocument := by
  rintro ⟨version, inputs, outputs, lockTime, timestamp⟩
    ⟨version', inputs', outputs', lockTime', timestamp'⟩ heq
  simp only [toDocument, TxDocument.mk.injEq, Json.int.injEq] at heq
  obtain ⟨rfl, hinputs, houtputs, rfl, htimestamp⟩ := heq
  rw [List.map_injective_iff.mpr TxInput.toDocument_injective hinputs,
    List.map_injective_iff.mpr TxOutput.toDocument_injective houtputs,
    Timestamp.toJson_injective htimestamp]

theorem eq_of_serialize_eq {first second : Transaction} (hfirst : first.IsWritable)
    (hsecond : second.IsWritable) (heq : first.serialize = second.serialize) : first = second := by
  rw [serialize_eq hfirst, serialize_eq hsecond, Except.ok.injEq] at heq
  have hread := deserialize_text hfirst
  rw [heq, deserialize_text hsecond, Except.ok.injEq] at hread
  exact toDocument_injective hread.symm

/-- What is written is read back. A transaction with a whole timestamp and integers that can be
written has bytes, and these are read as its document, which no other transaction has. -/
theorem serialized_transaction_read_back (tx : Transaction) (htx : tx.IsWritable) :
    ∃ bytes, tx.serialize = .ok bytes ∧ TxDocument.deserialize bytes = .ok tx.toDocument ∧
      ∀ other : Transaction, other.toDocument = tx.toDocument → other = tx := by
  refine ⟨_, serialize_eq htx, deserialize_text htx, ?_⟩
  intro other hother
  exact toDocument_injective hother

/-- A transaction with all that needs care in text: quotes, a backslash, control characters,
characters beyond ASCII and beyond 16 bits, text that looks like a document, and integers on both
sides of zero. -/
def awkwardTransaction : Transaction where
  version := -2
  inputs := [⟨"\"\\\n\x00\x7f", -1, "\x7b\"value\": 1\x7d", 0⟩,
    ⟨"", 0, "é😀\ufffd", 18446744073709551616⟩]
  outputs := [⟨-990, "], \\ud83d"⟩]
  lockTime := 0
  timestamp := .whole 1700000000

theorem isWritable_awkwardTransaction : awkwardTransaction.IsWritable where
  version := by decide +kernel
  lockTime := by decide +kernel
  timestamp := ⟨1700000000, rfl, by decide +kernel⟩
  inputs := by decide +kernel
  outputs := by decide +kernel

theorem serialized_transaction_read_back_awkward :
    awkwardTransaction.IsWritable ∧
      ∃ bytes, awkwardTransaction.serialize = .ok bytes ∧
        TxDocument.deserialize bytes = .ok awkwardTransaction.toDocument ∧
        ∀ other : Transaction, other.toDocument = awkwardTransaction.toDocument →
          other = awkwardTransaction :=
  ⟨isWritable_awkwardTransaction,
    serialized_transaction_read_back _ isWritable_awkwardTransaction⟩

end Transaction

end Lockstep
