import Lockstep.Transaction.Document

namespace Lockstep

namespace Json

/-- Named texts as the fields of an object, in the order in which they come. -/
def writeEntries (entries : List (String × List Char)) : List Char :=
  '\x7b' :: (separated ", ".toList (entries.map fun entry =>
    writeString (CodePoints.ofString entry.1) ++ ": ".toList ++ entry.2) ++ ['\x7d'])

def writeList (texts : List (List Char)) : List Char :=
  '[' :: (separated ", ".toList texts ++ [']'])

theorem itemsWritable_eq_all (items : List Json) :
    itemsWritable items = items.all isWritable := by
  induction items with
  | nil => rfl
  | cons item items ih => rw [itemsWritable, ih, List.all_cons]

theorem fieldsWritable_eq_all (fields : List (CodePoints × Json)) :
    fieldsWritable fields = fields.all fun field => field.2.isWritable := by
  induction fields with
  | nil => rfl
  | cons field fields ih => rw [fieldsWritable, ih, List.all_cons]

theorem writeItems_eq_map (items : List Json) : writeItems items = items.map write := by
  induction items with
  | nil => rfl
  | cons item items ih =>
      rw [writeItems, ih]
      rfl

theorem write_arr (items : List Json) : (arr items).write = writeList (items.map write) := by
  rw [write, writeItems_eq_map]
  rfl

end Json

def InputDocument.text (input : InputDocument) : List Char :=
  Json.writeEntries [
    ("prev_out_index", input.previousIndex.write), ("prev_tx_id", input.previousId.write),
    ("script_sig", input.unlocking.write), ("sequence", input.sequence.write)]

def OutputDocument.text (output : OutputDocument) : List Char :=
  Json.writeEntries [
    ("script_pubkey", output.locking.write), ("value", output.value.write)]

def TxDocument.text (document : TxDocument) : List Char :=
  Json.writeEntries [
    ("lock_time", document.lockTime.write), ("timestamp", document.timestamp.write),
    ("tx_in", Json.writeList (document.inputs.map InputDocument.text)),
    ("tx_out", Json.writeList (document.outputs.map OutputDocument.text)),
    ("version", document.version.write)]

theorem InputDocument.write_toJson (input : InputDocument) : input.toJson.write = input.text := by
  have horder : ∀ id index script sequence : List Char, Json.byName [
      (CodePoints.ofString "prev_tx_id", id), (CodePoints.ofString "prev_out_index", index),
      (CodePoints.ofString "script_sig", script), (CodePoints.ofString "sequence", sequence)] =
    [(CodePoints.ofString "prev_out_index", index), (CodePoints.ofString "prev_tx_id", id),
      (CodePoints.ofString "script_sig", script),
      (CodePoints.ofString "sequence", sequence)] := by
    intro id index script sequence
    simp [Json.byName, List.mergeSort, List.MergeSort.Internal.splitInTwo, CodePoints.precedes,
      CodePoints.ofString]
  simp only [toJson, Json.object, List.map_cons, List.map_nil, Json.write, Json.writeFields]
  rw [horder]
  rfl

theorem OutputDocument.write_toJson (output : OutputDocument) :
    output.toJson.write = output.text := by
  have horder : ∀ value script : List Char, Json.byName [
      (CodePoints.ofString "value", value), (CodePoints.ofString "script_pubkey", script)] =
    [(CodePoints.ofString "script_pubkey", script), (CodePoints.ofString "value", value)] := by
    intro value script
    simp [Json.byName, List.mergeSort, List.MergeSort.Internal.splitInTwo, CodePoints.precedes,
      CodePoints.ofString]
  simp only [toJson, Json.object, List.map_cons, List.map_nil, Json.write, Json.writeFields]
  rw [horder]
  rfl

theorem TxDocument.write_toJson (document : TxDocument) :
    document.toJson.write = document.text := by
  have horder : ∀ version inputs outputs time stamp : List Char, Json.byName [
      (CodePoints.ofString "version", version), (CodePoints.ofString "tx_in", inputs),
      (CodePoints.ofString "tx_out", outputs), (CodePoints.ofString "lock_time", time),
      (CodePoints.ofString "timestamp", stamp)] =
    [(CodePoints.ofString "lock_time", time), (CodePoints.ofString "timestamp", stamp),
      (CodePoints.ofString "tx_in", inputs), (CodePoints.ofString "tx_out", outputs),
      (CodePoints.ofString "version", version)] := by
    intro version inputs outputs time stamp
    simp [Json.byName, List.mergeSort, List.MergeSort.Internal.splitInTwo, CodePoints.precedes,
      CodePoints.ofString]
  have hinputs : (document.inputs.map InputDocument.toJson).map Json.write =
      document.inputs.map InputDocument.text := by
    simp [Function.comp_def, InputDocument.write_toJson]
  have houtputs : (document.outputs.map OutputDocument.toJson).map Json.write =
      document.outputs.map OutputDocument.text := by
    simp [Function.comp_def, OutputDocument.write_toJson]
  simp only [toJson, Json.object, List.map_cons, List.map_nil]
  rw [Json.write]
  simp only [Json.writeFields, Json.write_arr, hinputs, houtputs]
  rw [horder]
  rfl

theorem TxDocument.serialize_eq {document : TxDocument}
    (hlevels : document.toJson.levels ≤ levelLimit)
    (hwritable : document.toJson.isWritable = true) :
    document.serialize = .ok (document.text.map fun c => UInt8.ofNat c.toNat) := by
  simp only [serialize, Nat.not_lt.mpr hlevels, hwritable, ↓reduceIte, write_toJson]

end Lockstep
