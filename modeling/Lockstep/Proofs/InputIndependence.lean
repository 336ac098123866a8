import Lockstep.Proofs.InputVerification
import Lockstep.Proofs.SigningPreimage

namespace Lockstep

theorem TxInput.isWritable_toJson (input : TxInput) :
    input.toDocument.toJson.isWritable =
      (Decimal.isWritable input.previousIndex && Decimal.isWritable input.sequence) := by
  simp only [toDocument, InputDocument.toJson, Json.object, Json.string, List.map_cons,
    List.map_nil, Json.isWritable, Json.fieldsWritable, Bool.true_and, Bool.and_true]

namespace Transaction

theorem isWritable_toJson_blanked (tx : Transaction) :
    tx.blanked.toDocument.toJson.isWritable = tx.toDocument.toJson.isWritable := by
  have hinputs : Json.itemsWritable (tx.blanked.toDocument.inputs.map InputDocument.toJson) =
      Json.itemsWritable (tx.toDocument.inputs.map InputDocument.toJson) := by
    rw [Json.itemsWritable_eq_all, Json.itemsWritable_eq_all]
    simp only [toDocument, blanked, List.all_map, Function.comp_def, TxInput.isWritable_toJson]
  simp only [TxDocument.toJson, Json.object, List.map_cons, List.map_nil, Json.isWritable,
    Json.fieldsWritable, hinputs]
  rfl

theorem failedInput_eq (tx : Transaction) :
    tx.failedInput =
      if tx.toDocument.toJson.isWritable then .ok false else .error .unwritableNumber := by
  have hlevels : ¬ TxDocument.levelLimit < tx.toDocument.toJson.levels :=
    Nat.not_lt.mpr (Nat.le_trans (levels_toJson_le tx) (by decide))
  simp only [failedInput, serialize, TxDocument.serialize, hlevels, ↓reduceIte]
  cases tx.toDocument.toJson.isWritable with
  | false => rfl
  | true => rfl

theorem failedInput_eq_of_blanked {first second : Transaction}
    (hblanked : first.blanked = second.blanked) : first.failedInput = second.failedInput := by
  rw [failedInput_eq, failedInput_eq, ← isWritable_toJson_blanked first, hblanked,
    isWritable_toJson_blanked]

theorem verifyInput_eq_of_blanked [Curve.Ecdsa] {first second : Transaction} {index : Int}
    (hblanked : first.blanked = second.blanked)
    (hinput : first.input? index = second.input? index) (rules : Rules) (locking : String) :
    first.verifyInput rules index locking = second.verifyInput rules index locking := by
  unfold verifyInput
  rw [hinput, checkFor_eq_of_blanked hblanked, failedInput_eq_of_blanked hblanked]

theorem input?_withUnlocking_of_ne (tx : Transaction) {i j : Nat} (hdistinct : i ≠ j)
    (unlocking : String) : (tx.withUnlocking j unlocking).input? i = tx.input? i := by
  rw [input?_natCast, input?_natCast, withUnlocking]
  exact List.getElem?_modify_ne _ _ hdistinct.symm

/-- Inputs are verified independently. Replacing the unlocking script of one input by any text
changes nothing in what verifying another input answers, be it a verdict or a reason to break
off. -/
theorem inputs_verified_independently [Curve.Ecdsa] (rules : Rules) (tx : Transaction) (i j : Nat)
    (hdistinct : i ≠ j) (unlocking locking : String) :
    (tx.withUnlocking j unlocking).verifyInput rules i locking =
      tx.verifyInput rules i locking := by
  apply verifyInput_eq_of_blanked
  · exact tx.blanked_withUnlocking j unlocking
  · exact tx.input?_withUnlocking_of_ne hdistinct unlocking

/-- Two inputs, of which the second cannot unlock anything. -/
def pairedSpend : Transaction where
  version := 1
  inputs := [⟨"c0", 0, "1", TxInput.finalSequence⟩, ⟨"c0", 1, "OP_RETURN", TxInput.finalSequence⟩]
  outputs := [⟨10, "OP_1"⟩]
  lockTime := 0
  timestamp := .whole 0

theorem inputs_verified_independently_unreadable :
    0 ≠ 1 ∧ (pairedSpend.withUnlocking 1 "no script").inputs.map TxInput.unlocking =
        ["1", "no script"] ∧
      pairedSpend.verifyInput {} (0 : Nat) "OP_VERIFY OP_NOP10 OP_1" = .ok true ∧
      (pairedSpend.withUnlocking 1 "no script").verifyInput {} (0 : Nat)
        "OP_VERIFY OP_NOP10 OP_1" = .ok true := by
  have hbefore : pairedSpend.verifyInput {} (0 : Nat) "OP_VERIFY OP_NOP10 OP_1" = .ok true := by
    decide +kernel
  have hafter := inputs_verified_independently {} pairedSpend 0 1 (by decide) "no script"
    "OP_VERIFY OP_NOP10 OP_1"
  exact ⟨by decide, rfl, hbefore, hafter.trans hbefore⟩

end Transaction

end Lockstep
