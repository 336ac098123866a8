import Lockstep.Transaction.Validity
import Mathlib.Algebra.BigOperators.Ring.Finset
import Mathlib.Data.List.Perm.Basic

namespace Lockstep

/-- The value of an unspent output; an output without an entry holds nothing. -/
def UtxoSet.valueOf (utxos : UtxoSet) (outpoint : Outpoint) : Int :=
  ((utxos.find? outpoint).map TxOutput.value).getD 0

theorem totalValue_eq_sum (values : List Int) : totalValue values = values.sum :=
  rfl

namespace Transaction

variable {rules : Rules} {tx : Transaction} {utxos : UtxoSet}

/-- The outputs that a transaction spends, in the order of its inputs. -/
def outpoints (tx : Transaction) : List Outpoint :=
  tx.inputs.map TxInput.outpoint

def inputTotal (tx : Transaction) (utxos : UtxoSet) : Int :=
  totalValue (tx.outpoints.map utxos.valueOf)

/-- The value of the outputs that a transaction spends, each taken once. -/
def spentTotal (tx : Transaction) (utxos : UtxoSet) : Int :=
  ∑ outpoint ∈ tx.outpoints.toFinset, utxos.valueOf outpoint

/-- Whether an input, which stands at an index, spends an output that is unspent and unlocks it. -/
def InputUnlocks [Curve.Ecdsa] (rules : Rules) (tx : Transaction) (utxos : UtxoSet) (index : Nat)
    (input : TxInput) : Prop :=
  ∃ output, utxos.find? input.outpoint = some output ∧
    tx.verifyInput rules index output.locking = .ok true

theorem spendable_cons_iff [Curve.Ecdsa] {index : Nat} {input : TxInput} {rest : List TxInput}
    {total : Int} :
    tx.spendable rules utxos index (input :: rest) = .ok (some total) ↔
      tx.InputUnlocks rules utxos index input ∧ ∃ restTotal,
        tx.spendable rules utxos (index + 1) rest = .ok (some restTotal) ∧
        total = utxos.valueOf input.outpoint + restTotal := by
  simp only [spendable, InputUnlocks, UtxoSet.valueOf]
  cases utxos.find? input.outpoint with
  | none => simp
  | some output =>
      simp only [Option.some.injEq, exists_eq_left', Option.map_some, Option.getD_some]
      cases tx.verifyInput rules index output.locking with
      | error cause => simp
      | ok unlocks =>
          cases unlocks with
          | false => simp
          | true =>
              cases tx.spendable rules utxos (index + 1) rest with
              | error cause => simp
              | ok rest? =>
                  cases rest? with
                  | none => simp
                  | some restTotal => simp [eq_comm]

theorem spendable_eq_some_iff [Curve.Ecdsa] (rules : Rules) (tx : Transaction) (utxos : UtxoSet)
    (index : Nat) (inputs : List TxInput) (total : Int) :
    tx.spendable rules utxos index inputs = .ok (some total) ↔
      (∀ offset input, inputs[offset]? = some input →
        tx.InputUnlocks rules utxos (index + offset) input) ∧
      total = totalValue (inputs.map fun input => utxos.valueOf input.outpoint) := by
  induction inputs generalizing index total with
  | nil => simp [spendable, totalValue, eq_comm]
  | cons input rest ih =>
      rw [spendable_cons_iff]
      constructor
      · rintro ⟨hfirst, restTotal, hspendable, rfl⟩
        obtain ⟨hrest, rfl⟩ := (ih _ _).mp hspendable
        refine ⟨?_, rfl⟩
        intro offset other hother
        cases offset with
        | zero =>
            obtain rfl : input = other := by simpa using hother
            exact hfirst
        | succ offset =>
            rw [Nat.add_comm offset, ← Nat.add_assoc]
            exact hrest offset other (by simpa using hother)
      · rintro ⟨hunlocks, rfl⟩
        refine ⟨hunlocks 0 input rfl, _, (ih _ _).mpr ⟨?_, rfl⟩, rfl⟩
        intro offset other hother
        rw [Nat.add_assoc, Nat.add_comm 1]
        exact hunlocks (offset + 1) other (by simpa using hother)

/-- Whether every input spends an output that is unspent and unlocks it. -/
def InputsUnlock [Curve.Ecdsa] (rules : Rules) (tx : Transaction) (utxos : UtxoSet) : Prop :=
  ∀ index input, tx.inputs[index]? = some input → tx.InputUnlocks rules utxos index input

theorem inputTotal_eq (tx : Transaction) (utxos : UtxoSet) :
    tx.inputTotal utxos =
      totalValue (tx.inputs.map fun input => utxos.valueOf input.outpoint) := by
  rw [inputTotal, outpoints, List.map_map]
  rfl

theorem validate_eq_true_iff [Curve.Ecdsa] (rules : Rules) (tx : Transaction) (utxos : UtxoSet) :
    tx.validate rules utxos = .ok true ↔
      tx.InputsUnlock rules utxos ∧ tx.outputTotal ≤ tx.inputTotal utxos := by
  have hspendable := spendable_eq_some_iff rules tx utxos 0 tx.inputs
  simp only [Nat.zero_add, ← inputTotal_eq] at hspendable
  constructor
  · intro hvalid
    simp only [validate] at hvalid
    split at hvalid
    · simp at hvalid
    · simp at hvalid
    · rename_i total hsome
      obtain ⟨hunlocks, rfl⟩ := (hspendable total).mp hsome
      exact ⟨hunlocks, by simpa using hvalid⟩
  · rintro ⟨hunlocks, hle⟩
    rw [validate, (hspendable _).mpr ⟨hunlocks, rfl⟩]
    simpa using hle

theorem inputTotal_eq_sum_count (tx : Transaction) (utxos : UtxoSet) :
    tx.inputTotal utxos =
      ∑ outpoint ∈ tx.outpoints.toFinset, tx.outpoints.count outpoint * utxos.valueOf outpoint := by
  rw [inputTotal, totalValue_eq_sum, Finset.sum_list_map_count]
  simp only [nsmul_eq_mul]

theorem inputTotal_of_nodup (hnodup : tx.outpoints.Nodup) (utxos : UtxoSet) :
    tx.inputTotal utxos = tx.spentTotal utxos := by
  rw [inputTotal, totalValue_eq_sum, spentTotal, List.sum_toFinset utxos.valueOf hnodup]

/-- How the values of a transaction are compared: an output counts as often as inputs spend it.
The outputs of a valid transaction therefore hold no more than the outputs it spends if no two of
its inputs spend the same one. -/
theorem repeated_outpoints_counted_repeatedly [Curve.Ecdsa] (rules : Rules) (tx : Transaction)
    (utxos : UtxoSet) :
    (tx.validate rules utxos = .ok true ↔ tx.InputsUnlock rules utxos ∧
      tx.outputTotal ≤ ∑ outpoint ∈ tx.outpoints.toFinset,
        tx.outpoints.count outpoint * utxos.valueOf outpoint) ∧
    (tx.outpoints.Nodup → tx.validate rules utxos = .ok true →
      tx.outputTotal ≤ tx.spentTotal utxos) := by
  constructor
  · rw [validate_eq_true_iff, inputTotal_eq_sum_count]
  · intro hnodup hvalid
    rw [← inputTotal_of_nodup hnodup]
    exact ((validate_eq_true_iff rules tx utxos).mp hvalid).2

/-- Outputs of ten and of five that any input unlocks. -/
def openUtxos : UtxoSet :=
  [(⟨"c0", 0⟩, ⟨10, "OP_1"⟩), (⟨"c0", 1⟩, ⟨5, "OP_1"⟩)]

/-- A transaction that spends some of these outputs and gives out some values. -/
def openSpend (indices values : List Int) : Transaction where
  version := 1
  inputs := indices.map fun index => ⟨"c0", index, "", TxInput.finalSequence⟩
  outputs := values.map fun value => ⟨value, "OP_1"⟩
  lockTime := 0
  timestamp := .whole 0

theorem repeated_outpoints_counted_repeatedly_distinct :
    (openSpend [0, 1] [15]).outpoints.Nodup ∧
      (openSpend [0, 1] [15]).validate {} openUtxos = .ok true ∧
      (openSpend [0, 1] [15]).outputTotal ≤ (openSpend [0, 1] [15]).spentTotal openUtxos := by
  have hnodup : (openSpend [0, 1] [15]).outpoints.Nodup := by decide +kernel
  have hvalid : (openSpend [0, 1] [15]).validate {} openUtxos = .ok true := by decide +kernel
  exact ⟨hnodup, hvalid, (repeated_outpoints_counted_repeatedly _ _ _).2 hnodup hvalid⟩

theorem repeated_outpoint_outspent :
    (openSpend [0, 0] [20]).validate {} openUtxos = .ok true ∧
      (openSpend [0, 0] [20]).spentTotal openUtxos < (openSpend [0, 0] [20]).outputTotal := by
  decide +kernel

theorem outputTotal_eq_add {index : Nat} {output : TxOutput}
    (houtput : tx.outputs[index]? = some output) :
    tx.outputTotal =
      output.value + totalValue ((tx.outputs.eraseIdx index).map TxOutput.value) := by
  obtain ⟨hindex, rfl⟩ := List.getElem?_eq_some_iff.mp houtput
  have hperm := (List.getElem_cons_eraseIdx_perm hindex).map TxOutput.value
  rw [outputTotal, totalValue_eq_sum, totalValue_eq_sum, ← hperm.sum_eq, List.map_cons,
    List.sum_cons]

/-- A single output of a valid transaction holds no more than all its inputs, unless the other
outputs hold less than nothing together. -/
theorem output_bounded_unless_others_negative [Curve.Ecdsa] (rules : Rules) (tx : Transaction)
    (utxos : UtxoSet) (hvalid : tx.validate rules utxos = .ok true) (index : Nat) (output : TxOutput)
    (houtput : tx.outputs[index]? = some output)
    (hothers : 0 ≤ totalValue ((tx.outputs.eraseIdx index).map TxOutput.value)) :
    output.value ≤ tx.inputTotal utxos := by
  have hbalance := ((validate_eq_true_iff rules tx utxos).mp hvalid).2
  have hsplit := outputTotal_eq_add houtput
  omega

theorem output_bounded_unless_others_negative_change :
    (openSpend [0] [7, 3]).validate {} openUtxos = .ok true ∧
      (openSpend [0] [7, 3]).outputs[0]? = some ⟨7, "OP_1"⟩ ∧
      0 ≤ totalValue (((openSpend [0] [7, 3]).outputs.eraseIdx 0).map TxOutput.value) ∧
      7 ≤ (openSpend [0] [7, 3]).inputTotal openUtxos := by
  have hvalid : (openSpend [0] [7, 3]).validate {} openUtxos = .ok true := by decide +kernel
  have hothers : 0 ≤ totalValue (((openSpend [0] [7, 3]).outputs.eraseIdx 0).map TxOutput.value) :=
    by decide +kernel
  exact ⟨hvalid, rfl, hothers,
    output_bounded_unless_others_negative _ _ _ hvalid 0 ⟨7, "OP_1"⟩ rfl hothers⟩

theorem negative_output_lets_another_exceed :
    (∀ entry ∈ openUtxos, 0 ≤ entry.2.value) ∧
      (openSpend [0] [1000, -990]).validate {} openUtxos = .ok true ∧
      ∃ output ∈ (openSpend [0] [1000, -990]).outputs,
        (openSpend [0] [1000, -990]).inputTotal openUtxos < output.value := by
  decide +kernel

end Transaction

end Lockstep
