import Lockstep.Proofs.DocumentReadBack
import Lockstep.Transaction.Sighash

namespace Lockstep

namespace Transaction

/-- Two transactions agree in all that is signed. -/
structure AgreeOnSigned (first second : Transaction) : Prop where
  version : first.version = second.version
  lockTime : first.lockTime = second.lockTime
  timestamp : first.timestamp = second.timestamp
  outputs : first.outputs = second.outputs
  inputCount : first.inputs.length = second.inputs.length
  inputs : ∀ (position : Nat) (a b : TxInput), first.inputs[position]? = some a →
    second.inputs[position]? = some b →
      a.previousId = b.previousId ∧ a.previousIndex = b.previousIndex ∧ a.sequence = b.sequence

theorem indexBytes_natCast {index : Nat} (hindex : index < 0x100000000) :
    indexBytes index = .ok (Bytes.digitsLE 4 index) := by
  have hnonneg : ¬ (index : Int) < 0 := by omega
  have hsmall : ¬ (0xffffffff : Int) < index := by omega
  simp only [indexBytes, hnonneg, hsmall, ↓reduceIte, Int.toNat_natCast,
    Bytes.ofNatLE_eq_digitsLE]

theorem digitsLE_four_inj {first second : Nat} (hfirst : first < 0x100000000)
    (hsecond : second < 0x100000000)
    (heq : Bytes.digitsLE 4 first = Bytes.digitsLE 4 second) : first = second := by
  have hvalue := congrArg Bytes.valueLE heq
  rw [Bytes.valueLE_digitsLE, Bytes.valueLE_digitsLE] at hvalue
  rwa [Nat.mod_eq_of_lt hfirst, Nat.mod_eq_of_lt hsecond] at hvalue

theorem IsWritable.blanked {tx : Transaction} (htx : tx.IsWritable) : tx.blanked.IsWritable where
  version := htx.version
  lockTime := htx.lockTime
  timestamp := htx.timestamp
  inputs := by
    intro input hinput
    obtain ⟨original, horiginal, rfl⟩ := List.mem_map.mp hinput
    exact htx.inputs original horiginal
  outputs := htx.outputs

theorem blanked_eq_iff (first second : Transaction) :
    first.blanked = second.blanked ↔ first.AgreeOnSigned second := by
  constructor
  · intro heq
    simp only [blanked, Transaction.mk.injEq] at heq
    obtain ⟨hversion, hinputs, houtputs, hlockTime, htimestamp⟩ := heq
    refine ⟨hversion, hlockTime, htimestamp, houtputs, ?_, ?_⟩
    · simpa using congrArg List.length hinputs
    · intro position a b ha hb
      have hat := congrArg (fun inputs : List TxInput => inputs[position]?) hinputs
      simp only [List.getElem?_map, ha, hb, Option.map_some, Option.some.injEq,
        TxInput.mk.injEq] at hat
      exact ⟨hat.1, hat.2.1, hat.2.2.2⟩
  · intro hagree
    have hinputs : first.blanked.inputs = second.blanked.inputs := by
      apply List.ext_getElem
      · simpa [blanked] using hagree.inputCount
      · intro position hfirst hsecond
        simp only [blanked, List.length_map] at hfirst hsecond
        obtain ⟨hid, hindex, hsequence⟩ := hagree.inputs position _ _
          (List.getElem?_eq_getElem hfirst) (List.getElem?_eq_getElem hsecond)
        simp only [blanked, List.getElem_map, hid, hindex, hsequence]
    rcases first with ⟨version, inputs, outputs, lockTime, timestamp⟩
    obtain ⟨rfl, rfl, rfl, rfl, -, -⟩ := hagree
    simp only [blanked] at hinputs ⊢
    rw [hinputs]

theorem signingPreimage_eq_of_blanked {first second : Transaction}
    (hblanked : first.blanked = second.blanked) (index : Int) :
    first.signingPreimage index = second.signingPreimage index := by
  rw [signingPreimage, signingPreimage, hblanked]

theorem sighash_eq_of_blanked {first second : Transaction}
    (hblanked : first.blanked = second.blanked) (index : Int) :
    first.sighash index = second.sighash index := by
  rw [sighash, sighash, signingPreimage_eq_of_blanked hblanked]

theorem checkFor_eq_of_blanked [Curve.Ecdsa] {first second : Transaction}
    (hblanked : first.blanked = second.blanked) (index : Int) :
    first.checkFor index = second.checkFor index := by
  funext signature key
  rw [checkFor, checkFor, sighash_eq_of_blanked hblanked]

/-- The transaction with another unlocking script of the input at an index. -/
def withUnlocking (tx : Transaction) (index : Nat) (unlocking : String) : Transaction :=
  { tx with inputs := tx.inputs.modify index fun input => { input with unlocking } }

theorem blanked_withUnlocking (tx : Transaction) (index : Nat) (unlocking : String) :
    (tx.withUnlocking index unlocking).blanked = tx.blanked := by
  have hinputs : (tx.withUnlocking index unlocking).blanked.inputs = tx.blanked.inputs := by
    apply List.ext_getElem?
    intro position
    simp only [withUnlocking, blanked, List.getElem?_map, List.getElem?_modify]
    cases tx.inputs[position]? with
    | none => rfl
    | some input =>
        by_cases hat : index = position
        · simp [hat]
        · simp [hat]
  exact congrArg (fun inputs : List TxInput => { tx with inputs }) hinputs

theorem signingPreimage_eq {tx : Transaction} (htx : tx.IsWritable) {index : Nat}
    (hindex : index < 0x100000000) :
    tx.signingPreimage index = .ok ((tx.blanked.toDocument.text.map fun c =>
      UInt8.ofNat c.toNat) ++ Bytes.digitsLE 4 index ++ signAll) := by
  rw [signingPreimage, serialize_eq htx.blanked, indexBytes_natCast hindex]
  rfl

theorem sighash_eq {tx : Transaction} (htx : tx.IsWritable) {index : Nat}
    (hindex : index < 0x100000000) :
    tx.sighash index = .ok (Digest.doubleSha256 ((tx.blanked.toDocument.text.map fun c =>
      UInt8.ofNat c.toNat) ++ Bytes.digitsLE 4 index ++ signAll)) := by
  rw [sighash, signingPreimage_eq htx hindex]
  rfl

/-- What a signature commits to. For transactions with whole timestamps and integers that can be
written, the bytes that are signed are the same exactly if they are signed for the same input and
the transactions differ in nothing but their unlocking scripts. -/
theorem signing_preimage_commits (first second : Transaction) (hfirst : first.IsWritable)
    (hsecond : second.IsWritable) (i j : Nat) (hi : i < 0x100000000) (hj : j < 0x100000000) :
    ∃ a b, first.signingPreimage i = .ok a ∧ second.signingPreimage j = .ok b ∧
      (a = b ↔ i = j ∧ first.AgreeOnSigned second) := by
  refine ⟨_, _, signingPreimage_eq hfirst hi, signingPreimage_eq hsecond hj, ?_⟩
  rw [← blanked_eq_iff]
  constructor
  · intro heq
    obtain ⟨hbytes, hindices⟩ := List.append_inj' (List.append_cancel_right heq) (by simp)
    refine ⟨digitsLE_four_inj hi hj hindices, ?_⟩
    apply eq_of_serialize_eq hfirst.blanked hsecond.blanked
    rw [serialize_eq hfirst.blanked, serialize_eq hsecond.blanked, hbytes]
  · rintro ⟨rfl, hblanked⟩
    rw [hblanked]

theorem signing_preimage_commits_awkward :
    awkwardTransaction.IsWritable ∧ awkwardTransaction.blanked ≠ awkwardTransaction ∧
      awkwardTransaction.signingPreimage 1 = awkwardTransaction.blanked.signingPreimage 1 ∧
      awkwardTransaction.signingPreimage 1 ≠ awkwardTransaction.signingPreimage 0 := by
  have hwritable := isWritable_awkwardTransaction
  obtain ⟨a, b, ha, hb, hsame⟩ := signing_preimage_commits _ _ hwritable hwritable.blanked 1 1
    (by decide) (by decide)
  obtain ⟨c, d, hc, hd, hother⟩ := signing_preimage_commits _ _ hwritable hwritable 1 0
    (by decide) (by decide)
  refine ⟨hwritable, by decide +kernel, ?_, ?_⟩
  · have hagree := (blanked_eq_iff awkwardTransaction awkwardTransaction.blanked).mp
      (by decide +kernel)
    exact ha.trans ((congrArg Except.ok (hsame.mpr ⟨rfl, hagree⟩)).trans hb.symm)
  · intro heq
    have hbytes : c = d := Except.ok.inj (hc.symm.trans (heq.trans hd))
    exact absurd (hother.mp hbytes).1 (by decide)

end Transaction

end Lockstep
