import Lockstep.Proofs.KeyHashLock
import Lockstep.Proofs.SigningPreimage
import Lockstep.Proofs.ValueBalance

namespace Lockstep

namespace Address

theorem hash160_toHex [Base58.Codec] {hash : Bytes} (hlength : hash.length = 20) :
    hash160 hash.toHex = .ok hash := by
  have hchars : hash.toHex.length = 40 := by rw [Bytes.length_toHex, hlength]
  rw [hash160, hexHash?, if_pos hchars, Bytes.ofSpacedHex?_toHex]

theorem lockingScriptFor_toHex [Base58.Codec] {hash : Bytes} (hlength : hash.length = 20) :
    lockingScriptFor hash.toHex = .ok (lockingScript hash) := by
  rw [lockingScriptFor, hash160_toHex hlength]
  rfl

end Address

theorem Curve.ne_nil_of_verifySignature [Ecdsa] (hnoKey : ∀ point, Ecdsa.readKey [] ≠ .ok point)
    {key signature message : Bytes} (hverify : verifySignature key signature message = .ok true) :
    key ≠ [] ∧ signature ≠ [] := by
  cases hkey : Ecdsa.readKey key with
  | error e =>
      simp only [verifySignature, hkey] at hverify
      split at hverify <;> cases hverify
  | ok point =>
      constructor
      · rintro rfl
        exact hnoKey point hkey
      · rintro rfl
        simp [verifySignature, hkey, signatureEncodings, verifyAny] at hverify

namespace Transaction

theorem outpoints_blanked (tx : Transaction) : tx.blanked.outpoints = tx.outpoints := by
  rw [outpoints, blanked, List.map_map]
  rfl

theorem verifyInput_lockingScript [Curve.Ecdsa] {rules : Rules}
    (hdigest : rules.hasRipemd160 = true) {tx : Transaction} {index : Nat} {input : TxInput}
    {signature key : Bytes}
    (hinput : tx.inputs[index]? = some input)
    (hunlocking : input.unlocking = Wallet.unlockingScript signature key)
    (hsignature : signature ≠ []) (hkey : key ≠ [])
    (hcheck : tx.checkFor index signature key = .ok true) :
    tx.verifyInput rules index (Address.lockingScript (Digest.hash160 key)) = .ok true := by
  have hsome : Digest.hash160 key ≠ [] := List.ne_nil_of_length_pos (by simp)
  have hread := Wallet.parse_unlockingScript hsignature hkey
  rw [← hunlocking] at hread
  have hexecute : Script.execute rules (some (tx.checkFor index))
      ([Instruction.push signature, Instruction.push key] ++ keyHashLock (Digest.hash160 key))
      ⟨[], [], []⟩ = .done ⟨[ScriptNum.ofBool true], [], []⟩ := by
    refine (Script.execute_append_done_iff _ _ _ _).mpr
      ⟨_, execute_pushes hsignature hkey _ _ _, ?_⟩
    exact (execute_keyHashLock_done_iff hsome _ _ _ _).mpr
      ⟨hdigest, key, signature, [], true, rfl, rfl, hcheck, rfl⟩
  have hvalid : stackIsValid rules [ScriptNum.ofBool true] = true := by
    simp [stackIsValid, isTrue_ofBool]
  have hsteps : (([Instruction.push signature, Instruction.push key] ++
      keyHashLock (Digest.hash160 key)).length : Int) ≤ Store.defaultMaxSteps := by
    simp [keyHashLock, Store.defaultMaxSteps]
  exact verifyInput_of_execute ((tx.input?_natCast index).trans hinput) hread
    (Address.parse_lockingScript hsome) hsteps hexecute rfl hvalid

end Transaction

namespace Wallet

def Coin.outpoint (coin : Coin) : Outpoint :=
  ⟨coin.id, coin.index⟩

/-- What is needed to sign an input: which one, the private key and a nonce. -/
structure SigningRequest where
  index : Nat
  secret : Bytes
  nonce : Nat

/-- Signs inputs one after the other, all of them for the same public key. -/
def signEach [Curve.Ecdsa] (key : Bytes) :
    List SigningRequest → Transaction → Except SigningError Transaction
  | [], tx => .ok tx
  | request :: rest, tx => do
    let next ← signInput tx request.secret key request.index request.nonce
    signEach key rest next

/-- Whether the unlocking script of an input holds some signature and the public key. -/
def IsSigned (key : Bytes) (input : TxInput) : Prop :=
  ∃ signature, input.unlocking = unlockingScript signature key

variable {coins : List Coin} {address : String} {amount : Int} {key secret : Bytes}
  {timestamp : Timestamp} {tx next signed : Transaction} {index nonce : Nat}

theorem balance_of_pay [Base58.Codec] (hpay : pay coins address amount key timestamp = .ok tx) :
    tx.outpoints = coins.map Coin.outpoint ∧
      tx.outputTotal = totalValue (coins.map Coin.value) := by
  simp only [pay] at hpay
  split at hpay
  · simp at hpay
  · split at hpay
    · simp at hpay
    · rw [Except.ok.injEq] at hpay
      subst hpay
      refine ⟨by rw [Transaction.outpoints, List.map_map]; rfl, ?_⟩
      rw [Transaction.outputTotal, totalValue_eq_sum]
      dsimp only
      split
      · simp only [List.map_cons, List.map_nil, List.sum_cons, List.sum_nil]
        omega
      · simp only [List.map_cons, List.map_nil, List.sum_cons, List.sum_nil]
        omega

section Library

variable [Curve.Ecdsa]

theorem signInput_eq_ok_iff (tx : Transaction) (secret key : Bytes) (index nonce : Nat)
    (next : Transaction) :
    signInput tx secret key index nonce = .ok next ↔
      ∃ digest number signature, tx.sighash index = .ok digest ∧
        Curve.Ecdsa.readSecret secret = .ok number ∧
        Curve.Ecdsa.sign number digest Digest.sha256 nonce = some signature ∧
        index < tx.inputs.length ∧
        next = tx.withUnlocking index (unlockingScript signature key) := by
  unfold signInput
  cases tx.sighash index with
  | error cause => simp
  | ok digest =>
      cases Curve.Ecdsa.readSecret secret with
      | error e => simp
      | ok number =>
          simp only [Except.ok.injEq, exists_and_left, exists_eq_left', Int.toNat_natCast]
          cases Curve.Ecdsa.sign number digest Digest.sha256 nonce with
          | none => simp
          | some signature =>
              simp only [Option.some.injEq, exists_eq_left']
              by_cases hindex : index < tx.inputs.length
              · simp only [hindex, ↓reduceIte, Except.ok.injEq, true_and]
                exact eq_comm
              · simp [hindex]

theorem isSigned_or_unchanged_of_signInput
    (hsign : signInput tx secret key index nonce = .ok next) {position : Nat} {input : TxInput}
    (hinput : next.inputs[position]? = some input) :
    IsSigned key input ∨ (index ≠ position ∧ tx.inputs[position]? = some input) := by
  obtain ⟨-, -, signature, -, -, -, -, rfl⟩ := (signInput_eq_ok_iff _ _ _ _ _ _).mp hsign
  simp only [Transaction.withUnlocking, List.getElem?_modify] at hinput
  obtain ⟨before, hbefore, rfl⟩ := Option.map_eq_some_iff.mp hinput
  by_cases hposition : index = position
  · refine .inl ⟨signature, ?_⟩
    simp [hposition]
  · refine .inr ⟨hposition, ?_⟩
    simpa [hposition] using hbefore

theorem blanked_of_signInput (hsign : signInput tx secret key index nonce = .ok next) :
    next.blanked = tx.blanked := by
  obtain ⟨-, -, signature, -, -, -, -, rfl⟩ := (signInput_eq_ok_iff _ _ _ _ _ _).mp hsign
  exact tx.blanked_withUnlocking index _

theorem signEach_cons_eq_ok_iff (key : Bytes) (request : SigningRequest)
    (rest : List SigningRequest) (tx signed : Transaction) :
    signEach key (request :: rest) tx = .ok signed ↔
      ∃ next, signInput tx request.secret key request.index request.nonce = .ok next ∧
        signEach key rest next = .ok signed := by
  rw [signEach]
  cases signInput tx request.secret key request.index request.nonce with
  | error e =>
      constructor
      · intro hsigned
        cases hsigned
      · rintro ⟨next, hnext, -⟩
        cases hnext
  | ok next =>
      constructor
      · intro hrest
        exact ⟨next, rfl, hrest⟩
      · rintro ⟨other, hother, hrest⟩
        cases hother
        exact hrest

/-- However many inputs are signed, what the signatures commit to stays as it is. -/
theorem blanked_of_signEach {requests : List SigningRequest}
    (hsigned : signEach key requests tx = .ok signed) : signed.blanked = tx.blanked := by
  induction requests generalizing tx with
  | nil => rw [← Except.ok.inj hsigned]
  | cons request rest ih =>
      obtain ⟨next, hnext, hrest⟩ := (signEach_cons_eq_ok_iff _ _ _ _ _).mp hsigned
      rw [ih hrest, blanked_of_signInput hnext]

theorem isSigned_or_unchanged_of_signEach {requests : List SigningRequest}
    (hsigned : signEach key requests tx = .ok signed) {position : Nat} {input : TxInput}
    (hinput : signed.inputs[position]? = some input) :
    IsSigned key input ∨
      ((∀ request ∈ requests, request.index ≠ position) ∧ tx.inputs[position]? = some input) := by
  induction requests generalizing tx with
  | nil =>
      rw [← Except.ok.inj hsigned] at hinput
      exact .inr ⟨by simp, hinput⟩
  | cons request rest ih =>
      obtain ⟨next, hnext, hrest⟩ := (signEach_cons_eq_ok_iff _ _ _ _ _).mp hsigned
      -- a later signature for the same input takes the place of an earlier one
      rcases ih hrest with hlater | ⟨hothers, hbefore⟩
      · exact .inl hlater
      · rcases isSigned_or_unchanged_of_signInput hnext hbefore with hhere | ⟨hother, hfirst⟩
        · exact .inl hhere
        · exact .inr ⟨List.forall_mem_cons.mpr ⟨hother, hothers⟩, hfirst⟩

theorem exists_sighash_of_signEach {requests : List SigningRequest}
    (hsigned : signEach key requests tx = .ok signed) :
    ∀ request ∈ requests, ∃ digest, signed.sighash request.index = .ok digest := by
  induction requests generalizing tx with
  | nil => simp
  | cons request rest ih =>
      have hblanked := blanked_of_signEach hsigned
      obtain ⟨next, hnext, hrest⟩ := (signEach_cons_eq_ok_iff _ _ _ _ _).mp hsigned
      obtain ⟨digest, -, -, hdigest, -⟩ := (signInput_eq_ok_iff _ _ _ _ _ _).mp hnext
      refine List.forall_mem_cons.mpr ⟨⟨digest, ?_⟩, ih hrest⟩
      rw [Transaction.sighash_eq_of_blanked hblanked, hdigest]

/-- Whether every signature that stands in a transaction beside a public key is accepted with that
key for the input it stands in. -/
def StoredSignaturesAccepted (tx : Transaction) (key : Bytes) : Prop :=
  ∀ (index : Nat) (input : TxInput) (signature digest : Bytes), tx.inputs[index]? = some input →
    input.unlocking = unlockingScript signature key → tx.sighash index = .ok digest →
      Curve.verifySignature key signature digest = .ok true

omit [Curve.Ecdsa] in
theorem inputTotal_of_outpoints {utxos : UtxoSet} {locking : String}
    (houtpoints : tx.outpoints = coins.map Coin.outpoint)
    (hutxos : ∀ coin ∈ coins, utxos.find? coin.outpoint = some ⟨coin.value, locking⟩) :
    tx.inputTotal utxos = totalValue (coins.map Coin.value) := by
  rw [Transaction.inputTotal, houtpoints, List.map_map]
  congr 1
  apply List.map_congr_left
  intro coin hcoin
  simp [UtxoSet.valueOf, hutxos coin hcoin]

theorem inputsUnlock_of_signEach {rules : Rules} (hdigest : rules.hasRipemd160 = true)
    {utxos : UtxoSet} {requests : List SigningRequest}
    (houtpoints : ∀ outpoint ∈ tx.outpoints, ∃ value,
      utxos.find? outpoint = some ⟨value, Address.lockingScript (Digest.hash160 key)⟩)
    (hsigned : signEach key requests tx = .ok signed)
    (hall : ∀ index < tx.inputs.length, ∃ request ∈ requests, request.index = index)
    (hnoKey : ∀ point, Curve.Ecdsa.readKey [] ≠ .ok point)
    (haccepted : StoredSignaturesAccepted signed key) : signed.InputsUnlock rules utxos := by
  intro index input hinput
  have hblanked := blanked_of_signEach hsigned
  have hsame := (Transaction.blanked_eq_iff _ _).mp hblanked
  have hindex : index < tx.inputs.length := by
    rw [← hsame.inputCount]
    exact (List.getElem?_eq_some_iff.mp hinput).1
  obtain ⟨request, hrequest, rfl⟩ := hall index hindex
  -- the input was signed at some time, whatever was signed before and after it
  obtain ⟨signature, hunlocking⟩ : IsSigned key input := by
    rcases isSigned_or_unchanged_of_signEach hsigned hinput with hhere | ⟨hothers, -⟩
    · exact hhere
    · exact absurd rfl (hothers request hrequest)
  obtain ⟨digest, hsighash⟩ := exists_sighash_of_signEach hsigned request hrequest
  have hverify := haccepted _ _ _ _ hinput hunlocking hsighash
  have hcheck := (Transaction.checkFor_of_sighash hsighash signature key).trans hverify
  have houtpoint : input.outpoint ∈ tx.outpoints := by
    rw [← tx.outpoints_blanked, ← hblanked, signed.outpoints_blanked]
    exact List.mem_map_of_mem (List.mem_of_getElem? hinput)
  obtain ⟨value, hvalue⟩ := houtpoints _ houtpoint
  obtain ⟨hkey, hsignature⟩ := Curve.ne_nil_of_verifySignature hnoKey hverify
  exact ⟨_, hvalue, Transaction.verifyInput_lockingScript hdigest hinput hunlocking hsignature hkey
    hcheck⟩

/-- A payment that is made and signed is valid. The coins that it spends are locked with the digest
of the public key; each input is signed at least once, in any order; and the signatures that are
there in the end are accepted. Its outputs hold exactly what its inputs hold. -/
theorem signed_payment_valid [Base58.Codec]
    (hnoKey : ∀ point, Curve.Ecdsa.readKey [] ≠ .ok point)
    (rules : Rules) (hdigest : rules.hasRipemd160 = true)
    (coins : List Coin) (address : String) (amount : Int) (key : Bytes) (timestamp : Timestamp)
    (tx : Transaction) (hpay : pay coins address amount key timestamp = .ok tx)
    (utxos : UtxoSet) (hutxos : ∀ coin ∈ coins, ∃ locking,
      Address.lockingScriptFor (Digest.hash160 key).toHex = .ok locking ∧
        utxos.find? ⟨coin.id, coin.index⟩ = some ⟨coin.value, locking⟩)
    (requests : List SigningRequest) (signed : Transaction)
    (hsigned : signEach key requests tx = .ok signed)
    (hall : ∀ index < tx.inputs.length, ∃ request ∈ requests, request.index = index)
    (haccepted : StoredSignaturesAccepted signed key) :
    signed.validate rules utxos = .ok true ∧
      signed.outputTotal = signed.inputTotal utxos := by
  have hlocked : ∀ coin ∈ coins, utxos.find? coin.outpoint =
      some ⟨coin.value, Address.lockingScript (Digest.hash160 key)⟩ := by
    intro coin hcoin
    obtain ⟨locking, hlocking, hfind⟩ := hutxos coin hcoin
    rw [Address.lockingScriptFor_toHex (Digest.length_hash160 key), Except.ok.injEq] at hlocking
    rw [hlocking]
    exact hfind
  obtain ⟨houtpoints, hbalance⟩ := balance_of_pay hpay
  have hblanked := blanked_of_signEach hsigned
  have hspent : signed.outpoints = coins.map Coin.outpoint := by
    rw [← signed.outpoints_blanked, hblanked, tx.outpoints_blanked, houtpoints]
  have houtputs := ((Transaction.blanked_eq_iff _ _).mp hblanked).outputs
  have htotal : signed.outputTotal = signed.inputTotal utxos := by
    rw [Transaction.outputTotal, houtputs, ← Transaction.outputTotal, hbalance,
      inputTotal_of_outpoints hspent hlocked]
  refine ⟨(Transaction.validate_eq_true_iff _ _ _).mpr ⟨?_, htotal.le⟩, htotal⟩
  apply inputsUnlock_of_signEach hdigest _ hsigned hall hnoKey haccepted
  intro outpoint houtpoint
  rw [houtpoints] at houtpoint
  obtain ⟨coin, hcoin, rfl⟩ := List.mem_map.mp houtpoint
  exact ⟨coin.value, hlocked coin hcoin⟩

end Library

theorem unlockingScript_injective {first second : Bytes}
    (heq : unlockingScript first key = unlockingScript second key) : first = second := by
  simp only [unlockingScript, String.append_left_inj] at heq
  have hread := Bytes.ofHexChars?_toHex first
  rw [heq, Bytes.ofHexChars?_toHex, Option.some.injEq] at hread
  exact hread.symm

/-- The locking script for the key with the secret one. -/
def unitLock : String :=
  "OP_DUP OP_HASH160 751e76e8199196d454941c45d1b3a323f1433bd6 OP_EQUALVERIFY OP_CHECKSIG"

/-- Coins of thirty and of twenty that this key can spend. -/
def unitCoins : List Coin :=
  [⟨"c0", 0, 30⟩, ⟨"c0", 1, 20⟩]

def unitUtxos : UtxoSet :=
  unitCoins.map fun coin => (coin.outpoint, ⟨coin.value, unitLock⟩)

def unitPayment : Transaction where
  version := 1
  inputs := unitCoins.map fun coin => ⟨coin.id, coin.index, "", TxInput.finalSequence⟩
  outputs := [⟨45,
    "OP_DUP OP_HASH160 0000000000000000000000000000000000000000 OP_EQUALVERIFY OP_CHECKSIG"⟩,
    ⟨5, unitLock⟩]
  lockTime := 0
  timestamp := .whole 0

def unitPaymentDigests : Bytes × Bytes :=
  (Bytes.ofNatBE 32 0xaf22f565ce6fe792007899ee956104ba95fbd24748cc01608a66ec97262cb761,
    Bytes.ofNatBE 32 0x0bb542bcd161c45bd900fe6db92837801669207c598513efac072b1d1bf17ac9)

/-- The signatures of these digests with the secret one. -/
def unitPaymentSignatures : Curve.Signature × Curve.Signature :=
  (⟨Curve.generator.x, 0xada74f12f1da4d4a1036ee83c6ac56ac4c636b48621a89a20aad07e6a23ed188⟩,
    ⟨Curve.generator.x, 0xee4b31dab5e5e89c4eb99664941554c71ed7a1d06ec0f8501b2ff8a076d37738⟩)

def unitHalfSigned : Transaction :=
  unitPayment.withUnlocking 1 (unlockingScript unitPaymentSignatures.2.toBytes unitKey)

def unitSigned : Transaction :=
  unitHalfSigned.withUnlocking 0 (unlockingScript unitPaymentSignatures.1.toBytes unitKey)

theorem isWritable_unitPayment : unitPayment.IsWritable where
  version := by decide +kernel
  lockTime := by decide +kernel
  timestamp := ⟨0, rfl, by decide +kernel⟩
  inputs := by decide +kernel
  outputs := by decide +kernel

theorem lockingScript_unitKey : Address.lockingScript (Digest.hash160 unitKey) = unitLock := by
  rw [hash160_unitKey]
  decide +kernel

theorem pay_unitCoins :
    pay unitCoins "0000000000000000000000000000000000000000" 45 unitKey (.whole 0) =
      .ok unitPayment := by
  have hlocking : Address.lockingScriptFor "0000000000000000000000000000000000000000" = .ok
      "OP_DUP OP_HASH160 0000000000000000000000000000000000000000 OP_EQUALVERIFY OP_CHECKSIG" := by
    decide +kernel
  rw [pay, hlocking, lockingScript_unitKey]
  rfl

/-- The first four of the blocks that are signed for both of its inputs. -/
def unitPaymentFront : Digest.Sha256.Midstate where
  front := [
    Bytes.ofNatBE 32 0x7b226c6f636b5f74696d65223a20302c202274696d657374616d70223a20302c,
    Bytes.ofNatBE 32 0x202274785f696e223a205b7b22707265765f6f75745f696e646578223a20302c,
    Bytes.ofNatBE 32 0x2022707265765f74785f6964223a20226330222c20227363726970745f736967,
    Bytes.ofNatBE 32 0x223a2022222c202273657175656e6365223a20343239343936373239357d2c20,
    Bytes.ofNatBE 32 0x7b22707265765f6f75745f696e646578223a20312c2022707265765f74785f69,
    Bytes.ofNatBE 32 0x64223a20226330222c20227363726970745f736967223a2022222c2022736571,
    Bytes.ofNatBE 32 0x75656e6365223a20343239343936373239357d5d2c202274785f6f7574223a20,
    Bytes.ofNatBE 32 0x5b7b227363726970745f7075626b6579223a20224f505f445550204f505f4841].flatten
  blocks := 4
  state := ⟨0x5b7464fd, 0x5304c445, 0xe5d2b00e, 0x8178697a,
    0x704caf96, 0x9bae0988, 0xe5e8a075, 0x3e30829d⟩
  length_front := by decide +kernel
  absorb_front := by decide +kernel

/-- The seven blocks that are signed for both of its inputs. What differs comes after them. -/
def unitPaymentMidstate : Digest.Sha256.Midstate :=
  unitPaymentFront.extend [
    Bytes.ofNatBE 32 0x5348313630203030303030303030303030303030303030303030303030303030,
    Bytes.ofNatBE 32 0x3030303030303030303030303030204f505f455155414c564552494659204f50,
    Bytes.ofNatBE 32 0x5f434845434b534947222c202276616c7565223a2034357d2c207b2273637269,
    Bytes.ofNatBE 32 0x70745f7075626b6579223a20224f505f445550204f505f484153483136302037,
    Bytes.ofNatBE 32 0x3531653736653831393931393664343534393431633435643162336133323366,
    Bytes.ofNatBE 32 0x31343333626436204f505f455155414c564552494659204f505f434845434b53].flatten 3
    ⟨0xec5a8edc, 0xcfb02519, 0x8d08e72a, 0x062b1011,
     0x95dc7dfd, 0x86642f3e, 0x42edc7b0, 0x0995ff69⟩
    (by decide +kernel) (by decide +kernel)

theorem sighash_unitPayment :
    unitPayment.sighash (0 : Nat) = .ok unitPaymentDigests.1 ∧
      unitPayment.sighash (1 : Nat) = .ok unitPaymentDigests.2 := by
  have hfirst := Transaction.sighash_eq isWritable_unitPayment (show 0 < 0x100000000 by decide)
  have hsecond := Transaction.sighash_eq isWritable_unitPayment (show 1 < 0x100000000 by decide)
  have htext : (unitPayment.blanked.toDocument.text.map fun c => UInt8.ofNat c.toNat) =
      unitPaymentMidstate.front ++
        Bytes.ofNatBE 32 0x4947222c202276616c7565223a20357d5d2c202276657273696f6e223a20317d := by
    decide +kernel
  rw [htext, Digest.doubleSha256, Digest.sha256, Digest.sha256, List.append_assoc,
    List.append_assoc, Digest.Sha256.Midstate.digest_append] at hfirst hsecond
  refine ⟨hfirst.trans (congrArg Except.ok ?_), hsecond.trans (congrArg Except.ok ?_)⟩
  · decide +kernel
  · decide +kernel

theorem messageNumber_unitPayment :
    Curve.messageNumber unitPaymentDigests.1 =
        0x33e8e893f7fd919dba968bedf8254ba549c76e6d344c60c8b0ba868b8b46b9f0 ∧
      Curve.messageNumber unitPaymentDigests.2 =
        0x748ccb5bbc092ceff91933cec58e49c01c3ba4f540f2cf76c13d77455fdb5fa0 := by
  decide +kernel

theorem sign_of_sign? {secret nonce number : Nat} {message : Bytes} {signature : Curve.Signature}
    (hnumber : Curve.messageNumber message = number)
    (hsign : Curve.Signature.sign? secret number nonce = some signature) :
    Curve.Ecdsa.sign secret message Digest.sha256 nonce = some signature.toBytes := by
  subst hnumber
  exact congrArg (Option.map Curve.Signature.toBytes) hsign

theorem signEach_unitPayment :
    signEach unitKey [⟨1, Bytes.ofNatBE 32 1, 1⟩, ⟨0, Bytes.ofNatBE 32 1, 1⟩] unitPayment =
      .ok unitSigned := by
  have hsecret : Curve.Ecdsa.readSecret (Bytes.ofNatBE 32 1) = .ok 1 := by decide +kernel
  obtain ⟨hfirst, hsecond⟩ := sighash_unitPayment
  obtain ⟨hfirstNumber, hsecondNumber⟩ := messageNumber_unitPayment
  have hsignLast : signInput unitPayment (Bytes.ofNatBE 32 1) unitKey (1 : Nat) 1 =
      .ok unitHalfSigned :=
    (signInput_eq_ok_iff _ _ _ _ _ _).mpr ⟨_, 1, unitPaymentSignatures.2.toBytes, hsecond, hsecret,
      sign_of_sign? hsecondNumber (by decide +kernel), by decide, rfl⟩
  have hsame : unitHalfSigned.sighash (0 : Nat) = unitPayment.sighash (0 : Nat) :=
    Transaction.sighash_eq_of_blanked (blanked_of_signInput hsignLast) _
  have hsignFirst : signInput unitHalfSigned (Bytes.ofNatBE 32 1) unitKey (0 : Nat) 1 =
      .ok unitSigned :=
    (signInput_eq_ok_iff _ _ _ _ _ _).mpr ⟨_, 1, unitPaymentSignatures.1.toBytes,
      hsame.trans hfirst, hsecret, sign_of_sign? hfirstNumber (by decide +kernel), by decide, rfl⟩
  refine (signEach_cons_eq_ok_iff _ _ _ _ _).mpr ⟨unitHalfSigned, hsignLast, ?_⟩
  exact (signEach_cons_eq_ok_iff _ _ _ _ _).mpr ⟨unitSigned, hsignFirst, rfl⟩

theorem verifySignature_unitPayment :
    Curve.verifySignature unitKey unitPaymentSignatures.1.toBytes unitPaymentDigests.1 =
        .ok true ∧
      Curve.verifySignature unitKey unitPaymentSignatures.2.toBytes unitPaymentDigests.2 =
        .ok true := by
  have hkey : Curve.Ecdsa.readKey unitKey = .ok Curve.generator := by decide +kernel
  have hfirst : Curve.signatureReading? unitPaymentSignatures.1.toBytes =
      some unitPaymentSignatures.1 := by decide +kernel
  have hsecond : Curve.signatureReading? unitPaymentSignatures.2.toBytes =
      some unitPaymentSignatures.2 := by decide +kernel
  obtain ⟨hfirstNumber, hsecondNumber⟩ := messageNumber_unitPayment
  constructor
  · exact Curve.verifySignature_of_verify hkey hfirst hfirstNumber (by decide +kernel)
  · exact Curve.verifySignature_of_verify hkey hsecond hsecondNumber (by decide +kernel)

theorem storedSignaturesAccepted_unitSigned :
    StoredSignaturesAccepted unitSigned unitKey := by
  obtain ⟨hfirst, hsecond⟩ := sighash_unitPayment
  have hblanked := blanked_of_signEach signEach_unitPayment
  intro index input signature digest hinput hunlocking hdigest
  rw [Transaction.sighash_eq_of_blanked hblanked] at hdigest
  have hinputs : unitSigned.inputs =
      [⟨"c0", 0, unlockingScript unitPaymentSignatures.1.toBytes unitKey, TxInput.finalSequence⟩,
        ⟨"c0", 1, unlockingScript unitPaymentSignatures.2.toBytes unitKey,
          TxInput.finalSequence⟩] := rfl
  rw [hinputs] at hinput
  cases index with
  | zero =>
      obtain rfl := Option.some.inj hinput
      obtain rfl := unlockingScript_injective hunlocking
      obtain rfl := Except.ok.inj (hfirst.symm.trans hdigest)
      exact verifySignature_unitPayment.1
  | succ index =>
      cases index with
      | zero =>
          obtain rfl := Option.some.inj hinput
          obtain rfl := unlockingScript_injective hunlocking
          obtain rfl := Except.ok.inj (hsecond.symm.trans hdigest)
          exact verifySignature_unitPayment.2
      | succ index => simp at hinput

theorem signed_payment_valid_last_input_first :
    pay unitCoins "0000000000000000000000000000000000000000" 45 unitKey (.whole 0) =
        .ok unitPayment ∧
      signEach unitKey [⟨1, Bytes.ofNatBE 32 1, 1⟩, ⟨0, Bytes.ofNatBE 32 1, 1⟩] unitPayment =
        .ok unitSigned ∧
      unitSigned.validate {} unitUtxos = .ok true ∧
      unitSigned.outputTotal = unitSigned.inputTotal unitUtxos := by
  refine ⟨pay_unitCoins, signEach_unitPayment, ?_⟩
  have hlocking : Address.lockingScriptFor (Digest.hash160 unitKey).toHex = .ok unitLock := by
    rw [Address.lockingScriptFor_toHex (Digest.length_hash160 unitKey), lockingScript_unitKey]
  have hnoKey : ∀ point, Curve.Ecdsa.readKey [] ≠ .ok point := by
    intro point hkey
    cases hkey
  apply signed_payment_valid hnoKey {} rfl unitCoins _ 45 unitKey _ unitPayment pay_unitCoins
    unitUtxos _ _ unitSigned signEach_unitPayment _ storedSignaturesAccepted_unitSigned
  · have hfind : ∀ coin ∈ unitCoins,
        unitUtxos.find? ⟨coin.id, coin.index⟩ = some ⟨coin.value, unitLock⟩ := by decide
    intro coin hcoin
    exact ⟨unitLock, hlocking, hfind coin hcoin⟩
  · decide

end Wallet

end Lockstep
