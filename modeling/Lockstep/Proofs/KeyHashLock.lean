import Lockstep.Proofs.BranchNesting
import Lockstep.Proofs.DocumentText
import Lockstep.Proofs.InputVerification
import Lockstep.Proofs.SignatureVerdict
import Lockstep.Wallet.Payment

namespace Lockstep

/-- The instructions of the lock on the digest of a key. -/
def keyHashLock (hash : Bytes) : List Instruction :=
  [⟨"OP_DUP", 0x76, none⟩, ⟨"OP_HASH160", 0xa9, none⟩, Instruction.push hash,
    ⟨"OP_EQUALVERIFY", 0x88, none⟩, ⟨"OP_CHECKSIG", 0xac, none⟩]

namespace Address

theorem fields_lockingScript {hash : Bytes} (hsome : hash ≠ []) :
    Text.fields (lockingScript hash) =
      ["OP_DUP", "OP_HASH160", hash.toHex, "OP_EQUALVERIFY", "OP_CHECKSIG"] := by
  have hchars : lockingScript hash = String.ofList ("OP_DUP".toList ++ ' ' ::
      ("OP_HASH160".toList ++ ' ' :: (hash.toHex.toList ++ ' ' ::
        ("OP_EQUALVERIFY".toList ++ ' ' :: "OP_CHECKSIG".toList)))) := by
    have hfront : "OP_DUP OP_HASH160 ".toList =
        "OP_DUP".toList ++ ' ' :: ("OP_HASH160".toList ++ [' ']) := by decide +kernel
    have hback : " OP_EQUALVERIFY OP_CHECKSIG".toList =
        ' ' :: ("OP_EQUALVERIFY".toList ++ ' ' :: "OP_CHECKSIG".toList) := by decide +kernel
    apply String.toList_inj.mp
    unfold lockingScript
    rw [String.toList_ofList, String.toList_append, String.toList_append, hfront, hback,
      List.append_assoc, List.append_assoc, List.cons_append, List.append_assoc, List.cons_append,
      List.nil_append]
  rw [hchars, Text.fields_cons_of_forall_not_blank "OP_DUP".toList _ ' ' (by simp)
      (Text.isBlank_eq_false_of_all (by decide +kernel)) rfl,
    Text.fields_cons_of_forall_not_blank "OP_HASH160".toList _ ' ' (by simp)
      (Text.isBlank_eq_false_of_all (by decide +kernel)) rfl,
    Text.fields_cons_of_forall_not_blank hash.toHex.toList _ ' '
      (Bytes.toList_toHex_ne_nil hsome) Text.isBlank_of_mem_toHex rfl,
    Text.fields_cons_of_forall_not_blank "OP_EQUALVERIFY".toList _ ' ' (by simp)
      (Text.isBlank_eq_false_of_all (by decide +kernel)) rfl,
    Text.fields_of_forall_not_blank "OP_CHECKSIG".toList (by simp)
      (Text.isBlank_eq_false_of_all (by decide +kernel))]
  simp only [String.ofList_toList]

theorem parse_lockingScript {hash : Bytes} (hsome : hash ≠ []) :
    Script.parse (lockingScript hash) = .ok (keyHashLock hash) := by
  have hhex := Script.plainHex?_toHex hsome
  have hdup : Opcode.codeOf? "OP_DUP" = some 0x76 := by decide
  have hhash : Opcode.codeOf? "OP_HASH160" = some 0xa9 := by decide
  have hequal : Opcode.codeOf? "OP_EQUALVERIFY" = some 0x88 := by decide
  have hcheck : Opcode.codeOf? "OP_CHECKSIG" = some 0xac := by decide
  rw [Script.parse_of_fields (fields_lockingScript hsome),
    Script.readTolerantTokens_of_codeOf? _ hdup rfl,
    Script.readTolerantTokens_of_codeOf? _ hhash rfl,
    Script.readTolerantTokens_of_plainHex? _ hhex,
    Script.readTolerantTokens_of_codeOf? _ hequal rfl,
    Script.readTolerantTokens_of_codeOf? _ hcheck rfl]
  · rfl
  · simp only [List.forall_mem_cons]
    exact ⟨by decide, by decide, Script.isComment_of_plainHex? hhex, by decide, by decide, by simp⟩

end Address

theorem Wallet.parse_unlockingScript {signature key : Bytes} (hsignature : signature ≠ [])
    (hkey : key ≠ []) :
    Script.parse (unlockingScript signature key) =
      .ok [Instruction.push signature, Instruction.push key] := by
  have hsignatureHex := Script.plainHex?_toHex hsignature
  have hkeyHex := Script.plainHex?_toHex hkey
  have hfields : Text.fields (unlockingScript signature key) =
      [signature.toHex, key.toHex] := by
    have hchars : unlockingScript signature key =
        String.ofList (signature.toHex.toList ++ ' ' :: key.toHex.toList) := by
      apply String.toList_inj.mp
      simp [unlockingScript]
    rw [hchars, Text.fields_cons_of_forall_not_blank signature.toHex.toList _ ' '
        (Bytes.toList_toHex_ne_nil hsignature) Text.isBlank_of_mem_toHex rfl,
      Text.fields_of_forall_not_blank key.toHex.toList (Bytes.toList_toHex_ne_nil hkey)
        Text.isBlank_of_mem_toHex]
    simp only [String.ofList_toList]
  rw [Script.parse_of_fields hfields,
    Script.readTolerantTokens_of_plainHex? _ hsignatureHex,
    Script.readTolerantTokens_of_plainHex? _ hkeyHex]
  · rfl
  · simp only [List.forall_mem_cons]
    exact ⟨Script.isComment_of_plainHex? hsignatureHex, Script.isComment_of_plainHex? hkeyHex,
      by simp⟩

section Execution

variable {rules : Rules} {hash : Bytes}

theorem data_push {item : Bytes} (hsome : item ≠ []) :
    (Instruction.push item).data = some item := by
  simp [Instruction.push, hsome]

theorem execute_hash160 (check? : Option SignatureCheck) (item : Bytes) (main alt : List Bytes) :
    (⟨"OP_HASH160", 0xa9, none⟩ : Instruction).execute rules check? ⟨item :: main, alt, []⟩ =
      if rules.hasRipemd160 then .done ⟨Digest.hash160 item :: main, alt, []⟩
      else .fault (.digestUnavailable "OP_HASH160") := by
  rw [Instruction.execute_of_operation rfl rfl (show _ = some Operation.digest from rfl)]
  have hkind : DigestKind.ofName? "OP_HASH160" = some .hash160 := by decide
  cases hdigest : rules.hasRipemd160 with
  | false =>
      simp [Operation.run, Operation.runMain, Effect.digest, hkind, DigestKind.needsRipemd160,
        hdigest, Outcome.map]
  | true =>
      simp [Operation.run, Operation.runMain, Effect.digest, hkind, DigestKind.digest, hdigest,
        Outcome.map]

theorem execute_equalVerify (check? : Option SignatureCheck) (above below : Bytes)
    (main alt : List Bytes) :
    (⟨"OP_EQUALVERIFY", 0x88, none⟩ : Instruction).execute rules check?
        ⟨above :: below :: main, alt, []⟩ =
      if below = above then .done ⟨main, alt, []⟩ else .fault .itemsDiffer := by
  rw [Instruction.execute_of_operation rfl rfl (show _ = some Operation.compare from rfl)]
  simp only [Operation.run, Operation.runMain, Effect.compare, ↓reduceIte, beq_iff_eq]
  split <;> rfl

theorem execute_checkSignature_done_iff (check : SignatureCheck) (key : Bytes)
    (main alt : List Bytes) (final : Stacks) :
    (⟨"OP_CHECKSIG", 0xac, none⟩ : Instruction).execute rules (some check)
        ⟨key :: main, alt, []⟩ = .done final ↔
      ∃ signature rest good, main = signature :: rest ∧ check signature key = .ok good ∧
        final = ⟨ScriptNum.ofBool good :: rest, alt, []⟩ := by
  rw [Instruction.execute_of_operation rfl rfl (show _ = some Operation.checkSignature from rfl)]
  cases main with
  | nil => simp [Operation.run, Operation.runMain, Effect.checkSignature, Outcome.map]
  | cons signature rest =>
      simp only [Operation.run, Operation.runMain, Effect.checkSignature, checkWith]
      cases hcheck : check signature key with
      | error cause => simp [Outcome.map, hcheck]
      | ok good =>
          simp only [Outcome.map, String.reduceEq, ↓reduceIte, Outcome.done.injEq]
          constructor
          · intro hfinal
            exact ⟨signature, rest, good, rfl, hcheck, hfinal.symm⟩
          · rintro ⟨_, _, answer, hmain, hanswer, hfinal⟩
            obtain ⟨rfl, rfl⟩ := List.cons.inj hmain
            rw [hcheck, Except.ok.injEq] at hanswer
            rw [hfinal, hanswer]

theorem execute_keyHashLock_cons (hsome : hash ≠ []) (check? : Option SignatureCheck)
    (key : Bytes) (main alt : List Bytes) :
    Script.execute rules check? (keyHashLock hash) ⟨key :: main, alt, []⟩ =
      if rules.hasRipemd160 then
        if Digest.hash160 key = hash then
          Script.execute rules check? [⟨"OP_CHECKSIG", 0xac, none⟩] ⟨key :: main, alt, []⟩
        else .fault .itemsDiffer
      else .fault (.digestUnavailable "OP_HASH160") := by
  have hdup : (⟨"OP_DUP", 0x76, none⟩ : Instruction).execute rules check? ⟨key :: main, alt, []⟩ =
      .done ⟨key :: key :: main, alt, []⟩ := rfl
  rw [keyHashLock, Script.execute, hdup]
  dsimp only
  rw [Script.execute, execute_hash160]
  cases rules.hasRipemd160 with
  | false => rfl
  | true =>
      simp only [↓reduceIte]
      rw [Script.execute, Instruction.execute_of_data rfl (data_push hsome)]
      dsimp only
      rw [Script.execute, execute_equalVerify]
      by_cases hkey : Digest.hash160 key = hash
      · rw [if_pos hkey, if_pos hkey]
      · rw [if_neg hkey, if_neg hkey]

/-- Outside all conditionals the lock is done exactly if it finds a key with the digest and a
signature that can be checked with it, and leaves the outcome of the check in their place. -/
theorem execute_keyHashLock_done_iff (hsome : hash ≠ []) (check : SignatureCheck)
    (main alt : List Bytes) (final : Stacks) :
    Script.execute rules (some check) (keyHashLock hash) ⟨main, alt, []⟩ = .done final ↔
      rules.hasRipemd160 = true ∧ ∃ key signature rest good, main = key :: signature :: rest ∧
        Digest.hash160 key = hash ∧ check signature key = .ok good ∧
        final = ⟨ScriptNum.ofBool good :: rest, alt, []⟩ := by
  cases main with
  | nil =>
      have hunderflow : (⟨"OP_DUP", 0x76, none⟩ : Instruction).execute rules (some check)
          ⟨[], alt, []⟩ = .fault (.stackUnderflow "OP_DUP") := rfl
      simp [keyHashLock, Script.execute, hunderflow]
  | cons key main =>
      rw [execute_keyHashLock_cons hsome]
      constructor
      · intro hdone
        split at hdone
        · rename_i hdigest
          split at hdone
          · rename_i hkey
            rw [Script.execute_singleton_done_iff, execute_checkSignature_done_iff] at hdone
            obtain ⟨signature, rest, good, rfl, hcheck, hfinal⟩ := hdone
            exact ⟨hdigest, key, signature, rest, good, rfl, hkey, hcheck, hfinal⟩
          · simp at hdone
        · simp at hdone
      · rintro ⟨hdigest, found, signature, rest, good, hmain, hkey, hcheck, hfinal⟩
        obtain ⟨rfl, rfl⟩ := List.cons.inj hmain
        rw [if_pos hdigest, if_pos hkey, Script.execute_singleton_done_iff,
          execute_checkSignature_done_iff]
        exact ⟨signature, rest, good, rfl, hcheck, hfinal⟩

theorem execute_pushes {signature key : Bytes} (hsignature : signature ≠ []) (hkey : key ≠ [])
    (check? : Option SignatureCheck) (main alt : List Bytes) :
    Script.execute rules check? [Instruction.push signature, Instruction.push key]
      ⟨main, alt, []⟩ = .done ⟨key :: signature :: main, alt, []⟩ := by
  rw [Script.execute, Instruction.execute_of_data rfl (data_push hsignature)]
  dsimp only
  rw [Script.execute, Instruction.execute_of_data rfl (data_push hkey)]
  rfl

theorem depth?_keyHashLock (hsome : hash ≠ []) (depth : Nat) :
    Script.depth? depth (keyHashLock hash) = some depth := by
  have hpush : (Instruction.push hash).isConditional = false :=
    (Script.parsed_push hash).isConditional_of_data (data_push hsome)
  apply Script.depth?_of_forall_not_isConditional
  simp only [keyHashLock, List.forall_mem_cons]
  exact ⟨by decide, by decide, hpush, by decide, by decide, by simp⟩

end Execution

theorem isTrue_ofBool (value : Bool) : ScriptNum.isTrue (ScriptNum.ofBool value) = value := by
  cases value <;> decide

/-- An unlocking script, run by itself, comes to its end without a fault and leaves a signature
and above it the key with the given digest that the signature was made with for the input. -/
def Transaction.LeavesSignature [Curve.Ecdsa] (rules : Rules) (tx : Transaction) (index : Int)
    (hash : Bytes) (unlocking : List Instruction) : Prop :=
  ∃ final signature key,
    (Machine.start (Setup.ofScripts unlocking [] (some (tx.checkFor index)) rules)).EndsIn final ∧
    final.halt? = none ∧ final.state.main = [key, signature] ∧ Digest.hash160 key = hash ∧
    tx.checkFor index signature key = .ok true

theorem Script.closed_of_execute_keyHashLock {rules : Rules} {check? : Option SignatureCheck}
    {hash : Bytes} {middle state : Stacks} (hsome : hash ≠ [])
    (hlock : Script.execute rules check? (keyHashLock hash) middle = .done state)
    (hbranches : state.branches = []) : middle.branches = [] := by
  -- the lock has no conditional, so as many branches are open in front of it as behind it
  have hparsed := Script.parsed_of_parse (Address.parse_lockingScript hsome)
  have hdepth := Script.depth?_of_execute hparsed hlock
  rw [depth?_keyHashLock hsome, hbranches, Option.some.injEq] at hdepth
  exact List.eq_nil_of_length_eq_zero hdepth

section Library

variable [Curve.Ecdsa]

theorem Transaction.leavesSignature_of_check (rules : Rules) {tx : Transaction} {index : Int}
    {signature key : Bytes} (hsignature : signature ≠ []) (hkey : key ≠ [])
    (hcheck : tx.checkFor index signature key = .ok true) :
    tx.LeavesSignature rules index (Digest.hash160 key)
      [Instruction.push signature, Instruction.push key] := by
  have hexecute : Script.execute rules (some (tx.checkFor index))
      ([Instruction.push signature, Instruction.push key] ++ []) ⟨[], [], []⟩ =
        .done ⟨[key, signature], [], []⟩ := by
    rw [List.append_nil, execute_pushes hsignature hkey]
  have hends : (Machine.start (Setup.ofScripts
      [Instruction.push signature, Instruction.push key] [] (some (tx.checkFor index))
        rules)).EndsIn _ := Machine.endsIn_of_execute hexecute rfl
  exact ⟨_, signature, key, hends, rfl, rfl, rfl, hcheck⟩

theorem Transaction.leavesSignature_iff {rules : Rules} {tx : Transaction} {index : Int}
    {hash : Bytes} {unlocking : List Instruction} (hclean : rules.cleanStack = true)
    (hsome : hash ≠ []) :
    rules.hasRipemd160 = true ∧ tx.LeavesSignature rules index hash unlocking ↔
      ∃ state, Script.execute rules (some (tx.checkFor index)) (unlocking ++ keyHashLock hash)
          ⟨[], [], []⟩ = .done state ∧
        state.branches = [] ∧ stackIsValid rules state.main = true := by
  constructor
  · rintro ⟨hdigest, final, signature, key, hends, hhalt, hmain, hkey, hcheck⟩
    obtain ⟨hexecute, hbranches, -⟩ := hends.execute_eq rfl hhalt
    rw [Setup.toList_program_ofScripts, List.append_nil] at hexecute
    rcases hstate : final.state with ⟨main, alt, branches⟩
    rw [hstate] at hexecute hbranches hmain
    cases hbranches
    cases hmain
    refine ⟨⟨[ScriptNum.ofBool true], alt, []⟩, ?_, rfl, ?_⟩
    · refine (Script.execute_append_done_iff _ _ _ _).mpr ⟨_, hexecute, ?_⟩
      exact (execute_keyHashLock_done_iff hsome _ _ _ _).mpr
        ⟨hdigest, key, signature, [], true, rfl, hkey, hcheck, rfl⟩
    · simp [stackIsValid, isTrue_ofBool]
  · rintro ⟨state, hexecute, hbranches, hvalid⟩
    obtain ⟨middle, hunlock, hlock⟩ := (Script.execute_append_done_iff _ _ _ _).mp hexecute
    have hclosed := Script.closed_of_execute_keyHashLock hsome hlock hbranches
    obtain ⟨main, alt, branches⟩ := middle
    cases hclosed
    obtain ⟨hdigest, key, signature, rest, good, rfl, hkey, hcheck, rfl⟩ :=
      (execute_keyHashLock_done_iff hsome _ _ _ _).mp hlock
    rw [← List.append_nil unlocking] at hunlock
    have hends : (Machine.start
        (Setup.ofScripts unlocking [] (some (tx.checkFor index)) rules)).EndsIn _ :=
      Machine.endsIn_of_execute hunlock rfl
    simp only [stackIsValid, hclean, isTrue_ofBool, Bool.not_true, Bool.false_or,
      Bool.and_eq_true, List.isEmpty_iff] at hvalid
    obtain ⟨rfl, rfl⟩ := hvalid
    exact ⟨hdigest, _, signature, key, hends, rfl, rfl, hkey, hcheck⟩

theorem Transaction.checkFor_of_sighash {tx : Transaction} {index : Int} {digest : Bytes}
    (hsighash : tx.sighash index = .ok digest) (signature key : Bytes) :
    tx.checkFor index signature key = Curve.verifySignature key signature digest := by
  rw [checkFor, hsighash]
  rfl

/-- What opens the lock on the digest of a key. The locking script of an address that stands for a
digest of 20 bytes is unlocked only by a script that can be read and that leaves, run by itself,
nothing but a good signature and the key with that digest; and every such script unlocks it unless
it is too long for both to be run in one go. The stack must be clean, as it must under the default
rules. -/
theorem key_hash_lock_opened_by_signature [Base58.Codec] (rules : Rules)
    (hclean : rules.cleanStack = true) (tx : Transaction) (index : Nat) (input : TxInput)
    (hinput : tx.inputs[index]? = some input)
    (address : String) (hash : Bytes) (hhash : Address.hash160 address = .ok hash)
    (hlength : hash.length = 20) :
    ∃ locking, Address.lockingScriptFor address = .ok locking ∧
      (tx.verifyInput rules index locking = .ok true →
        ∃ unlocking, Script.parse input.unlocking = .ok unlocking ∧
          tx.LeavesSignature rules index hash unlocking) ∧
      (rules.hasRipemd160 = true →
        ∀ unlocking, Script.parse input.unlocking = .ok unlocking → unlocking.length ≤ 9995 →
          tx.LeavesSignature rules index hash unlocking →
            tx.verifyInput rules index locking = .ok true) := by
  have hsome : hash ≠ [] := by
    rintro rfl
    simp at hlength
  have hat : tx.input? index = some input := (tx.input?_natCast index).trans hinput
  have hlock := Address.parse_lockingScript hsome
  refine ⟨Address.lockingScript hash, by rw [Address.lockingScriptFor, hhash]; rfl, ?_, ?_⟩
  · intro hverify
    obtain ⟨unlocking, locking, state, hunlocking, hlocking, hexecute, hbranches, hvalid⟩ :=
      Transaction.execute_of_verifyInput hat hverify
    rw [hlock, Except.ok.injEq] at hlocking
    subst hlocking
    have hleaves := (Transaction.leavesSignature_iff hclean hsome).mpr
      ⟨state, hexecute, hbranches, hvalid⟩
    exact ⟨unlocking, hunlocking, hleaves.2⟩
  · intro hdigest unlocking hunlocking hshort hleaves
    obtain ⟨state, hexecute, hbranches, hvalid⟩ :=
      (Transaction.leavesSignature_iff hclean hsome).mp ⟨hdigest, hleaves⟩
    have hsteps : ((unlocking ++ keyHashLock hash).length : Int) ≤ Store.defaultMaxSteps := by
      simp only [List.length_append, keyHashLock, List.length_cons, List.length_nil,
        Store.defaultMaxSteps]
      omega
    exact Transaction.verifyInput_of_execute hat hunlocking hlock hsteps hexecute hbranches hvalid

end Library

theorem Curve.verifySignature_of_verify {key signature message : Bytes} {point : Point}
    {reading : Signature} {number : Nat} (hkey : Ecdsa.readKey key = .ok point)
    (hreading : signatureReading? signature = some reading)
    (hnumber : messageNumber message = number) (hverify : reading.verify point number = .ok true) :
    verifySignature key signature message = .ok true := by
  rw [verifySignature_of_reading secp256k1_isDocumented hkey hreading, hnumber, hverify]

/-- The public key whose secret is one. -/
def unitKey : Bytes :=
  2 :: Bytes.ofNatBE 32 Curve.generator.x

/-- The digest that is signed for the input of `unitSpend`. -/
def unitDigest : Bytes :=
  Bytes.ofNatBE 32 0xd839a3d41bc49f972470f1a03021b97a396a53379c6380447616a8432e6ebb3e

/-- The signature of that digest with the secret one. -/
def unitSignature : Curve.Signature :=
  ⟨Curve.generator.x, 0xf96a474773245b10e1ae4e11966b172b64eae1f7399d496a29c80a46297e5996⟩

/-- A transaction that spends what was sent to the key with the secret one. -/
def unitSpend : Transaction where
  version := 1
  inputs := [⟨"c0", 0, Wallet.unlockingScript unitSignature.toBytes unitKey,
    TxInput.finalSequence⟩]
  outputs := [⟨50, "OP_1"⟩]
  lockTime := 0
  timestamp := .whole 0

theorem hash160_unitKey : Digest.hash160 unitKey =
    Bytes.ofNatBE 20 0x751e76e8199196d454941c45d1b3a323f1433bd6 := by
  decide +kernel

/-- The blocks that are signed for its input, but for the last. -/
def unitSpendMidstate : Digest.Sha256.Midstate where
  front := [
    Bytes.ofNatBE 32 0x7b226c6f636b5f74696d65223a20302c202274696d657374616d70223a20302c,
    Bytes.ofNatBE 32 0x202274785f696e223a205b7b22707265765f6f75745f696e646578223a20302c,
    Bytes.ofNatBE 32 0x2022707265765f74785f6964223a20226330222c20227363726970745f736967,
    Bytes.ofNatBE 32 0x223a2022222c202273657175656e6365223a20343239343936373239357d5d2c,
    Bytes.ofNatBE 32 0x202274785f6f7574223a205b7b227363726970745f7075626b6579223a20224f,
    Bytes.ofNatBE 32 0x505f31222c202276616c7565223a2035307d5d2c202276657273696f6e223a20].flatten
  blocks := 3
  state := ⟨0xd18b331d, 0xcca377e0, 0x875b09e0, 0x426bd364,
    0x01092f87, 0x8d27b1e6, 0x4b245f03, 0x75faeb81⟩
  length_front := by decide +kernel
  absorb_front := by decide +kernel

theorem sighash_unitSpend : unitSpend.sighash 0 = .ok unitDigest := by
  have hserialize : unitSpend.blanked.serialize = .ok
      (unitSpend.blanked.toDocument.text.map fun c => UInt8.ofNat c.toNat) :=
    TxDocument.serialize_eq (by decide +kernel) (by decide +kernel)
  have hindex : Transaction.indexBytes 0 = .ok [0, 0, 0, 0] := rfl
  have htext : (unitSpend.blanked.toDocument.text.map fun c => UInt8.ofNat c.toNat) =
      unitSpendMidstate.front ++ [0x31, 0x7d] := by decide +kernel
  simp only [Transaction.sighash, Transaction.signingPreimage, hserialize, hindex]
  refine congrArg Except.ok ?_
  rw [htext, Digest.doubleSha256, Digest.sha256, Digest.sha256, List.append_assoc,
    List.append_assoc, Digest.Sha256.Midstate.digest_append]
  decide +kernel

theorem key_hash_lock_opened_by_signature_unit :
    Address.hash160 "751e76e8199196d454941c45d1b3a323f1433bd6" = .ok (Digest.hash160 unitKey) ∧
    ∃ locking, Address.lockingScriptFor "751e76e8199196d454941c45d1b3a323f1433bd6" = .ok locking ∧
      unitSpend.verifyInput {} 0 locking = .ok true ∧
      ∃ unlocking,
        Script.parse (Wallet.unlockingScript unitSignature.toBytes unitKey) = .ok unlocking ∧
        unitSpend.LeavesSignature {} 0 (Digest.hash160 unitKey) unlocking := by
  have hhex : Address.hexHash? "751e76e8199196d454941c45d1b3a323f1433bd6" =
      some (Digest.hash160 unitKey) := by
    rw [hash160_unitKey]
    decide +kernel
  have hhash : Address.hash160 "751e76e8199196d454941c45d1b3a323f1433bd6" =
      .ok (Digest.hash160 unitKey) := by rw [Address.hash160, hhex]
  have hcheck : unitSpend.checkFor 0 unitSignature.toBytes unitKey = .ok true := by
    have hkey : Curve.Ecdsa.readKey unitKey = .ok Curve.generator := by decide +kernel
    have hreading : Curve.signatureReading? unitSignature.toBytes = some unitSignature := by
      decide +kernel
    have hnumber : Curve.messageNumber unitDigest =
        0x7fabe0c879479f648c0deb7bc7e40c24624ee51c0bcf2090cfd588eb128641fe := by decide +kernel
    rw [Transaction.checkFor_of_sighash sighash_unitSpend]
    exact Curve.verifySignature_of_verify hkey hreading hnumber (by decide +kernel)
  have hsignature : unitSignature.toBytes ≠ [] := by decide +kernel
  have hkey : unitKey ≠ [] := by decide +kernel
  have hleaves := Transaction.leavesSignature_of_check {} hsignature hkey hcheck
  obtain ⟨locking, hlocking, hsound, hcomplete⟩ := key_hash_lock_opened_by_signature {} rfl
    unitSpend 0 _ rfl "751e76e8199196d454941c45d1b3a323f1433bd6" _ hhash rfl
  have hopened := hcomplete rfl _ (Wallet.parse_unlockingScript hsignature hkey) (by decide) hleaves
  exact ⟨hhash, locking, hlocking, hopened, hsound hopened⟩

end Lockstep
