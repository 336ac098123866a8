import Mathlib.Data.List.Forall2
import Mathlib.Data.List.NodupEquivFin
import Lockstep.Proofs.LongNumbers

/-!
Matching signatures to keys. Taking for each signature the first key that is left and that it goes
with finds a match in order whenever there is one, and never looks past the last key.
-/

namespace Lockstep

/-- Every signature has a key that it goes with, and of two signatures the later one has the later
key. -/
def MatchesInOrder (accepts : Bytes → Bytes → Bool) (signatures keys : List Bytes) : Prop :=
  ∃ place : Fin signatures.length → Fin keys.length, StrictMono place ∧
    ∀ i, accepts (signatures.get i) (keys.get (place i)) = true

theorem matchesInOrder_iff_sublistForall₂ (accepts : Bytes → Bytes → Bool)
    (signatures keys : List Bytes) :
    MatchesInOrder accepts signatures keys ↔
      List.SublistForall₂ (fun signature key => accepts signature key = true) signatures keys := by
  rw [List.sublistForall₂_iff]
  constructor
  · rintro ⟨place, hmono, hgood⟩
    refine ⟨List.ofFn fun i => keys.get (place i), ?_, ?_⟩
    · apply List.forall₂_iff_get.mpr
      refine ⟨by simp, ?_⟩
      intro i hi _
      simpa using hgood ⟨i, hi⟩
    · apply List.sublist_iff_exists_fin_orderEmbedding_get_eq.mpr
      have hlength : (List.ofFn fun i => keys.get (place i)).length = signatures.length := by simp
      refine ⟨OrderEmbedding.ofStrictMono (fun i => place (Fin.cast hlength i))
        (hmono.comp (Fin.cast_strictMono hlength)), ?_⟩
      intro i
      rw [List.get_ofFn]
      rfl
  · rintro ⟨chosen, hgood, hsublist⟩
    obtain ⟨place, hplace⟩ := List.sublist_iff_exists_fin_orderEmbedding_get_eq.mp hsublist
    obtain ⟨hlength, hgood⟩ := List.forall₂_iff_get.mp hgood
    refine ⟨fun i => place (Fin.cast hlength i),
      place.strictMono.comp (Fin.cast_strictMono hlength), ?_⟩
    intro i
    rw [← hplace]
    exact hgood i i.isLt (hlength ▸ i.isLt)

section Greedy

variable {α β : Type} {R : α → β → Prop} {a : α} {b : β} {l₁ : List α} {l₂ : List β}

theorem length_le_of_sublistForall₂ (h : List.SublistForall₂ R l₁ l₂) :
    l₁.length ≤ l₂.length := by
  obtain ⟨l, hforall, hsublist⟩ := List.sublistForall₂_iff.mp h
  exact hforall.length_eq.trans_le hsublist.length_le

theorem sublistForall₂_of_cons (h : List.SublistForall₂ R (a :: l₁) l₂) :
    List.SublistForall₂ R l₁ l₂ := by
  induction l₂ with
  | nil => cases h
  | cons b l₂ ih =>
      cases h with
      | cons _ htail => exact .cons_right htail
      | cons_right hlater => exact .cons_right (ih hlater)

theorem sublistForall₂_cons_cons_iff_of_rel (hrel : R a b) :
    List.SublistForall₂ R (a :: l₁) (b :: l₂) ↔ List.SublistForall₂ R l₁ l₂ := by
  constructor
  · intro h
    cases h with
    | cons _ htail => exact htail
    | cons_right hlater => exact sublistForall₂_of_cons hlater
  · exact .cons hrel

theorem sublistForall₂_cons_cons_iff_of_not_rel (hrel : ¬ R a b) :
    List.SublistForall₂ R (a :: l₁) (b :: l₂) ↔ List.SublistForall₂ R (a :: l₁) l₂ := by
  constructor
  · intro h
    cases h with
    | cons hrel' _ => exact absurd hrel' hrel
    | cons_right hlater => exact hlater
  · exact .cons_right

end Greedy

theorem exists_matchInOrder_iff {check : SignatureCheck} {accepts : Bytes → Bytes → Bool}
    {signatures keys : List Bytes}
    (hanswers : ∀ signature ∈ signatures, ∀ key ∈ keys,
      check signature key = .ok (accepts signature key)) :
    ∃ good, matchInOrder check signatures keys = .ok good ∧
      (good = true ↔ MatchesInOrder accepts signatures keys) := by
  simp only [matchesInOrder_iff_sublistForall₂]
  induction keys generalizing signatures with
  | nil =>
      cases signatures with
      | nil => exact ⟨true, rfl, iff_of_true rfl .nil⟩
      | cons signature signatures =>
          refine ⟨false, rfl, iff_of_false Bool.false_ne_true ?_⟩
          rintro ⟨⟩
  | cons key keys ih =>
      cases signatures with
      | nil => exact ⟨true, rfl, iff_of_true rfl .nil⟩
      | cons signature signatures =>
          rw [matchInOrder, hanswers signature List.mem_cons_self key List.mem_cons_self]
          dsimp only
          -- the signatures that are left have a match among the keys that are left
          generalize hleft : (if accepts signature key = true then signatures
            else signature :: signatures) = left
          have hgreedy : List.SublistForall₂ (fun s k => accepts s k = true)
              (signature :: signatures) (key :: keys) ↔
                List.SublistForall₂ (fun s k => accepts s k = true) left keys := by
            subst hleft
            split
            · rename_i haccepts
              exact sublistForall₂_cons_cons_iff_of_rel haccepts
            · rename_i hrefuses
              exact sublistForall₂_cons_cons_iff_of_not_rel hrefuses
          have hsubset : left ⊆ signature :: signatures := by
            subst hleft
            split
            · exact List.subset_cons_self signature signatures
            · exact List.Subset.refl _
          rw [hgreedy]
          split
          · rename_i hfewer
            refine ⟨false, rfl, iff_of_false Bool.false_ne_true ?_⟩
            intro hmatch
            exact Nat.not_le.mpr hfewer (length_le_of_sublistForall₂ hmatch)
          · apply ih
            intro s hs k hk
            exact hanswers s (hsubset hs) k (List.mem_cons_of_mem key hk)

/-- The search by positions, from signature number `i` and key number `j` on. It has no outcome
where it looks for a key behind the last one. -/
def scanFrom (check : SignatureCheck) (signatures keys : List Bytes) (i j : Nat) :
    Option (Except Abort Bool) :=
  if hleft : i < signatures.length then
    if hinside : j < keys.length then
      match check (signatures.get ⟨i, hleft⟩) (keys.get ⟨j, hinside⟩) with
      | .error cause => some (.error cause)
      | .ok good =>
        let next := if good then i + 1 else i
        if (keys.length : Int) - (j + 1 : Nat) < (signatures.length : Int) - next then
          some (.ok false)
        else scanFrom check signatures keys next (j + 1)
    else none
  else some (.ok true)
termination_by keys.length - j

theorem matchInOrder_drop {check : SignatureCheck} {signatures keys : List Bytes} {i j : Nat}
    {good : Bool} (hleft : i < signatures.length) (hinside : j < keys.length)
    (hgood : check (signatures.get ⟨i, hleft⟩) (keys.get ⟨j, hinside⟩) = .ok good) :
    matchInOrder check (signatures.drop i) (keys.drop j) =
      if keys.length - (j + 1) < signatures.length - (if good then i + 1 else i) then .ok false
      else matchInOrder check (signatures.drop (if good then i + 1 else i))
        (keys.drop (j + 1)) := by
  have hrest : (if good then signatures.drop (i + 1)
      else signatures.get ⟨i, hleft⟩ :: signatures.drop (i + 1)) =
        signatures.drop (if good then i + 1 else i) := by
    cases good with
    | true => rfl
    | false => exact (List.drop_eq_getElem_cons hleft).symm
  simp only [List.get_eq_getElem] at hgood hrest
  rw [List.drop_eq_getElem_cons hleft, List.drop_eq_getElem_cons hinside, matchInOrder, hgood]
  dsimp only
  rw [hrest, List.length_drop, List.length_drop]

/-- While at least as many keys as signatures are left, the search finds a key at its position. -/
theorem scanFrom_eq_matchInOrder (check : SignatureCheck) (signatures keys : List Bytes)
    (i j : Nat) (henough : signatures.length - i ≤ keys.length - j) :
    scanFrom check signatures keys i j =
      some (matchInOrder check (signatures.drop i) (keys.drop j)) := by
  fun_induction scanFrom check signatures keys i j with
  | case1 i j hleft hinside cause herror =>
      rw [List.get_eq_getElem, List.get_eq_getElem] at herror
      rw [List.drop_eq_getElem_cons hleft, List.drop_eq_getElem_cons hinside, matchInOrder, herror]
  | case2 i j hleft hinside good hgood next hfewer =>
      rw [matchInOrder_drop hleft hinside hgood, if_pos]
      change keys.length - (j + 1) < signatures.length - next
      omega
  | case3 i j hleft hinside good hgood next hstill ih =>
      rw [matchInOrder_drop hleft hinside hgood, if_neg]
      · exact ih (by omega)
      · change ¬ keys.length - (j + 1) < signatures.length - next
        omega
  | case4 i j hleft hinside => omega
  | case5 i j hdone => rw [List.drop_eq_nil_of_le (Nat.not_lt.mp hdone), matchInOrder]

/-- The items that count the signatures and the keys are numbers, these numbers are right, and
there are no more signatures than keys. -/
structure AreCounted (rules : Rules) (signatures keys : List Bytes)
    (signatureCount keyCount : Bytes) : Prop where
  keyCount_short : (keyCount.length : Int) ≤ rules.numberLimit
  decode_keyCount : ScriptNum.decode keyCount = keys.length
  signatureCount_short : (signatureCount.length : Int) ≤ rules.numberLimit
  decode_signatureCount : ScriptNum.decode signatureCount = signatures.length
  length_le : signatures.length ≤ keys.length

namespace AreCounted

variable {rules : Rules} {check? : Option SignatureCheck} {signatures keys : List Bytes}
  {signatureCount keyCount : Bytes} {good : Bool}

theorem checkMultisignature_eq (hcounted : AreCounted rules signatures keys signatureCount keyCount)
    (hmatch : matchWith check? signatures keys = .ok good) (name : String) (dummy : Bytes)
    (rest : List Bytes) :
    Effect.checkMultisignature rules check? name (keyCount :: (keys.reverse ++
        signatureCount :: (signatures.reverse ++ dummy :: rest))) =
      if name = "OP_CHECKMULTISIGVERIFY" then
        if good then .done rest else .fault .multisignatureRefused
      else .done (ScriptNum.ofBool good :: rest) := by
  have hfew := hcounted.length_le
  have hdeep : ¬ ((signatures.reverse ++ dummy :: rest).length : Int) <
      (signatures.length : Int) + 1 := by
    rw [List.length_append, List.length_reverse, List.length_cons]
    omega
  have htake : (signatures.reverse ++ dummy :: rest).take signatures.length =
      signatures.reverse := List.take_left' List.length_reverse
  have hdrop : (signatures.reverse ++ dummy :: rest).drop (signatures.length + 1) = rest := by
    rw [← List.drop_drop, List.drop_left' List.length_reverse]
    rfl
  generalize signatures.reverse ++ dummy :: rest = belowKeys at hdeep htake hdrop ⊢
  have hdeepKeys : ¬ ((keys.reverse ++ signatureCount :: belowKeys).length : Int) <
      (keys.length : Int) + 1 := by
    rw [List.length_append, List.length_reverse, List.length_cons]
    omega
  have htakeKeys : (keys.reverse ++ signatureCount :: belowKeys).take keys.length =
      keys.reverse := List.take_left' List.length_reverse
  have hdropKeys : (keys.reverse ++ signatureCount :: belowKeys).drop keys.length =
      signatureCount :: belowKeys := List.drop_left' List.length_reverse
  unfold Effect.checkMultisignature
  rw [popNumber_cons hcounted.keyCount_short, hcounted.decode_keyCount]
  dsimp only
  rw [if_neg (by omega), if_neg hdeepKeys, Int.toNat_natCast, htakeKeys, hdropKeys,
    popNumber_cons hcounted.signatureCount_short, hcounted.decode_signatureCount]
  dsimp only
  rw [if_neg (by omega), if_neg hdeep, Int.toNat_natCast, htake, hdrop, List.reverse_reverse,
    List.reverse_reverse, hmatch]

theorem execute_eq (hcounted : AreCounted rules signatures keys signatureCount keyCount)
    (hmatch : matchWith check? signatures keys = .ok good) (instruction : Instruction)
    (hdata : instruction.data = none)
    (hop : Operation.ofCode? instruction.code = some .checkMultisignature) (dummy : Bytes)
    (rest alt : List Bytes) {branches : List Bool} (hexecuting : branches.all id = true) :
    instruction.execute rules check?
        ⟨(rest ++ [dummy] ++ signatures ++ [signatureCount] ++ keys ++ [keyCount]).reverse, alt,
          branches⟩ =
      if instruction.name = "OP_CHECKMULTISIGVERIFY" then
        if good then .done ⟨rest.reverse, alt, branches⟩ else .fault .multisignatureRefused
      else .done ⟨(rest ++ [ScriptNum.ofBool good]).reverse, alt, branches⟩ := by
  have hstack : (rest ++ [dummy] ++ signatures ++ [signatureCount] ++ keys ++ [keyCount]).reverse =
      keyCount :: (keys.reverse ++
        signatureCount :: (signatures.reverse ++ dummy :: rest.reverse)) := by simp
  rw [hstack, Instruction.execute_of_operation
    (show Stacks.isExecuting ⟨_, alt, branches⟩ = true from hexecuting) hdata hop]
  simp only [Operation.run, Operation.runMain, hcounted.checkMultisignature_eq hmatch,
    List.reverse_append, List.reverse_singleton, List.singleton_append]
  split
  · split <;> rfl
  · rfl

end AreCounted

/-- Multisignatures are decided by matching in order. On a stack with an item that is not looked at,
signatures, their number, keys and their number, where the check answers for these signatures and
keys, `OP_CHECKMULTISIG` leaves whether every signature has a key that it goes with such that later
signatures have later keys, and `OP_CHECKMULTISIGVERIFY` requires it. The search never looks behind
the last key. Without a check every list of signatures is good. -/
theorem multisignature_decides_matching (rules : Rules) (check : SignatureCheck)
    (accepts : Bytes → Bytes → Bool) (signatures keys : List Bytes)
    (signatureCount keyCount dummy : Bytes) (rest alt : List Bytes) (branches : List Bool)
    (hanswers : ∀ signature ∈ signatures, ∀ key ∈ keys,
      check signature key = .ok (accepts signature key))
    (hcounted : AreCounted rules signatures keys signatureCount keyCount)
    (hexecuting : branches.all id = true) :
    let holding (main : List Bytes) : Stacks := ⟨main.reverse, alt, branches⟩
    let operands := rest ++ [dummy] ++ signatures ++ [signatureCount] ++ keys ++ [keyCount]
    let leave := (⟨"OP_CHECKMULTISIG", 0xae, none⟩ : Instruction).execute rules
    let require := (⟨"OP_CHECKMULTISIGVERIFY", 0xaf, none⟩ : Instruction).execute rules
    (MatchesInOrder accepts signatures keys →
      leave (some check) (holding operands) = .done (holding (rest ++ [ScriptNum.ofBool true])) ∧
      require (some check) (holding operands) = .done (holding rest)) ∧
    (¬ MatchesInOrder accepts signatures keys →
      leave (some check) (holding operands) = .done (holding (rest ++ [ScriptNum.ofBool false])) ∧
      ∃ cause : Fault, cause.kind = .verificationFailed ∧
        require (some check) (holding operands) = .fault cause) ∧
    scanFrom check signatures keys 0 0 = some (matchInOrder check signatures keys) ∧
    leave none (holding operands) = .done (holding (rest ++ [ScriptNum.ofBool true])) ∧
    require none (holding operands) = .done (holding rest) := by
  intro holding operands leave require
  obtain ⟨good, hmatch, hgood⟩ := exists_matchInOrder_iff hanswers
  have hleave : ∀ (check? : Option SignatureCheck) (answer : Bool),
      matchWith check? signatures keys = .ok answer →
        leave check? (holding operands) = .done (holding (rest ++ [ScriptNum.ofBool answer])) :=
    fun _ _ hanswer => hcounted.execute_eq hanswer _ rfl rfl dummy rest alt hexecuting
  have hrequire : ∀ (check? : Option SignatureCheck) (answer : Bool),
      matchWith check? signatures keys = .ok answer →
        require check? (holding operands) =
          if answer then .done (holding rest) else .fault .multisignatureRefused :=
    fun _ _ hanswer => hcounted.execute_eq hanswer _ rfl rfl dummy rest alt hexecuting
  refine ⟨?_, ?_, ?_, hleave none true rfl, hrequire none true rfl⟩
  · intro hmatches
    obtain rfl : good = true := hgood.mpr hmatches
    exact ⟨hleave (some check) true hmatch, hrequire (some check) true hmatch⟩
  · intro hmatchless
    obtain rfl : good = false := by simpa using mt hgood.mp hmatchless
    exact ⟨hleave (some check) false hmatch, .multisignatureRefused, rfl,
      hrequire (some check) false hmatch⟩
  · exact scanFrom_eq_matchInOrder check signatures keys 0 0 hcounted.length_le

/-- The first signature goes with two keys, and the second one with the later of these. -/
def sharedKey (signature key : Bytes) : Bool :=
  [(0xa1, 0xb1), (0xa1, 0xb2), (0xa2, 0xb2)].any fun (s, k) => signature == [s] && key == [k]

theorem multisignature_decides_matching_shared_key :
    let check : SignatureCheck := fun signature key => .ok (sharedKey signature key)
    let keys : List Bytes := [[0xb1], [0xb2], [0xb3]]
    let inOrder : Stacks :=
      ⟨([[0x07], [], [0xa1], [0xa2], [0x02, 0x00]] ++ keys ++ [[0x03]]).reverse, [], [true]⟩
    let swapped : Stacks :=
      ⟨([[0x07], [], [0xa2], [0xa1], [0x02, 0x00]] ++ keys ++ [[0x03]]).reverse, [], [true]⟩
    (⟨"OP_CHECKMULTISIG", 0xae, none⟩ : Instruction).execute {} (some check) inOrder =
      .done ⟨[[0x01], [0x07]], [], [true]⟩ ∧
    (⟨"OP_CHECKMULTISIG", 0xae, none⟩ : Instruction).execute {} (some check) swapped =
      .done ⟨[[], [0x07]], [], [true]⟩ := by
  intro check keys inOrder swapped
  have htwo : ScriptNum.decode [0x02, 0x00] = 2 := by decide +kernel
  have hthree : ScriptNum.decode [0x03] = 3 := by decide +kernel
  have hcounted : ∀ first second : Bytes,
      AreCounted {} [first, second] keys [0x02, 0x00] [0x03] := fun _ _ =>
    ⟨by decide, hthree, by decide, htwo, Nat.le_succ 2⟩
  have hmatches : MatchesInOrder sharedKey [[0xa1], [0xa2]] keys := by
    refine ⟨fun i => i.castSucc, Fin.strictMono_castSucc, ?_⟩
    decide
  have hmatchless : ¬ MatchesInOrder sharedKey [[0xa2], [0xa1]] keys := by
    rintro ⟨place, hmono, hgood⟩
    have hfirst := hgood ⟨0, by decide⟩
    have hsecond := hgood ⟨1, by decide⟩
    have hless : place ⟨0, by decide⟩ < place ⟨1, by decide⟩ := hmono (by decide)
    generalize place ⟨0, _⟩ = first at hfirst hless
    generalize place ⟨1, _⟩ = second at hsecond hless
    revert first second
    decide
  exact ⟨((multisignature_decides_matching {} check sharedKey _ keys _ _ [] [[0x07]] [] [true]
      (fun _ _ _ _ => rfl) (hcounted _ _) rfl).1 hmatches).1,
    ((multisignature_decides_matching {} check sharedKey _ keys _ _ [] [[0x07]] [] [true]
      (fun _ _ _ _ => rfl) (hcounted _ _) rfl).2.1 hmatchless).1⟩

end Lockstep
