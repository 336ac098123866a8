import Lockstep.Bytes.Hex

namespace Lockstep.Bytes

def isHexDigit (c : Char) : Bool :=
  (hexValue? c).isSome

theorem ofHexPair?_eq_some_iff (high low : Char) (byte : UInt8) :
    ofHexPair? high low = some byte ↔
      ∃ h l, hexValue? high = some h ∧ hexValue? low = some l ∧
        UInt8.ofNat (16 * h + l) = byte := by
  unfold ofHexPair?
  cases hexValue? high with
  | none => simp
  | some h =>
      cases hexValue? low with
      | none => simp
      | some l => simp

theorem isHexDigit_of_readHexPairs {seen bytes : Bytes} {text : List Char}
    (hread : readHexPairs seen text = some bytes) : ∀ c ∈ text, isHexDigit c = true := by
  fun_induction readHexPairs seen text with
  | case1 seen => simp
  | case2 seen c => simp at hread
  | case3 seen high low rest byte hpair ih =>
      obtain ⟨h, l, hhigh, hlow, -⟩ := (ofHexPair?_eq_some_iff high low byte).mp hpair
      intro c hc
      rcases List.mem_cons.mp hc with rfl | hc
      · simp [isHexDigit, hhigh]
      · rcases List.mem_cons.mp hc with rfl | hc
        · simp [isHexDigit, hlow]
        · exact ih hread c hc
  | case4 seen high low rest hpair => simp at hread

theorem isHexDigit_of_ofHexChars? {bytes : Bytes} {text : List Char}
    (hread : ofHexChars? text = some bytes) : ∀ c ∈ text, isHexDigit c = true :=
  isHexDigit_of_readHexPairs hread

theorem length_of_readHexPairs {seen bytes : Bytes} {text : List Char}
    (hread : readHexPairs seen text = some bytes) :
    text.length + 2 * seen.length = 2 * bytes.length := by
  fun_induction readHexPairs seen text with
  | case1 seen =>
      cases hread
      simp
  | case2 seen c => simp at hread
  | case3 seen high low rest byte hpair ih =>
      have hrest := ih hread
      simp only [List.length_cons] at hrest ⊢
      omega
  | case4 seen high low rest hpair => simp at hread

theorem length_of_ofHexChars? {bytes : Bytes} {text : List Char}
    (hread : ofHexChars? text = some bytes) : text.length = 2 * bytes.length :=
  length_of_readHexPairs hread

theorem hexValue?_digitChar (n : Nat) (hn : n < 16) : hexValue? (Nat.digitChar n) = some n := by
  revert n
  decide

theorem ofHexPair?_hexPair (byte : UInt8) :
    ofHexPair? (Nat.digitChar (byte.toNat / 16)) (Nat.digitChar (byte.toNat % 16)) =
      some byte := by
  have hbyte := byte.toNat_lt
  refine (ofHexPair?_eq_some_iff _ _ byte).mpr ⟨byte.toNat / 16, byte.toNat % 16,
    hexValue?_digitChar _ (by omega), hexValue?_digitChar _ (by omega), ?_⟩
  rw [Nat.div_add_mod, UInt8.ofNat_toNat]

theorem ofHexChars?_toHex (bytes : Bytes) : ofHexChars? bytes.toHex.toList = some bytes := by
  rw [toHex, String.toList_ofList]
  induction bytes with
  | nil => rfl
  | cons byte bytes ih =>
      rw [List.flatMap_cons, hexPair, List.cons_append, List.cons_append, List.nil_append,
        ofHexChars?_cons_cons, ofHexPair?_hexPair, ih]
      rfl

theorem toHex_injective : Function.Injective toHex := by
  intro first second heq
  have hread := ofHexChars?_toHex first
  rw [heq, ofHexChars?_toHex] at hread
  exact (Option.some.inj hread).symm

theorem isHexBlank_digitChar (n : Nat) (hn : n < 16) : isHexBlank (Nat.digitChar n) = false := by
  revert n
  decide

theorem ofSpacedHex?_toHex (bytes : Bytes) : ofSpacedHex? bytes.toHex.toList = some bytes := by
  rw [toHex, String.toList_ofList]
  induction bytes with
  | nil => rfl
  | cons byte bytes ih =>
      have hbyte := byte.toNat_lt
      have hblank := isHexBlank_digitChar (byte.toNat / 16) (by omega)
      rw [List.flatMap_cons, hexPair, List.cons_append, List.cons_append, List.nil_append,
        ofSpacedHex?, hblank]
      simp only [Bool.false_eq_true, ↓reduceIte, ofHexPair?_hexPair, ih]

theorem length_toHex (bytes : Bytes) : bytes.toHex.length = 2 * bytes.length := by
  rw [← String.length_toList]
  exact length_of_ofHexChars? (ofHexChars?_toHex bytes)

theorem toList_toHex_ne_nil {bytes : Bytes} (hsome : bytes ≠ []) : bytes.toHex.toList ≠ [] := by
  intro hnil
  have hread := ofHexChars?_toHex bytes
  rw [hnil] at hread
  exact hsome (Option.some.inj hread).symm

end Lockstep.Bytes
