import Lockstep.Proofs.Base58RoundTrip
import Lockstep.Proofs.SignedPayment

namespace Lockstep

namespace Bytes

/-- Hexadecimal digit pairs with blanks before, between and behind them, and the bytes that they
write. -/
inductive SpacedHex : List Char → Bytes → Prop where
  | nil : SpacedHex [] []
  | blank {c : Char} {text : List Char} {bytes : Bytes} (hblank : isHexBlank c = true)
      (hrest : SpacedHex text bytes) : SpacedHex (c :: text) bytes
  | pair {high low : Char} {text : List Char} {byte : UInt8} {bytes : Bytes}
      (hpair : ofHexPair? high low = some byte) (hrest : SpacedHex text bytes) :
      SpacedHex (high :: low :: text) (byte :: bytes)

theorem isBlank_of_isHexBlank {c : Char} (hblank : isHexBlank c = true) :
    Text.isBlank c = true := by
  simp only [isHexBlank, Bool.or_eq_true, decide_eq_true_eq, Bool.and_eq_true] at hblank
  rcases hblank with rfl | ⟨hlow, hhigh⟩
  · decide
  · have hlow' : 0x09 ≤ c.toNat := hlow
    have hhigh' : c.toNat ≤ 0x0d := hhigh
    simp [Text.isBlank, hlow', hhigh']

theorem isHexBlank_eq_false_of_isHexDigit {c : Char} (hdigit : isHexDigit c = true) :
    isHexBlank c = false := by
  rw [← Bool.not_eq_true]
  intro hblank
  exact Bool.false_ne_true ((Text.isBlank_of_isHexDigit hdigit).symm.trans
    (isBlank_of_isHexBlank hblank))

theorem isHexBlank_of_ofHexPair? {high low : Char} {byte : UInt8}
    (hpair : ofHexPair? high low = some byte) :
    isHexBlank high = false ∧ isHexBlank low = false := by
  obtain ⟨h, l, hhigh, hlow, -⟩ := (ofHexPair?_eq_some_iff high low byte).mp hpair
  constructor
  · exact isHexBlank_eq_false_of_isHexDigit (by rw [isHexDigit, hhigh, Option.isSome_some])
  · exact isHexBlank_eq_false_of_isHexDigit (by rw [isHexDigit, hlow, Option.isSome_some])

theorem ofSpacedHex?_cons_of_blank {c : Char} (hblank : isHexBlank c = true) (text : List Char) :
    ofSpacedHex? (c :: text) = ofSpacedHex? text := by
  cases text with
  | nil => simp only [ofSpacedHex?, hblank, ↓reduceIte]
  | cons d text => rw [ofSpacedHex?, if_pos hblank]

theorem ofSpacedHex?_eq_some_iff (text : List Char) (bytes : Bytes) :
    ofSpacedHex? text = some bytes ↔ SpacedHex text bytes := by
  constructor
  · intro hread
    fun_induction ofSpacedHex? text generalizing bytes with
    | case1 =>
        cases hread
        exact .nil
    | case2 c rest hblank ih => exact .blank hblank (ih bytes hread)
    | case3 c hblank => cases hread
    | case4 c hblank d rest byte bytes' hrest hpair ih =>
        cases hread
        exact .pair hpair (ih bytes' hrest)
    | case5 => cases hread
  · intro hspaced
    induction hspaced with
    | nil => rfl
    | blank hblank hrest ih => rw [ofSpacedHex?_cons_of_blank hblank, ih]
    | pair hpair hrest ih =>
        have hhigh := (isHexBlank_of_ofHexPair? hpair).1
        simp only [ofSpacedHex?, hhigh, Bool.false_eq_true, ↓reduceIte, hpair, ih]

theorem SpacedHex.two_mul_length_add_countP {text : List Char} {bytes : Bytes}
    (hspaced : SpacedHex text bytes) :
    2 * bytes.length + text.countP isHexBlank = text.length := by
  induction hspaced with
  | nil => rfl
  | blank hblank hrest ih =>
      rw [List.countP_cons_of_pos hblank, List.length_cons]
      omega
  | pair hpair hrest ih =>
      obtain ⟨hhigh, hlow⟩ := isHexBlank_of_ofHexPair? hpair
      rw [List.countP_cons_of_neg (by simp [hhigh]), List.countP_cons_of_neg (by simp [hlow])]
      simp only [List.length_cons]
      omega

end Bytes

theorem push_of_length_eq_twenty {hash : Bytes} (hlength : hash.length = 20) :
    Instruction.push hash = ⟨"OP_PUSHBYTES_20", 20, some hash⟩ := by
  have hsome : hash.isEmpty = false := by
    cases hash with
    | nil => cases hlength
    | cons byte rest => rfl
  have hcode : Opcode.forLength 20 = 20 := rfl
  have hname : Opcode.nameOf 20 = "OP_PUSHBYTES_20" := by decide +kernel
  simp only [Instruction.push, hsome, hlength, hcode, hname, Bool.false_eq_true, ↓reduceIte]

namespace Address

/-- Forty characters that are read as digit pairs although there are blanks among them. -/
structure IsSpaced (address : String) : Prop where
  length_eq : address.length = 40
  digits : ∃ bytes, Bytes.SpacedHex address.toList bytes
  blank : ∃ c ∈ address.toList, Bytes.isHexBlank c = true

theorem hexHash?_eq_some_iff (address : String) (hash : Bytes) :
    hexHash? address = some hash ↔
      address.length = 40 ∧ Bytes.SpacedHex address.toList hash := by
  unfold hexHash?
  split
  · rename_i hlength
    rw [Bytes.ofSpacedHex?_eq_some_iff]
    exact (and_iff_right hlength).symm
  · rename_i hlength
    simp [hlength]

theorem hash160_of_hexHash? [Base58.Codec] {address : String} {hash : Bytes}
    (hhash : hexHash? address = some hash) : hash160 address = .ok hash := by
  rw [hash160, hhash]

theorem hash160_eq_ok_iff_of_not_hex [Base58.Codec] {address : String}
    (hhex : hexHash? address = none) (hash : Bytes) :
    hash160 address = .ok hash ↔ hash.length = 20 ∧
      ∃ version, Base58.decodeChecked address = .ok (version :: hash) := by
  rw [hash160, hhex]
  cases hdecode : Base58.decodeChecked address with
  | error e => simp
  | ok decoded =>
      simp only [Except.ok.injEq]
      constructor
      · intro hread
        split at hread
        · rename_i hlength
          cases hread
          cases decoded with
          | nil => cases hlength
          | cons version rest => exact ⟨Nat.succ.inj hlength, version, rfl⟩
        · cases hread
      · rintro ⟨hlength, version, rfl⟩
        rw [List.length_cons, hlength]
        rfl

theorem isSpaced_or_length_eq [Base58.Codec] {address : String} {hash : Bytes}
    (hhash : hash160 address = .ok hash) :
    (IsSpaced address ∧ 2 * hash.length + address.toList.countP Bytes.isHexBlank = 40) ∨
      (¬ IsSpaced address ∧ hash.length = 20) := by
  cases hhex : hexHash? address with
  | some bytes =>
      rw [hash160_of_hexHash? hhex] at hhash
      cases hhash
      obtain ⟨hlength, hspaced⟩ := (hexHash?_eq_some_iff address hash).mp hhex
      have hcount := hspaced.two_mul_length_add_countP
      rw [String.length_toList, hlength] at hcount
      by_cases hblank : ∃ c ∈ address.toList, Bytes.isHexBlank c = true
      · exact .inl ⟨⟨hlength, ⟨hash, hspaced⟩, hblank⟩, hcount⟩
      · have hnone : address.toList.countP Bytes.isHexBlank = 0 := by
          rw [List.countP_eq_zero]
          intro c hc hblankAt
          exact hblank ⟨c, hc, hblankAt⟩
        exact .inr ⟨fun hspacedAddress => hblank hspacedAddress.blank, by omega⟩
  | none =>
      refine .inr ⟨?_, ((hash160_eq_ok_iff_of_not_hex hhex hash).mp hhash).1⟩
      rintro ⟨hlength, ⟨bytes, hspaced⟩, -⟩
      rw [(hexHash?_eq_some_iff address bytes).mpr ⟨hlength, hspaced⟩] at hhex
      cases hhex

/-- An address is refused, or it stands for the twenty bytes of a digest and its locking script is
read as the lock on that digest. Only where blanks stand among forty characters of hexadecimal text
are there fewer bytes, one for every two blanks. -/
theorem address_stands_for_digest_unless_spaced [Base58.Codec] (address : String) :
    (∃ e, hash160 address = .error e ∧ lockingScriptFor address = .error e) ∨
    ∃ hash, hash160 address = .ok hash ∧ lockingScriptFor address = .ok (lockingScript hash) ∧
      (¬ IsSpaced address → hash.length = 20 ∧
        Script.parse (lockingScript hash) = .ok [⟨"OP_DUP", 0x76, none⟩,
          ⟨"OP_HASH160", 0xa9, none⟩, ⟨"OP_PUSHBYTES_20", 20, some hash⟩,
          ⟨"OP_EQUALVERIFY", 0x88, none⟩, ⟨"OP_CHECKSIG", 0xac, none⟩]) ∧
      (IsSpaced address → hash.length < 20 ∧
        2 * hash.length + address.toList.countP Bytes.isHexBlank = 40) := by
  cases hhash : hash160 address with
  | error e =>
      refine .inl ⟨e, rfl, ?_⟩
      rw [lockingScriptFor, hhash]
      rfl
  | ok hash =>
      refine .inr ⟨hash, rfl, by rw [lockingScriptFor, hhash]; rfl, ?_, ?_⟩
      · intro hplain
        have hlength : hash.length = 20 := by
          rcases isSpaced_or_length_eq hhash with ⟨hspaced, -⟩ | ⟨-, hlength⟩
          · exact absurd hspaced hplain
          · exact hlength
        refine ⟨hlength, ?_⟩
        rw [parse_lockingScript (List.ne_nil_of_length_pos (by omega)), keyHashLock,
          push_of_length_eq_twenty hlength]
      · intro hspaced
        rcases isSpaced_or_length_eq hhash with ⟨-, hcount⟩ | ⟨hplain, -⟩
        · have hblank : 0 < address.toList.countP Bytes.isHexBlank :=
            List.countP_pos_iff.mpr hspaced.blank
          exact ⟨by omega, hcount⟩
        · exact absurd hspaced hplain

theorem spaced_address_loses_bytes :
    hash160 "01234567 89abcdef 01234567 89abcdef 0123" = .ok [0x01, 0x23, 0x45, 0x67, 0x89, 0xab,
      0xcd, 0xef, 0x01, 0x23, 0x45, 0x67, 0x89, 0xab, 0xcd, 0xef, 0x01, 0x23] ∧
    ¬ ((∃ e, hash160 "01234567 89abcdef 01234567 89abcdef 0123" = .error e) ∨
      ∃ hash, hash160 "01234567 89abcdef 01234567 89abcdef 0123" = .ok hash ∧
        hash.length = 20) := by
  have hhash := hash160_of_hexHash? (show hexHash? "01234567 89abcdef 01234567 89abcdef 0123" =
    some [0x01, 0x23, 0x45, 0x67, 0x89, 0xab, 0xcd, 0xef, 0x01, 0x23, 0x45, 0x67, 0x89, 0xab, 0xcd,
      0xef, 0x01, 0x23] by decide +kernel)
  refine ⟨hhash, ?_⟩
  rw [hhash]
  rintro (⟨e, herror⟩ | ⟨hash, hok, hlength⟩)
  · cases herror
  · cases hok
    cases hlength

section Library

variable [Base58.Codec] (hconversion : Base58.Codec.IsBaseConversion)

include hconversion

theorem length_ofKey_le (version : UInt8) (key : Bytes) : (ofKey [version] key).length ≤ 35 := by
  have hlength := Base58.five_mul_length_encode_le
    ([version] ++ Digest.hash160 key ++ Base58.checksum ([version] ++ Digest.hash160 key))
  simp only [List.length_append, List.length_singleton, Digest.length_hash160,
    Base58.length_checksum] at hlength
  rw [ofKey, Base58.encodeChecked, Base58.Codec.encode_eq hconversion]
  omega

theorem hexHash?_ofKey (version : UInt8) (key : Bytes) :
    hexHash? (ofKey [version] key) = none := by
  have hlength := length_ofKey_le hconversion version key
  rw [hexHash?, if_neg (by omega)]

/-- Both spellings of a key's address, with a checksum and in hexadecimal digits, lead back to the
digest of the key and give the same locking script. -/
theorem key_addresses_round_trip (version : UInt8) (key : Bytes) :
    (ofKey [version] key).length ≤ 35 ∧ hexHash? (ofKey [version] key) = none ∧
    hash160 (ofKey [version] key) = .ok (Digest.hash160 key) ∧
    hash160 (Digest.hash160 key).toHex = .ok (Digest.hash160 key) ∧
    lockingScriptFor (ofKey [version] key) = .ok (lockingScript (Digest.hash160 key)) ∧
    lockingScriptFor (Digest.hash160 key).toHex = lockingScriptFor (ofKey [version] key) := by
  have hhex := hexHash?_ofKey hconversion version key
  have hhash : hash160 (ofKey [version] key) = .ok (Digest.hash160 key) := by
    rw [hash160_eq_ok_iff_of_not_hex hhex]
    exact ⟨Digest.length_hash160 key, version,
      Base58.decodeChecked_encodeChecked hconversion _⟩
  have hlocking : lockingScriptFor (ofKey [version] key) =
      .ok (lockingScript (Digest.hash160 key)) := by
    rw [lockingScriptFor, hhash]
    rfl
  refine ⟨length_ofKey_le hconversion version key, hhex, hhash,
    hash160_toHex (Digest.length_hash160 key), hlocking, ?_⟩
  rw [lockingScriptFor_toHex (Digest.length_hash160 key), hlocking]

end Library

theorem key_addresses_round_trip_plain :
    @Base58.Codec.IsBaseConversion Base58.plain ∧
      ofKey [0] unitKey = "1BgGZ9tcN4rm9KBzDn7KprQz87SZ26SAMH" ∧
      hash160 "1BgGZ9tcN4rm9KBzDn7KprQz87SZ26SAMH" = .ok (Digest.hash160 unitKey) ∧
      lockingScriptFor "1BgGZ9tcN4rm9KBzDn7KprQz87SZ26SAMH" =
        lockingScriptFor (Digest.hash160 unitKey).toHex := by
  have haddress : ofKey [0] unitKey = "1BgGZ9tcN4rm9KBzDn7KprQz87SZ26SAMH" := by
    rw [ofKey, hash160_unitKey]
    decide +kernel
  obtain ⟨-, -, hhash, -, -, hlocking⟩ :=
    key_addresses_round_trip Base58.plain_isBaseConversion 0 unitKey
  rw [haddress] at hhash hlocking
  exact ⟨Base58.plain_isBaseConversion, haddress, hhash, hlocking.symm⟩

end Address

end Lockstep
