import Mathlib.Data.List.DropRight
import Lockstep.Wallet.Base58

namespace Lockstep

section LeadingRuns

variable {α : Type}

theorem exists_replicate_append (a : α) (items : List α) :
    ∃ count rest, items = List.replicate count a ++ rest ∧ rest.head? ≠ some a := by
  induction items with
  | nil => exact ⟨0, [], rfl, by simp⟩
  | cons item items ih =>
      by_cases hsame : item = a
      · obtain ⟨count, rest, rfl, hhead⟩ := ih
        refine ⟨count + 1, rest, ?_, hhead⟩
        rw [hsame, List.replicate_succ, List.cons_append]
      · exact ⟨0, item :: items, rfl, by simpa using hsame⟩

variable [BEq α] [LawfulBEq α] {a : α} (count : Nat) {rest : List α}

theorem takeWhile_replicate_append (hhead : rest.head? ≠ some a) :
    (List.replicate count a ++ rest).takeWhile (· == a) = List.replicate count a := by
  rw [List.takeWhile_append_of_pos (by simp)]
  cases rest with
  | nil => rw [List.takeWhile_nil, List.append_nil]
  | cons item rest =>
      have hdiffers : (item == a) = false := by simpa using hhead
      simp only [List.takeWhile_cons, hdiffers, Bool.false_eq_true, ↓reduceIte, List.append_nil]

theorem dropWhile_replicate_append (hhead : rest.head? ≠ some a) :
    (List.replicate count a ++ rest).dropWhile (· == a) = rest := by
  rw [List.dropWhile_append_of_pos (by simp)]
  cases rest with
  | nil => rfl
  | cons item rest =>
      have hdiffers : (item == a) = false := by simpa using hhead
      simp only [List.dropWhile_cons, hdiffers, Bool.false_eq_true, ↓reduceIte]

end LeadingRuns

namespace Text

theorem trimEnd_of_forall_not_blank {chars : List Char}
    (hchars : ∀ c ∈ chars, isBlank c = false) : trimEnd chars = chars := by
  refine List.rdropWhile_eq_self_iff.mpr fun hsome => ?_
  simpa using hchars _ (List.getLast_mem hsome)

theorem exists_trimEnd_append (chars : List Char) :
    ∃ blanks, chars = trimEnd chars ++ blanks ∧ ∀ c ∈ blanks, isBlank c = true :=
  ⟨chars.rtakeWhile isBlank, List.rdropWhile_append_rtakeWhile.symm,
    fun _ hc => List.mem_rtakeWhile_imp hc⟩

end Text

namespace Bytes

theorem toNatBE_cons (first : UInt8) (rest : Bytes) :
    toNatBE (first :: rest) = toNatBE rest + Nat.pow 256 rest.length * first.toNat := by
  simp only [toNatBE, toNatLE_eq_valueLE, List.reverse_cons, valueLE_append, List.length_reverse,
    valueLE_cons, valueLE_nil, Nat.mul_zero, Nat.add_zero]

theorem toNatBE_lt (bytes : Bytes) : toNatBE bytes < Nat.pow 256 bytes.length := by
  have hvalue := valueLE_lt bytes.reverse
  rwa [List.length_reverse, ← toNatLE_eq_valueLE] at hvalue

theorem toNatBE_replicate_append (count : Nat) (bytes : Bytes) :
    toNatBE (List.replicate count 0 ++ bytes) = toNatBE bytes := by
  induction count with
  | zero => rfl
  | succ count ih =>
      rw [List.replicate_succ, List.cons_append, toNatBE_cons, ih]
      simp

theorem length_ofNatBE (width value : Nat) : (ofNatBE width value).length = width := by
  rw [ofNatBE, List.length_reverse, length_ofNatLE]

theorem ofNatBE_toNatBE (bytes : Bytes) : ofNatBE bytes.length (toNatBE bytes) = bytes := by
  have hdigits := digitsLE_valueLE bytes.reverse
  rw [List.length_reverse] at hdigits
  rw [ofNatBE, toNatBE, toNatLE_eq_valueLE, ofNatLE_eq_digitsLE, hdigits, List.reverse_reverse]

theorem toNatBE_ofNatBE {width value : Nat} (hvalue : value < Nat.pow 256 width) :
    toNatBE (ofNatBE width value) = value := by
  rw [ofNatBE, toNatBE, List.reverse_reverse, toNatLE_eq_valueLE, ofNatLE_eq_digitsLE,
    valueLE_digitsLE, Nat.mod_eq_of_lt hvalue]

theorem widthOf_le_iff (value width : Nat) : widthOf value ≤ width ↔ value < Nat.pow 256 width := by
  have hpower : Nat.pow 256 width = 2 ^ (8 * width) := by
    rw [Nat.pow_eq, Nat.pow_mul]
  by_cases hzero : value = 0
  · rw [widthOf, if_pos hzero, hzero, hpower]
    exact iff_of_true (Nat.zero_le width) (Nat.two_pow_pos _)
  · rw [hpower, ← Nat.log2_lt hzero, widthOf, if_neg hzero]
    omega

theorem widthOf_toNatBE {bytes : Bytes} (hhead : bytes.head? ≠ some 0) :
    widthOf (toNatBE bytes) = bytes.length := by
  apply Nat.le_antisymm ((widthOf_le_iff _ _).mpr (toNatBE_lt bytes))
  cases bytes with
  | nil => exact Nat.zero_le _
  | cons first rest =>
      have hfirst : 0 < first.toNat := by
        rw [Nat.pos_iff_ne_zero]
        intro hzero
        exact hhead (congrArg some (UInt8.toNat_inj.mp hzero))
      have hlarge := Nat.le_mul_of_pos_right (Nat.pow 256 rest.length) hfirst
      apply Nat.lt_of_not_le
      rw [widthOf_le_iff, toNatBE_cons]
      omega

theorem toNatBE_ofNatBE_widthOf (value : Nat) : toNatBE (ofNatBE (widthOf value) value) = value :=
  toNatBE_ofNatBE ((widthOf_le_iff _ _).mp (Nat.le_refl _))

theorem head?_ofNatBE_widthOf (value : Nat) : (ofNatBE (widthOf value) value).head? ≠ some 0 := by
  intro hzero
  obtain ⟨rest, hbytes⟩ := List.head?_eq_some_iff.mp hzero
  have hvalue := toNatBE_ofNatBE_widthOf value
  have hlength := length_ofNatBE (widthOf value) value
  rw [hbytes, toNatBE_cons] at hvalue
  rw [hbytes, List.length_cons] at hlength
  have hsmall := toNatBE_lt rest
  have hwidth : widthOf value ≤ rest.length := by
    rw [widthOf_le_iff, ← hvalue]
    simpa using hsmall
  omega

end Bytes

namespace Base58

theorem alphabet_digits :
    alphabet.length = 58 ∧ alphabet.Nodup ∧ alphabet[0]? = some '1' ∧
      alphabet.all (fun c => !Text.isBlank c && decide (c.toNat < 0x80)) = true := by
  decide +kernel

theorem digit_eq_getElem {value : Nat} (hvalue : value < alphabet.length) :
    digit value = alphabet[value] := by
  rw [digit, List.getD_eq_getElem?_getD, List.getElem?_eq_getElem hvalue, Option.getD_some]

theorem value?_eq_some_iff (c : Char) (value : Nat) :
    value? c = some value ↔ value < 58 ∧ digit value = c := by
  obtain ⟨hlength, hdistinct, -, -⟩ := alphabet_digits
  rw [value?, List.findIdx?_eq_some_iff_getElem]
  constructor
  · rintro ⟨hvalue, hsame, -⟩
    rw [digit_eq_getElem hvalue]
    exact ⟨hlength ▸ hvalue, eq_of_beq hsame⟩
  · rintro ⟨hvalue, rfl⟩
    rw [← hlength] at hvalue
    rw [digit_eq_getElem hvalue]
    refine ⟨hvalue, beq_self_eq_true _, ?_⟩
    intro position hposition hsame
    have hequal := (List.getElem_inj hdistinct).mp (eq_of_beq hsame)
    omega

theorem mem_alphabet_one : '1' ∈ alphabet :=
  List.mem_of_getElem? alphabet_digits.2.2.1

theorem digit_mem_alphabet (value : Nat) : digit value ∈ alphabet := by
  rw [digit, List.getD_eq_getElem?_getD]
  cases hdigit : alphabet[value]? with
  | none => exact mem_alphabet_one
  | some c => exact List.mem_of_getElem? hdigit

theorem plain_of_mem_alphabet {c : Char} (hc : c ∈ alphabet) :
    Text.isBlank c = false ∧ c.toNat < 0x80 := by
  simpa using List.all_eq_true.mp alphabet_digits.2.2.2 c hc

theorem digit_zero : digit 0 = '1' := by
  rw [digit, List.getD_eq_getElem?_getD, alphabet_digits.2.2.1, Option.getD_some]

theorem digit_ne_one {value : Nat} (hvalue : value < 58) (hpos : 0 < value) :
    digit value ≠ '1' := by
  intro hone
  have hread := (value?_eq_some_iff _ _).mpr ⟨hvalue, hone⟩
  rw [(value?_eq_some_iff _ _).mpr ⟨Nat.zero_lt_succ 57, digit_zero⟩] at hread
  exact Nat.ne_of_lt hpos (Option.some.inj hread)

theorem number_nil (seen : Nat) : number seen [] = .ok seen := rfl

theorem number_cons_of_value? {c : Char} {value : Nat} (hvalue : value? c = some value)
    (seen : Nat) (rest : List Char) :
    number seen (c :: rest) = number (seen * 58 + value) rest := by
  rw [number, hvalue]

theorem exists_value?_of_number_cons {seen n : Nat} {c : Char} {rest : List Char}
    (hread : number seen (c :: rest) = .ok n) : ∃ value, value? c = some value := by
  cases hvalue : value? c with
  | some value => exact ⟨value, rfl⟩
  | none =>
      rw [number, hvalue] at hread
      cases hread

theorem number_digits (n : Nat) (behind : List Char) :
    number 0 (digits n behind) = number n behind := by
  fun_induction digits n behind with
  | case1 behind => rfl
  | case2 n behind hzero ih =>
      have hdigit := (value?_eq_some_iff _ _).mpr ⟨Nat.mod_lt n (show 0 < 58 by decide), rfl⟩
      rw [ih, number_cons_of_value? hdigit, Nat.div_add_mod']

theorem digits_succ (n value : Nat) (hvalue : value < 58) (hpos : 0 < n * 58 + value)
    (behind : List Char) :
    digits (n * 58 + value) behind = digits n (digit value :: behind) := by
  rw [digits, if_neg (Nat.ne_of_gt hpos)]
  have hquotient : (n * 58 + value) / 58 = n := by omega
  have hremainder : (n * 58 + value) % 58 = value := by omega
  rw [hquotient, hremainder]

/-- Digits that are read behind a number are those that the number gains. -/
theorem digits_of_number {seen n : Nat} {chars : List Char} (hread : number seen chars = .ok n)
    (hstart : seen = 0 → chars.head? ≠ some '1') (behind : List Char) :
    digits n behind = digits seen (chars ++ behind) := by
  induction chars generalizing seen with
  | nil =>
      cases hread
      rfl
  | cons c rest ih =>
      obtain ⟨value, hvalue⟩ := exists_value?_of_number_cons hread
      rw [number_cons_of_value? hvalue] at hread
      obtain ⟨hlt, rfl⟩ := (value?_eq_some_iff c value).mp hvalue
      have hpos : 0 < seen * 58 + value := by
        rw [Nat.pos_iff_ne_zero]
        intro hzero
        obtain ⟨rfl, rfl⟩ : seen = 0 ∧ value = 0 := by omega
        rw [digit_zero] at hstart
        exact hstart rfl rfl
      rw [ih hread (fun hzero => absurd hzero (Nat.ne_of_gt hpos)),
        digits_succ seen value hlt hpos, List.cons_append]

theorem head?_digits {n : Nat} (behind : List Char) (hpos : 0 < n) :
    (digits n behind).head? ≠ some '1' := by
  fun_induction digits n behind with
  | case1 behind => exact absurd hpos (Nat.lt_irrefl 0)
  | case2 n behind hzero ih =>
      rcases Nat.eq_zero_or_pos (n / 58) with hlast | hmore
      · have hremainder : 0 < n % 58 := by omega
        have hdigit := digit_ne_one (Nat.mod_lt n (by decide)) hremainder
        rw [hlast, digits, if_pos rfl, List.head?_cons]
        simpa using hdigit
      · exact ih hmore

theorem head?_digits_nil (n : Nat) : (digits n []).head? ≠ some '1' := by
  rcases Nat.eq_zero_or_pos n with rfl | hpos
  · rw [digits, if_pos rfl]
    simp
  · exact head?_digits [] hpos

theorem mem_alphabet_of_mem_digits {n : Nat} {behind : List Char}
    (hbehind : ∀ c ∈ behind, c ∈ alphabet) : ∀ c ∈ digits n behind, c ∈ alphabet := by
  fun_induction digits n behind with
  | case1 behind => exact hbehind
  | case2 n behind hzero ih =>
      apply ih
      rintro c (_ | ⟨_, hc⟩)
      · exact digit_mem_alphabet _
      · exact hbehind c hc

theorem length_digits_le {width n : Nat} (hn : n < Nat.pow 58 width) (behind : List Char) :
    (digits n behind).length ≤ width + behind.length := by
  induction width generalizing n behind with
  | zero =>
      obtain rfl : n = 0 := by simpa using hn
      rw [digits, if_pos rfl, Nat.zero_add]
  | succ width ih =>
      rw [digits]
      split
      · omega
      · have hquotient : n / 58 < Nat.pow 58 width := by
          rw [Nat.div_lt_iff_lt_mul (by decide)]
          exact hn
        have hlength := ih hquotient (digit (n % 58) :: behind)
        rw [List.length_cons] at hlength
        omega

theorem toList_encode_replicate_append (zeros : Nat) {rest : Bytes} (hhead : rest.head? ≠ some 0) :
    (encode (List.replicate zeros 0 ++ rest)).toList =
      List.replicate zeros '1' ++ digits rest.toNatBE [] := by
  simp only [encode, String.toList_ofList]
  rw [takeWhile_replicate_append zeros hhead, List.length_replicate,
    Bytes.toNatBE_replicate_append]

theorem mem_alphabet_of_mem_encode (bytes : Bytes) : ∀ c ∈ (encode bytes).toList, c ∈ alphabet := by
  simp only [encode, String.toList_ofList]
  intro c hc
  rcases List.mem_append.mp hc with hone | hdigit
  · rw [(List.mem_replicate.mp hone).2]
    exact mem_alphabet_one
  · exact mem_alphabet_of_mem_digits (by simp) c hdigit

theorem trimEnd_encode (bytes : Bytes) :
    Text.trimEnd (encode bytes).toList = (encode bytes).toList := by
  apply Text.trimEnd_of_forall_not_blank
  intro c hc
  exact (plain_of_mem_alphabet (mem_alphabet_of_mem_encode bytes c hc)).1

/-- Whether characters write a byte string: a `1` for each of its zeros in front, and behind them
the digits of the number that its other bytes are. -/
def Writes (chars : List Char) (bytes : Bytes) : Prop :=
  ∃ zeros written rest, chars = List.replicate zeros '1' ++ written ∧ written.head? ≠ some '1' ∧
    bytes = List.replicate zeros 0 ++ rest ∧ rest.head? ≠ some 0 ∧
      number 0 written = .ok (Bytes.toNatBE rest)

theorem writes_iff (chars : List Char) (bytes : Bytes) :
    Writes chars bytes ↔ chars = (encode bytes).toList := by
  constructor
  · rintro ⟨zeros, written, rest, rfl, hone, rfl, hzero, hnumber⟩
    rw [toList_encode_replicate_append zeros hzero, digits_of_number hnumber (fun _ => hone),
      digits, if_pos rfl, List.append_nil]
  · rintro rfl
    obtain ⟨zeros, rest, rfl, hzero⟩ := exists_replicate_append 0 bytes
    refine ⟨zeros, digits (Bytes.toNatBE rest) [], rest, toList_encode_replicate_append zeros hzero,
      head?_digits_nil _, rfl, hzero, ?_⟩
    rw [number_digits, number_nil]

theorem decode_eq_ok_iff (text : String) (bytes : Bytes) :
    decode text = .ok bytes ↔ Writes (Text.trimEnd text.toList) bytes := by
  constructor
  · intro hdecode
    simp only [decode] at hdecode
    obtain ⟨ones, written, hchars, hone⟩ :=
      exists_replicate_append '1' (Text.trimEnd text.toList)
    rw [hchars, takeWhile_replicate_append ones hone, dropWhile_replicate_append ones hone,
      List.length_replicate] at hdecode
    split at hdecode
    · cases hdecode
    · split at hdecode
      · cases hdecode
      · rename_i value hvalue
        cases hdecode
        refine ⟨ones, written, _, hchars, hone, rfl, Bytes.head?_ofNatBE_widthOf value, ?_⟩
        rw [hvalue, Bytes.toNatBE_ofNatBE_widthOf]
  · intro hwrites
    have hplain : ((Text.trimEnd text.toList).any (0x80 ≤ ·.toNat)) = false := by
      rw [(writes_iff _ _).mp hwrites, List.any_eq_false]
      intro c hc
      have hascii := (plain_of_mem_alphabet (mem_alphabet_of_mem_encode bytes c hc)).2
      simpa using hascii
    obtain ⟨zeros, written, rest, hchars, hone, rfl, hzero, hnumber⟩ := hwrites
    rw [hchars] at hplain
    simp only [decode, hchars, hplain, Bool.false_eq_true, ↓reduceIte,
      takeWhile_replicate_append zeros hone, dropWhile_replicate_append zeros hone,
      List.length_replicate, hnumber]
    rw [Bytes.widthOf_toNatBE hzero, Bytes.ofNatBE_toNatBE]

theorem five_mul_length_encode_le (bytes : Bytes) :
    5 * (encode bytes).length ≤ 7 * bytes.length + 4 := by
  obtain ⟨zeros, rest, rfl, hhead⟩ := exists_replicate_append 0 bytes
  obtain ⟨width, hwidth⟩ : ∃ width, width = (7 * rest.length + 4) / 5 := ⟨_, rfl⟩
  have hpowers : Nat.pow 256 rest.length ≤ Nat.pow 58 width := by
    rw [Nat.pow_eq, Nat.pow_eq, ← Nat.pow_le_pow_iff_left (show 5 ≠ 0 by decide)]
    calc (256 ^ rest.length) ^ 5
        = (256 ^ 5) ^ rest.length := Nat.pow_right_comm 256 rest.length 5
      _ ≤ (58 ^ 7) ^ rest.length := Nat.pow_le_pow_left (by decide) _
      _ = 58 ^ (7 * rest.length) := (Nat.pow_mul 58 7 rest.length).symm
      _ ≤ 58 ^ (width * 5) := Nat.pow_le_pow_right (by decide) (by omega)
      _ = (58 ^ width) ^ 5 := Nat.pow_mul 58 width 5
  have hdigits := length_digits_le (Nat.lt_of_lt_of_le (Bytes.toNatBE_lt rest) hpowers) []
  rw [← String.length_toList, toList_encode_replicate_append zeros hhead, List.length_append,
    List.length_append, List.length_replicate, List.length_replicate]
  rw [List.length_nil] at hdigits
  omega

theorem length_checksum (bytes : Bytes) : (checksum bytes).length = 4 := by
  rw [checksum, List.length_take, Digest.length_doubleSha256]
  rfl

/-- What is documented of Base58: byte strings are written as numbers, and a text is read as what it
writes without the blanks at its end. -/
structure Codec.IsBaseConversion [Codec] : Prop where
  encode_writes (bytes : Bytes) : Writes (Codec.encode bytes).toList bytes
  decode_eq_ok_iff (text : String) (bytes : Bytes) :
    Codec.decode text = .ok bytes ↔ Writes (Text.trimEnd text.toList) bytes

theorem plain_isBaseConversion : @Codec.IsBaseConversion plain where
  encode_writes _ := (writes_iff _ _).mpr rfl
  decode_eq_ok_iff := decode_eq_ok_iff

section Library

variable [Codec] (hconversion : Codec.IsBaseConversion)

include hconversion

theorem Codec.encode_eq (bytes : Bytes) : Codec.encode bytes = Base58.encode bytes :=
  String.toList_inj.mp ((writes_iff _ _).mp (hconversion.encode_writes bytes))

theorem decodeChecked_eq_ok_iff (text : String) (body : Bytes) :
    decodeChecked text = .ok body ↔
      Text.trimEnd text.toList = (encodeChecked body).toList := by
  have hdecode := hconversion.decode_eq_ok_iff text (body ++ checksum body)
  rw [writes_iff] at hdecode
  rw [encodeChecked, Codec.encode_eq hconversion, ← hdecode]
  unfold decodeChecked
  cases Codec.decode text with
  | error e => simp
  | ok bytes =>
      simp only [Except.ok.injEq]
      constructor
      · intro hread
        split at hread
        · rename_i hchecksum
          cases hread
          rw [eq_of_beq hchecksum, List.take_append_drop]
        · cases hread
      · rintro rfl
        have hlength : (body ++ checksum body).length - 4 = body.length := by
          rw [List.length_append, length_checksum, Nat.add_sub_cancel]
        rw [hlength, List.take_left, List.drop_left, if_pos (beq_self_eq_true _)]

theorem decodeChecked_encodeChecked (body : Bytes) :
    decodeChecked (encodeChecked body) = .ok body := by
  rw [decodeChecked_eq_ok_iff hconversion, encodeChecked, Codec.encode_eq hconversion,
    trimEnd_encode]

end Library

/-- Texts with a checksum and byte strings belong to each other. What is written for a byte string
is read back, and what is read is that text with blanks at its end at most, so two texts that are
read as the same bytes differ in such blanks only. -/
theorem checked_texts_match_bytes :
    (∀ version payload : Bytes,
      decodeChecked (encodeChecked (version ++ payload)) = .ok (version ++ payload)) ∧
    (∀ (text : String) (body : Bytes), decodeChecked text = .ok body ↔
      encodeChecked body = String.ofList (Text.trimEnd text.toList)) ∧
    ∀ (text text' : String) (body : Bytes),
      decodeChecked text = .ok body → decodeChecked text' = .ok body →
        ∃ shared blanks blanks' : List Char, text.toList = shared ++ blanks ∧
          text'.toList = shared ++ blanks' ∧ ∀ c ∈ blanks ++ blanks', Text.isBlank c = true := by
  have hread := decodeChecked_eq_ok_iff plain_isBaseConversion
  refine ⟨fun _ _ => decodeChecked_encodeChecked plain_isBaseConversion _, ?_, ?_⟩
  · intro text body
    rw [hread, ← String.toList_inj, String.toList_ofList]
    exact eq_comm
  · intro text text' body htext htext'
    obtain ⟨blanks, hblanks, hall⟩ := Text.exists_trimEnd_append text.toList
    obtain ⟨blanks', hblanks', hall'⟩ := Text.exists_trimEnd_append text'.toList
    rw [(hread text body).mp htext] at hblanks
    rw [(hread text' body).mp htext'] at hblanks'
    refine ⟨_, blanks, blanks', hblanks, hblanks', ?_⟩
    intro c hc
    exact (List.mem_append.mp hc).elim (hall c) (hall' c)

theorem checked_texts_match_bytes_line_end :
    decodeChecked "1Wh4bh" = .ok [0] ∧ decodeChecked "1Wh4bh \n" = .ok [0] ∧
    ∃ shared blanks blanks' : List Char, "1Wh4bh".toList = shared ++ blanks ∧
      "1Wh4bh \n".toList = shared ++ blanks' ∧ ∀ c ∈ blanks ++ blanks', Text.isBlank c = true := by
  have htext : (encodeChecked [0]).toList = "1Wh4bh".toList := by decide +kernel
  have hread : decodeChecked "1Wh4bh" = .ok [0] := by
    rw [decodeChecked_eq_ok_iff plain_isBaseConversion, htext]
    rfl
  have hread' : decodeChecked "1Wh4bh \n" = .ok [0] := by
    rw [decodeChecked_eq_ok_iff plain_isBaseConversion, htext]
    rfl
  exact ⟨hread, hread', checked_texts_match_bytes.2.2 _ _ _ hread hread'⟩

end Base58

end Lockstep
