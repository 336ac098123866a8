import Lockstep.Json.Reader
import Lockstep.Proofs.HexText
import Mathlib.Data.List.TakeDrop

namespace Lockstep.Json

theorem toNat_ofNat_of_isValidChar {code : Nat} (hcode : code.isValidChar) :
    (Char.ofNat code).toNat = code := by
  rw [Char.ofNat, dif_pos hcode]
  rfl

theorem toNat_digitChar_lt {digit : Nat} (hdigit : digit < 16) :
    (Nat.digitChar digit).toNat < 0x80 := by
  revert digit
  decide

theorem unitEscape_eq {unit : Nat} (hunit : unit < 0x10000) :
    unitEscape unit = ['\\', 'u', Nat.digitChar (unit / 0x1000), Nat.digitChar (unit / 0x100 % 16),
      Nat.digitChar (unit / 0x10 % 16), Nat.digitChar (unit % 16)] := by
  have hsplit : ∀ n, 16 ≤ n →
      Nat.toDigits 16 n = Nat.toDigits 16 (n / 16) ++ [Nat.digitChar (n % 16)] :=
    fun n hn => Nat.toDigits_of_base_le (by decide) hn
  have hlast : ∀ n, n < 16 → Nat.toDigits 16 n = [Nat.digitChar n] :=
    fun n hn => Nat.toDigits_of_lt_base hn
  have h256 : unit / 16 / 16 = unit / 0x100 := Nat.div_div_eq_div_mul unit 16 16
  have h4096 : unit / 0x100 / 16 = unit / 0x1000 := Nat.div_div_eq_div_mul unit 0x100 16
  unfold unitEscape
  -- the number of digits decides how many zeros are put in front
  rcases Nat.lt_or_ge unit 16 with hone | hone
  · have hzero : unit / 0x10 = 0 ∧ unit / 0x100 = 0 ∧ unit / 0x1000 = 0 := by omega
    simp [hlast unit hone, hzero, Nat.mod_eq_of_lt hone]
  · rw [hsplit unit hone]
    rcases Nat.lt_or_ge unit 0x100 with htwo | htwo
    · have hzero : unit / 0x100 = 0 ∧ unit / 0x1000 = 0 := by omega
      have hhigh : unit / 16 < 16 := by omega
      simp [hlast _ hhigh, hzero, Nat.mod_eq_of_lt hhigh]
    · rw [hsplit (unit / 16) (by omega), h256]
      rcases Nat.lt_or_ge unit 0x1000 with hthree | hthree
      · have hzero : unit / 0x1000 = 0 := by omega
        have hhigh : unit / 0x100 < 16 := by omega
        simp [hlast _ hhigh, hzero, Nat.mod_eq_of_lt hhigh]
      · have hhigh : unit / 0x1000 < 16 := by omega
        rw [hsplit (unit / 0x100) (by omega), h4096, hlast _ hhigh]
        rfl

theorem codeUnit?_digitChars {unit : Nat} (hunit : unit < 0x10000) (rest : List Char) :
    codeUnit? (Nat.digitChar (unit / 0x1000) :: Nat.digitChar (unit / 0x100 % 16) ::
      Nat.digitChar (unit / 0x10 % 16) :: Nat.digitChar (unit % 16) :: rest) =
        some (unit, rest) := by
  have hvalue : ((unit / 0x1000 * 16 + unit / 0x100 % 16) * 16 + unit / 0x10 % 16) * 16 +
      unit % 16 = unit := by omega
  simp only [codeUnit?]
  rw [Bytes.hexValue?_digitChar _ (by omega), Bytes.hexValue?_digitChar _ (by omega),
    Bytes.hexValue?_digitChar _ (by omega), Bytes.hexValue?_digitChar _ (by omega)]
  simp only [hvalue]

theorem escape?_unit {unit : Nat} (hunit : unit < 0x10000)
    (hhigh : CodePoints.isHighSurrogate unit = false) (rest : List Char) :
    escape? ((unitEscape unit).tail ++ rest) = some (unit, rest) := by
  rw [unitEscape_eq hunit]
  simp only [List.tail_cons, List.cons_append, List.nil_append, escape?,
    codeUnit?_digitChars hunit, hhigh, Bool.false_eq_true, ↓reduceIte]

theorem escape?_pair (high low : Nat) (hhigh : 0xd800 ≤ high ∧ high ≤ 0xdbff)
    (hlow : 0xdc00 ≤ low ∧ low ≤ 0xdfff) (rest : List Char) :
    escape? ((unitEscape high).tail ++ (unitEscape low ++ rest)) =
      some (CodePoints.joinSurrogates high low, rest) := by
  have hfirst : CodePoints.isHighSurrogate high = true := by
    simp [CodePoints.isHighSurrogate, hhigh]
  have hsecond : CodePoints.isLowSurrogate low = true := by
    simp [CodePoints.isLowSurrogate, hlow]
  rw [unitEscape_eq (show high < 0x10000 by omega), unitEscape_eq (show low < 0x10000 by omega)]
  simp only [List.tail_cons, List.cons_append, List.nil_append, escape?, lowSurrogate?,
    codeUnit?_digitChars (show high < 0x10000 by omega),
    codeUnit?_digitChars (show low < 0x10000 by omega), hfirst, hsecond, ↓reduceIte]

theorem readString_backslash (seen : CodePoints) (fuel : Nat) {text rest : List Char} {code : Nat}
    (hescape : escape? text = some (code, rest)) :
    readString seen (fuel + 1) ('\\' :: text) = readString (code :: seen) fuel rest := by
  simp [readString, hescape]

/-- The forms that the escape of a code point can have. -/
inductive EscapeForm (code : Nat) : List Char → Prop where
  /-- A letter or the character itself behind a backslash. -/
  | short (c : Char) (hascii : c.toNat < 0x80)
      (hread : ∀ rest, escape? (c :: rest) = some (code, rest)) : EscapeForm code ['\\', c]
  | visible (hvisible : 0x20 ≤ code ∧ code < 0x7f) (hquote : code ≠ 0x22)
      (hslash : code ≠ 0x5c) : EscapeForm code [Char.ofNat code]
  | unit (hsmall : code < 0x10000) : EscapeForm code (unitEscape code)
  | pair (hlarge : 0x10000 ≤ code) : EscapeForm code
      (unitEscape (0xd800 + (code - 0x10000) / 0x400) ++
        unitEscape (0xdc00 + (code - 0x10000) % 0x400))

theorem escapeForm_escape (code : Nat) : EscapeForm code (escape code) := by
  unfold escape
  split
  · subst code
    exact .short '"' (by decide) fun _ => rfl
  split
  · subst code
    exact .short '\\' (by decide) fun _ => rfl
  split
  · subst code
    exact .short 'n' (by decide) fun _ => rfl
  split
  · subst code
    exact .short 'r' (by decide) fun _ => rfl
  split
  · subst code
    exact .short 't' (by decide) fun _ => rfl
  split
  · subst code
    exact .short 'b' (by decide) fun _ => rfl
  split
  · subst code
    exact .short 'f' (by decide) fun _ => rfl
  split
  · rename_i hquote hslash _ _ _ _ _ hvisible
    exact .visible hvisible hquote hslash
  split
  · rename_i hsmall
    exact .unit hsmall
  · rename_i hlarge
    exact .pair (Nat.not_lt.mp hlarge)

theorem mem_unitEscape {unit : Nat} (hunit : unit < 0x10000) :
    ∀ c ∈ unitEscape unit, c.toNat < 0x80 := by
  rw [unitEscape_eq hunit]
  simp only [List.forall_mem_cons]
  refine ⟨by decide, by decide, ?_, ?_, ?_, ?_, by simp⟩
  all_goals
    apply toNat_digitChar_lt
    omega

namespace EscapeForm

variable {code : Nat} {text : List Char}

theorem ascii (hform : EscapeForm code text) (hcode : code.isValidChar) :
    ∀ c ∈ text, c.toNat < 0x80 := by
  have hbounds : code < 0xd800 ∨ 0xdfff < code ∧ code < 0x110000 := hcode
  cases hform with
  | short c hascii hread => simp [hascii]
  | visible hvisible =>
      intro c hc
      rw [List.mem_singleton.mp hc, toNat_ofNat_of_isValidChar hcode]
      omega
  | unit hsmall => exact mem_unitEscape hsmall
  | pair hlarge =>
      intro c hc
      rcases List.mem_append.mp hc with hc | hc
      · exact mem_unitEscape (by omega) c hc
      · exact mem_unitEscape (by omega) c hc

theorem length_pos (hform : EscapeForm code text) : 0 < text.length := by
  cases hform with
  | short | visible => exact Nat.succ_pos _
  | unit => exact Nat.succ_pos _
  | pair =>
      rw [List.length_append]
      exact Nat.add_pos_left (Nat.succ_pos _) _

theorem readString_append (hform : EscapeForm code text) (hcode : code.isValidChar)
    (seen : CodePoints) (fuel : Nat) (rest : List Char) :
    readString seen (fuel + 1) (text ++ rest) = readString (code :: seen) fuel rest := by
  have hbounds : code < 0xd800 ∨ 0xdfff < code ∧ code < 0x110000 := hcode
  cases hform with
  | short c hascii hread => exact readString_backslash seen fuel (hread rest)
  | visible hvisible hquote hslash =>
      have hchar := toNat_ofNat_of_isValidChar hcode
      have hnotQuote : Char.ofNat code ≠ '"' := by
        intro heq
        exact hquote (hchar.symm.trans (congrArg Char.toNat heq))
      have hnotSlash : Char.ofNat code ≠ '\\' := by
        intro heq
        exact hslash (hchar.symm.trans (congrArg Char.toNat heq))
      simp [readString, hnotQuote, hnotSlash, hchar, Nat.not_lt.mpr hvisible.1]
  | unit hsmall =>
      apply readString_backslash
      apply escape?_unit hsmall
      simp only [CodePoints.isHighSurrogate, Bool.and_eq_false_iff, decide_eq_false_iff_not]
      omega
  | pair hlarge =>
      rw [List.append_assoc]
      apply readString_backslash
      have hjoin : CodePoints.joinSurrogates (0xd800 + (code - 0x10000) / 0x400)
          (0xdc00 + (code - 0x10000) % 0x400) = code := by
        unfold CodePoints.joinSurrogates
        omega
      have hread := escape?_pair (0xd800 + (code - 0x10000) / 0x400)
        (0xdc00 + (code - 0x10000) % 0x400) (by omega) (by omega) rest
      rw [hjoin] at hread
      exact hread

end EscapeForm

theorem readString_flatMap_escape (text seen : CodePoints) (fuel : Nat) (rest : List Char)
    (hvalid : ∀ code ∈ text, code.isValidChar) (hfuel : text.length < fuel) :
    readString seen fuel (text.flatMap escape ++ '"' :: rest) =
      some (seen.reverse ++ text, rest) := by
  induction text generalizing seen fuel with
  | nil =>
      obtain ⟨fuel, rfl⟩ := Nat.exists_eq_add_one.mpr hfuel
      simp [readString]
  | cons code text ih =>
      obtain ⟨fuel, rfl⟩ := Nat.exists_eq_add_one.mpr (Nat.zero_lt_of_lt hfuel)
      rw [List.forall_mem_cons] at hvalid
      rw [List.flatMap_cons, List.append_assoc,
        (escapeForm_escape code).readString_append hvalid.1 seen fuel,
        ih (code :: seen) fuel hvalid.2 (by simpa using hfuel)]
      simp

theorem isValidChar_of_mem_ofString (text : String) :
    ∀ code ∈ CodePoints.ofString text, code.isValidChar := by
  intro code hcode
  obtain ⟨c, -, rfl⟩ := List.mem_map.mp hcode
  exact c.valid

theorem length_le_length_flatMap_escape (text : CodePoints) :
    text.length ≤ (text.flatMap escape).length := by
  induction text with
  | nil => simp
  | cons code text ih =>
      have hpos := (escapeForm_escape code).length_pos
      simp only [List.flatMap_cons, List.length_append, List.length_cons]
      omega

theorem exists_readString_writeString (text : String) (fuel : Nat) (rest : List Char)
    (hfuel : (writeString (CodePoints.ofString text)).length ≤ fuel) :
    ∃ tail, writeString (CodePoints.ofString text) ++ rest = '"' :: tail ∧
      readString [] fuel tail = some (CodePoints.ofString text, rest) := by
  refine ⟨(CodePoints.ofString text).flatMap escape ++ '"' :: rest, ?_, ?_⟩
  · simp [writeString]
  · have hlength := length_le_length_flatMap_escape (CodePoints.ofString text)
    simp only [writeString, List.length_cons, List.length_append] at hfuel
    exact readString_flatMap_escape _ [] fuel rest (isValidChar_of_mem_ofString text) (by omega)

theorem writeString_ascii (text : String) :
    ∀ c ∈ writeString (CodePoints.ofString text), c.toNat < 0x80 := by
  intro c hc
  simp only [writeString, List.mem_cons, List.mem_append, List.mem_flatMap, List.not_mem_nil,
    or_false] at hc
  rcases hc with rfl | ⟨code, hcode, hc⟩ | rfl
  · decide
  · exact (escapeForm_escape code).ascii (isValidChar_of_mem_ofString text code hcode) c hc
  · decide

/-- What may stand behind a value: nothing, or a character that no number goes on with. -/
def EndsValue (rest : List Char) : Prop :=
  ∀ c ∈ rest.head?, c = ',' ∨ c = ']' ∨ c = '\x7d' ∨ c = ' ' ∨ c = '\n'

section Numbers

variable {rest : List Char}

theorem EndsValue.cases (hrest : EndsValue rest) :
    rest = [] ∨ ∃ c tail, rest = c :: tail ∧
      (c = ',' ∨ c = ']' ∨ c = '\x7d' ∨ c = ' ' ∨ c = '\n') := by
  cases rest with
  | nil => exact .inl rfl
  | cons c tail => exact .inr ⟨c, tail, rfl, hrest c rfl⟩

theorem EndsValue.fraction?_eq_none (hrest : EndsValue rest) : fraction? rest = none := by
  rcases hrest.cases with rfl | ⟨c, tail, rfl, rfl | rfl | rfl | rfl | rfl⟩ <;> rfl

theorem EndsValue.exponent?_eq_none (hrest : EndsValue rest) : exponent? rest = none := by
  rcases hrest.cases with rfl | ⟨c, tail, rfl, rfl | rfl | rfl | rfl | rfl⟩ <;> rfl

theorem EndsValue.spanDigits_append (hrest : EndsValue rest) {digits : List Char}
    (hdigits : ∀ c ∈ digits, c.isDigit = true) :
    spanDigits (digits ++ rest) = (digits, rest) := by
  have hnone : rest.takeWhile Char.isDigit = [] ∧ rest.dropWhile Char.isDigit = rest := by
    rcases hrest.cases with rfl | ⟨c, tail, rfl, rfl | rfl | rfl | rfl | rfl⟩ <;>
      exact ⟨rfl, rfl⟩
  rw [spanDigits, List.span_eq_takeWhile_dropWhile, List.takeWhile_append_of_pos hdigits,
    List.dropWhile_append_of_pos hdigits, hnone.1, hnone.2, List.append_nil]

theorem exists_toDigits_eq_cons (n : Nat) :
    ∃ digit tail, Nat.toDigits 10 n = digit :: tail ∧ digit.isDigit = true ∧
      (0 < n → digit ≠ '0') := by
  induction n using Nat.strongRecOn with
  | ind n ih =>
      rw [Nat.toDigits_eq_if (by decide)]
      split
      · rename_i hsmall
        refine ⟨_, [], rfl, by simpa [Nat.isDigit_digitChar] using hsmall, ?_⟩
        intro hpos
        simpa using Nat.ne_of_gt hpos
      · obtain ⟨digit, tail, hdigits, hdigit, hnonzero⟩ := ih (n / 10) (by omega)
        refine ⟨digit, tail ++ [_], by rw [hdigits, List.cons_append], hdigit, ?_⟩
        intro hpos
        exact hnonzero (by omega)

theorem wholePart?_toDigits (n : Nat) (hrest : EndsValue rest) :
    wholePart? (Nat.toDigits 10 n ++ rest) = some (Nat.toDigits 10 n, rest) := by
  have hspan := hrest.spanDigits_append fun c hc =>
    Nat.isDigit_of_mem_toDigits (b := 10) (n := n) (by decide) (by decide) hc
  rcases Nat.eq_zero_or_pos n with rfl | hpos
  · rw [Nat.toDigits_zero]
    rfl
  · obtain ⟨digit, tail, hdigits, -, hnonzero⟩ := exists_toDigits_eq_cons n
    rw [hdigits, List.cons_append] at hspan ⊢
    unfold wholePart?
    split
    · rename_i heq
      exact absurd (List.cons.inj heq).1 (hnonzero hpos)
    · rw [hspan]

theorem readNumber_toDigits (negative : Bool) {n : Nat}
    (hwritable : n < Nat.pow 10 Decimal.digitLimit) (hrest : EndsValue rest) :
    readNumber negative (Nat.toDigits 10 n ++ rest) =
      .ok (int (if negative then -(n : Int) else n), rest) := by
  have hlength : ∀ limit, 0 < limit → n < Nat.pow 10 limit →
      (Nat.toDigits 10 n).length ≤ limit :=
    fun limit hpos hlt => (Nat.length_toDigits_le_iff (by decide) hpos).mpr hlt
  have hshort := hlength Decimal.digitLimit (by decide) hwritable
  simp only [readNumber, wholePart?_toDigits n hrest, hrest.fraction?_eq_none,
    hrest.exponent?_eq_none, Nat.not_lt.mpr hshort, ↓reduceIte, Nat.ofDigitChars_ten_toDigits]

theorem ne_of_isDigit {c other : Char} (hc : c.isDigit = true) (hother : other.isDigit = false) :
    other ≠ c := by
  rintro rfl
  simp [hc] at hother

theorem readPlain_digit (depth : Nat) {digit : Char} (hdigit : digit.isDigit = true)
    (tail : List Char) : readPlain depth (digit :: tail) = readNumber false (digit :: tail) := by
  have hwords : (words.find? fun word => word.1.isPrefixOf (digit :: tail)) = none := by
    simp [words, List.isPrefixOf, ne_of_isDigit hdigit (show 'n'.isDigit = false by decide),
      ne_of_isDigit hdigit (show 't'.isDigit = false by decide),
      ne_of_isDigit hdigit (show 'f'.isDigit = false by decide),
      ne_of_isDigit hdigit (show 'N'.isDigit = false by decide),
      ne_of_isDigit hdigit (show 'I'.isDigit = false by decide),
      ne_of_isDigit hdigit (show '-'.isDigit = false by decide)]
  unfold readPlain
  rw [hwords]
  dsimp only
  split
  · rename_i heq
    exact absurd (List.cons.inj heq).1.symm
      (ne_of_isDigit hdigit (show '-'.isDigit = false by decide))
  · rfl

theorem readPlain_minus (depth : Nat) {digit : Char} (hdigit : digit.isDigit = true)
    (tail : List Char) :
    readPlain depth ('-' :: digit :: tail) = readNumber true (digit :: tail) := by
  have hwords : (words.find? fun word => word.1.isPrefixOf ('-' :: digit :: tail)) = none := by
    simp [words, List.isPrefixOf, ne_of_isDigit hdigit (show 'I'.isDigit = false by decide)]
  unfold readPlain
  rw [hwords]
  rfl

theorem write_int (n : Int) :
    (int n).write =
      if 0 ≤ n then Nat.toDigits 10 n.natAbs else '-' :: Nat.toDigits 10 n.natAbs := by
  rw [show (int n).write = (toString n).toList from rfl, Int.toString_eq_repr, Int.repr_eq_if]
  split
  · rw [Nat.toList_repr, show n.toNat = n.natAbs by omega]
  · rw [String.toList_append, Nat.toList_repr, show (-n).toNat = n.natAbs by omega]
    rfl

theorem readPlain_int (depth : Nat) {n : Int} (hwritable : Decimal.isWritable n = true)
    (hrest : EndsValue rest) :
    readPlain depth ((int n).write ++ rest) = .ok (int n, rest) := by
  have hread := fun negative =>
    readNumber_toDigits negative (of_decide_eq_true hwritable) hrest
  obtain ⟨digit, tail, hdigits, hdigit, -⟩ := exists_toDigits_eq_cons n.natAbs
  rw [hdigits, List.cons_append] at hread
  rw [write_int, hdigits]
  by_cases hnonneg : 0 ≤ n
  · rw [if_pos hnonneg, List.cons_append, readPlain_digit depth hdigit, hread]
    have hvalue : (n.natAbs : Int) = n := by omega
    simp only [Bool.false_eq_true, ↓reduceIte, hvalue]
  · rw [if_neg hnonneg, List.cons_append, List.cons_append, readPlain_minus depth hdigit, hread]
    have hvalue : -(n.natAbs : Int) = n := by omega
    simp only [↓reduceIte, hvalue]

end Numbers

end Lockstep.Json
