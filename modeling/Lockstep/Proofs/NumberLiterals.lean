import Mathlib.Data.Nat.Digits.Lemmas
import Lockstep.Proofs.NumberCoding
import Lockstep.Proofs.ParsedInstructions
import Lockstep.Proofs.ScriptExecution

namespace Lockstep

/-- A decimal number as it stands in a script. Without a sign in front the number of its digits is
odd, since an even number of digits is hexadecimal data. -/
structure NumberLiteral where
  negative : Bool
  digits : List (Fin 10)
  length_pos : 1 ≤ digits.length
  length_le : digits.length ≤ 4300
  odd_of_unsigned : negative = false → digits.length % 2 = 1

/-- The instruction pushes an item wherever instructions take effect, and changes nothing else. -/
def Instruction.Pushes (instruction : Instruction) (item : Bytes) : Prop :=
  ∀ (rules : Rules) (check? : Option SignatureCheck) (state : Stacks), state.isExecuting = true →
    instruction.execute rules check? state = .done { state with main := item :: state.main }

namespace NumberLiteral

def digitChars (literal : NumberLiteral) : List Char :=
  literal.digits.map fun digit => Nat.digitChar digit.val

def chars (literal : NumberLiteral) : List Char :=
  if literal.negative then '-' :: literal.digitChars else literal.digitChars

def text (literal : NumberLiteral) : String :=
  String.ofList literal.chars

/-- The number that a literal writes, first digit first. -/
def value (literal : NumberLiteral) : Int :=
  let magnitude : Nat := Nat.ofDigits 10 (literal.digits.map Fin.val).reverse
  if literal.negative then -(magnitude : Int) else magnitude

theorem isDigit_digitChar : ∀ digit : Fin 10, (Nat.digitChar digit).isDigit = true := by
  decide

theorem isHexDigit_digitChar (digit : Fin 10) :
    Bytes.isHexDigit (Nat.digitChar digit) = true := by
  rw [Bytes.isHexDigit, Bytes.hexValue?_digitChar digit (by omega)]
  rfl

theorem ofDigitChars_eq_ofDigits (digits : List (Fin 10)) :
    Nat.ofDigitChars 10 (digits.map fun digit => Nat.digitChar digit.val) 0 =
      Nat.ofDigits 10 (digits.map Fin.val).reverse := by
  induction digits with
  | nil => rfl
  | cons digit digits ih =>
      rw [List.map_cons, List.map_cons, Nat.ofDigits_reverse_cons, ← ih,
        Nat.ofDigitChars_cons_digitChar_of_lt_ten digit.isLt,
        Nat.ofDigitChars_eq_ofDigitChars_zero, List.length_map, List.length_map, Nat.mul_zero,
        Nat.zero_add, Nat.add_comm]

variable (literal : NumberLiteral)

theorem length_digitChars : literal.digitChars.length = literal.digits.length :=
  List.length_map _

theorem digitChars_ne_nil : literal.digitChars ≠ [] := by
  apply List.ne_nil_of_length_pos
  rw [length_digitChars]
  exact literal.length_pos

theorem exists_digit_of_mem {c : Char} (hc : c ∈ literal.digitChars) :
    ∃ digit : Fin 10, c = Nat.digitChar digit := by
  obtain ⟨digit, -, rfl⟩ := List.mem_map.mp hc
  exact ⟨digit, rfl⟩

theorem mem_chars {c : Char} (hc : c ∈ literal.chars) :
    c = '-' ∨ ∃ digit : Fin 10, c = Nat.digitChar digit := by
  unfold chars at hc
  split at hc
  · rcases List.mem_cons.mp hc with rfl | hc
    · exact .inl rfl
    · exact .inr (literal.exists_digit_of_mem hc)
  · exact .inr (literal.exists_digit_of_mem hc)

theorem chars_ne_nil : literal.chars ≠ [] := by
  unfold chars
  split
  · simp
  · exact literal.digitChars_ne_nil

theorem isBlank_of_mem_chars : ∀ c ∈ literal.chars, Text.isBlank c = false := by
  intro c hc
  rcases literal.mem_chars hc with rfl | ⟨digit, rfl⟩
  · decide
  · exact Text.isBlank_of_isHexDigit (isHexDigit_digitChar digit)

theorem not_mem_chars {c : Char} (hsign : c ≠ '-')
    (hdigits : ∀ digit : Fin 10, c ≠ Nat.digitChar digit) : c ∉ literal.chars := by
  intro hc
  rcases literal.mem_chars hc with hminus | ⟨digit, hdigit⟩
  · exact hsign hminus
  · exact hdigits digit hdigit

theorem toList_text : literal.text.toList = literal.chars :=
  String.toList_ofList

theorem tokenChars_text : Script.tokenChars literal.text = literal.chars := by
  rw [Script.tokenChars, toList_text]
  apply if_neg
  intro hlast
  have hblank := literal.isBlank_of_mem_chars '\n' (List.mem_of_getLast? hlast)
  exact absurd hblank (by decide)

theorem ofHexChars?_chars : Bytes.ofHexChars? literal.chars = none := by
  cases hread : Bytes.ofHexChars? literal.chars with
  | none => rfl
  | some bytes =>
      have hdigits := Bytes.isHexDigit_of_ofHexChars? hread
      have hlength := Bytes.length_of_ofHexChars? hread
      cases hsign : literal.negative with
      | true =>
          have hminus := hdigits '-' (by simp [chars, hsign])
          exact absurd hminus (by decide)
      | false =>
          have hodd := literal.odd_of_unsigned hsign
          simp only [chars, hsign, Bool.false_eq_true, ↓reduceIte, length_digitChars] at hlength
          omega

theorem hexData?_text : Script.hexData? literal.text = none := by
  have hlower : 'x' ∉ literal.chars := literal.not_mem_chars (by decide) (by decide)
  have hupper : 'X' ∉ literal.chars := literal.not_mem_chars (by decide) (by decide)
  unfold Script.hexData?
  rw [tokenChars_text]
  split
  · rename_i digits hchars
    exact absurd (by simp [hchars]) hlower
  · rename_i digits hchars
    exact absurd (by simp [hchars]) hupper
  · exact literal.ofHexChars?_chars

theorem isDecimal_digitChars : Script.isDecimal literal.digitChars = true := by
  have hdigits : literal.digitChars.all Char.isDigit = true := by
    rw [List.all_eq_true]
    intro c hc
    obtain ⟨digit, rfl⟩ := literal.exists_digit_of_mem hc
    exact isDigit_digitChar digit
  simp [Script.isDecimal, hdigits, literal.digitChars_ne_nil]

theorem decimal?_text :
    Script.decimal? literal.text = some (literal.negative, literal.digitChars) := by
  unfold Script.decimal?
  rw [tokenChars_text]
  have hdecimal := literal.isDecimal_digitChars
  cases hsign : literal.negative with
  | true => simp [chars, hsign, hdecimal]
  | false =>
      have hchars : literal.chars = literal.digitChars := by simp [chars, hsign]
      rw [hchars]
      split
      · rename_i digits hminus
        obtain ⟨digit, hdigit⟩ := literal.exists_digit_of_mem (c := '-') (by simp [hminus])
        exact absurd hdigit (by revert digit; decide)
      · rw [if_pos hdecimal]

theorem readToken_text :
    Script.readToken literal.text = .ok (Instruction.pushNumber literal.value) := by
  have hlength : ¬ Decimal.digitLimit < literal.digitChars.length := by
    rw [length_digitChars]
    exact Nat.not_lt.mpr literal.length_le
  have hvalue : Nat.ofDigitChars 10 literal.digitChars 0 =
      Nat.ofDigits 10 (literal.digits.map Fin.val).reverse := ofDigitChars_eq_ofDigits _
  unfold Script.readToken
  simp only [hexData?_text, decimal?_text, hlength, ↓reduceIte, hvalue]
  rfl

theorem isComment_text : Script.isComment literal.text = false := by
  have hslash : '/' ∉ literal.chars := literal.not_mem_chars (by decide) (by decide)
  have hhash : '#' ∉ literal.chars := literal.not_mem_chars (by decide) (by decide)
  rw [Script.isComment, toList_text]
  cases hchars : literal.chars with
  | nil => rfl
  | cons c rest =>
      rw [hchars, List.mem_cons, not_or] at hslash hhash
      simp only [String.reduceToList, List.isPrefixOf, beq_eq_false_iff_ne.mpr hslash.1,
        beq_eq_false_iff_ne.mpr hhash.1, Bool.false_and, Bool.or_self]

theorem fields_text : Text.fields literal.text = [literal.text] :=
  Text.fields_of_forall_not_blank literal.chars literal.chars_ne_nil literal.isBlank_of_mem_chars

theorem parse_text :
    Script.parse literal.text = .ok [Instruction.pushNumber literal.value] := by
  have hplain : ∀ field ∈ [literal.text], Script.isComment field = false := by
    simpa using literal.isComment_text
  rw [Script.parse_of_fields literal.fields_text hplain,
    Script.readTolerantTokens_cons literal.readToken_text
      (Script.parsed_pushNumber literal.value).data_or_no_limit]
  rfl

end NumberLiteral

namespace Instruction

theorem operation_of_forNumber {n code : Int} (hcode : Opcode.forNumber n = .ok code) :
    Operation.ofCode? code = some (.constant n) := by
  unfold Opcode.forNumber at hcode
  split at hcode
  · rename_i hzero
    cases hcode
    rw [hzero]
    rfl
  · split at hcode
    · rename_i hminus
      cases hcode
      rw [hminus]
      rfl
    · split at hcode
      · rename_i hsmall
        cases hcode
        have hrange : Opcode.one ≤ Opcode.one + n - 1 ∧ Opcode.one + n - 1 ≤ Opcode.sixteen := by
          unfold Opcode.one Opcode.sixteen
          omega
        have hnumber : Opcode.one + n - 1 - Opcode.one + 1 = n := by omega
        rw [Operation.ofCode?, if_pos hrange, hnumber]
      · simp at hcode

theorem ne_zero_of_forNumber {n : Int} {e : Opcode.RangeError}
    (hcode : Opcode.forNumber n = .error e) : n ≠ 0 := by
  rintro rfl
  simp [Opcode.forNumber] at hcode

theorem pushes_pushNumber (n : Int) : (pushNumber n).Pushes (ScriptNum.encode n) := by
  intro rules check? state hexecuting
  unfold pushNumber
  split
  · rename_i code hcode
    exact execute_of_operation hexecuting rfl (operation_of_forNumber hcode)
  · rename_i e hcode
    have hsome : ScriptNum.encode n ≠ [] := by
      intro hempty
      have hwidth := ScriptNum.length_encode n
      rw [hempty, List.length_nil, eq_comm, ScriptNum.width_eq_zero_iff] at hwidth
      exact ne_zero_of_forNumber hcode hwidth
    exact execute_of_data hexecuting (by simp [push, hsome])

end Instruction

/-- A decimal number in a script is one instruction, and that pushes the shortest form of the number
which is written, sign and leading zeros included. The same holds of the instruction that is made for
an integer of any size. -/
theorem number_literals_push_their_value :
    (∀ literal : NumberLiteral, ∃ instruction,
      Script.parse literal.text = .ok [instruction] ∧
        instruction.Pushes (ScriptNum.encode literal.value)) ∧
    ∀ n : Int, (Instruction.pushNumber n).Pushes (ScriptNum.encode n) := by
  constructor
  · intro literal
    exact ⟨_, literal.parse_text, Instruction.pushes_pushNumber literal.value⟩
  · exact Instruction.pushes_pushNumber

theorem number_literals_push_their_value_leading_zeros :
    ∃ negative unsigned, Script.parse "-0128" = .ok [negative] ∧
      Script.parse "00016" = .ok [unsigned] ∧
      negative.execute {} none ⟨[[0x05]], [[0x07]], [true]⟩ =
        .done ⟨[[0x80, 0x80], [0x05]], [[0x07]], [true]⟩ ∧
      unsigned.execute {} none ⟨[[0x05]], [[0x07]], [true]⟩ =
        .done ⟨[[0x10], [0x05]], [[0x07]], [true]⟩ ∧
      (Instruction.pushNumber 128).execute {} none ⟨[], [], []⟩ =
        .done ⟨[[0x80, 0x00]], [], []⟩ := by
  have hnegative : ScriptNum.encode (-128) = [0x80, 0x80] := by decide +kernel
  have hunsigned : ScriptNum.encode 16 = [0x10] := by decide +kernel
  have hpositive : ScriptNum.encode 128 = [0x80, 0x00] := by decide +kernel
  obtain ⟨negative, hminus, hpushNegative⟩ := number_literals_push_their_value.1
    ⟨true, [0, 1, 2, 8], by decide, by decide, by decide⟩
  obtain ⟨unsigned, hplain, hpushUnsigned⟩ := number_literals_push_their_value.1
    ⟨false, [0, 0, 0, 1, 6], by decide, by decide, by decide⟩
  refine ⟨negative, unsigned, hminus, hplain, ?_, ?_, ?_⟩
  · rw [← hnegative]
    exact hpushNegative {} none ⟨[[0x05]], [[0x07]], [true]⟩ rfl
  · rw [← hunsigned]
    exact hpushUnsigned {} none ⟨[[0x05]], [[0x07]], [true]⟩ rfl
  · rw [← hpositive]
    exact number_literals_push_their_value.2 128 {} none ⟨[], [], []⟩ rfl

end Lockstep
