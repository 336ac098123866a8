import Lockstep.Proofs.NumberCoding
import Lockstep.Proofs.ParsedInstructions

namespace Lockstep

theorem Decimal.ofDigitChars_lt {digits : List Char} (hdigits : digits.all Char.isDigit = true) :
    Nat.ofDigitChars 10 digits 0 < Nat.pow 10 digits.length := by
  induction digits with
  | nil => simp
  | cons c digits ih =>
      rw [List.all_cons, Bool.and_eq_true] at hdigits
      have hrest := ih hdigits.2
      have hdigit : c.toNat - '0'.toNat ≤ 9 := by
        have hc := hdigits.1
        simp only [Char.isDigit, Bool.and_eq_true, decide_eq_true_eq] at hc
        have hupper : c.toNat ≤ 57 := hc.2
        have hzero : '0'.toNat = 48 := rfl
        omega
      have hscale := Nat.mul_le_mul_left (Nat.pow 10 digits.length) hdigit
      rw [Nat.pow_eq] at hrest hscale
      rw [Nat.ofDigitChars_cons, Nat.ofDigitChars_eq_ofDigitChars_zero, List.length_cons,
        Nat.pow_eq, Nat.pow_succ, Nat.mul_zero, Nat.zero_add]
      omega

theorem ScriptNum.width_le_of_lt {n : Int} (digits : Nat) (hn : n.natAbs < Nat.pow 10 digits) :
    2 * width n ≤ digits + 2 := by
  unfold width
  split
  · omega
  · rename_i hzero
    have hlog : n.natAbs.log2 < 4 * digits := by
      rw [Nat.log2_lt (by omega), Nat.pow_mul]
      exact Nat.lt_of_lt_of_le hn (Nat.pow_le_pow_left (by decide) digits)
    omega

namespace Script

/-- The most bytes of data, twice over, that a token of a length can give. -/
def dataBound (length : Nat) : Nat :=
  max length (Decimal.digitLimit + 2)

theorem length_tokenChars_le (token : String) : (tokenChars token).length ≤ token.length := by
  rw [← String.length_toList]
  simp only [tokenChars]
  split
  · rw [List.length_dropLast]
    omega
  · exact Nat.le_refl _

theorem length_of_hexData? {token : String} {item : Bytes} (hitem : hexData? token = some item) :
    2 * item.length ≤ token.length := by
  have hchars := length_tokenChars_le token
  unfold hexData? at hitem
  split at hitem
  · rename_i digits hfront
    have hlength := Bytes.length_of_ofHexChars? hitem
    simp only [hfront, List.length_cons] at hchars
    omega
  · rename_i digits hfront
    have hlength := Bytes.length_of_ofHexChars? hitem
    simp only [hfront, List.length_cons] at hchars
    omega
  · have hlength := Bytes.length_of_ofHexChars? hitem
    omega

theorem all_isDigit_of_decimal? {token : String} {negative : Bool} {digits : List Char}
    (hdecimal : decimal? token = some (negative, digits)) : digits.all Char.isDigit = true := by
  unfold decimal? isDecimal at hdecimal
  grind

theorem data_push_eq {item data : Bytes} (hdata : (Instruction.push item).data = some data) :
    data = item := by
  unfold Instruction.push at hdata
  split at hdata
  · simp [Instruction.ofCode] at hdata
  · simpa using hdata.symm

theorem length_data_of_readToken {token : String} {instruction : Instruction} {item : Bytes}
    (hread : readToken token = .ok instruction) (hdata : instruction.data = some item) :
    2 * item.length ≤ dataBound token.length := by
  unfold readToken at hread
  split at hread
  · rename_i hex hitem
    cases hread
    rw [data_push_eq hdata]
    exact Nat.le_trans (length_of_hexData? hitem) (Nat.le_max_left _ _)
  · split at hread
    · rename_i negative digits hdecimal
      split at hread
      · simp at hread
      · rename_i hlimit
        cases hread
        refine Nat.le_trans ?_ (Nat.le_max_right _ _)
        have hlt := Decimal.ofDigitChars_lt (all_isDigit_of_decimal? hdecimal)
        unfold Instruction.pushNumber at hdata
        split at hdata
        · simp [Instruction.ofCode] at hdata
        · rw [data_push_eq hdata, ScriptNum.length_encode]
          refine Nat.le_trans (ScriptNum.width_le_of_lt digits.length ?_) (by omega)
          split <;> simpa using hlt
    · split at hread
      · cases hread
        simp [Instruction.ofCode] at hdata
      · simp at hread

theorem length_data_of_readTolerantTokens {tokens : List String} {program : List Instruction}
    {length : Nat} (hread : readTolerantTokens tokens = .ok program)
    (htokens : ∀ token ∈ tokens, token.length ≤ length) :
    ∀ instruction ∈ program, ∀ item, instruction.data = some item →
      2 * item.length ≤ dataBound length := by
  have hbound : ∀ n ≤ length, dataBound n ≤ dataBound length := by
    intro n hn
    unfold dataBound
    omega
  fun_induction readTolerantTokens tokens generalizing program with
  | case1 =>
      cases hread
      simp
  | case2 | case3 | case4 | case5 => simp at hread
  | case6 token instruction _ limit hlimit hdata payload rest item hitem name hfits =>
      rename_i ih
      obtain ⟨after, hafter, rfl⟩ := map_cons_eq_ok hread
      rw [List.forall_mem_cons, List.forall_mem_cons] at htokens
      refine List.forall_mem_cons.mpr ⟨?_, ih hafter htokens.2.2⟩
      intro data hsome
      obtain rfl := Option.some.inj hsome
      exact Nat.le_trans (length_of_hexData? hitem)
        (Nat.le_trans htokens.2.1 (Nat.le_max_left _ _))
  | case7 token rest instruction htoken hwhole ih =>
      obtain ⟨after, hafter, rfl⟩ := map_cons_eq_ok hread
      rw [List.forall_mem_cons] at htokens
      refine List.forall_mem_cons.mpr ⟨?_, ih hafter htokens.2⟩
      intro item hdata
      exact Nat.le_trans (length_data_of_readToken htoken hdata) (hbound _ htokens.1)

theorem mem_fields_of_mem_tokens {text token : String} (htoken : token ∈ tokens text) :
    token ∈ Text.fields text := by
  rw [Text.fields_eq_flatMap_lines]
  obtain ⟨line, hline, htoken⟩ := List.mem_flatMap.mp htoken
  refine List.mem_flatMap.mpr ⟨line, hline, ?_⟩
  unfold lineTokens at htoken
  split at htoken
  · simp at htoken
  · rename_i field rest hfields
    rw [hfields]
    split at htoken
    · simp at htoken
    · exact htoken

/-- Data that was read from a text has at most half as many bytes as the text has characters, short
numbers apart. -/
theorem length_data_of_parse {text : String} {program : List Instruction}
    (hparse : parse text = .ok program) :
    ∀ instruction ∈ program, ∀ item, instruction.data = some item →
      2 * item.length ≤ dataBound text.length := by
  rw [parse_eq_readTolerant] at hparse
  exact length_data_of_readTolerantTokens hparse fun token htoken =>
    Text.length_le_of_mem_fields (mem_fields_of_mem_tokens htoken)

end Script

end Lockstep
