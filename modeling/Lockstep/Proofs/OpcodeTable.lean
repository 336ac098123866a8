import Lockstep.Script.Opcode

namespace Lockstep.Opcode

/-- The characters of which mnemonics are made, which are their own upper-case forms. -/
def isMnemonicChar (c : Char) : Bool :=
  c.toNat < 0x80 && c.toUpper == c

/-- Whether a name is spelled as mnemonics are: `OP_` in front, upper case, and no alias. -/
def isSpelled (name : String) : Bool :=
  "OP_".toList.isPrefixOf name.toList && name.toList.all isMnemonicChar &&
    (aliases.lookup name).isNone

theorem isSpelled_of_mem_table : ∀ entry ∈ table, isSpelled entry.1 = true := by
  decide +kernel

theorem nameOf_of_mem_table : ∀ entry ∈ table, nameOf entry.2 = entry.1 := by
  decide +kernel

theorem codeOf?_of_mem_table : ∀ entry ∈ table, codeOf? entry.1 = some entry.2 := by
  decide +kernel

theorem codeOf?_nameOf_of_pushDataLimit? {code : Int} {limit : Nat}
    (hlimit : pushDataLimit? code = some limit) : codeOf? (nameOf code) = some code := by
  have hcodes : code = pushData1 ∨ code = pushData2 ∨ code = pushData4 := by
    unfold pushDataLimit? at hlimit
    grind
  rcases hcodes with rfl | rfl | rfl <;> decide

theorem mem_table_of_codeOf? {name : String} {code : Int} (hcode : codeOf? name = some code) :
    (name, code) ∈ table := by
  obtain ⟨front, back, htable, -⟩ := List.lookup_eq_some_iff.mp hcode
  rw [htable]
  simp

theorem nameOf_of_codeOf? {name : String} {code : Int} (hcode : codeOf? name = some code) :
    nameOf code = name :=
  nameOf_of_mem_table (name, code) (mem_table_of_codeOf? hcode)

theorem upper_of_forall_isMnemonicChar (name : String)
    (hchars : ∀ c ∈ name.toList, isMnemonicChar c = true) : Text.upper name = name := by
  have hsame : ∀ chars : List Char, (∀ c ∈ chars, isMnemonicChar c = true) →
      chars.flatMap Text.upperChar = chars := by
    intro chars hall
    induction chars with
    | nil => rfl
    | cons c chars ih =>
        have hc := hall c List.mem_cons_self
        simp only [isMnemonicChar, Bool.and_eq_true, decide_eq_true_eq, beq_iff_eq] at hc
        rw [List.flatMap_cons, ih fun d hd => hall d (List.mem_cons_of_mem c hd)]
        simp [Text.upperChar, hc.1, hc.2]
  rw [Text.upper, hsame _ hchars, String.ofList_toList]

theorem normalize_of_isSpelled {name : String} (hspelled : isSpelled name = true) :
    normalize name = name := by
  simp only [isSpelled, Bool.and_eq_true, List.all_eq_true, Option.isNone_iff_eq_none] at hspelled
  obtain ⟨⟨hfront, hchars⟩, halias⟩ := hspelled
  rw [normalize, upper_of_forall_isMnemonicChar name hchars]
  simp only [hfront, ↓reduceIte, halias, Option.getD_none]

theorem find?_of_codeOf? {name : String} {code : Int} (hcode : codeOf? name = some code) :
    find? name = some code := by
  have hspelled := isSpelled_of_mem_table (name, code) (mem_table_of_codeOf? hcode)
  rw [find?, normalize_of_isSpelled hspelled, hcode]

theorem exists_toList_of_isSpelled {name : String} (hspelled : isSpelled name = true) :
    ∃ tail, name.toList = 'O' :: 'P' :: '_' :: tail := by
  simp only [isSpelled, Bool.and_eq_true] at hspelled
  obtain ⟨tail, htail⟩ := List.isPrefixOf_iff_prefix.mp hspelled.1.1
  exact ⟨tail, htail.symm⟩

end Lockstep.Opcode
