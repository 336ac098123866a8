import Mathlib.Data.List.Basic
import Lockstep.Proofs.DocumentText
import Lockstep.Proofs.JsonScalars
import Lockstep.Text.Utf8

namespace Lockstep

theorem CodePoints.ofString_injective : Function.Injective CodePoints.ofString := by
  intro first second heq
  apply String.toList_inj.mp
  exact List.map_injective_iff.mpr (fun _ _ => Char.toNat_inj.mp) heq

theorem Json.string_injective : Function.Injective Json.string := by
  intro first second heq
  exact CodePoints.ofString_injective (Json.str.inj heq)

namespace Json

/-- Whether a character can be the first of a value. -/
def startsValue (c : Char) : Bool :=
  c == '"' || c == '[' || c == '\x7b' || c == '-' || c == 'n' || c == 't' || c == 'f' || c.isDigit

/-- A text of ASCII characters that is read as a value, wherever it stands in a document that is
not too deep. -/
structure WrittenAs (value : Json) (nesting : Nat) (text : List Char) : Prop where
  ascii : ∀ c ∈ text, c.toNat < 0x80
  starts : ∃ c tail, text = c :: tail ∧ startsValue c = true
  read : ∀ depth fuel rest, depth + nesting ≤ levelLimit → 2 * text.length ≤ fuel →
    EndsValue rest → readValue depth fuel (text ++ rest) = .ok (value, rest)

theorem WrittenAs.weaken {value : Json} {nesting deeper : Nat} {text : List Char}
    (hwritten : WrittenAs value nesting text) (hle : nesting ≤ deeper) :
    WrittenAs value deeper text where
  ascii := hwritten.ascii
  starts := hwritten.starts
  read := by
    intro depth fuel rest hdepth hfuel hrest
    exact hwritten.read depth fuel rest (by omega) hfuel hrest

theorem readValue_of_number (depth fuel : Nat) {c : Char} (hc : c = '-' ∨ c.isDigit = true)
    (tail : List Char) :
    readValue depth (fuel + 1) (c :: tail) = readPlain depth (c :: tail) := by
  have hother : ∀ other : Char, other.isDigit = false → other ≠ '-' → other ≠ c := by
    intro other hdigit hminus
    rcases hc with rfl | hc
    · exact hminus
    · exact ne_of_isDigit hc hdigit
  rw [readValue.eq_def]
  dsimp only
  split
  · rename_i heq
    exact absurd (List.cons.inj heq).1.symm (hother '"' (by decide) (by decide))
  · rename_i heq
    exact absurd (List.cons.inj heq).1.symm (hother '[' (by decide) (by decide))
  · rename_i heq
    exact absurd (List.cons.inj heq).1.symm (hother '\x7b' (by decide) (by decide))
  · rfl

theorem writtenAs_int {n : Int} (hwritable : Decimal.isWritable n = true) :
    WrittenAs (int n) 0 (int n).write := by
  obtain ⟨digit, tail, hdigits, hdigit, -⟩ := exists_toDigits_eq_cons n.natAbs
  have hascii : ∀ c ∈ Nat.toDigits 10 n.natAbs, c.toNat < 0x80 := by
    intro c hc
    have hrange := Char.isDigit_iff_toNat.mp
      (Nat.isDigit_of_mem_toDigits (by decide) (by decide) hc)
    exact Nat.lt_of_le_of_lt hrange.2 (by decide)
  have hstart : ∃ c tail, (int n).write = c :: tail ∧ (c = '-' ∨ c.isDigit = true) := by
    rw [write_int, hdigits]
    split
    · exact ⟨digit, tail, rfl, .inr hdigit⟩
    · exact ⟨'-', digit :: tail, rfl, .inl rfl⟩
  obtain ⟨c, tail, htext, hc⟩ := hstart
  refine ⟨?_, ⟨c, tail, htext, ?_⟩, ?_⟩
  · rw [write_int]
    split
    · exact hascii
    · exact List.forall_mem_cons.mpr ⟨by decide, hascii⟩
  · rcases hc with rfl | hc
    · rfl
    · simp [startsValue, hc]
  · intro depth fuel rest hdepth hfuel hrest
    have hplain := readPlain_int depth hwritable hrest
    rw [htext, List.cons_append] at hplain ⊢
    obtain ⟨fuel, rfl⟩ : ∃ k, fuel = k + 1 := ⟨fuel - 1, by rw [htext] at hfuel; simp at hfuel; omega⟩
    rw [readValue_of_number depth fuel hc, hplain]

theorem writtenAs_string (text : String) :
    WrittenAs (string text) 0 (string text).write := by
  refine ⟨writeString_ascii text, ⟨'"', _, rfl, rfl⟩, ?_⟩
  intro depth fuel rest hdepth hfuel hrest
  change 2 * (writeString (CodePoints.ofString text)).length ≤ fuel at hfuel
  change readValue depth fuel (writeString (CodePoints.ofString text) ++ rest) = _
  obtain ⟨fuel, rfl⟩ : ∃ k, fuel = k + 1 :=
    ⟨fuel - 1, by simp only [writeString, List.length_cons] at hfuel; omega⟩
  obtain ⟨tail, htail, hread⟩ := exists_readString_writeString text fuel rest (by
    simp only [writeString, List.length_cons] at hfuel ⊢
    omega)
  rw [htail, readValue]
  simp only [hread]
  rfl

theorem writtenAs_of_word {value : Json} {c : Char} {tail : List Char}
    (htext : value.write = c :: tail) (hc : c = 'n' ∨ c = 't' ∨ c = 'f')
    (hascii : value.write.all (·.toNat < 0x80) = true)
    (hread : ∀ depth rest, depth ≤ levelLimit →
      readPlain depth (value.write ++ rest) = .ok (value, rest)) :
    WrittenAs value 0 value.write := by
  refine ⟨by simpa using hascii, ⟨c, tail, htext, ?_⟩, ?_⟩
  · rcases hc with rfl | rfl | rfl <;> rfl
  · intro depth fuel rest hdepth hfuel hrest
    obtain ⟨fuel, rfl⟩ := Nat.exists_eq_add_one.mpr
      (show 0 < fuel by rw [htext, List.length_cons] at hfuel; omega)
    have hplain : readValue depth (fuel + 1) (value.write ++ rest) =
        readPlain depth (value.write ++ rest) := by
      rw [htext]
      rcases hc with rfl | rfl | rfl <;> rfl
    rw [hplain, hread depth rest hdepth]

theorem writtenAs_null : WrittenAs null 0 null.write := by
  refine writtenAs_of_word rfl (.inl rfl) (by decide) ?_
  intro depth rest hdepth
  have hopen : ¬ levelLimit < depth := Nat.not_lt.mpr hdepth
  simp [write, writeScalar, readPlain, words, List.isPrefixOf, hopen]

theorem writtenAs_bool (value : Bool) : WrittenAs (bool value) 0 (bool value).write := by
  have hread : ∀ depth rest, depth ≤ levelLimit →
      readPlain depth ((bool value).write ++ rest) = .ok (bool value, rest) := by
    intro depth rest hdepth
    have hopen : ¬ levelLimit < depth := Nat.not_lt.mpr hdepth
    cases value <;> simp [write, writeScalar, readPlain, words, List.isPrefixOf, hopen]
  cases value with
  | false => exact writtenAs_of_word rfl (.inr (.inr rfl)) (by decide) hread
  | true => exact writtenAs_of_word rfl (.inr (.inl rfl)) (by decide) hread

theorem skipBlanks_of_startsValue {c : Char} (hc : startsValue c = true) (tail : List Char) :
    skipBlanks (c :: tail) = c :: tail := by
  have hblank : ∀ blank : Char, startsValue blank = false → (c == blank) = false := by
    intro blank hblank
    rw [beq_eq_false_iff_ne]
    rintro rfl
    simp [hc] at hblank
  simp only [skipBlanks, List.dropWhile_cons, hblank ' ' (by decide), hblank '\t' (by decide),
    hblank '\n' (by decide), hblank '\r' (by decide), Bool.or_self, Bool.false_eq_true,
    ↓reduceIte]

theorem skipBlanks_of_ends {c : Char} (hc : c = ',' ∨ c = ']' ∨ c = '\x7d') (tail : List Char) :
    skipBlanks (c :: tail) = c :: tail := by
  rcases hc with rfl | rfl | rfl <;> rfl

theorem skipBlanks_append {blanks : List Char} (hblanks : ∀ c ∈ blanks, c = ' ' ∨ c = '\n')
    (rest : List Char) : skipBlanks (blanks ++ rest) = skipBlanks rest := by
  induction blanks with
  | nil => rfl
  | cons blank blanks ih =>
      rw [List.forall_mem_cons] at hblanks
      rw [← ih hblanks.2]
      rcases hblanks.1 with rfl | rfl <;> rfl

theorem WrittenAs.skipBlanks_append {value : Json} {nesting : Nat} {text : List Char}
    (hwritten : WrittenAs value nesting text) (rest : List Char) :
    skipBlanks (text ++ rest) = text ++ rest := by
  obtain ⟨c, tail, rfl, hc⟩ := hwritten.starts
  exact skipBlanks_of_startsValue hc (tail ++ rest)

theorem endsValue_append {blanks : List Char} (hblanks : ∀ c ∈ blanks, c = ' ' ∨ c = '\n')
    {c : Char} (hc : c = ',' ∨ c = ']' ∨ c = '\x7d') (rest : List Char) :
    EndsValue (blanks ++ c :: rest) := by
  intro first hfirst
  cases blanks with
  | nil =>
      cases hfirst
      rcases hc with rfl | rfl | rfl <;> decide
  | cons blank blanks =>
      cases hfirst
      rcases hblanks _ List.mem_cons_self with rfl | rfl <;> decide

theorem endsValue_cons {c : Char} (hc : c = ',' ∨ c = ']' ∨ c = '\x7d') (rest : List Char) :
    EndsValue (c :: rest) :=
  endsValue_append (List.forall_mem_nil _) hc rest

theorem exists_separated_cons (separator first : List Char) (more : List (List Char)) :
    ∃ tail, separated separator (first :: more) = first ++ tail := by
  cases more with
  | nil => exact ⟨[], (List.append_nil first).symm⟩
  | cons second more =>
      exact ⟨separator ++ separated separator (second :: more), by simp [separated]⟩

theorem colon_toList : ": ".toList = [':', ' '] := rfl

theorem colon_ascii : ∀ c ∈ ": ".toList, c.toNat < 0x80 := by
  rw [colon_toList, List.forall_mem_cons, List.forall_mem_singleton]
  exact ⟨by decide, by decide⟩

/-- What stands between the brackets of an array or an object besides the entries and the commas:
blanks behind the opening bracket, behind each comma and in front of the closing bracket. -/
structure Layout where
  opening : List Char
  between : List Char
  closing : List Char
  blank_opening : ∀ c ∈ opening, c = ' ' ∨ c = '\n'
  blank_between : ∀ c ∈ between, c = ' ' ∨ c = '\n'
  blank_closing : ∀ c ∈ closing, c = ' ' ∨ c = '\n'

namespace Layout

def line : Layout where
  opening := []
  between := [' ']
  closing := []
  blank_opening := by simp
  blank_between := by simp
  blank_closing := by simp

def entries (layout : Layout) (texts : List (List Char)) : List Char :=
  separated (',' :: layout.between) texts

/-- Entries between brackets, or nothing between them if there are none. -/
def block (layout : Layout) (left right : Char) (texts : List (List Char)) : List Char :=
  if texts.isEmpty then [left, right]
  else left :: (layout.opening ++ (layout.entries texts ++ (layout.closing ++ [right])))

variable (layout : Layout)

theorem ascii_of_blanks {blanks : List Char} (hblanks : ∀ c ∈ blanks, c = ' ' ∨ c = '\n') :
    ∀ c ∈ blanks, c.toNat < 0x80 := by
  intro c hc
  rcases hblanks c hc with rfl | rfl <;> decide

theorem entries_ascii {texts : List (List Char)}
    (hascii : ∀ text ∈ texts, ∀ c ∈ text, c.toNat < 0x80) :
    ∀ c ∈ layout.entries texts, c.toNat < 0x80 := by
  induction texts with
  | nil => simp [entries, separated]
  | cons first more ih =>
      rw [List.forall_mem_cons] at hascii
      cases more with
      | nil => exact hascii.1
      | cons second more =>
          intro c hc
          simp only [entries, separated, List.mem_append, List.mem_cons] at hc
          rcases hc with (hc | rfl | hc) | hc
          · exact hascii.1 c hc
          · decide
          · exact ascii_of_blanks layout.blank_between c hc
          · exact ih hascii.2 c hc

theorem block_ascii {left right : Char} (hleft : left.toNat < 0x80) (hright : right.toNat < 0x80)
    {texts : List (List Char)} (hascii : ∀ text ∈ texts, ∀ c ∈ text, c.toNat < 0x80) :
    ∀ c ∈ layout.block left right texts, c.toNat < 0x80 := by
  rw [block]
  split
  · exact List.forall_mem_cons.mpr ⟨hleft, List.forall_mem_singleton.mpr hright⟩
  · simp only [List.forall_mem_cons, List.forall_mem_append]
    exact ⟨hleft, ascii_of_blanks layout.blank_opening, layout.entries_ascii hascii,
      ascii_of_blanks layout.blank_closing, hright, List.forall_mem_nil _⟩

theorem exists_block_eq_cons (left right : Char) (texts : List (List Char)) :
    ∃ tail, layout.block left right texts = left :: tail := by
  rw [block]
  split
  · exact ⟨[right], rfl⟩
  · exact ⟨_, rfl⟩

theorem exists_entries_cons (first : List Char) (more : List (List Char)) :
    ∃ tail, layout.entries (first :: more) = first ++ tail :=
  exists_separated_cons _ first more

theorem entries_cons_cons (first second : List Char) (more : List (List Char)) :
    layout.entries (first :: second :: more) =
      first ++ ',' :: (layout.between ++ layout.entries (second :: more)) := by
  simp [entries, separated]

end Layout

theorem writeList_eq_block (texts : List (List Char)) :
    writeList texts = Layout.line.block '[' ']' texts := by
  cases texts with
  | nil => rfl
  | cons first more =>
      rw [writeList, Layout.block, if_neg (by simp)]
      rfl

section Arrays

variable {α : Type} {value : α → Json} {text : α → List Char} {nesting depth : Nat}
  (layout : Layout)

theorem readItems_entries (hdepth : depth + nesting ≤ levelLimit) (first : α) (more : List α)
    (hwritten : ∀ x ∈ first :: more, WrittenAs (value x) nesting (text x)) (seen : List Json)
    (fuel : Nat) (rest : List Char)
    (hfuel : 2 * (layout.entries ((first :: more).map text)).length + 2 ≤ fuel) :
    readItems depth seen fuel
        (layout.entries ((first :: more).map text) ++ (layout.closing ++ ']' :: rest)) =
      .ok (arr (seen.reverse ++ (first :: more).map value), rest) := by
  induction more generalizing first seen fuel with
  | nil =>
      obtain ⟨fuel, rfl⟩ := Nat.exists_eq_add_one.mpr (show 0 < fuel by omega)
      have hread := (hwritten first List.mem_cons_self).read depth fuel
        (layout.closing ++ ']' :: rest) hdepth
        (by simp only [List.map_cons, List.map_nil, Layout.entries, separated] at hfuel; omega)
        (endsValue_append layout.blank_closing (.inr (.inl rfl)) rest)
      simp only [List.map_cons, List.map_nil, Layout.entries, separated]
      rw [readItems, hread]
      simp only [skipBlanks_append layout.blank_closing, skipBlanks_of_ends (.inr (.inl rfl))]
      simp
  | cons second more ih =>
      obtain ⟨fuel, rfl⟩ := Nat.exists_eq_add_one.mpr (show 0 < fuel by omega)
      rw [List.forall_mem_cons] at hwritten
      simp only [List.map_cons, Layout.entries_cons_cons, List.length_append,
        List.length_cons] at hfuel
      have hread := hwritten.1.read depth fuel
        (',' :: (layout.between ++ (layout.entries ((second :: more).map text) ++
          (layout.closing ++ ']' :: rest)))) hdepth (by omega) (endsValue_cons (.inl rfl) _)
      have hrest := ih second hwritten.2 (value first :: seen) fuel
        (by simp only [List.map_cons]; omega)
      have hskip : skipBlanks (layout.entries ((second :: more).map text) ++
          (layout.closing ++ ']' :: rest)) =
          layout.entries ((second :: more).map text) ++ (layout.closing ++ ']' :: rest) := by
        obtain ⟨tail, htail⟩ := layout.exists_entries_cons (text second) (more.map text)
        rw [List.map_cons, htail, List.append_assoc]
        exact (hwritten.2 second List.mem_cons_self).skipBlanks_append _
      have hsplit : layout.entries ((first :: second :: more).map text) ++
          (layout.closing ++ ']' :: rest) =
          text first ++ ',' :: (layout.between ++ (layout.entries ((second :: more).map text) ++
            (layout.closing ++ ']' :: rest))) := by
        simp only [List.map_cons, Layout.entries_cons_cons, List.append_assoc, List.cons_append]
      rw [hsplit, readItems, hread]
      simp only [skipBlanks_of_ends (.inl rfl), skipBlanks_append layout.blank_between, hskip,
        hrest]
      simp

theorem readValue_bracket (fuel : Nat) (hopen : depth < levelLimit) {c : Char}
    (hc : startsValue c = true) (tail : List Char) :
    readValue depth (fuel + 1) ('[' :: (layout.opening ++ c :: tail)) =
      readItems (depth + 1) [] fuel (c :: tail) := by
  rw [readValue]
  simp only [Nat.not_le.mpr hopen, ↓reduceIte, skipBlanks_append layout.blank_opening,
    skipBlanks_of_startsValue hc]
  split
  · rename_i heq
    rw [(List.cons.inj heq).1] at hc
    exact absurd hc (by decide)
  · rfl

theorem writtenAs_items (items : List α)
    (hwritten : ∀ x ∈ items, WrittenAs (value x) nesting (text x)) :
    WrittenAs (arr (items.map value)) (nesting + 1) (layout.block '[' ']' (items.map text)) := by
  refine ⟨?_, ?_, ?_⟩
  · apply layout.block_ascii (by decide) (by decide)
    intro item hitem
    obtain ⟨x, hx, rfl⟩ := List.mem_map.mp hitem
    exact (hwritten x hx).ascii
  · obtain ⟨tail, htail⟩ := layout.exists_block_eq_cons '[' ']' (items.map text)
    exact ⟨'[', tail, htail, rfl⟩
  · intro depth fuel rest hdepth hfuel hrest
    cases items with
    | nil =>
        obtain ⟨fuel, rfl⟩ := Nat.exists_eq_add_one.mpr
          (show 0 < fuel by simp [Layout.block] at hfuel; omega)
        have hopen : ¬ levelLimit ≤ depth := by omega
        rw [readValue.eq_def]
        simp [Layout.block, skipBlanks, hopen]
    | cons first more =>
        rw [Layout.block, if_neg (by simp)] at hfuel ⊢
        simp only [List.length_cons, List.length_append, List.length_nil] at hfuel
        obtain ⟨fuel, rfl⟩ := Nat.exists_eq_add_one.mpr (show 0 < fuel by omega)
        have hitems := readItems_entries layout (show depth + 1 + nesting ≤ levelLimit by omega)
          first more hwritten [] fuel rest (by omega)
        obtain ⟨behind, hbehind⟩ := layout.exists_entries_cons (text first) (more.map text)
        obtain ⟨c, tail, hfirst, hc⟩ := (hwritten first List.mem_cons_self).starts
        have hstart : layout.entries ((first :: more).map text) ++ (layout.closing ++ ']' :: rest) =
            c :: (tail ++ behind ++ (layout.closing ++ ']' :: rest)) := by
          rw [List.map_cons, hbehind, hfirst]
          simp
        have hsplit : '[' :: (layout.opening ++ (layout.entries ((first :: more).map text) ++
            (layout.closing ++ [']']))) ++ rest =
            '[' :: (layout.opening ++
              c :: (tail ++ behind ++ (layout.closing ++ ']' :: rest))) := by
          rw [← hstart]
          simp
        rw [hstart] at hitems
        rw [hsplit, readValue_bracket layout fuel (by omega) hc, hitems]
        rfl

theorem writtenAs_list (items : List α)
    (hwritten : ∀ x ∈ items, WrittenAs (value x) nesting (text x)) :
    WrittenAs (arr (items.map value)) (nesting + 1) (writeList (items.map text)) := by
  rw [writeList_eq_block]
  exact writtenAs_items .line items hwritten

end Arrays

/-- A field of an object: its name, its value, and the text of the value. -/
structure WrittenField where
  name : String
  value : Json
  text : List Char

/-- How a field stands in the text of its object. -/
def WrittenField.entry (field : WrittenField) : List Char :=
  writeString (CodePoints.ofString field.name) ++ ": ".toList ++ field.text

/-- What a field is in the value of its object. -/
def WrittenField.member (field : WrittenField) : CodePoints × Json :=
  (CodePoints.ofString field.name, field.value)

section Objects

variable {nesting depth : Nat}

theorem setField_of_not_mem {seen : List (CodePoints × Json)} {name : CodePoints}
    (hnew : name ∉ seen.map Prod.fst) (value : Json) :
    setField seen name value = seen ++ [(name, value)] := by
  have hkept : seen.filter (·.1 != name) = seen := by
    rw [List.filter_eq_self]
    intro field hfield
    rw [bne_iff_ne]
    rintro rfl
    exact hnew (List.mem_map_of_mem hfield)
  rw [setField, hkept]

theorem not_mem_of_nodup_append_cons {front back : List CodePoints} {name : CodePoints}
    (hnodup : (front ++ name :: back).Nodup) : name ∉ front := by
  intro hmem
  exact (List.nodup_append.mp hnodup).2.2 name hmem name List.mem_cons_self rfl

/-- How reading an object goes on behind the value of a field. -/
def afterField (depth fuel : Nat) (fields : List (CodePoints × Json)) :
    List Char → Except ReadError (Json × List Char)
  | '\x7d' :: rest => .ok (obj fields, rest)
  | ',' :: rest => readFields depth fields fuel (skipBlanks rest)
  | _ => .error (malformedAt depth)

theorem readFields_field (field : String) {value : Json} {text : List Char}
    (hwritten : WrittenAs value nesting text) (hdepth : depth + nesting ≤ levelLimit)
    (seen : List (CodePoints × Json)) (fuel : Nat) (rest : List Char) (hrest : EndsValue rest)
    (hfuel : 2 * (writeString (CodePoints.ofString field) ++ ": ".toList ++ text).length ≤ fuel) :
    readFields depth seen (fuel + 1)
        (writeString (CodePoints.ofString field) ++ ": ".toList ++ text ++ rest) =
      afterField depth fuel (setField seen (CodePoints.ofString field) value)
        (skipBlanks rest) := by
  simp only [List.length_append] at hfuel
  obtain ⟨tail, htail, hread⟩ := exists_readString_writeString field fuel
    (": ".toList ++ text ++ rest) (by omega)
  have hvalue := hwritten.read depth fuel rest hdepth (by omega) hrest
  rw [List.append_assoc, List.append_assoc, ← List.append_assoc ": ".toList, htail, readFields]
  simp only [hread, colon_toList, List.cons_append, List.nil_append]
  rw [show skipBlanks (':' :: ' ' :: (text ++ rest)) = ':' :: ' ' :: (text ++ rest) from rfl]
  simp only [show skipBlanks (' ' :: (text ++ rest)) = skipBlanks (text ++ rest) from rfl,
    hwritten.skipBlanks_append, hvalue]
  rfl

/-- The fields of an object are read one after the other up to its end. -/
theorem readFields_entries (layout : Layout) (hdepth : depth + nesting ≤ levelLimit)
    (first : WrittenField) (more : List WrittenField)
    (hwritten : ∀ field ∈ first :: more, WrittenAs field.value nesting field.text)
    (seen : List (CodePoints × Json))
    (hnames : (seen.map Prod.fst ++ (first :: more).map fun field =>
      CodePoints.ofString field.name).Nodup) (fuel : Nat) (rest : List Char)
    (hfuel : 2 * (layout.entries ((first :: more).map WrittenField.entry)).length + 2 ≤ fuel) :
    readFields depth seen fuel
        (layout.entries ((first :: more).map WrittenField.entry) ++
          (layout.closing ++ '\x7d' :: rest)) =
      .ok (obj (seen ++ (first :: more).map WrittenField.member), rest) := by
  induction more generalizing first seen fuel with
  | nil =>
      obtain ⟨fuel, rfl⟩ := Nat.exists_eq_add_one.mpr (show 0 < fuel by omega)
      have hnew := not_mem_of_nodup_append_cons hnames
      simp only [List.map_cons, List.map_nil, Layout.entries, separated,
        WrittenField.entry] at hfuel ⊢
      rw [readFields_field first.name (hwritten first List.mem_cons_self) hdepth seen fuel
        (layout.closing ++ '\x7d' :: rest)
        (endsValue_append layout.blank_closing (.inr (.inr rfl)) rest) (by omega),
        skipBlanks_append layout.blank_closing, skipBlanks_of_ends (.inr (.inr rfl)),
        setField_of_not_mem hnew]
      rfl
  | cons second more ih =>
      obtain ⟨fuel, rfl⟩ := Nat.exists_eq_add_one.mpr (show 0 < fuel by omega)
      rw [List.forall_mem_cons] at hwritten
      have hnew := not_mem_of_nodup_append_cons hnames
      simp only [List.map_cons, Layout.entries_cons_cons, List.length_append,
        List.length_cons] at hfuel
      have hnames' : ((seen ++ [first.member]).map Prod.fst ++ (second :: more).map fun field =>
          CodePoints.ofString field.name).Nodup := by
        simpa [WrittenField.member] using hnames
      have hrest := ih second hwritten.2 (seen ++ [first.member]) hnames' fuel
        (by simp only [List.map_cons]; omega)
      have hskip : skipBlanks (layout.entries ((second :: more).map WrittenField.entry) ++
          (layout.closing ++ '\x7d' :: rest)) =
          layout.entries ((second :: more).map WrittenField.entry) ++
            (layout.closing ++ '\x7d' :: rest) := by
        obtain ⟨tail, htail⟩ :=
          layout.exists_entries_cons second.entry (more.map WrittenField.entry)
        rw [List.map_cons, htail]
        rfl
      have hsplit : layout.entries ((first :: second :: more).map WrittenField.entry) ++
          (layout.closing ++ '\x7d' :: rest) = first.entry ++ ',' :: (layout.between ++
            (layout.entries ((second :: more).map WrittenField.entry) ++
              (layout.closing ++ '\x7d' :: rest))) := by
        simp only [List.map_cons, Layout.entries_cons_cons, List.append_assoc, List.cons_append]
      rw [hsplit, WrittenField.entry,
        readFields_field first.name hwritten.1 hdepth seen fuel _ (endsValue_cons (.inl rfl) _)
          (by simp only [WrittenField.entry, List.length_append] at hfuel ⊢; omega),
        skipBlanks_of_ends (.inl rfl), setField_of_not_mem hnew]
      simp only [afterField, skipBlanks_append layout.blank_between, hskip]
      refine hrest.trans ?_
      simp [WrittenField.member]

theorem readValue_brace (layout : Layout) (fuel : Nat) (hopen : depth < levelLimit)
    (tail : List Char) :
    readValue depth (fuel + 1) ('\x7b' :: (layout.opening ++ '"' :: tail)) =
      readFields (depth + 1) [] fuel ('"' :: tail) := by
  rw [readValue]
  simp only [Nat.not_le.mpr hopen, ↓reduceIte, skipBlanks_append layout.blank_opening]
  rfl

theorem entry_ascii {field : WrittenField} (hwritten : WrittenAs field.value nesting field.text) :
    ∀ c ∈ field.entry, c.toNat < 0x80 := by
  simp only [WrittenField.entry, List.forall_mem_append]
  exact ⟨⟨writeString_ascii field.name, colon_ascii⟩, hwritten.ascii⟩

theorem writtenAs_fields (layout : Layout) (fields : List WrittenField)
    (hwritten : ∀ field ∈ fields, WrittenAs field.value nesting field.text)
    (hnames : (fields.map fun field => CodePoints.ofString field.name).Nodup) :
    WrittenAs (obj (fields.map WrittenField.member)) (nesting + 1)
      (layout.block '\x7b' '\x7d' (fields.map WrittenField.entry)) := by
  refine ⟨?_, ?_, ?_⟩
  · apply layout.block_ascii (by decide) (by decide)
    intro entry hentry
    obtain ⟨field, hfield, rfl⟩ := List.mem_map.mp hentry
    exact entry_ascii (hwritten field hfield)
  · obtain ⟨tail, htail⟩ :=
      layout.exists_block_eq_cons '\x7b' '\x7d' (fields.map WrittenField.entry)
    exact ⟨'\x7b', tail, htail, rfl⟩
  · intro depth fuel rest hdepth hfuel hrest
    cases fields with
    | nil =>
        obtain ⟨fuel, rfl⟩ := Nat.exists_eq_add_one.mpr
          (show 0 < fuel by simp [Layout.block] at hfuel; omega)
        have hopen : ¬ levelLimit ≤ depth := by omega
        rw [readValue.eq_def]
        simp [Layout.block, skipBlanks, hopen]
    | cons first more =>
        rw [Layout.block, if_neg (by simp)] at hfuel ⊢
        simp only [List.length_cons, List.length_append, List.length_nil] at hfuel
        obtain ⟨fuel, rfl⟩ := Nat.exists_eq_add_one.mpr (show 0 < fuel by omega)
        have hfields := readFields_entries layout (show depth + 1 + nesting ≤ levelLimit by omega)
          first more hwritten [] hnames fuel rest (by omega)
        obtain ⟨behind, hbehind⟩ :=
          layout.exists_entries_cons first.entry (more.map WrittenField.entry)
        obtain ⟨tail, htail⟩ : ∃ tail, first.entry = '"' :: tail := ⟨_, rfl⟩
        have hstart : layout.entries ((first :: more).map WrittenField.entry) ++
            (layout.closing ++ '\x7d' :: rest) =
            '"' :: (tail ++ behind ++ (layout.closing ++ '\x7d' :: rest)) := by
          rw [List.map_cons, hbehind, htail]
          simp
        have hsplit : '\x7b' :: (layout.opening ++
            (layout.entries ((first :: more).map WrittenField.entry) ++
              (layout.closing ++ ['\x7d']))) ++ rest =
            '\x7b' :: (layout.opening ++
              '"' :: (tail ++ behind ++ (layout.closing ++ '\x7d' :: rest))) := by
          rw [← hstart]
          simp
        rw [hstart] at hfields
        rw [hsplit, readValue_brace layout fuel (by omega), hfields]
        rfl

theorem writeEntries_map (fields : List WrittenField) :
    writeEntries (fields.map fun field => (field.name, field.text)) =
      Layout.line.block '\x7b' '\x7d' (fields.map WrittenField.entry) := by
  rw [writeEntries, List.map_map]
  cases fields with
  | nil => rfl
  | cons first more =>
      rw [Layout.block, if_neg (by simp)]
      rfl

theorem writtenAs_entries (fields : List WrittenField)
    (hwritten : ∀ field ∈ fields, WrittenAs field.value nesting field.text)
    (hnames : (fields.map fun field => CodePoints.ofString field.name).Nodup) :
    WrittenAs (obj (fields.map WrittenField.member)) (nesting + 1)
      (writeEntries (fields.map fun field => (field.name, field.text))) := by
  rw [writeEntries_map]
  exact writtenAs_fields .line fields hwritten hnames

end Objects

theorem WrittenAs.read_eq {value : Json} {nesting : Nat} {text : List Char}
    (hwritten : WrittenAs value nesting text) (hnesting : nesting ≤ levelLimit) :
    Json.read text = .ok value := by
  have hskip := hwritten.skipBlanks_append []
  have hread := hwritten.read 0 (2 * text.length + 2) [] (by omega) (by omega)
    (by simp [EndsValue])
  rw [List.append_nil] at hskip hread
  rw [Json.read, hskip, hread]
  rfl

end Json

namespace Text

theorem readUtf8_ascii (seen : List Char) {text : List Char}
    (hascii : ∀ c ∈ text, c.toNat < 0x80) :
    readUtf8 seen (text.map fun c => UInt8.ofNat c.toNat) = some (seen.reverse ++ text) := by
  induction text generalizing seen with
  | nil => simp [readUtf8]
  | cons c text ih =>
      rw [List.forall_mem_cons] at hascii
      have hbyte : (UInt8.ofNat c.toNat).toNat = c.toNat := by
        rw [UInt8.toNat_ofNat']
        exact Nat.mod_eq_of_lt (by omega)
      rw [List.map_cons, readUtf8.eq_def]
      simp only [hbyte, hascii.1, ↓reduceIte, Char.ofNat_toNat, ih (c :: seen) hascii.2]
      simp

theorem ofUtf8?_ascii {text : List Char} (hascii : ∀ c ∈ text, c.toNat < 0x80) :
    ofUtf8? (text.map fun c => UInt8.ofNat c.toNat) = some text :=
  readUtf8_ascii [] hascii

end Text

end Lockstep
