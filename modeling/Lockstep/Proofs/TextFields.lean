import Lockstep.Text.Blank

namespace Lockstep.Text

theorem isBlank_of_isLineBreak (c : Char) (hbreak : isLineBreak c = true) : isBlank c = true := by
  simp only [isLineBreak, isBlank, Bool.or_eq_true, Bool.and_eq_true, decide_eq_true_eq,
    beq_iff_eq] at hbreak ⊢
  omega

theorem isBlank_eq_false_of_all {chars : List Char} (hall : chars.all (!isBlank ·) = true) :
    ∀ c ∈ chars, isBlank c = false := by
  intro c hc
  have hfalse := List.all_eq_true.mp hall c hc
  rwa [Bool.not_eq_true'] at hfalse

theorem fields_append_cons (front back : List Char) (c : Char) (hblank : isBlank c = true) :
    fields (String.ofList (front ++ c :: back)) =
      fields (String.ofList front) ++ fields (String.ofList back) := by
  simp only [fields, String.toList_ofList]
  rw [List.splitOnP_append_cons front back hblank, List.filter_append, List.map_append]

theorem fields_of_forall_not_blank (chars : List Char) (hsome : chars ≠ [])
    (hchars : ∀ c ∈ chars, isBlank c = false) :
    fields (String.ofList chars) = [String.ofList chars] := by
  simp only [fields, String.toList_ofList]
  rw [List.splitOnP_eq_singleton hchars]
  simp [hsome]

theorem fields_cons_of_forall_not_blank (chars back : List Char) (c : Char) (hsome : chars ≠ [])
    (hchars : ∀ d ∈ chars, isBlank d = false) (hblank : isBlank c = true) :
    fields (String.ofList (chars ++ c :: back)) =
      String.ofList chars :: fields (String.ofList back) := by
  rw [fields_append_cons chars back c hblank, fields_of_forall_not_blank chars hsome hchars]
  rfl

theorem fields_append_space (front back : String) :
    fields (front ++ " " ++ back) = fields front ++ fields back := by
  have hchars : front ++ " " ++ back = String.ofList (front.toList ++ ' ' :: back.toList) := by
    apply String.toList_inj.mp
    simp
  rw [hchars, fields_append_cons _ _ _ rfl, String.ofList_toList, String.ofList_toList]

theorem fields_intercalate (texts : List String) :
    fields (" ".intercalate texts) = texts.flatMap fields := by
  induction texts with
  | nil => rfl
  | cons text rest ih =>
      cases rest with
      | nil => simp
      | cons next rest =>
          rw [String.intercalate_cons_cons, fields_append_space, ih]
          rfl

theorem length_le_of_mem_fields {text field : String} (hfield : field ∈ fields text) :
    field.length ≤ text.length := by
  have hpieces : ∀ (chars piece : List Char), piece ∈ chars.splitOnP isBlank →
      piece.length ≤ chars.length := by
    intro chars
    induction chars with
    | nil => simp
    | cons c chars ih =>
        intro piece hpiece
        rw [List.splitOnP_cons_eq_if_modifyHead] at hpiece
        split at hpiece
        · rcases List.mem_cons.mp hpiece with rfl | hpiece
          · simp
          · exact Nat.le_succ_of_le (ih piece hpiece)
        · cases hsplit : chars.splitOnP isBlank with
          | nil => exact absurd hsplit (List.splitOnP_ne_nil _ _)
          | cons first others =>
              rw [hsplit] at hpiece ih
              rcases List.mem_cons.mp hpiece with rfl | hpiece
              · exact Nat.succ_le_succ (ih first List.mem_cons_self)
              · exact Nat.le_succ_of_le (ih piece (List.mem_cons_of_mem _ hpiece))
  obtain ⟨piece, hpiece, rfl⟩ := List.mem_map.mp hfield
  rw [String.length_ofList, ← String.length_toList]
  exact hpieces _ piece (List.mem_filter.mp hpiece).1

theorem flatMap_fields_lines (chars : List Char) :
    ((chars.splitOnP isLineBreak).map String.ofList).flatMap fields =
      fields (String.ofList chars) := by
  induction hlength : chars.length using Nat.strongRecOn generalizing chars with
  | ind length ih =>
      have hfront : ∀ c ∈ chars.takeWhile (!isLineBreak ·), isLineBreak c = false := by
        intro c hc
        have hall := List.all_takeWhile (p := (!isLineBreak ·)) (l := chars)
        simpa using List.all_eq_true.mp hall c hc
      cases hback : chars.dropWhile (!isLineBreak ·) with
      | nil =>
          have hwhole : chars.takeWhile (!isLineBreak ·) = chars := by
            simpa [hback] using List.takeWhile_append_dropWhile (p := (!isLineBreak ·)) (l := chars)
          rw [hwhole] at hfront
          rw [List.splitOnP_eq_singleton hfront]
          simp
      | cons c back =>
          have hbreak : isLineBreak c = true := by
            have := List.head?_dropWhile_not (!isLineBreak ·) chars
            simpa [hback] using this
          have hsplit : chars.takeWhile (!isLineBreak ·) ++ c :: back = chars := by
            rw [← hback, List.takeWhile_append_dropWhile]
          have hshorter : back.length < length := by
            rw [← hlength, ← hsplit]
            simp
            omega
          conv => lhs; rw [← hsplit]
          rw [List.splitOnP_append_cons_of_forall_mem hfront c hbreak back, List.map_cons,
            List.flatMap_cons, ih back.length hshorter back rfl,
            ← fields_append_cons _ back c (isBlank_of_isLineBreak c hbreak), hsplit]

theorem fields_eq_flatMap_lines (text : String) : fields text = (lines text).flatMap fields := by
  rw [lines, flatMap_fields_lines, String.ofList_toList]

end Lockstep.Text
