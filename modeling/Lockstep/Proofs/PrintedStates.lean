import Mathlib.Data.List.Nodup
import Lockstep.Debugger.Report
import Lockstep.Proofs.HexText
import Lockstep.Proofs.JsonReadBack

/-!
What a printed state shows. A document that is written on several lines is read back as it was,
and the document of a snapshot has all that is shown of it.
-/

namespace Lockstep

namespace Json

/-- Values that are read back as they were, with the depth to which arrays and objects stand in each
other: no number is a floating-point number, and the fields of an object have different names. -/
inductive IsPlain : Nat → Json → Prop where
  | null (nesting : Nat) : IsPlain nesting null
  | bool (nesting : Nat) (value : Bool) : IsPlain nesting (bool value)
  | int (nesting : Nat) (value : Int) : IsPlain nesting (int value)
  | string (nesting : Nat) (text : String) : IsPlain nesting (string text)
  | arr {nesting : Nat} {items : List Json} (hitems : ∀ item ∈ items, IsPlain nesting item) :
      IsPlain (nesting + 1) (arr items)
  | object {nesting : Nat} {fields : List (String × Json)} (hnames : (fields.map Prod.fst).Nodup)
      (hfields : ∀ field ∈ fields, IsPlain nesting field.2) : IsPlain (nesting + 1) (object fields)

theorem writeItemsAt_eq_map (level : Nat) (items : List Json) :
    writeItemsAt level items = items.map (writeAt level) := by
  induction items with
  | nil => rfl
  | cons item items ih => rw [writeItemsAt, ih, List.map_cons]

theorem writeFieldsAt_eq_map (level : Nat) (fields : List (CodePoints × Json)) :
    writeFieldsAt level fields = fields.map fun field =>
      writeString field.1 ++ ": ".toList ++ writeAt level field.2 := by
  induction fields with
  | nil => rfl
  | cons field fields ih => rw [writeFieldsAt, ih, List.map_cons]

theorem blank_of_mem_lineBreak (level : Nat) : ∀ c ∈ lineBreak level, c = ' ' ∨ c = '\n' := by
  intro c hc
  rcases List.mem_cons.mp hc with rfl | hc
  · exact .inr rfl
  · exact .inl (List.eq_of_mem_replicate hc)

/-- One entry a line, further in than the brackets. -/
def Layout.indented (level : Nat) : Layout where
  opening := lineBreak (level + 1)
  between := lineBreak (level + 1)
  closing := lineBreak level
  blank_opening := blank_of_mem_lineBreak (level + 1)
  blank_between := blank_of_mem_lineBreak (level + 1)
  blank_closing := blank_of_mem_lineBreak level

theorem indentedBlock_eq_block (left right : Char) (level : Nat) (texts : List (List Char)) :
    indentedBlock left right level texts = (Layout.indented level).block left right texts := by
  rw [indentedBlock, Layout.block]
  simp only [List.append_assoc]
  rfl

theorem IsPlain.writtenAs_writeAt {value : Json} {nesting : Nat} (hplain : IsPlain nesting value)
    (hwritable : value.isWritable = true) (level : Nat) :
    WrittenAs value nesting (writeAt level value) := by
  induction hplain generalizing level with
  | null nesting => exact writtenAs_null.weaken (Nat.zero_le nesting)
  | bool nesting value => exact (writtenAs_bool value).weaken (Nat.zero_le nesting)
  | int nesting value => exact (writtenAs_int hwritable).weaken (Nat.zero_le nesting)
  | string nesting text => exact (writtenAs_string text).weaken (Nat.zero_le nesting)
  | @arr nesting items hitems ih =>
      rw [isWritable, itemsWritable_eq_all, List.all_eq_true] at hwritable
      rw [writeAt, writeItemsAt_eq_map, indentedBlock_eq_block]
      simpa using writtenAs_items (Layout.indented level) items
        fun item hitem => ih item hitem (hwritable item hitem) (level + 1)
  | @object nesting fields hnames hfields ih =>
      rw [Json.object, isWritable, fieldsWritable_eq_all, List.all_eq_true,
        List.forall_mem_map] at hwritable
      have hwritten : ∀ field ∈ fields.map fun field =>
          (⟨field.1, field.2, writeAt (level + 1) field.2⟩ : WrittenField),
          WrittenAs field.value nesting field.text := by
        rw [List.forall_mem_map]
        intro field hfield
        exact ih field hfield (hwritable field hfield) (level + 1)
      have hcodes := List.Nodup.map CodePoints.ofString_injective hnames
      rw [List.map_map] at hcodes
      have hread := writtenAs_fields (Layout.indented level) _ hwritten
        (by rwa [List.map_map])
      rw [Json.object, writeAt, writeFieldsAt_eq_map, indentedBlock_eq_block]
      simpa [Function.comp_def, WrittenField.member, WrittenField.entry] using hread

theorem read_writeIndented {value : Json} {nesting : Nat} (hplain : IsPlain nesting value)
    (hwritable : value.isWritable = true) (hnesting : nesting ≤ levelLimit) :
    read value.writeIndented.toList = .ok value := by
  rw [writeIndented, String.toList_ofList]
  exact (hplain.writtenAs_writeAt hwritable 0).read_eq hnesting

/-- The value of a named field, if the value is an object that has one. -/
def field? : Json → String → Option Json
  | obj fields, name => fieldOf? fields name
  | _, _ => none

end Json

namespace Snapshot

theorem isPlain_describe (snapshot : Snapshot) (position : Nat) (instruction : Instruction)
    (nesting : Nat) : Json.IsPlain (nesting + 1) (snapshot.describe position instruction) := by
  have hnames : ["index", "opcode", "code", "data", "script", "breakpoint"].Nodup := by decide
  refine .object hnames ?_
  simp only [List.forall_mem_cons]
  refine ⟨.int _ _, .string _ _, .int _ _, ?_, .string _ _, .bool _ _, List.forall_mem_nil _⟩
  cases instruction.data with
  | none => exact .null _
  | some item => exact .string _ _

theorem isPlain_stackReport (stack : List Bytes) (nesting : Nat) :
    Json.IsPlain (nesting + 1) (stackReport stack) := by
  refine .arr ?_
  rw [List.forall_mem_map]
  exact fun item _ => .string _ _

theorem isPlain_report (snapshot : Snapshot) : Json.IsPlain 3 snapshot.report := by
  have hnames : ["program", "counter", "stack", "alt_stack", "complete", "valid", "phase", "error",
      "breakpoints"].Nodup := by decide
  refine .object hnames ?_
  simp only [List.forall_mem_cons]
  refine ⟨.arr ?_, .int _ _, isPlain_stackReport _ _, isPlain_stackReport _ _, .bool _ _,
    .bool _ _, .string _ _, ?_, .arr ?_, List.forall_mem_nil _⟩
  · rw [List.forall_mem_map]
    exact fun _ _ => isPlain_describe _ _ _ _
  · cases snapshot.fault? with
    | none => exact .null _
    | some fault => exact .string _ _
  · rw [List.forall_mem_map]
    exact fun position _ => .int _ position

theorem read_report {snapshot : Snapshot} (hwritable : snapshot.report.isWritable = true) :
    Json.read snapshot.report.writeIndented.toList = .ok snapshot.report :=
  Json.read_writeIndented snapshot.isPlain_report hwritable (by decide)

theorem field?_report_counter (snapshot : Snapshot) :
    snapshot.report.field? "counter" = some (.int snapshot.counter) := by
  simp [report, Json.field?, Json.object, fieldOf?, CodePoints.ofString, List.lookup_cons]

theorem eq_of_describe_eq {first second : Snapshot} {position : Nat}
    {instruction other : Instruction}
    (hdocument : first.describe position instruction = second.describe position other) :
    instruction = other := by
  obtain ⟨name, code, data⟩ := instruction
  obtain ⟨name', code', data'⟩ := other
  simp only [describe, Json.object, List.map_cons, List.map_nil, Json.obj.injEq, List.cons.injEq,
    Prod.mk.injEq, true_and, Json.int.injEq] at hdocument
  obtain ⟨hname, rfl, hdata, -⟩ := hdocument
  rw [Json.string_injective hname]
  cases data <;> cases data' <;> simp only [Json.string, reduceCtorEq] at hdata ⊢
  rw [Bytes.toHex_injective (Json.string_injective hdata)]

theorem stackReport_injective : Function.Injective stackReport := by
  intro first second hdocument
  have hitems := List.map_injective_iff.mpr
    (Json.string_injective.comp Bytes.toHex_injective) (Json.arr.inj hdocument)
  exact List.reverse_inj.mp hitems

/-- Snapshots with the same document show the same: nothing that a document is made of is lost in
it. -/
theorem eq_of_report_eq {first second : Snapshot} (hreport : first.report = second.report) :
    first.setup.program = second.setup.program ∧ first.counter = second.counter ∧
      first.state.main = second.state.main ∧ first.state.alt = second.state.alt ∧
      first.complete = second.complete ∧ first.valid = second.valid ∧
      first.phase = second.phase ∧
      first.fault?.map Fault.message = second.fault?.map Fault.message ∧
      first.breakpoints = second.breakpoints := by
  simp only [report, Json.object, List.map_cons, List.map_nil, Json.obj.injEq, List.cons.injEq,
    Prod.mk.injEq, true_and, Json.int.injEq, Json.bool.injEq, Json.arr.injEq, and_true] at hreport
  obtain ⟨hprogram, hcounter, hmain, halt, hcomplete, hvalid, hphase, hfault, hbreakpoints⟩ :=
    hreport
  refine ⟨?_, hcounter, stackReport_injective hmain, stackReport_injective halt, hcomplete, hvalid,
    ?_, ?_, ?_⟩
  · apply Array.toList_inj.mp
    apply List.ext_getElem?
    intro position
    have hentry := congrArg (·[position]?) hprogram
    simp only [List.getElem?_map, List.getElem?_zipIdx, Nat.zero_add, Option.map_map] at hentry
    cases hfirst : first.setup.program.toList[position]? <;>
      cases hsecond : second.setup.program.toList[position]? <;>
      simp [hfirst, hsecond] at hentry ⊢
    exact eq_of_describe_eq hentry
  · have hname := Json.string_injective hphase
    cases hfirst : first.phase <;> cases hsecond : second.phase <;>
      simp [hfirst, hsecond, Phase.name] at hname ⊢
  · cases hfirst : first.fault? <;> cases hsecond : second.fault? <;>
      simp only [hfirst, hsecond, Json.string, reduceCtorEq] at hfault ⊢
    exact congrArg some (Json.string_injective hfault)
  · exact List.map_injective_iff.mpr (fun _ _ => Json.int.inj) hbreakpoints

end Snapshot

end Lockstep
