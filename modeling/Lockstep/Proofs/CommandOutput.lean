import Lockstep.CommandLine
import Lockstep.Proofs.BreakpointRuns
import Lockstep.Proofs.PrintedStates
import Lockstep.Proofs.ReaderAgreement

namespace Lockstep.CommandLine

/-- The states that are shown from a snapshot on if nothing bounds how often the command runs. -/
inductive Shows : Store → Snapshot → List Snapshot → Prop where
  | last {store store' : Store} {snapshot next : Snapshot}
      (hrun : store.runToBreakpoint snapshot Store.defaultMaxSteps = (store', .ok next))
      (hover : next.complete = true) : Shows store snapshot [next]
  | pause {store store' : Store} {snapshot next : Snapshot} {rest : List Snapshot}
      (hrun : store.runToBreakpoint snapshot Store.defaultMaxSteps = (store', .ok next))
      (hopen : next.complete = false) (hrest : Shows store' next rest) :
      Shows store snapshot (next :: rest)

section Loop

variable {setup : Setup} {store : Store} {snapshots : List Snapshot} {snapshot : Snapshot}

theorem stopsAt_of_runToBreakpoint {store' : Store} {next : Snapshot}
    (h : store.Consistent setup snapshots) (hmem : snapshot ∈ snapshots)
    (hopen : snapshot.complete = false)
    (hrun : store.runToBreakpoint snapshot Store.defaultMaxSteps = (store', .ok next)) :
    next.breakpoints = snapshot.breakpoints ∧
      snapshot.StopsAt setup Store.defaultMaxSteps.toNat next := by
  rw [Store.runToBreakpoint_eq_run] at hrun
  exact h.run_stopsAt hmem hopen hrun

/-- Since every pause is further on than the one before, the command never runs more often than
there are instructions, and once more. -/
theorem shows_of_states {fuel : Nat} {shown : List Snapshot} (h : store.Consistent setup snapshots)
    (hmem : snapshot ∈ snapshots) (hopen : snapshot.complete = false) (hpos : 0 < fuel)
    (hfuel : setup.length ≤ snapshot.counter + fuel)
    (hstates : states fuel store snapshot = .ok shown) : Shows store snapshot shown := by
  induction fuel generalizing store snapshots snapshot shown with
  | zero => omega
  | succ fuel ih =>
      rw [states] at hstates
      rcases hrun : store.runToBreakpoint snapshot Store.defaultMaxSteps with
        ⟨store', cause | next⟩
      · simp [hrun] at hstates
      · simp only [hrun] at hstates
        split at hstates
        · simp at hstates
        cases hnext : next.complete with
        | true =>
            simp only [hnext, ↓reduceIte, Except.ok.injEq] at hstates
            exact hstates ▸ .last hrun hnext
        | false =>
            simp only [hnext, Bool.false_eq_true, ↓reduceIte] at hstates
            obtain ⟨-, hstops⟩ := stopsAt_of_runToBreakpoint h hmem hopen hrun
            cases hstops with
            | ended hover | limited hover => simp [hnext] at hover
            | paused _ hfurther hinside _ _ =>
                cases hrest : states fuel store' next with
                | error cause => simp [hrest, Except.map] at hstates
                | ok rest =>
                    simp only [hrest, Except.map, Except.ok.injEq] at hstates
                    subst hstates
                    refine .pause hrun hnext ?_
                    exact ih (h.runToBreakpoint hmem hrun) List.mem_cons_self hnext (by omega)
                      (by omega) hrest

theorem isWritable_of_states {fuel : Nat} {shown : List Snapshot}
    (hstates : states fuel store snapshot = .ok shown) :
    ∀ state ∈ shown, state.report.isWritable = true := by
  induction fuel generalizing store snapshot shown with
  | zero =>
      cases hstates
      exact List.forall_mem_nil _
  | succ fuel ih =>
      rw [states] at hstates
      rcases hrun : store.runToBreakpoint snapshot Store.defaultMaxSteps with
        ⟨store', cause | next⟩
      · simp [hrun] at hstates
      · simp only [hrun] at hstates
        split at hstates
        · simp at hstates
        · rename_i hwritable
          rw [Bool.not_eq_true', Bool.not_eq_false] at hwritable
          split at hstates
          · cases hstates
            exact List.forall_mem_singleton.mpr hwritable
          · cases hrest : states fuel store' next with
            | error cause => simp [hrest, Except.map] at hstates
            | ok rest =>
                simp only [hrest, Except.map, Except.ok.injEq] at hstates
                exact hstates ▸ List.forall_mem_cons.mpr ⟨hwritable, ih hrest⟩

/-- What is shown from a snapshot on: the states at the pauses, and the last one. -/
structure Listing (setup : Setup) (snapshot : Snapshot) (pauses : List Snapshot)
    (final : Snapshot) : Prop where
  complete : final.complete = true
  increasing : (pauses.map Snapshot.counter).Pairwise (· < ·)
  /-- The run pauses at the breakpoints that it gets to, and nowhere else. -/
  mem_iff : ∀ position, position ∈ pauses.map Snapshot.counter ↔
    snapshot.counter < position ∧ position ≤ final.counter ∧ position < setup.length ∧
      isBreakpoint snapshot.breakpoints setup.program position = true
  behind : snapshot.counter ≤ final.counter
  /-- Where no stretch can be too long, the last state is the end of the run. -/
  ends : setup.length ≤ snapshot.counter + Store.defaultMaxSteps →
    ∃ machine, (Machine.start setup).EndsIn machine ∧ final.Reflects machine

theorem listing_of_isClear {final : Snapshot} (hover : final.complete = true)
    (hfrom : snapshot.counter ≤ final.counter)
    (hclear : setup.IsClear snapshot.breakpoints snapshot.counter final.counter)
    (hends : setup.length ≤ snapshot.counter + Store.defaultMaxSteps →
      ∃ machine, (Machine.start setup).EndsIn machine ∧ final.Reflects machine) :
    Listing setup snapshot [] final where
  complete := hover
  increasing := .nil
  mem_iff := by
    intro position
    constructor
    · intro hmem
      simp at hmem
    · rintro ⟨hbehind, hlast, hinside, hbreak⟩
      simp [hclear position hbehind hlast hinside] at hbreak
  behind := hfrom
  ends := hends

theorem Listing.cons {next final : Snapshot} {pauses : List Snapshot}
    (hlisting : Listing setup next pauses final)
    (hkept : next.breakpoints = snapshot.breakpoints)
    (hfurther : snapshot.counter < next.counter) (hinside : next.counter < setup.length)
    (hbreak : isBreakpoint snapshot.breakpoints setup.program next.counter = true)
    (hclear : setup.IsClear snapshot.breakpoints snapshot.counter (next.counter - 1)) :
    Listing setup snapshot (next :: pauses) final where
  complete := hlisting.complete
  increasing := by
    refine List.pairwise_cons.mpr ⟨?_, hlisting.increasing⟩
    intro position hmem
    exact ((hlisting.mem_iff position).mp hmem).1
  mem_iff := by
    intro position
    have hbehind := hlisting.behind
    rw [List.map_cons, List.mem_cons, hlisting.mem_iff, hkept]
    constructor
    · rintro (rfl | ⟨hlater, hrest⟩)
      · exact ⟨hfurther, hbehind, hinside, hbreak⟩
      · exact ⟨by omega, hrest⟩
    · rintro ⟨hstart, hlast, hposition, hbreak'⟩
      rcases Int.lt_trichotomy position next.counter with hbefore | rfl | hlater
      · rw [hclear position hstart (by omega) hposition] at hbreak'
        cases hbreak'
      · exact .inl rfl
      · exact .inr ⟨hlater, hlast, hposition, hbreak'⟩
  behind := by
    have hbehind := hlisting.behind
    omega
  ends := by
    intro hlength
    exact hlisting.ends (by omega)

theorem listing_of_shows {shown : List Snapshot} (hshows : Shows store snapshot shown)
    (h : store.Consistent setup snapshots) (hmem : snapshot ∈ snapshots)
    (hopen : snapshot.complete = false) :
    ∃ pauses final, shown = pauses ++ [final] ∧ Listing setup snapshot pauses final := by
  induction hshows generalizing snapshots with
  | @last store store' snapshot next hrun hover =>
      refine ⟨[], next, rfl, ?_⟩
      obtain ⟨-, hstops⟩ := stopsAt_of_runToBreakpoint h hmem hopen hrun
      cases hstops with
      | paused hopen' => simp [hover] at hopen'
      | ended _ machine hends hreflects hfrom hclear =>
          exact listing_of_isClear hover hfrom hclear fun _ => ⟨machine, hends, hreflects⟩
      | limited _ hcounter hinside hclear =>
          have hsteps : (Store.defaultMaxSteps.toNat : Int) = Store.defaultMaxSteps := rfl
          have hpos : Store.defaultMaxSteps.toNat ≠ 0 := by decide
          refine listing_of_isClear hover (by omega) hclear ?_
          intro hlength
          omega
  | @pause store store' snapshot next rest hrun hnext hrest ih =>
      obtain ⟨hkept, hstops⟩ := stopsAt_of_runToBreakpoint h hmem hopen hrun
      cases hstops with
      | ended hover | limited hover => simp [hnext] at hover
      | paused _ hfurther hinside hbreak hclear =>
          obtain ⟨pauses, final, rfl, hlisting⟩ := ih (h.runToBreakpoint hmem hrun)
            List.mem_cons_self hnext
          exact ⟨next :: pauses, final, rfl, hlisting.cons hkept hfurther hinside hbreak hclear⟩

end Loop

/-- The text of states, one document after the other. -/
def reports (shown : List Snapshot) : String :=
  String.join (shown.map fun state => state.report.writeIndented ++ "\n")

/-- The counter of the state that a printed document shows. -/
def counterShown? (text : String) : Option Int :=
  match Json.read text.toList with
  | .error _ => none
  | .ok document =>
    match document.field? "counter" with
    | some (.int counter) => some counter
    | _ => none

theorem counterShown?_report {state : Snapshot} (hwritable : state.report.isWritable = true) :
    counterShown? state.report.writeIndented = some state.counter := by
  simp only [counterShown?, Snapshot.read_report hwritable, Snapshot.field?_report_counter]

theorem scriptText_of_head? {argument : String} (hplain : argument.toList.head? ≠ some '@')
    (files : Files) : scriptText files argument = .ok argument := by
  unfold scriptText
  split
  · rename_i name hname
    simp [hname] at hplain
  · rfl

theorem run_of_plain_arguments {unlocking locking : String} {positions : List String}
    {breakpoints : List Int} (hverbose : "-v" ∉ unlocking :: locking :: positions)
    (hunlocking : unlocking.toList.head? ≠ some '@') (hlocking : locking.toList.head? ≠ some '@')
    (hpositions : positions.mapM Decimal.ofLiteral? = some breakpoints) (rules : Rules)
    (files : Files) :
    run rules (unlocking :: locking :: positions) files =
      debugTexts rules unlocking locking breakpoints := by
  rw [run, List.erase_of_not_mem hverbose]
  simp only [hpositions, scriptText_of_head? hunlocking, scriptText_of_head? hlocking]

theorem exists_states_of_debug {rules : Rules} {unlocking locking : List Instruction}
    {breakpoints : List Int} {output : Output}
    (hdebug : debug rules unlocking locking breakpoints = .ok output) :
    ∃ shown,
      states ((unlocking ++ locking).length + 1)
        (Store.start unlocking locking breakpoints none rules).1
        (Store.start unlocking locking breakpoints none rules).2 = .ok shown ∧
      ∀ pauses final, shown = pauses ++ [final] →
        output = ⟨reports shown ++ verdict final, if final.valid then 0 else 1⟩ := by
  unfold debug at hdebug
  dsimp only at hdebug
  split at hdebug
  · simp at hdebug
  · rename_i shown hstates
    refine ⟨shown, hstates, ?_⟩
    rintro pauses final rfl
    rw [List.getLastD_concat] at hdebug
    cases hdebug
    rfl

/-- What the command prints. For two scripts that can be read and any breakpoints, where nothing
breaks off, the command comes to an end. It shows the states at the breakpoints between the first
instruction and the end of the run, in order and each once, and behind them the end of the run; the
counter of each can be read off the document that is printed for it; and for programs within the
step limit the exit code is the verdict of a machine that is stepped to its end and knows no
breakpoints. -/
theorem command_shows_breakpoints_and_verdict (rules : Rules) (files : Files)
    (unlocking locking : String) (positions : List String) (breakpoints : List Int)
    (first second : List Instruction) (hverbose : "-v" ∉ unlocking :: locking :: positions)
    (hunlocking : unlocking.toList.head? ≠ some '@') (hlocking : locking.toList.head? ≠ some '@')
    (hpositions : positions.mapM Decimal.ofLiteral? = some breakpoints)
    (hfirst : Script.parse unlocking = .ok first) (hsecond : Script.parse locking = .ok second)
    (output : Output)
    (hrun : run rules (unlocking :: locking :: positions) files = .ok output) :
    let setup := Setup.ofScripts first second none rules
    ∃ pauses final,
      Shows (Store.start first second breakpoints none rules).1
        (Store.start first second breakpoints none rules).2 (pauses ++ [final]) ∧
      output.text = reports (pauses ++ [final]) ++ verdict final ∧
      (∀ state ∈ pauses ++ [final],
        counterShown? state.report.writeIndented = some state.counter) ∧
      final.complete = true ∧
      (pauses.map Snapshot.counter).Pairwise (· < ·) ∧
      (∀ position, position ∈ pauses.map Snapshot.counter ↔
        0 < position ∧ position ≤ final.counter ∧ position < setup.length ∧
          isBreakpoint breakpoints setup.program position = true) ∧
      (setup.length ≤ Store.defaultMaxSteps → ∃ machine, (Machine.start setup).EndsIn machine ∧
        output.exit =
          if machine.halt? = none ∧ stackIsValid rules machine.state.main = true then 0
          else 1) := by
  intro setup
  rw [run_of_plain_arguments hverbose hunlocking hlocking hpositions, debugTexts] at hrun
  simp only [hfirst, hsecond] at hrun
  split at hrun
  · simp at hrun
  · rename_i output' hdebug
    cases hrun
    obtain ⟨shown, hstates, houtput⟩ := exists_states_of_debug hdebug
    have hconsistent := Store.consistent_start first second breakpoints none rules
    have hlength : setup.length = ((first ++ second).length : Nat) := by
      simp [setup, Setup.length, Setup.ofScripts]
    have hshows := shows_of_states hconsistent List.mem_cons_self rfl (Nat.succ_pos _)
      (by change setup.length ≤ 0 + _; omega) hstates
    obtain ⟨pauses, final, rfl, hlisting⟩ :=
      listing_of_shows hshows hconsistent List.mem_cons_self rfl
    rw [houtput pauses final rfl]
    have hcounters : ∀ state ∈ pauses ++ [final],
        counterShown? state.report.writeIndented = some state.counter :=
      fun state hstate => counterShown?_report (isWritable_of_states hstates state hstate)
    refine ⟨pauses, final, hshows, rfl, hcounters, hlisting.complete, hlisting.increasing, ?_, ?_⟩
    · intro position
      rw [hlisting.mem_iff, ← isBreakpoint_ofList breakpoints]
      rfl
    · intro hshort
      obtain ⟨machine, hends, hreflects⟩ := hlisting.ends (by change setup.length ≤ 0 + _; omega)
      have hrules : machine.setup.rules = rules := congrArg Setup.rules hends.setup_eq
      refine ⟨machine, hends, ?_⟩
      simp [hreflects.valid, hlisting.complete, hrules]

/-- A script that is refused at a breakpoint, behind a marker. -/
def refusedAtBreakpoint : List Instruction :=
  [⟨"OP_NOP10", 0xb9, none⟩, ⟨"OP_RETURN", 0x6a, none⟩, ⟨"OP_1", 0x51, none⟩]

theorem command_shows_breakpoints_and_verdict_refused :
    Script.parse "1" = .ok [⟨"OP_1", 0x51, none⟩] ∧
      Script.parse "OP_NOP10 OP_RETURN OP_1" = .ok refusedAtBreakpoint ∧
      ["2", "-7", "2"].mapM Decimal.ofLiteral? = some [2, -7, 2] ∧
      ∃ output pauses final,
        run {} ["1", "OP_NOP10 OP_RETURN OP_1", "2", "-7", "2"] (fun _ => .error .missing) =
          .ok output ∧
        output.exit = 1 ∧ output.text = reports (pauses ++ [final]) ++ verdict final ∧
        (∀ state ∈ pauses ++ [final],
          counterShown? state.report.writeIndented = some state.counter) ∧
        final.complete = true ∧
        ∀ position, position ∈ pauses.map Snapshot.counter ↔
          0 < position ∧ position ≤ final.counter ∧ position < 4 ∧
            isBreakpoint [2, -7, 2] (⟨"OP_1", 0x51, none⟩ :: refusedAtBreakpoint).toArray
              position = true := by
  have hfirst : Script.parse "1" = .ok [⟨"OP_1", 0x51, none⟩] :=
    Script.parse_of_toOption (by decide +kernel)
  have hsecond : Script.parse "OP_NOP10 OP_RETURN OP_1" = .ok refusedAtBreakpoint :=
    Script.parse_of_toOption (by decide +kernel)
  have hpositions : ["2", "-7", "2"].mapM Decimal.ofLiteral? = some [2, -7, 2] := by
    decide +kernel
  have hexit : (run {} ["1", "OP_NOP10 OP_RETURN OP_1", "2", "-7", "2"]
      (fun _ => .error .missing)).toOption.map Output.exit = some 1 := by decide +kernel
  cases hrun : run {} ["1", "OP_NOP10 OP_RETURN OP_1", "2", "-7", "2"]
      (fun _ => .error .missing) with
  | error failure => simp [hrun, Except.toOption] at hexit
  | ok output =>
      obtain ⟨pauses, final, -, htext, hcounters, hover, -, hmem, -⟩ :=
        command_shows_breakpoints_and_verdict {} (fun _ => .error .missing) _ _ _ _ _ _
          (by decide) (by decide) (by decide) hpositions hfirst hsecond output hrun
      refine ⟨hfirst, hsecond, hpositions, output, pauses, final, rfl, ?_, htext, hcounters, hover,
        hmem⟩
      simpa [hrun, Except.toOption] using hexit

end Lockstep.CommandLine
