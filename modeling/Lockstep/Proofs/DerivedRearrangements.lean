import Mathlib.Data.List.Rotate
import Lockstep.Proofs.LongNumbers
import Lockstep.Proofs.NumberLiterals

namespace Lockstep

/-- The rearrangements, each with a script of others that does the same. -/
def derivations : List (String × String) := [
  ("DUP", "0 PICK"), ("OVER", "1 PICK"), ("SWAP", "1 ROLL"), ("ROT", "2 ROLL"),
  ("NIP", "SWAP DROP"), ("TUCK", "SWAP OVER"), ("2DROP", "DROP DROP"), ("2DUP", "OVER OVER"),
  ("3DUP", "2 PICK 2 PICK 2 PICK"), ("2OVER", "3 PICK 3 PICK"), ("2SWAP", "3 ROLL 3 ROLL"),
  ("2ROT", "5 ROLL 5 ROLL")]

/-- Two machines come to their end without a fault and with the same items on both stacks, or both
are stopped for want of items. -/
def Machine.EndAlike (left right : Machine) : Prop :=
  ∃ leftFinal rightFinal : Machine, left.EndsIn leftFinal ∧ right.EndsIn rightFinal ∧
    (leftFinal.halt? = none ∧ rightFinal.halt? = none ∧
        leftFinal.state.main = rightFinal.state.main ∧
        leftFinal.state.alt = rightFinal.state.alt ∨
      ∃ leftHalt rightHalt, leftFinal.halt? = some leftHalt ∧ rightFinal.halt? = some rightHalt ∧
        leftHalt.cause.kind = .stackUnderflow ∧ rightHalt.cause.kind = .stackUnderflow)

def Shuffle.code (kind : Shuffle) : Int :=
  ((Operation.table.find? (·.2 == .shuffle kind)).map Prod.fst).getD 0

/-- A move of items: a fixed rearrangement, the copy of an item at some depth, or the item itself. -/
inductive Move where
  | shuffle (kind : Shuffle)
  | pick (depth : Nat)
  | roll (depth : Nat)

namespace Move

/-- The stack after a move, top first, or none if it has too few items. -/
def apply : Move → List Bytes → Option (List Bytes)
  | shuffle kind, stack => kind.apply stack
  | pick depth, stack => stack[depth]?.map (· :: stack)
  | roll depth, stack => stack[depth]?.map (· :: stack.eraseIdx depth)

def instructions : Move → List Instruction
  | shuffle kind => [Instruction.ofCode kind.code]
  | pick depth => [Instruction.pushNumber depth, ⟨"OP_PICK", 0x79, none⟩]
  | roll depth => [Instruction.pushNumber depth, ⟨"OP_ROLL", 0x7a, none⟩]

/-- The bytes that the depth of a move takes as a number. -/
def operandLength : Move → Nat
  | shuffle _ => 0
  | pick depth | roll depth => (ScriptNum.encode depth).length

def run (moves : List Move) (stack : List Bytes) : Option (List Bytes) :=
  moves.foldlM (fun stack move => move.apply stack) stack

/-- The script that makes moves one after the other. -/
def script (moves : List Move) : List Instruction :=
  moves.flatMap instructions

/-- What comes of a script that moves items on the main stack: the stack with its items moved, or a
fault for want of items. -/
inductive Gives (alt : List Bytes) (branches : List Bool) :
    Option (List Bytes) → Outcome Stacks → Prop where
  | done (main : List Bytes) : Gives alt branches (some main) (.done ⟨main, alt, branches⟩)
  | underflow (name : String) : Gives alt branches none (.fault (.stackUnderflow name))

theorem Gives.eq_done {alt main : List Bytes} {branches : List Bool} {outcome : Outcome Stacks}
    (hgives : Gives alt branches (some main) outcome) : outcome = .done ⟨main, alt, branches⟩ := by
  cases hgives with
  | done => rfl

end Move

theorem Shuffle.operation_code (kind : Shuffle) :
    Operation.ofCode? kind.code = some (.shuffle kind) := by
  cases kind <;> decide

namespace Move

variable {rules : Rules} {branches : List Bool} (hexecuting : branches.all id = true)
  (check? : Option SignatureCheck) (main alt : List Bytes)

theorem fetch_encode {depth : Nat}
    (hfits : ((ScriptNum.encode depth).length : Int) ≤ rules.numberLimit) (name : String) :
    Effect.fetch rules name (ScriptNum.encode depth :: main) =
      match main[depth]? with
      | none => .fault (.stackUnderflow name)
      | some item => .done (item :: if name = "OP_ROLL" then main.eraseIdx depth else main) := by
  have hread : ScriptNum.decode (ScriptNum.encode depth) = depth := ScriptNum.decode_encode depth
  have hnonneg : ¬ (depth : Int) < 0 := by omega
  simp only [Effect.fetch, popNumber_cons hfits, hread, hnonneg, ↓reduceIte, Int.toNat_natCast]
  cases main[depth]? with
  | none => rfl
  | some item =>
      dsimp only
      split <;> rfl

include hexecuting

theorem execute_fetch {depth : Nat} {code : Int}
    (hfits : ((ScriptNum.encode depth).length : Int) ≤ rules.numberLimit) (name : String)
    (hop : Operation.ofCode? code = some .fetch) :
    Script.execute rules check? [Instruction.pushNumber depth, ⟨name, code, none⟩]
        ⟨main, alt, branches⟩ =
      match main[depth]? with
      | none => .fault (.stackUnderflow name)
      | some item =>
        .done ⟨item :: if name = "OP_ROLL" then main.eraseIdx depth else main, alt, branches⟩ := by
  have hstate : ∀ main, Stacks.isExecuting ⟨main, alt, branches⟩ = true := fun _ => hexecuting
  rw [Script.execute, Instruction.pushes_pushNumber depth rules check? _ (hstate main)]
  dsimp only
  rw [Script.execute_singleton, Instruction.execute_of_operation (hstate _) rfl hop]
  change (Effect.fetch rules name (ScriptNum.encode depth :: main)).map _ = _
  rw [fetch_encode main hfits]
  cases main[depth]? with
  | none => rfl
  | some item => rfl

theorem gives_instructions (move : Move)
    (hfits : (move.operandLength : Int) ≤ rules.numberLimit) :
    Gives alt branches (move.apply main)
      (Script.execute rules check? move.instructions ⟨main, alt, branches⟩) := by
  cases move with
  | shuffle kind =>
      have hop : Operation.ofCode? (Instruction.ofCode kind.code).code = some (.shuffle kind) :=
        kind.operation_code
      rw [instructions, Script.execute_singleton, Instruction.execute_of_operation
        (show Stacks.isExecuting ⟨main, alt, branches⟩ = true from hexecuting) rfl hop]
      change Gives _ _ (kind.apply main) ((Effect.shuffle _ kind main).map _)
      rw [Effect.shuffle]
      cases kind.apply main with
      | none => exact .underflow _
      | some main' => exact .done main'
  | pick depth =>
      rw [instructions, execute_fetch hexecuting check? main alt hfits "OP_PICK" rfl, apply]
      cases main[depth]? with
      | none => exact .underflow "OP_PICK"
      | some item => exact .done (item :: main)
  | roll depth =>
      rw [instructions, execute_fetch hexecuting check? main alt hfits "OP_ROLL" rfl, apply]
      cases main[depth]? with
      | none => exact .underflow "OP_ROLL"
      | some item => exact .done (item :: main.eraseIdx depth)

theorem gives_script (moves : List Move)
    (hfits : ∀ move ∈ moves, (move.operandLength : Int) ≤ rules.numberLimit) :
    Gives alt branches (run moves main)
      (Script.execute rules check? (script moves) ⟨main, alt, branches⟩) := by
  induction moves generalizing main with
  | nil => exact .done main
  | cons move moves ih =>
      rw [List.forall_mem_cons] at hfits
      have hfirst := gives_instructions hexecuting check? main alt move hfits.1
      rw [run, List.foldlM_cons, script, List.flatMap_cons, Script.execute_append]
      generalize move.apply main = moved at hfirst ⊢
      generalize Script.execute rules check? move.instructions ⟨main, alt, branches⟩ = outcome
        at hfirst ⊢
      cases hfirst with
      | done main' => exact ih main' hfits.2
      | underflow name => exact .underflow name

end Move

theorem Machine.endAlike_of_gives {left right : Setup} {main alt : List Bytes}
    {moved : Option (List Bytes)}
    (hleft : Move.Gives alt [] moved
      (Script.execute left.rules left.check? left.program.toList ⟨main, alt, []⟩))
    (hright : Move.Gives alt [] moved
      (Script.execute right.rules right.check? right.program.toList ⟨main, alt, []⟩)) :
    (resume left 0 ⟨main, alt, []⟩).EndAlike (resume right 0 ⟨main, alt, []⟩) := by
  generalize hleftOutcome : Script.execute left.rules left.check? left.program.toList
    ⟨main, alt, []⟩ = leftOutcome at hleft
  generalize hrightOutcome : Script.execute right.rules right.check? right.program.toList
    ⟨main, alt, []⟩ = rightOutcome at hright
  cases hleft with
  | done main' =>
      cases hright with
      | done _ =>
          exact ⟨_, _, endsIn_of_execute hleftOutcome rfl, endsIn_of_execute hrightOutcome rfl,
            .inl ⟨rfl, rfl, rfl, rfl⟩⟩
  | underflow leftName =>
      cases hright with
      | underflow rightName =>
          obtain ⟨leftFinal, leftHalt, hleftEnds, hleftHalt, hleftCause⟩ :=
            endsIn_of_execute_fault hleftOutcome
          obtain ⟨rightFinal, rightHalt, hrightEnds, hrightHalt, hrightCause⟩ :=
            endsIn_of_execute_fault hrightOutcome
          refine ⟨leftFinal, rightFinal, hleftEnds, hrightEnds, .inr ⟨leftHalt, rightHalt,
            hleftHalt, hrightHalt, ?_, ?_⟩⟩
          · rw [hleftCause]
            rfl
          · rw [hrightCause]
            rfl

namespace Move

/-- The rearrangements, each with moves that have the same effect. -/
def derivedMoves : List (Shuffle × List Move) := [
  (.dup, [pick 0]), (.over1, [pick 1]), (.swap, [roll 1]), (.rot, [roll 2]),
  (.nip, [shuffle .swap, shuffle .drop]), (.tuck, [shuffle .swap, shuffle .over1]),
  (.drop2, [shuffle .drop, shuffle .drop]), (.dup2, [shuffle .over1, shuffle .over1]),
  (.dup3, [pick 2, pick 2, pick 2]), (.over2, [pick 3, pick 3]), (.swap2, [roll 3, roll 3]),
  (.rot2, [roll 5, roll 5])]

theorem parse_derivations : ∀ row ∈ derivations.zip derivedMoves,
    (Script.parse row.1.1).toOption = some (script [shuffle row.2.1]) ∧
      (Script.parse row.1.2).toOption = some (script row.2.2) := by
  decide +kernel

theorem exists_derivedMoves {pair : String × String} (hpair : pair ∈ derivations) :
    ∃ entry ∈ derivedMoves, Script.parse pair.1 = .ok (script [shuffle entry.1]) ∧
      Script.parse pair.2 = .ok (script entry.2) := by
  have hrows : (derivations.zip derivedMoves).map Prod.fst = derivations :=
    List.map_fst_zip (by decide)
  rw [← hrows] at hpair
  obtain ⟨row, hrow, rfl⟩ := List.mem_map.mp hpair
  obtain ⟨hdirect, hderived⟩ := parse_derivations row hrow
  exact ⟨row.2, (List.of_mem_zip hrow).2, Script.parse_of_toOption hdirect,
    Script.parse_of_toOption hderived⟩

theorem operandLength_derivedMoves :
    ∀ entry ∈ derivedMoves, ∀ move ∈ entry.2, move.operandLength ≤ 1 := by
  decide +kernel

theorem run_derivedMoves : ∀ entry ∈ derivedMoves, ∀ stack,
    run entry.2 stack = run [shuffle entry.1] stack := by
  intro entry hentry stack
  simp only [derivedMoves, List.mem_cons, List.not_mem_nil, or_false] at hentry
  -- no rearrangement looks further down than six items
  rcases stack with _ | ⟨f, _ | ⟨e, _ | ⟨d, _ | ⟨c, _ | ⟨b, _ | ⟨a, stack⟩⟩⟩⟩⟩⟩ <;>
    rcases hentry with rfl | rfl | rfl | rfl | rfl | rfl | rfl | rfl | rfl | rfl | rfl | rfl <;> rfl

theorem apply_roll {depth : Nat} {front : List Bytes} (hlength : front.length = depth + 1)
    (below : List Bytes) :
    (roll depth).apply (front ++ below) = some (front.rotate depth ++ below) := by
  have hinside : depth < front.length := by omega
  have hlast : front.drop (depth + 1) = [] := List.drop_eq_nil_of_le (by omega)
  rw [apply, List.getElem?_append_left hinside, List.getElem?_eq_getElem hinside, Option.map_some,
    List.eraseIdx_append_of_lt_length hinside, List.eraseIdx_eq_take_drop_succ,
    List.rotate_eq_drop_append_take (by omega), List.drop_eq_getElem_cons hinside, hlast]
  simp

theorem run_replicate_roll {depth : Nat} {front : List Bytes}
    (hlength : front.length = depth + 1) (below : List Bytes) (count : Nat) :
    run (List.replicate count (roll depth)) (front ++ below) =
      some (front.rotate (depth * count) ++ below) := by
  induction count generalizing front with
  | zero => simp [run]
  | succ count ih =>
      rw [run, List.replicate_succ, List.foldlM_cons, apply_roll hlength below]
      change run (List.replicate count (roll depth)) (front.rotate depth ++ below) = _
      rw [ih (by rw [List.length_rotate, hlength]), List.rotate_rotate, Nat.mul_succ, Nat.add_comm]

theorem run_roll_cycle {depth : Nat} {stack : List Bytes} (hlength : depth + 1 ≤ stack.length) :
    run (List.replicate (depth + 1) (roll depth)) stack = some stack := by
  have hfront : (stack.take (depth + 1)).length = depth + 1 := by
    rw [List.length_take]
    omega
  have hcycle := run_replicate_roll hfront (stack.drop (depth + 1)) (depth + 1)
  have hround : depth * (depth + 1) = (stack.take (depth + 1)).length * depth := by
    rw [hfront, Nat.mul_comm]
  rwa [hround, List.rotate_length_mul, List.take_append_drop] at hcycle

end Move

/-- Each rearrangement and the script that is given for it do the same on every stack, or both find
too few items. And an item fetched from the same depth once more than the depth says leaves the stack
as it was. -/
theorem rearrangements_derived_from_fetching (rules : Rules) (hlimit : 1 ≤ rules.numberLimit)
    (check? : Option SignatureCheck) (unlockingLength : Int) (main alt : List Bytes) :
    (∀ pair ∈ derivations, ∃ direct derived,
      Script.parse pair.1 = .ok direct ∧ Script.parse pair.2 = .ok derived ∧
      (Machine.resume ⟨direct.toArray, unlockingLength, check?, rules⟩ 0 ⟨main, alt, []⟩).EndAlike
        (Machine.resume ⟨derived.toArray, unlockingLength, check?, rules⟩ 0 ⟨main, alt, []⟩)) ∧
    ∀ n : Nat, ((ScriptNum.encode n).length : Int) ≤ rules.numberLimit → n + 1 ≤ main.length →
      let program :=
        (List.replicate (n + 1) [Instruction.pushNumber n, ⟨"OP_ROLL", 0x7a, none⟩]).flatten
      let setup : Setup := ⟨program.toArray, unlockingLength, check?, rules⟩
      (Machine.resume setup 0 ⟨main, alt, []⟩).EndsIn
        (Machine.resume setup setup.length ⟨main, alt, []⟩) := by
  have hexecuting : ([] : List Bool).all id = true := rfl
  constructor
  · intro pair hpair
    obtain ⟨entry, hentry, hdirect, hderived⟩ := Move.exists_derivedMoves hpair
    have hshort : ∀ move ∈ entry.2, (move.operandLength : Int) ≤ rules.numberLimit := by
      intro move hmove
      have hone := Move.operandLength_derivedMoves entry hentry move hmove
      omega
    have hnone : ∀ move ∈ [Move.shuffle entry.1],
        (move.operandLength : Int) ≤ rules.numberLimit := by
      simp only [List.mem_singleton, forall_eq, Move.operandLength]
      omega
    have hdirectGives := Move.gives_script hexecuting check? main alt _ hnone
    have hderivedGives := Move.gives_script hexecuting check? main alt _ hshort
    rw [Move.run_derivedMoves entry hentry] at hderivedGives
    exact ⟨_, _, hdirect, hderived, Machine.endAlike_of_gives hdirectGives hderivedGives⟩
  · intro n hfits hlength program setup
    have hmoves : ∀ move ∈ List.replicate (n + 1) (Move.roll n),
        (move.operandLength : Int) ≤ rules.numberLimit := by
      intro move hmove
      rw [List.eq_of_mem_replicate hmove]
      exact hfits
    have hgives := Move.gives_script hexecuting check? main alt _ hmoves
    rw [Move.run_roll_cycle hlength] at hgives
    have hprogram : Move.script (List.replicate (n + 1) (Move.roll n)) = program :=
      List.flatMap_replicate
    rw [hprogram] at hgives
    exact Machine.endsIn_of_execute hgives.eq_done rfl

theorem rearrangements_derived_from_fetching_pairs :
    1 ≤ ({} : Rules).numberLimit ∧
    (∃ direct derived, Script.parse "2ROT" = .ok direct ∧
      Script.parse "5 ROLL 5 ROLL" = .ok derived ∧
      (Machine.resume ⟨direct.toArray, 0, none, {}⟩ 0
        ⟨[[6], [5], [4], [3], [2], [1], [0]], [[7]], []⟩).EndAlike
          (Machine.resume ⟨derived.toArray, 0, none, {}⟩ 0
            ⟨[[6], [5], [4], [3], [2], [1], [0]], [[7]], []⟩)) ∧
    ((ScriptNum.encode 1).length : Int) ≤ ({} : Rules).numberLimit ∧
    ∃ setup : Setup, setup.program = #[⟨"OP_1", 0x51, none⟩, ⟨"OP_ROLL", 0x7a, none⟩,
        ⟨"OP_1", 0x51, none⟩, ⟨"OP_ROLL", 0x7a, none⟩] ∧
      (Machine.resume setup 0 ⟨[[6], [5], [4], [3], [2], [1], [0]], [[7]], []⟩).EndsIn
        (Machine.resume setup 4 ⟨[[6], [5], [4], [3], [2], [1], [0]], [[7]], []⟩) := by
  have hlimit : 1 ≤ ({} : Rules).numberLimit := by decide
  have hfits : ((ScriptNum.encode 1).length : Int) ≤ ({} : Rules).numberLimit := by decide +kernel
  obtain ⟨hderived, hcycle⟩ := rearrangements_derived_from_fetching {} hlimit none 0
    [[6], [5], [4], [3], [2], [1], [0]] [[7]]
  exact ⟨hlimit, hderived ("2ROT", "5 ROLL 5 ROLL") (by decide), hfits, _, rfl,
    hcycle 1 hfits (by decide)⟩

end Lockstep
