import Lockstep.Machine

namespace Lockstep

/-- A set of breakpoints, in increasing order. -/
abbrev Breakpoints := List Int

namespace Breakpoints

def insert (position : Int) : Breakpoints → Breakpoints
  | [] => [position]
  | first :: rest =>
    if position < first then position :: first :: rest
    else if position = first then first :: rest
    else first :: insert position rest

def ofList (positions : List Int) : Breakpoints :=
  positions.foldl (fun set position => insert position set) []

/-- The set with a position put in if it was not there, and taken out if it was. -/
def toggle (set : Breakpoints) (position : Int) : Breakpoints :=
  if set.contains position then set.filter (· != position) else insert position set

end Breakpoints

/-- Whether a run pauses at a position: it is one of the given ones, or it holds the marker. -/
def isBreakpoint (positions : List Int) (program : Array Instruction) (position : Int) : Bool :=
  positions.contains position ||
    (0 ≤ position && (program[position.toNat]?).any (·.code == Opcode.marker))

def nextBreakpoint? (positions : List Int) (program : Array Instruction) (position : Int) :
    Option Nat :=
  (List.range program.size).find? fun index =>
    position < (index : Int) && isBreakpoint positions program index

end Lockstep
