import Lockstep.Machine.Stacks

namespace Lockstep

/-- A fixed rearrangement of the items on top of a stack. -/
inductive Shuffle where
  | drop
  | dup
  | nip
  | over1
  | rot
  | swap
  | tuck
  | drop2
  | dup2
  | dup3
  | over2
  | rot2
  | swap2
deriving DecidableEq

/-- The rearranged stack, top first, or none if it has too few items. -/
def Shuffle.apply {α : Type} : Shuffle → List α → Option (List α)
  | drop, _ :: s => some s
  | dup, a :: s => some (a :: a :: s)
  | nip, b :: _ :: s => some (b :: s)
  | over1, b :: a :: s => some (a :: b :: a :: s)
  | rot, c :: b :: a :: s => some (a :: c :: b :: s)
  | swap, b :: a :: s => some (a :: b :: s)
  | tuck, b :: a :: s => some (b :: a :: b :: s)
  | drop2, _ :: _ :: s => some s
  | dup2, b :: a :: s => some (b :: a :: b :: a :: s)
  | dup3, c :: b :: a :: s => some (c :: b :: a :: c :: b :: a :: s)
  | over2, d :: c :: b :: a :: s => some (b :: a :: d :: c :: b :: a :: s)
  | rot2, f :: e :: d :: c :: b :: a :: s => some (b :: a :: f :: e :: d :: c :: s)
  | swap2, d :: c :: b :: a :: s => some (b :: a :: d :: c :: s)
  | _, _ => none

namespace Effect

def shuffle (name : String) (kind : Shuffle) (stack : List Bytes) : Outcome (List Bytes) :=
  match kind.apply stack with
  | none => .fault (.stackUnderflow name)
  | some stack' => .done stack'

/-- Fetches a copy of the item at the depth that the top item gives, or under the name `OP_ROLL`
the item itself. -/
def fetch (rules : Rules) (name : String) (stack : List Bytes) : Outcome (List Bytes) :=
  match popNumber rules name stack with
  | .error cause => .fault cause
  | .ok (depth, rest) =>
    if depth < 0 then .refuse (.negativeDepth name depth) rest
    else
      match rest[depth.toNat]? with
      | none => .fault (.stackUnderflow name)
      | some item =>
        if name = "OP_ROLL" then .done (item :: rest.eraseIdx depth.toNat)
        else .done (item :: rest)

def toAlt (name : String) (state : Stacks) : Outcome Stacks :=
  match state.main with
  | [] => .fault (.stackUnderflow name)
  | item :: rest => .done { state with main := rest, alt := item :: state.alt }

/-- Moves the top item of the alternate stack back. -/
def fromAlt (state : Stacks) : Outcome Stacks :=
  match state.alt with
  | [] => .fault .altStackUnderflow
  | item :: rest => .done { state with main := item :: state.main, alt := rest }

end Effect

end Lockstep
