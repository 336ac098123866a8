import Lockstep.Machine.Stacks

namespace Lockstep.Effect

/-- Opens a conditional. A condition is taken from the stack only where instructions take effect;
under the name `OP_NOTIF` it counts the other way round. -/
def openBranch (name : String) (state : Stacks) : Outcome Stacks :=
  if state.isExecuting then
    match state.main with
    | [] => .fault (.stackUnderflow name)
    | item :: rest =>
      let holds := ScriptNum.isTrue item
      let taken := if name = "OP_NOTIF" then !holds else holds
      .done { state with main := rest, branches := taken :: state.branches }
  else .done { state with branches := false :: state.branches }

/-- Changes to the other branch of the innermost conditional. -/
def switchBranch (state : Stacks) : Outcome Stacks :=
  match state.branches with
  | [] => .fault .elseWithoutIf
  | taken :: outer => .done { state with branches := (!taken) :: outer }

def closeBranch (state : Stacks) : Outcome Stacks :=
  match state.branches with
  | [] => .fault .endIfWithoutIf
  | _ :: outer => .done { state with branches := outer }

def verify (name : String) : List Bytes → Outcome (List Bytes)
  | [] => .fault (.stackUnderflow name)
  | item :: rest => if ScriptNum.isTrue item then .done rest else .fault .notTrue

def dupIfTrue (name : String) : List Bytes → Outcome (List Bytes)
  | [] => .fault (.stackUnderflow name)
  | item :: rest => .done (if ScriptNum.isTrue item then item :: item :: rest else item :: rest)

end Lockstep.Effect
