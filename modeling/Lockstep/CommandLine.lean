import Lockstep.Debugger.Report
import Lockstep.Debugger.Store
import Lockstep.Script.Assembly
import Lockstep.Text.Quoted
import Lockstep.Text.Utf8

/-!
The command line: two scripts and breakpoints as arguments, the states at the breakpoints and the
verdict as output.
-/

namespace Lockstep.CommandLine

inductive FileError where
  | missing
  | notADirectory
  | isADirectory
  | nameTooLong
deriving DecidableEq

/-- The number and the text of a file error. -/
def FileError.message : FileError → String
  | missing => "[Errno 2] No such file or directory"
  | notADirectory => "[Errno 20] Not a directory"
  | isADirectory => "[Errno 21] Is a directory"
  | nameTooLong => "[Errno 36] File name too long"

abbrev Files := String → Except FileError Bytes

/-- What the command writes, and the code it exits with. -/
structure Output where
  text : String
  exit : Nat
deriving DecidableEq

inductive Failure where
  | abort (cause : Abort)
  | notText
  /-- The name of a file has a null character. -/
  | nullInName
deriving DecidableEq

def Failure.message : Failure → String
  | abort cause => cause.message
  | notText => "the file is not UTF-8 text"
  | nullInName => "embedded null byte"

inductive ScriptError where
  | file (name : String) (error : FileError)
  | failure (failure : Failure)
deriving DecidableEq

def usage : String :=
  "Usage: python main.py [-v] <unlocking> <locking> [breakpoint ...]\n"

/-- The script that an argument stands for: its own text, or behind an `@` the name of a file with
the text. -/
def scriptText (files : Files) (argument : String) : Except ScriptError String :=
  match argument.toList with
  | '@' :: name =>
    if name.contains '\x00' then .error (.failure .nullInName)
    else
      match files (String.ofList name) with
      | .error e => .error (.file (String.ofList name) e)
      | .ok bytes =>
        match Text.ofUtf8? bytes with
        | none => .error (.failure .notText)
        | some text => .ok (String.ofList text)
  | _ => .ok argument

/-- The states that are shown: one at each breakpoint that the run meets, and the last one. Showing
a state breaks off if a number in it has too many digits. The fuel is more than the number of
instructions. -/
def states : Nat → Store → Snapshot → Except Abort (List Snapshot)
  | 0, _, _ => .ok []
  | fuel + 1, store, snapshot =>
    match store.runToBreakpoint snapshot Store.defaultMaxSteps with
    | (_, .error cause) => .error cause
    | (store', .ok next) =>
      if !next.report.isWritable then .error .unwritableNumber
      else if next.complete then .ok [next]
      else (states fuel store' next).map (next :: ·)

def verdict (final : Snapshot) : String :=
  (match final.fault? with
    | some fault => "Script failed: " ++ fault.message ++ "\n"
    | none => "") ++
  (if final.valid then "Script valid\n" else "Script invalid\n")

/-- Shows the states of a run and the verdict. -/
def debug (rules : Rules) (unlocking locking : List Instruction) (breakpoints : List Int) :
    Except Abort Output :=
  let (store, snapshot) := Store.start unlocking locking breakpoints none rules
  match states (snapshot.setup.program.size + 1) store snapshot with
  | .error cause => .error cause
  | .ok shown =>
    let final := shown.getLastD snapshot
    let reports := shown.map fun state => state.report.writeIndented ++ "\n"
    .ok ⟨String.join reports ++ verdict final, if final.valid then 0 else 1⟩

def refusal (message : String) : Output :=
  ⟨"Error: " ++ message ++ "\n", 2⟩

def debugTexts (rules : Rules) (unlocking locking : String) (breakpoints : List Int) :
    Except Failure Output :=
  match Script.parse unlocking with
  | .error e => .ok (refusal e.message)
  | .ok unlockingProgram =>
    match Script.parse locking with
    | .error e => .ok (refusal e.message)
    | .ok lockingProgram =>
      match debug rules unlockingProgram lockingProgram breakpoints with
      | .error cause => .error (.abort cause)
      | .ok output => .ok output

/-- The output for a script argument that gives no script. -/
def scriptRefusal : ScriptError → Except Failure Output
  | .file name e => .ok (refusal (e.message ++ ": " ++ Text.quoted name))
  | .failure failure => .error failure

/-- Runs the command on its arguments. The first `-v` among them is skipped. -/
def run (rules : Rules) (arguments : List String) (files : Files) : Except Failure Output :=
  match arguments.erase "-v" with
  | first :: second :: positions =>
    match positions.mapM Decimal.ofLiteral? with
    | none => .ok ⟨usage, 2⟩
    | some breakpoints =>
      match scriptText files first with
      | .error e => scriptRefusal e
      | .ok unlocking =>
        match scriptText files second with
        | .error e => scriptRefusal e
        | .ok locking => debugTexts rules unlocking locking breakpoints
  | _ => .ok ⟨usage, 2⟩

end Lockstep.CommandLine
