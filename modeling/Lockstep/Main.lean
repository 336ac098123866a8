import Lockstep.CommandLine

namespace Lockstep

def readFile (name : String) : IO (Except CommandLine.FileError Bytes) := do
  try
    let bytes ← IO.FS.readBinFile name
    return .ok bytes.toList
  catch error =>
    match error with
    | .inappropriateType _ _ _ => return .error .isADirectory
    | .resourceExhausted _ _ _ => return .error .nameTooLong
    | _ => return .error .missing

def readFiles (arguments : List String) : IO CommandLine.Files := do
  let names := arguments.filterMap fun argument =>
    match argument.toList with
    | '@' :: name => some (String.ofList name)
    | _ => none
  let contents ← names.mapM fun name => return (name, ← readFile name)
  return fun name => (contents.lookup name).getD (.error .missing)

end Lockstep

def main (arguments : List String) : IO UInt32 := do
  let files ← Lockstep.readFiles (arguments.erase "-v" |>.take 2)
  match Lockstep.CommandLine.run {} arguments files with
  | .ok output =>
    IO.print output.text
    return output.exit.toUInt32
  | .error failure =>
    IO.eprintln failure.message
    return 1
