import SqlTemplate.CommandLine.Run

namespace SqlTemplate.CommandLine

def errorNumber? : IO.Error → Option Nat
  | .noFileOrDirectory _ code _ | .permissionDenied _ code _ | .inappropriateType _ code _
  | .invalidArgument _ code _ => some (min code (0 - code)).toNat
  | _ => none

def FileError.ofSystem (e : IO.Error) : FileError :=
  match e with
  | .userError _ => notText
  | e => ((errorNumber? e).bind ofNumber?).getD (other e.toString)

def systemSources : Sources IO where
  input := do
    let stdin ← IO.getStdin
    if ← stdin.isTty then return none
    return some (← stdin.readToEnd)
  file path := do
    match ← (IO.FS.readFile path).toBaseIO with
    | .ok text => return .ok text
    | .error e => return .error (.ofSystem e)

end SqlTemplate.CommandLine

def main (args : List String) : IO UInt32 := do
  let outcome ← SqlTemplate.CommandLine.run SqlTemplate.CommandLine.systemSources args
  (← IO.getStdout).putStr outcome.out
  (← IO.getStderr).putStr outcome.err
  return outcome.exitCode
