import LinearProgram.Command

open LinearProgram

def readContent (file : String) : IO (Except Command.FileError String) := do
  try
    let bytes ← IO.FS.readBinFile file
    return (String.fromUTF8? bytes).elim (.error .notText) .ok
  catch e =>
    match e with
    | .noFileOrDirectory .. => return .error .absent
    | e => return .error (.other e.toString)

def printOutcome (o : Command.Outcome) : IO UInt32 := do
  (← IO.getStdout).putStr o.output
  (← IO.getStderr).putStr o.errors
  return o.exitCode.toUInt32

def main (arguments : List String) : IO UInt32 := do
  match Command.Request.ofArguments arguments with
  | .error stop => printOutcome stop.outcome
  | .ok request => printOutcome (request.run (← readContent request.file))
