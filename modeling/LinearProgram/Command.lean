import LinearProgram.Command.Help
import LinearProgram.Report.Document
import LinearProgram.Report.Words

/-!
The command line as a function from arguments and the file's content to what is printed and the exit
code. The exit code is 0 if every problem was answered or help was, 1 if a problem was not or the file
could not be read, and 2 if the arguments are wrong.
-/

namespace LinearProgram.Command

structure Outcome where
  exitCode : Nat
  output : String
  errors : String
deriving DecidableEq, Repr

inductive FileError where
  | absent
  | notText
  | other (reason : String)
deriving DecidableEq, Repr

def FileError.message : FileError → String
  | absent => "No such file or directory (os error 2)"
  | notText => "stream did not contain valid UTF-8"
  | other reason => reason

def unlines (lines : List String) : String :=
  String.join (lines.map (· ++ "\n"))

structure Printed where
  output : List String
  errors : List String
deriving DecidableEq, Repr

def locate (b : Block) : String :=
  "Problem " ++ toString b.index ++ " (line " ++ toString b.line ++ ")"

def errorLine (b : Block) (e : Block.Failure) : String :=
  locate b ++ ": " ++ e.message

def solveInWords (steps : Bool) (settings : Settings Float) (b : Block) : Printed :=
  let heading := ["", "Problem " ++ toString b.index ++ ":", Report.rule]
  match b.solve settings with
  | .error e => ⟨heading, [errorLine b e]⟩
  | .ok (p, s) =>
    let shown := if steps then s.steps.flatMap (Report.stepLines p.standard.objectiveName) else []
    ⟨heading ++ shown ++ Report.solutionLines p s, []⟩

def checkInWords (b : Block) : Printed :=
  match b.read Float with
  | .error e => ⟨[], ["✗ " ++ errorLine b e]⟩
  | .ok p => ⟨("✓ " ++ locate b) :: Report.standardFormLines p, []⟩

def codeOf (failed : Bool) : Nat :=
  if failed then 1 else 0

def Outcome.ofPrinted (ps : List Printed) : Outcome where
  exitCode := codeOf (ps.any fun p => !p.errors.isEmpty)
  output := unlines (ps.flatMap Printed.output)
  errors := unlines (ps.flatMap Printed.errors)

def solvesAll (settings : Settings Float) (bs : List Block) : Bool :=
  bs.all fun b => (b.solve settings).isOk

def Request.answer : Request → List Block → Outcome
  | .solve _ steps .words settings, bs => .ofPrinted (bs.map (solveInWords steps settings))
  | .solve _ _ .document settings, bs =>
    ⟨codeOf (!solvesAll settings bs), unlines [(Report.batchDocument settings bs).write], ""⟩
  | .check _, bs => .ofPrinted (bs.map checkInWords)

def Request.run (r : Request) : Except FileError String → Outcome
  | .error e => ⟨1, "", unlines ["Error reading file: " ++ e.message]⟩
  | .ok source => r.answer (Block.ofText source)

def Stop.outcome : Stop → Outcome
  | help topic => ⟨0, unlines topic.helpLines, ""⟩
  | usage e => ⟨2, "", unlines ["error: " ++ e.message]⟩

def run (arguments : List String) (content : String → Except FileError String) : Outcome :=
  match Request.ofArguments arguments with
  | .error stop => stop.outcome
  | .ok r => r.run (content r.file)

end LinearProgram.Command
