import LinearProgram.Command.Arguments

namespace LinearProgram.Command

namespace Switch

def about : Switch → String
  | verbose => "Increase log verbosity (-v info, -vv debug, -vvv trace)"
  | steps => "Print the tableau and pivot choices at every iteration"
  | format => "Output format [default: pretty] [possible values: pretty, json]"
  | maxIterations =>
    "Give up after this many pivots [default: " ++ toString Settings.defaultIterations ++ "]"
  | tolerance => "Values within this distance of zero are treated as zero [default: 0.000000001]"
  | help => "Print help"

def valueName? : Switch → Option String
  | format => some "FORMAT"
  | maxIterations => some "MAX_ITERATIONS"
  | tolerance => some "TOLERANCE"
  | verbose | steps | help => none

def usage (s : Switch) : String :=
  let short :=
    match s.shortName? with
    | some c => "-" ++ String.singleton c ++ ", "
    | none => "    "
  let value :=
    match s.valueName? with
    | some name => " <" ++ name ++ ">"
    | none => if s = verbose then "..." else ""
  short ++ "--" ++ s.longName ++ value

end Switch

namespace Topic

def about : Topic → String
  | program => "Solve linear programming problems with the tabular simplex method"
  | solve => "Solve every problem in a file"
  | check => "Parse every problem in a file and show its standard form"
  | help => "Print this message or the help of the given subcommand(s)"

def usage : Topic → String
  | program => "lpp [OPTIONS] <COMMAND>"
  | solve => "lpp solve [OPTIONS] <FILE>"
  | check => "lpp check [OPTIONS] <FILE>"
  | help => "lpp help [COMMAND]..."

def subcommands : Topic → List Topic
  | program => commands
  | solve | check | help => []

def operands : Topic → List (String × String)
  | program => []
  | solve => [("<FILE>", "The file containing one or more problems separated by blank lines")]
  | check => [("<FILE>", "The file to check")]
  | help => [("[COMMAND]...", "Print help for the subcommand(s)")]

def switches : Topic → List Switch
  | program | check => Switch.general
  | solve => Switch.ofSolve
  | help => []

end Topic

def helpSection (heading : String) (entries : List (String × String)) : List String :=
  let widest := (entries.map fun e => e.1.length).foldr max 0
  let entryLine (e : String × String) : String :=
    "  " ++ e.1 ++ String.ofList (List.replicate (widest - e.1.length + 2) ' ') ++ e.2
  if entries.isEmpty then [] else "" :: heading :: entries.map entryLine

def Topic.helpLines (t : Topic) : List String :=
  [t.about, "", "Usage: " ++ t.usage] ++
    helpSection "Commands:" (t.subcommands.map fun c => (c.name, c.about)) ++
    helpSection "Arguments:" t.operands ++
    helpSection "Options:" (t.switches.map fun s => (s.usage, s.about))

end LinearProgram.Command
