import LinearProgram.Problem
import LinearProgram.Report.TableauGrid
import LinearProgram.Solution

namespace LinearProgram.Report

def rule : String :=
  String.ofList (List.replicate 50 '=')

def quantity (x : Float) : String :=
  Places.write 2 x

def assignmentLine (a : String × Float) : String :=
  "\t" ++ a.1 ++ " = " ++ quantity a.2

def ratioLine (rhs entry : Float) (ratio : Option Float) : String :=
  quantity rhs ++ " / " ++ quantity entry ++ " = " ++
    match ratio with
    | some r => quantity r
    | none => "-"

def ratioLines (s : Step Float) (entering : String) : List String :=
  let t := s.tableau
  if entering ∈ t.names then
    List.zipWith (fun r ratio => ratioLine r.rhs (r.entry (t.names.idxOf entering)) ratio)
      t.rows s.ratios
  else []

def choiceLines (s : Step Float) : List String :=
  match s.entering with
  | none => []
  | some entering =>
    ["", "Entering Variable: " ++ entering, "Ratios:"] ++
      (ratioLines s entering).map ("\t" ++ ·) ++
      match s.leaving, s.pivot with
      | some leaving, some pivot =>
        ["Leaving Variable: " ++ leaving, "Pivot Element: " ++ Places.write 4 pivot]
      | _, _ => []

def stepLines (objectiveName : String) (s : Step Float) : List String :=
  let t := s.tableau
  ["", "Iteration " ++ toString s.iteration ++ ":", rule, "", t.render,
    "", "Intermediate Solution:", assignmentLine (objectiveName, s.objectiveValue),
    "Non-Basic Variables:"] ++
    (t.names.filter fun v => !t.isBasic v).map (fun v => "\t" ++ v ++ " = 0") ++
    "Basic Variables:" :: List.zipWith (fun name r => assignmentLine (name, r.rhs)) t.basis t.rows ++
    choiceLines s

def amountList (values : List (String × Float)) : String :=
  "[" ++ ", ".intercalate (values.map fun a => amount a.2) ++ "]"

def outcomeLines (objectiveName : String) (s : Solution Float) : List String :=
  let value := objectiveName ++ " = " ++ amount s.objectiveValue
  let point := s.assignments.map assignmentLine
  match s.status with
  | .optimal =>
    ["", "The above LPP is optimized at:"] ++ point ++ ["With Optimal Solution: " ++ value]
  | .alternateOptima =>
    ["", "The above LPP has Multiple Alternative Optimum Solutions.", "Two such solutions are:",
      "", "Alternative Solution 1:"] ++
      s.alternateAssignments.map assignmentLine ++
      ["With Optimal Solution: " ++ value, "", "Alternative Solution 2:"] ++ point ++
      ["With Optimal Solution: " ++ value, "",
        "All optimal solutions are convex combinations of the two above:",
        "\tLet A = " ++ amountList s.alternateAssignments,
        "\tAnd B = " ++ amountList s.assignments,
        "\tP = α1 * A + α2 * B, where α1 + α2 = 1 and α1, α2 >= 0"]
  | .unbounded =>
    ["", "The above LPP has an Unbounded Feasible Region.",
      "The objective function's value can be improved without limit."]
  | .degenerate =>
    ["", "The above LPP is Degenerate.",
      "A basic variable stayed at zero for two consecutive iterations; stopped after " ++
        toString s.iterations ++ " pivots at:"] ++
      point ++ ["With " ++ value]
  | .nonConvergent =>
    ["", "The simplex method did not converge within " ++ toString s.iterations ++ " iterations.",
      "Last basic solution:"] ++
      point ++ ["With " ++ value]

def solutionLines (p : Problem Float) (s : Solution Float) : List String :=
  ["", rule, "Solution:", "", p.write] ++ outcomeLines p.standard.objectiveName s

def equationLine (names : List String) (r : StandardRow Float) : String :=
  let terms := (r.equation.coefficients.zip names).filter fun t => !(t.1 == 0)
  "  " ++ " + ".intercalate (terms.map fun t => amount t.1 ++ t.2) ++ " = " ++ amount r.rhs ++
    "    [basic: " ++ r.basicName.getD "none" ++ "]"

def standardFormLines (p : Problem Float) : List String :=
  ["  " ++ p.objective.write, "  Variables: " ++ ", ".intercalate p.standard.names] ++
    p.standard.rows.map (equationLine p.standard.names)

end LinearProgram.Report
