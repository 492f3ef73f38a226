import LinearProgram.Tableau

/-!
The first tableau of a problem in standard form: every row starts with its added variable basic and
all other variables zero. Problems whose origin is not such a starting point are refused.
-/

namespace LinearProgram.Tableau

inductive Error where
  | objectiveWidth (expected found : Nat)
  | rowWidth (constraint : String) (expected found : Nat)
  | missingBasicVariable (row : Nat) (constraint : String)
  | infeasibleStart (row : Nat) (constraint : String)
deriving DecidableEq, Repr

def Error.message : Error → String
  | objectiveWidth expected found =>
    "Objective has " ++ toString found ++ " coefficients but the problem has " ++
      toString expected ++ " decision variables"
  | rowWidth constraint expected found =>
    "Constraint `" ++ constraint ++ "` has " ++ toString found ++
      " coefficients but the problem has " ++ toString expected ++ " variables"
  | missingBasicVariable _ constraint =>
    "Constraint `" ++ constraint ++ "` has no slack variable to start the basis; " ++
      "it needs a Phase-1 method, which is not supported"
  | infeasibleStart _ constraint =>
    "Constraint `" ++ constraint ++ "` has a negative right-hand side; " ++
      "the origin is not a feasible starting point"

variable {α : Type} [Scalar α]

def objectiveRow (weights : List α) (width : Nat) : Row α :=
  ⟨1, weights.map (fun c => -c) ++ List.replicate (width - weights.length) 0, 0⟩

def startRow (width index : Nat) (r : StandardRow α) : Except Error (String × Row α) :=
  if r.equation.width ≠ width then .error (.rowWidth r.text width r.equation.width)
  else
    match r.basicName with
    | none => .error (.missingBasicVariable index r.text)
    | some name =>
      if r.rhs < 0 then .error (.infeasibleStart index r.text)
      else .ok (name, ⟨0, r.equation.coefficients, r.rhs⟩)

def startRows (width : Nat) : Nat → List (StandardRow α) → Except Error (List (String × Row α))
  | _, [] => .ok []
  | index, r :: rs => do
    let first ← startRow width index r
    let rest ← startRows width (index + 1) rs
    return first :: rest

def start (p : StandardForm α) : Except Error (Tableau α) :=
  let width := p.names.length
  if width < p.objective.length then
    .error (.objectiveWidth p.decisionCount p.objective.length)
  else do
    let rows ← startRows width 1 p.rows
    return ⟨p.names, rows.map Prod.fst, objectiveRow p.objective width, rows.map Prod.snd⟩

end LinearProgram.Tableau
