import LinearProgram.Line.Read
import LinearProgram.Line.Write
import LinearProgram.SlackName
import LinearProgram.StandardForm

/-!
A linear program: its lines as read, and its standard form.

The variables are fixed before any row is built: the unknowns of all lines in the order in which they
first occur, then one slack or surplus variable for each row that needs one. Lines that only say of
an unknown that it is not negative give no row.
-/

namespace LinearProgram

structure Problem (α : Type) where
  objective : Objective
  constraints : List Constraint
  standard : StandardForm α
deriving DecidableEq, Repr

namespace Problem

inductive Error where
  | noObjective
  | malformedObjective (line : String) (cause : LineError)
  | malformedConstraint (line : String) (cause : LineError)
  | invalidExpression (line : String) (cause : LinearForm.Error)
deriving DecidableEq, Repr

def Error.message : Error → String
  | noObjective => "Problem has no objective line"
  | malformedObjective line cause => "Malformed objective `" ++ line ++ "`: " ++ cause.message
  | malformedConstraint line cause => "Malformed constraint `" ++ line ++ "`: " ++ cause.message
  | invalidExpression line cause => "Invalid expression in `" ++ line ++ "`: " ++ cause.message

def insertName (names : List String) (name : String) : List String :=
  if name ∈ names then names else names ++ [name]

def firstOccurrences (names : List String) : List String :=
  names.foldl insertName []

def unknowns (o : Objective) (cs : List Constraint) : List String :=
  firstOccurrences ((o.terms ++ cs.flatMap Constraint.terms).map Term.name)

variable (α : Type) [Scalar α]

/-- The kind of variable that makes an equation of the constraint. An equation needs none, and where
the bound from below is not negative none could start at a feasible value. -/
def addedKind (c : Constraint) : Option AddedKind :=
  match c.relation with
  | .atMost => some .slack
  | .atLeast => if c.bound.value α < 0 then some .surplus else none
  | .equal => none

def addVariables (names : List String) : List Constraint → List (Option AddedVariable)
  | [] => []
  | c :: cs =>
    match addedKind α c with
    | none => none :: addVariables names cs
    | some kind =>
      let name := SlackName.next names
      some ⟨name, kind⟩ :: addVariables (names ++ [name]) cs

variable {α}

/-- The equation of a constraint over all variables, with a sign change where a surplus variable is
taken away, so that this variable has coefficient one. -/
def standardRow (columns : List String) (c : Constraint) (added : Option AddedVariable) :
    Except Error (StandardRow α) :=
  let coefficients := c.terms.map fun t => t.coefficient.value α
  let names := c.terms.map Term.name
  let extra := added.toList
  match LinearForm.ofTerms (coefficients ++ extra.map (AddedVariable.coefficient α))
      (names ++ extra.map AddedVariable.name) (c.bound.value α) columns with
  | .error cause => .error (.invalidExpression c.text cause)
  | .ok equation =>
    let flipped := extra.any fun v => v.kind = .surplus
    .ok ⟨c.text, c.relation, added, flipped, if flipped then equation.negated else equation⟩

def standardRows (columns : List String) :
    List (Constraint × Option AddedVariable) → Except Error (List (StandardRow α))
  | [] => .ok []
  | (c, added) :: rest => do
    let row ← standardRow columns c added
    let rows ← standardRows columns rest
    return row :: rows

def normalize (o : Objective) (cs : List Constraint) : Except Error (StandardForm α) := do
  let decision := unknowns o cs
  let kept := cs.filter fun c => !c.isSignBound α
  let added := addVariables α decision kept
  let names := decision ++ added.filterMap fun v => v.map AddedVariable.name
  let objective ←
    match LinearForm.ofTerms (o.terms.map fun t => t.coefficient.value α) (o.terms.map Term.name)
        (0 : α) decision with
    | .error cause => throw (.invalidExpression o.write cause)
    | .ok form => pure form.coefficients
  let rows ← standardRows names (kept.zip added)
  return ⟨o.direction, o.name, names, decision.length, objective, rows⟩

def trimmed (line : String) : String :=
  String.ofList (Unicode.trim line.toList)

def readObjective (line : String) : Except Error Objective :=
  (Objective.read line).mapError (.malformedObjective (trimmed line))

def readConstraint (line : String) : Except Error Constraint :=
  (Constraint.read line).mapError (.malformedConstraint (trimmed line))

def readConstraints : List String → Except Error (List Constraint)
  | [] => .ok []
  | line :: lines => do
    let c ← readConstraint line
    let cs ← readConstraints lines
    return c :: cs

def ofLines : List String → Except Error (Problem α)
  | [] => .error .noObjective
  | first :: rest => do
    let o ← readObjective first
    let cs ← readConstraints rest
    let standard ← normalize o cs
    return ⟨o, cs, standard⟩

def write (p : Problem α) : String :=
  p.objective.write ++ "\nSubject to:" ++
    String.join (p.constraints.map fun c => "\n\t" ++ c.text)

end Problem

end LinearProgram
