import LinearProgram.Problem

namespace LinearProgram

variable {α : Type} [Scalar α]

def dot (as xs : List α) : α :=
  (List.zipWith (· * ·) as xs).sum

def Term.valueAt (x : String → α) (t : Term) : α :=
  t.coefficient.value α * x t.name

def Term.sumAt (x : String → α) (ts : List Term) : α :=
  (ts.map (Term.valueAt x)).sum

def Relation.Holds : Relation → α → α → Prop
  | .atMost, a, b => a ≤ b
  | .atLeast, a, b => b ≤ a
  | .equal, a, b => a = b

def Constraint.Holds (c : Constraint) (x : String → α) : Prop :=
  c.relation.Holds (Term.sumAt x c.terms) (c.bound.value α)

def Objective.valueAt (o : Objective) (x : String → α) : α :=
  Term.sumAt x o.terms

def LinearForm.Holds (f : LinearForm α) (columns : List String) (x : String → α) : Prop :=
  dot f.coefficients (columns.map x) = f.constant

namespace Problem

def Feasible (p : Problem α) (x : String → α) : Prop :=
  (∀ n ∈ unknowns p.objective p.constraints, 0 ≤ x n) ∧ ∀ c ∈ p.constraints, c.Holds x

end Problem

namespace StandardForm

def Holds (p : StandardForm α) (x : String → α) : Prop :=
  ∀ r ∈ p.rows, r.equation.Holds p.names x

def Feasible (p : StandardForm α) (x : String → α) : Prop :=
  (∀ n ∈ p.names, 0 ≤ x n) ∧ p.Holds x

def objectiveAt (p : StandardForm α) (x : String → α) : α :=
  dot p.objective (p.decisionVariables.map x)

end StandardForm

def Direction.AtLeastAsGood : Direction → α → α → Prop
  | .maximize, a, b => b ≤ a
  | .minimize, a, b => a ≤ b

end LinearProgram
