import LinearProgram.Scalar
import LinearProgram.Token

/-!
The two kinds of lines of a linear program: one objective and any number of constraints, both made of
terms. Coefficients and bounds are the exact decimals of the text.
-/

namespace LinearProgram

inductive Direction where
  | maximize
  | minimize
deriving DecidableEq, Repr

def Direction.text : Direction → String
  | .maximize => "Maximize"
  | .minimize => "Minimize"

inductive Relation where
  | atMost
  | atLeast
  | equal
deriving DecidableEq, Repr

def Relation.text : Relation → String
  | .atMost => "<="
  | .atLeast => ">="
  | .equal => "="

structure Term where
  span : Span
  coefficient : SignedDecimal
  name : String
deriving DecidableEq, Repr

def Term.written (t : Term) : SignedDecimal × String :=
  (t.coefficient, t.name)

structure Objective where
  span : Span
  direction : Direction
  name : String
  terms : List Term
deriving DecidableEq, Repr

structure Constraint where
  span : Span
  text : String
  terms : List Term
  relation : Relation
  bound : SignedDecimal
deriving DecidableEq, Repr

/-- The constraint says of one unknown that it is not negative. The rounding of the scalars decides
what a positive coefficient and a zero bound are. -/
def Constraint.isSignBound (α : Type) [Scalar α] (c : Constraint) : Bool :=
  c.relation = .atLeast && c.bound.value α == 0 &&
    match c.terms with
    | [t] => decide (0 < t.coefficient.value α)
    | _ => false

end LinearProgram
