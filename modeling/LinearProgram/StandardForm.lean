import LinearProgram.Line
import LinearProgram.LinearForm

namespace LinearProgram

inductive AddedKind where
  | slack
  | surplus
deriving DecidableEq, Repr

structure AddedVariable where
  name : String
  kind : AddedKind
deriving DecidableEq, Repr

def AddedVariable.coefficient (α : Type) [Scalar α] (v : AddedVariable) : α :=
  match v.kind with
  | .slack => 1
  | .surplus => -1

structure StandardRow (α : Type) where
  text : String
  relation : Relation
  added : Option AddedVariable
  signFlipped : Bool
  equation : LinearForm α
deriving DecidableEq, Repr

namespace StandardRow

variable {α : Type}

def rhs (r : StandardRow α) : α :=
  r.equation.constant

def basicName (r : StandardRow α) : Option String :=
  r.added.map AddedVariable.name

end StandardRow

structure StandardForm (α : Type) where
  direction : Direction
  objectiveName : String
  names : List String
  decisionCount : Nat
  objective : List α
  rows : List (StandardRow α)
deriving DecidableEq, Repr

namespace StandardForm

variable {α : Type}

def decisionVariables (p : StandardForm α) : List String :=
  p.names.take p.decisionCount

def initialBasis (p : StandardForm α) : List (Option String) :=
  p.rows.map StandardRow.basicName

end StandardForm

end LinearProgram
