import LinearProgram.Tableau

namespace LinearProgram

inductive Status where
  | optimal
  | alternateOptima
  | unbounded
  | degenerate
  | nonConvergent
deriving DecidableEq, Repr

def Status.text : Status → String
  | .optimal => "OPTIMAL"
  | .alternateOptima => "ALTERNATE OPTIMA"
  | .unbounded => "UNBOUNDED"
  | .degenerate => "DEGENERATE"
  | .nonConvergent => "NON-CONVERGENT"

structure Step (α : Type) where
  iteration : Nat
  tableau : Tableau α
  objectiveValue : α
  values : List α
  entering : Option String
  ratios : List (Option α)
  leaving : Option String
  pivot : Option α
deriving DecidableEq, Repr

structure Solution (α : Type) where
  status : Status
  direction : Direction
  names : List String
  decisionCount : Nat
  values : List α
  alternateValues : Option (List α)
  objectiveValue : α
  iterations : Nat
  history : List α
  tableau : Tableau α
  steps : List (Step α)
deriving DecidableEq, Repr

namespace Solution

variable {α : Type}

def valueIn (values : List α) (names : List String) (name : String) : Option α :=
  if name ∈ names then values[names.idxOf name]? else none

def value? (s : Solution α) (name : String) : Option α :=
  valueIn s.values s.names name

def alternateValue? (s : Solution α) (name : String) : Option α :=
  s.alternateValues.bind fun values => valueIn values s.names name

def assignments (s : Solution α) : List (String × α) :=
  s.names.zip s.values

def alternateAssignments (s : Solution α) : List (String × α) :=
  s.names.zip (s.alternateValues.getD [])

end Solution

end LinearProgram
