import LinearProgram.Solution
import LinearProgram.Tableau.Selection
import LinearProgram.Tableau.Start

/-!
Running the simplex method: from one tableau to the next, one turn at a time, until a turn ends the
run or the cap on iterations is reached.
-/

namespace LinearProgram

structure Settings (α : Type) where
  maxIterations : Nat
  tolerance : α
  trace : Bool
deriving DecidableEq, Repr

namespace Settings

def defaultIterations : Nat := 10000

def defaultTolerance : Decimal := ⟨1, 9⟩

def standard (α : Type) [Scalar α] : Settings α :=
  ⟨defaultIterations, Scalar.ofDecimal defaultTolerance, false⟩

end Settings

structure Run (α : Type) where
  tableau : Tableau α
  /-- The iterations that ended in a pivot, the last one first. -/
  past : List (Step α)
  stalled : Bool
  alternate : Option (List α)
deriving DecidableEq, Repr

inductive Turn (α : Type) where
  | halt (status : Status) (last : Step α)
  | go (next : Run α)

variable {α : Type} [Scalar α]

def Tableau.hasZeroBasic (t : Tableau α) (tolerance : α) : Bool :=
  t.rows.any fun r => Scalar.isNegligible tolerance r.rhs

namespace Run

def start (t : Tableau α) : Run α :=
  ⟨t, [], false, none⟩

def reading (s : Run α) : Step α where
  iteration := s.past.length
  tableau := s.tableau
  objectiveValue := s.tableau.objectiveValue
  values := s.tableau.basicValues
  entering := none
  ratios := []
  leaving := none
  pivot := none

def enter (tolerance : α) (s : Run α) (j : Nat) : Turn α :=
  let ratios := s.tableau.ratios j tolerance
  let step := { s.reading with entering := s.tableau.names[j]?, ratios := ratios }
  match Tableau.leaving tolerance ratios with
  -- on the way to a second optimum the first one stands
  | none => .halt (if s.alternate.isSome then .optimal else .unbounded) step
  | some i =>
    let step :=
      { step with
        leaving := s.tableau.basis[i]?
        pivot := s.tableau.rows[i]?.map fun r => r.entry j }
    .go { s with tableau := s.tableau.pivot i j, past := step :: s.past }

def turn (direction : Direction) (tolerance : α) (s : Run α) : Turn α :=
  let zero := s.tableau.hasZeroBasic tolerance
  if zero && s.stalled then .halt .degenerate s.reading
  else
    let s := { s with stalled := zero }
    match s.tableau.entering direction tolerance s.alternate.isSome with
    | .improving j => s.enter tolerance j
    | .level j => { s with alternate := some s.tableau.basicValues }.enter tolerance j
    | .optimal => .halt (if s.alternate.isSome then .alternateOptima else .optimal) s.reading

def finish (direction : Direction) (decisionCount : Nat) (trace : Bool) (s : Run α)
    (status : Status) (last : List (Step α)) : Solution α where
  status := status
  direction := direction
  names := s.tableau.names
  decisionCount := decisionCount
  values := s.tableau.basicValues
  alternateValues := if status = .alternateOptima then s.alternate else none
  objectiveValue := s.tableau.objectiveValue
  iterations := s.past.length
  history := s.past.reverse.map Step.objectiveValue ++ [s.tableau.objectiveValue]
  tableau := s.tableau
  steps := if trace then s.past.reverse ++ last else []

def complete (direction : Direction) (decisionCount : Nat) (tolerance : α) (trace : Bool) :
    Nat → Run α → Solution α
  | 0, s => s.finish direction decisionCount trace .nonConvergent []
  | cap + 1, s =>
    match s.turn direction tolerance with
    | .halt status last => s.finish direction decisionCount trace status [last]
    | .go next => complete direction decisionCount tolerance trace cap next

end Run

def Tableau.solve (t : Tableau α) (settings : Settings α) (direction : Direction)
    (decisionCount : Nat) : Solution α :=
  (Run.start t).complete direction decisionCount settings.tolerance settings.trace
    settings.maxIterations

def StandardForm.solve (p : StandardForm α) (settings : Settings α) :
    Except Tableau.Error (Solution α) := do
  let t ← Tableau.start p
  return t.solve settings p.direction p.decisionCount

end LinearProgram
