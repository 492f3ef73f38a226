import LinearProgram.Proofs.Turn

/-!
The pivot loop with every record in a field of its own, written as the loop goes on, is the run that
keeps its past and reads the records off it at the end.
-/

namespace LinearProgram

structure PivotLoop (α : Type) where
  tableau : Tableau α
  history : List α
  steps : List (Step α)
  alternate : Option (List α)
  iterations : Nat
  stalled : Bool

namespace PivotLoop

variable {α : Type} [Scalar α]

def start (t : Tableau α) : PivotLoop α :=
  ⟨t, [], [], none, 0, false⟩

omit [Scalar α] in
def record (l : PivotLoop α) (step : Option (Step α)) : PivotLoop α :=
  { l with steps := l.steps ++ step.toList }

def finish (d : Direction) (decisionCount : Nat) (l : PivotLoop α) (status : Status)
    (values : List α) : Solution α where
  status := status
  direction := d
  names := l.tableau.names
  decisionCount := decisionCount
  values := values
  alternateValues :=
    match status with
    | .alternateOptima => l.alternate
    | _ => none
  objectiveValue := l.tableau.objectiveValue
  iterations := l.iterations
  history := l.history
  tableau := l.tableau
  steps := l.steps

variable (settings : Settings α) (d : Direction) (decisionCount : Nat)

def body (iteration : Nat) (l : PivotLoop α) : Except (Solution α) (PivotLoop α) := do
  let values := l.tableau.basicValues
  let z := l.tableau.objectiveValue
  let l := { l with history := l.history ++ [z] }
  let step : Option (Step α) :=
    if settings.trace then
      some {
        iteration := iteration
        tableau := l.tableau
        objectiveValue := z
        values := values
        entering := none
        ratios := []
        leaving := none
        pivot := none }
    else none
  let zero := l.tableau.hasZeroBasic settings.tolerance
  if zero && l.stalled then
    throw ((l.record step).finish d decisionCount .degenerate values)
  let l := { l with stalled := zero }
  let (l, j) ←
    match l.tableau.entering d settings.tolerance l.alternate.isSome with
    | .improving j => pure (l, j)
    | .level j => pure ({ l with alternate := some values }, j)
    | .optimal =>
      let status := if l.alternate.isSome then .alternateOptima else .optimal
      throw ((l.record step).finish d decisionCount status values)
  let ratios := l.tableau.ratios j settings.tolerance
  let step := step.map fun step =>
    { step with entering := l.tableau.names[j]?, ratios := ratios }
  match Tableau.leaving settings.tolerance ratios with
  | none =>
    let l := l.record step
    if l.alternate.isSome then
      throw ({ l with alternate := none }.finish d decisionCount .optimal values)
    else
      throw (l.finish d decisionCount .unbounded values)
  | some i =>
    let step := step.map fun step =>
      { step with
        leaving := l.tableau.basis[i]?
        pivot := l.tableau.rows[i]?.map fun r => r.entry j }
    let l := l.record step
    return { l with tableau := l.tableau.pivot i j, iterations := l.iterations + 1 }

def iterate : Nat → Nat → PivotLoop α → Solution α
  | 0, _, l =>
    { l with history := l.history ++ [l.tableau.objectiveValue] }.finish d decisionCount
      .nonConvergent l.tableau.basicValues
  | cap + 1, iteration, l =>
    match l.body settings d decisionCount iteration with
    | .error solution => solution
    | .ok next => iterate cap (iteration + 1) next

def ofRun (trace : Bool) (s : Run α) : PivotLoop α where
  tableau := s.tableau
  history := s.past.reverse.map Step.objectiveValue
  steps := if trace then s.past.reverse else []
  alternate := s.alternate
  iterations := s.past.length
  stalled := s.stalled

variable {settings d decisionCount} {s s' : Run α} {status : Status} {last : Step α}

omit [Scalar α] in
lemma traced_append (trace : Bool) (steps : List (Step α)) (step : Step α) :
    (if trace then steps else []) ++ (if trace then some step else none).toList =
      if trace then steps ++ [step] else [] := by
  cases trace <;> simp

lemma finish_ofRun (s : Run α) (status : Status) (last : Step α) (stalled trace : Bool) :
    finish d decisionCount
        { tableau := s.tableau
          history := s.past.reverse.map Step.objectiveValue ++ [s.tableau.objectiveValue]
          steps := if trace then s.past.reverse ++ [last] else []
          alternate := s.alternate
          iterations := s.past.length
          stalled := stalled }
        status s.tableau.basicValues =
      s.finish d decisionCount trace status [last] := by
  cases status <;> rfl

lemma body_of_goes (h : Run.Goes d settings.tolerance s s') :
    (ofRun settings.trace s).body settings d decisionCount s.past.length =
      .ok (ofRun settings.trace s') := by
  cases h with
  | improving hz he hl =>
    simp only [body, ofRun, hz, he, hl, Bool.false_eq_true, if_false, Option.map_if, pure_bind,
      record, traced_append, Run.next, List.reverse_cons, List.map_append]
    rfl
  | level hz he hl =>
    simp only [body, ofRun, hz, he, hl, Bool.false_eq_true, if_false, Option.map_if, pure_bind,
      record, traced_append, Run.next, List.reverse_cons, List.map_append]
    rfl

lemma body_of_halts (h : Run.Halts d settings.tolerance s status last) :
    (ofRun settings.trace s).body settings d decisionCount s.past.length =
      .error (s.finish d decisionCount settings.trace status [last]) := by
  cases h with
  | degenerate hz =>
    simp only [body, ofRun, hz, if_true, record, traced_append, finish_ofRun]
    rfl
  | settled hz he =>
    simp only [body, ofRun, hz, he, Bool.false_eq_true, if_false, record, traced_append, finish_ofRun]
    rfl
  | improving hz he hl =>
    simp only [body, ofRun, hz, he, hl, Bool.false_eq_true, if_false, Option.map_if, pure_bind,
      record, traced_append]
    cases s.alternate <;> rfl
  | level hz he hl =>
    simp only [body, ofRun, hz, he, hl, Bool.false_eq_true, if_false, Option.map_if, pure_bind,
      record, traced_append]
    rfl

theorem iterate_ofRun (s : Run α) (cap : Nat) :
    iterate settings d decisionCount cap s.past.length (ofRun settings.trace s) =
      s.complete d decisionCount settings.tolerance settings.trace cap := by
  induction cap generalizing s with
  | zero =>
    simp only [iterate, ofRun, Run.complete, Run.finish, List.append_nil]
    rfl
  | succ cap ih =>
    rcases Run.turn_cases d settings.tolerance s with ⟨s', ht, hg⟩ | ⟨status, last, ht, hh⟩
    · rw [iterate, body_of_goes hg, Run.complete, ht, ← hg.length_past]
      exact ih s'
    · rw [iterate, body_of_halts hh, Run.complete, ht]

end PivotLoop

theorem Tableau.solve_eq_iterate {α : Type} [Scalar α] (t : Tableau α) (settings : Settings α)
    (d : Direction) (decisionCount : Nat) :
    t.solve settings d decisionCount =
      PivotLoop.iterate settings d decisionCount settings.maxIterations 0 (PivotLoop.start t) := by
  have hstart : PivotLoop.ofRun settings.trace (Run.start t) = PivotLoop.start t := by
    cases ht : settings.trace <;> rfl
  rw [solve, ← PivotLoop.iterate_ofRun, hstart]
  rfl

end LinearProgram
