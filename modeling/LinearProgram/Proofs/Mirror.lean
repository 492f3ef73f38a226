import LinearProgram.Proofs.Start
import LinearProgram.Proofs.Turn

/-!
To minimize an objective is to maximize its negative: the two runs make the same choices in every
iteration, and differ in the sign of the objective row.
-/

namespace LinearProgram

lemma isNegligible_neg (tolerance x : Rat) :
    Scalar.isNegligible tolerance (-x) = Scalar.isNegligible tolerance x := by
  simp only [Scalar.isNegligible, neg_le_neg_iff, neg_le (a := x), Bool.and_comm]

namespace Direction

def opposite : Direction → Direction
  | .maximize => .minimize
  | .minimize => .maximize

lemma opposite_prefers (d : Direction) (x y : Rat) : d.opposite.prefers (-x) (-y) = d.prefers x y := by
  cases d <;> simp [opposite, prefers]

lemma opposite_improves (d : Direction) (tolerance x : Rat) :
    d.opposite.improves tolerance (-x) = d.improves tolerance x := by
  cases d <;> simp [opposite, improves, lt_neg]

end Direction

namespace Row

def mirror (r : Row Rat) : Row Rat :=
  ⟨r.z, r.entries.map fun x => -x, -r.rhs⟩

lemma entry_mirror (r : Row Rat) (j : Nat) : r.mirror.entry j = -r.entry j := by
  simp only [entry, mirror, List.getD_eq_getElem?_getD, List.getElem?_map]
  cases r.entries[j]? <;> simp

lemma mirror_clear (r : Row Rat) {p : Row Rat} (hp : p.z = 0) (j : Nat) :
    r.mirror.clear p j = (r.clear p j).mirror := by
  have hentries : (r.entries.map fun x => -x).zipWith (fun x y => x - -r.entry j * y) p.entries =
      (r.entries.zipWith (fun x y => x - r.entry j * y) p.entries).map fun x => -x := by
    rw [List.zipWith_map_left, List.map_zipWith]
    congr
    funext x y
    ring
  have hrhs : -r.rhs - -r.entry j * p.rhs = -(r.rhs - r.entry j * p.rhs) := by ring
  rw [clear, entry_mirror, clear, eliminate, eliminate]
  by_cases h : r.entry j = 0
  · simp [h]
  · have hfactor : ¬ (r.entry j == 0) = true := by simpa using h
    have hfactor' : ¬ (-r.entry j == 0) = true := by simpa using h
    rw [if_neg hfactor, if_neg hfactor']
    simp only [mirror, hp, mul_zero, hentries, hrhs]

end Row

namespace Tableau

def mirror (t : Tableau Rat) : Tableau Rat :=
  { t with objective := t.objective.mirror }

def Separate (t : Tableau Rat) : Prop :=
  ∀ r ∈ t.rows, r.z = 0

variable {t : Tableau Rat}

lemma Separate.z_divide (h : t.Separate) (i : Nat) (a : Rat) :
    ((t.rows.getD i Row.zero).divide a).z = 0 := by
  rw [Row.z_divide, List.getD_eq_getElem?_getD]
  cases hr : t.rows[i]? with
  | none => exact zero_div a
  | some r => rw [Option.getD_some, h r (List.mem_of_getElem? hr), zero_div]

lemma Separate.pivot (h : t.Separate) (i j : Nat) : (t.pivot i j).Separate := by
  intro r hr
  rcases List.mem_or_eq_of_mem_set hr with hr | rfl
  · obtain ⟨q, hq, rfl⟩ := List.mem_map.1 hr
    rw [Row.z_clear, h.z_divide, mul_zero, sub_zero, h q hq]
  · exact h.z_divide i _

lemma Separate.pivot_mirror (h : t.Separate) (i j : Nat) :
    t.mirror.pivot i j = (t.pivot i j).mirror := by
  simp only [Tableau.pivot, mirror, Row.mirror_clear _ (h.z_divide i _)]

lemma entering_mirror (t : Tableau Rat) (d : Direction) (tolerance : Rat) (seen : Bool) :
    t.mirror.entering d.opposite tolerance seen = t.entering d tolerance seen := by
  have hbest : firstBest d.opposite.prefers t.mirror.objective.entries =
      (firstBest d.prefers t.objective.entries).map (Prod.map (fun x => -x) id) :=
    firstBest_map _ d.opposite_prefers _
  rw [entering, entering, hbest]
  cases firstBest d.prefers t.objective.entries with
  | none => rfl
  | some b =>
    simp only [Option.map_some, Prod.map, id, Direction.opposite_improves, isNegligible_neg]
    rfl

end Tableau

def Step.mirror (s : Step Rat) : Step Rat :=
  { s with tableau := s.tableau.mirror, objectiveValue := -s.objectiveValue }

def Run.mirror (s : Run Rat) : Run Rat :=
  { s with tableau := s.tableau.mirror, past := s.past.map Step.mirror }

def Turn.mirror : Turn Rat → Turn Rat
  | .halt status last => .halt status last.mirror
  | .go next => .go next.mirror

def Solution.mirror (s : Solution Rat) : Solution Rat :=
  { s with
    direction := s.direction.opposite
    objectiveValue := -s.objectiveValue
    history := s.history.map fun z => -z
    tableau := s.tableau.mirror
    steps := s.steps.map Step.mirror }

namespace Run

variable {s s' : Run Rat} {d : Direction} {tolerance : Rat}

lemma reading_mirror (s : Run Rat) : s.mirror.reading = s.reading.mirror := by
  simp only [reading, mirror, Step.mirror, List.length_map]
  rfl

lemma openStep_mirror (tolerance : Rat) (s : Run Rat) (j : Nat) :
    s.mirror.openStep tolerance j = (s.openStep tolerance j).mirror := by
  simp only [openStep, reading_mirror]
  rfl

lemma pivotStep_mirror (tolerance : Rat) (s : Run Rat) (i j : Nat) :
    s.mirror.pivotStep tolerance i j = (s.pivotStep tolerance i j).mirror := by
  simp only [pivotStep, openStep_mirror]
  rfl

lemma enter_mirror (h : s.tableau.Separate) (j : Nat) :
    s.mirror.enter tolerance j = (s.enter tolerance j).mirror := by
  cases hl : Tableau.leaving tolerance (s.tableau.ratios j tolerance) with
  | none =>
    have hl' : Tableau.leaving tolerance (s.mirror.tableau.ratios j tolerance) = none := hl
    rw [enter_of_none hl, enter_of_none hl', openStep_mirror]
    rfl
  | some i =>
    have hl' : Tableau.leaving tolerance (s.mirror.tableau.ratios j tolerance) = some i := hl
    rw [enter_of_some hl, enter_of_some hl', pivotStep_mirror]
    simp only [Turn.mirror, mirror, h.pivot_mirror, List.map_cons]

theorem turn_mirror (h : s.tableau.Separate) :
    s.mirror.turn d.opposite tolerance = (s.turn d tolerance).mirror := by
  have hzero : s.mirror.tableau.hasZeroBasic tolerance = s.tableau.hasZeroBasic tolerance := rfl
  have hstalled : s.mirror.stalled = s.stalled := rfl
  have hentering : s.mirror.tableau.entering d.opposite tolerance s.mirror.alternate.isSome =
      s.tableau.entering d tolerance s.alternate.isSome := s.tableau.entering_mirror _ _ _
  simp only [turn, hzero, hstalled, hentering]
  split
  · rw [reading_mirror]
    rfl
  · cases s.tableau.entering d tolerance s.alternate.isSome with
    | improving j =>
      exact enter_mirror (s := { s with stalled := s.tableau.hasZeroBasic tolerance }) h j
    | level j =>
      exact enter_mirror (s := { s with
        stalled := s.tableau.hasZeroBasic tolerance
        alternate := some s.tableau.basicValues }) h j
    | optimal => exact congrArg (Turn.halt _) (reading_mirror _)

lemma Goes.separate (hg : Goes d tolerance s s') (h : s.tableau.Separate) :
    s'.tableau.Separate := by
  cases hg with
  | improving => exact h.pivot _ _
  | level => exact h.pivot _ _

lemma finish_mirror (s : Run Rat) (d : Direction) (count : Nat) (trace : Bool) (status : Status)
    (lasts : List (Step Rat)) :
    s.mirror.finish d.opposite count trace status (lasts.map Step.mirror) =
      (s.finish d count trace status lasts).mirror := by
  have hhistory : s.mirror.past.reverse.map Step.objectiveValue ++ [s.mirror.tableau.objectiveValue] =
      (s.past.reverse.map Step.objectiveValue ++ [s.tableau.objectiveValue]).map fun z => -z := by
    rw [mirror, ← List.map_reverse, List.map_append, List.map_map, List.map_map]
    rfl
  have hsteps : s.mirror.past.reverse ++ lasts.map Step.mirror =
      (s.past.reverse ++ lasts).map Step.mirror := by
    rw [mirror, ← List.map_reverse, List.map_append]
  have hlength : s.mirror.past.length = s.past.length := List.length_map _
  rw [finish, hhistory, hsteps, hlength]
  cases trace <;> rfl

theorem complete_mirror (h : s.tableau.Separate) (d : Direction) (count : Nat) (tolerance : Rat)
    (trace : Bool) (cap : Nat) :
    s.mirror.complete d.opposite count tolerance trace cap =
      (s.complete d count tolerance trace cap).mirror := by
  refine complete_comm (P := fun s => s.tableau.Separate) (fun hg => hg.separate) (fun hs => ?_)
    (fun _ status lasts => finish_mirror _ d count trace status lasts) h cap
  rw [turn_mirror hs]
  cases turn d tolerance _ <;> rfl

end Run

def StandardForm.mirror (p : StandardForm Rat) : StandardForm Rat :=
  { p with direction := p.direction.opposite, objective := p.objective.map fun c => -c }

namespace Tableau

lemma objectiveRow_mirror (weights : List Rat) (width : Nat) :
    objectiveRow (weights.map fun c => -c) width = (objectiveRow weights width).mirror := by
  simp [objectiveRow, Row.mirror]

lemma start_mirror (p : StandardForm Rat) : start p.mirror = (start p).map mirror := by
  simp only [start, StandardForm.mirror, List.length_map, objectiveRow_mirror]
  split
  · rfl
  · cases startRows p.names.length 1 p.rows <;> rfl

lemma Started.separate {p : StandardForm Rat} (h : Started p t) : t.Separate := by
  intro r hr
  rw [h.rows_eq] at hr
  obtain ⟨q, -, rfl⟩ := List.mem_map.1 hr
  rfl

end Tableau

/-- Solving with the opposite direction and the negative objective gives the same outcome: all that
differs is the sign of the objective value, also in the history, and of the objective rows. -/
theorem StandardForm.solve_mirror (p : StandardForm Rat) (settings : Settings Rat) :
    p.mirror.solve settings = (p.solve settings).map Solution.mirror := by
  rw [solve, solve, Tableau.start_mirror]
  cases ht : Tableau.start p with
  | error cause => rfl
  | ok t =>
    have h := (Tableau.started_of_start ht).separate
    exact congrArg Except.ok (Run.complete_mirror (s := Run.start t) h p.direction p.decisionCount
      settings.tolerance settings.trace settings.maxIterations)

end LinearProgram
