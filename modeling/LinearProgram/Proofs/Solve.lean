import LinearProgram.Proofs.Start
import LinearProgram.Proofs.Trace

namespace LinearProgram

lemma StandardForm.exists_start {p : StandardForm Rat} {settings : Settings Rat} {s : Solution Rat}
    (hs : p.solve settings = .ok s) : ∃ t, Tableau.start p = .ok t := by
  cases ht : Tableau.start p with
  | error cause =>
    simp only [solve, ht, bind, Except.bind] at hs
    cases hs
  | ok t => exact ⟨t, rfl⟩

lemma StandardForm.solve_of_start {p : StandardForm Rat} {t : Tableau Rat}
    (ht : Tableau.start p = .ok t) (settings : Settings Rat) :
    p.solve settings = .ok (t.solve settings p.direction p.decisionCount) := by
  simp only [solve, ht, bind, Except.bind, pure, Except.pure]

structure Problem.Solved (p : Problem Rat) (tolerance : Rat) (cap : Nat) (t : Tableau Rat)
    (e : Run Rat) (status : Status) (lasts : List (Step Rat)) : Prop where
  standard_eq : p.standard = Problem.standardForm Rat p.objective p.constraints
  started : Tableau.Started p.standard t
  ends : Run.Ends p.standard.direction tolerance cap (Run.start t) e status lasts
  solve_eq : ∀ trace, p.standard.solve ⟨cap, tolerance, trace⟩ =
    .ok (e.finish p.standard.direction p.standard.decisionCount trace status lasts)

namespace Problem

variable {p : Problem Rat} {tolerance : Rat} {cap : Nat} {trace : Bool} {t : Tableau Rat}
  {e : Run Rat} {status : Status} {lasts : List (Step Rat)}

theorem proper_of_started (hp : p.standard = standardForm Rat p.objective p.constraints)
    (h : Tableau.Started p.standard t) :
    t.Proper p.standard.rows.length p.standard.names.length := by
  rw [hp] at h ⊢
  exact h.proper

theorem satisfies_iff_of_started (hp : p.standard = standardForm Rat p.objective p.constraints)
    (h : Tableau.Started p.standard t) (z : Rat) (x : String → Rat) :
    t.Satisfies z x ↔ z = p.standard.objectiveAt x ∧ p.standard.Holds x := by
  rw [hp] at h ⊢
  exact h.satisfies_iff z x

theorem proper_of_start {lines : List String} (hp : ofLines lines = .ok p)
    (ht : Tableau.start p.standard = .ok t) :
    t.Proper p.standard.rows.length p.standard.names.length :=
  proper_of_started (standard_of_ofLines hp) (Tableau.started_of_start ht)

theorem represents_of_shows {lines : List String} (hp : ofLines lines = .ok p)
    (ht : Tableau.start p.standard = .ok t) {settings : Settings Rat}
    (htol : 0 ≤ settings.tolerance) {d : Direction} {count : Nat} {t' : Tableau Rat}
    {values : List Rat} {z : Rat} (h : (t.solve settings d count).Shows t' values z) :
    t.Represents t' p.standard.rows.length p.standard.names.length := by
  obtain ⟨s, hr, rfl, -⟩ := Tableau.exists_of_shows h
  exact hr.represents_start htol (proper_of_start hp ht)

theorem exists_solved_of_start {lines : List String} (hp : ofLines lines = .ok p)
    (ht : Tableau.start p.standard = .ok t) (tolerance : Rat) (cap : Nat) :
    ∃ e status lasts, Solved p tolerance cap t e status lasts := by
  obtain ⟨e, status, lasts, he, hsolve⟩ := t.solve_eq_finish p.standard.direction tolerance cap
  refine ⟨e, status, lasts, standard_of_ofLines hp, Tableau.started_of_start ht, he, ?_⟩
  intro trace
  rw [StandardForm.solve_of_start ht, hsolve]

theorem exists_solved {lines : List String} {s : Solution Rat} (hp : ofLines lines = .ok p)
    (hs : p.standard.solve ⟨cap, tolerance, trace⟩ = .ok s) :
    ∃ t e status lasts, Solved p tolerance cap t e status lasts ∧
      s = e.finish p.standard.direction p.standard.decisionCount trace status lasts := by
  obtain ⟨t, ht⟩ := StandardForm.exists_start hs
  obtain ⟨e, status, lasts, h⟩ := exists_solved_of_start hp ht tolerance cap
  exact ⟨t, e, status, lasts, h, Except.ok.inj (hs.symm.trans (h.solve_eq trace))⟩

def outcome? (lines : List String) (settings : Settings Rat) :
    Option (Problem Rat × Solution Rat) :=
  match ofLines lines with
  | .error _ => none
  | .ok p =>
    match p.standard.solve settings with
    | .error _ => none
    | .ok s => some (p, s)

lemma outcome?_eq_some {lines : List String} {settings : Settings Rat} {s : Solution Rat}
    (h : outcome? lines settings = some (p, s)) :
    ofLines lines = .ok p ∧ p.standard.solve settings = .ok s := by
  rw [outcome?] at h
  split at h
  · cases h
  · rename_i hp
    split at h
    · cases h
    · rename_i hs
      cases h
      exact ⟨hp, hs⟩

lemma exists_start_of_outcome? {lines : List String} {settings : Settings Rat} {s : Solution Rat}
    (h : outcome? lines settings = some (p, s)) :
    ∃ t, ofLines lines = .ok p ∧ Tableau.start p.standard = .ok t ∧
      t.solve settings p.standard.direction p.standard.decisionCount = s := by
  obtain ⟨hp, hs⟩ := outcome?_eq_some h
  obtain ⟨t, ht⟩ := StandardForm.exists_start hs
  rw [StandardForm.solve_of_start ht] at hs
  exact ⟨t, hp, ht, Except.ok.inj hs⟩

namespace Solved

lemma started_standardForm (h : Solved p tolerance cap t e status lasts) :
    Tableau.Started (standardForm Rat p.objective p.constraints) t :=
  h.standard_eq ▸ h.started

lemma allAdded (h : Solved p tolerance cap t e status lasts) :
    AllAdded p.objective p.constraints :=
  h.started_standardForm.allAdded

lemma proper_start (h : Solved p tolerance cap t e status lasts) :
    t.Proper p.standard.rows.length p.standard.names.length :=
  proper_of_started h.standard_eq h.started

lemma represents_start (h : Solved p tolerance cap t e status lasts) :
    t.Represents (Run.start t).tableau p.standard.rows.length p.standard.names.length :=
  h.proper_start.represents_self

lemma direction_eq (h : Solved p tolerance cap t e status lasts) :
    p.standard.direction = p.objective.direction := by
  rw [h.standard_eq]
  rfl

lemma unknowns_subset (h : Solved p tolerance cap t e status lasts) :
    unknowns p.objective p.constraints ⊆ p.standard.names := by
  rw [h.standard_eq]
  exact List.subset_append_left _ _

variable {s : Run Rat} {z : Rat} {x y : String → Rat}

lemma represents (h : Solved p tolerance cap t e status lasts) (ht : 0 ≤ tolerance)
    (hr : Run.Reaches p.standard.direction tolerance (Run.start t) s) :
    t.Represents s.tableau p.standard.rows.length p.standard.names.length :=
  hr.represents_start ht h.proper_start

lemma names_eq (h : Solved p tolerance cap t e status lasts) (ht : 0 ≤ tolerance)
    (hr : Run.Reaches p.standard.direction tolerance (Run.start t) s) :
    s.tableau.names = p.standard.names :=
  (h.represents ht hr).names_eq.trans h.started.names_eq

theorem satisfies_iff (h : Solved p tolerance cap t e status lasts) (ht : 0 ≤ tolerance)
    (hr : Run.Reaches p.standard.direction tolerance (Run.start t) s) (z : Rat)
    (x : String → Rat) :
    s.tableau.Satisfies z x ↔ z = p.standard.objectiveAt x ∧ p.standard.Holds x := by
  rw [(h.represents ht hr).satisfies_iff, satisfies_iff_of_started h.standard_eq h.started]

theorem feasible_of_satisfies (h : Solved p tolerance cap t e status lasts) (ht : 0 ≤ tolerance)
    (hr : Run.Reaches p.standard.direction tolerance (Run.start t) s)
    (hy : s.tableau.Satisfies z y) (hnn : ∀ name ∈ s.tableau.names, 0 ≤ y name) :
    p.Feasible y ∧ p.objective.valueAt y = z := by
  obtain ⟨hz, hholds⟩ := (h.satisfies_iff ht hr z y).1 hy
  rw [h.names_eq ht hr] at hnn
  refine ⟨feasible_of_standard h.standard_eq h.allAdded ⟨hnn, hholds⟩, ?_⟩
  rw [hz, objectiveAt_eq_valueAt h.standard_eq]

theorem exists_satisfies (h : Solved p tolerance cap t e status lasts) (ht : 0 ≤ tolerance)
    (hr : Run.Reaches p.standard.direction tolerance (Run.start t) s) (hx : p.Feasible x) :
    ∃ y, (∀ n ∈ unknowns p.objective p.constraints, y n = x n) ∧
      s.tableau.Satisfies (p.objective.valueAt x) y ∧ ∀ name ∈ s.tableau.names, 0 ≤ y name := by
  obtain ⟨y, hy, hnn, hholds⟩ := exists_standard h.standard_eq h.allAdded hx
  have hvalue : p.standard.objectiveAt y = p.objective.valueAt x := by
    rw [objectiveAt_eq_valueAt h.standard_eq]
    exact Term.sumAt_congr fun u hu => hy _ (mem_unknowns.2 (.inl ⟨u, hu, rfl⟩))
  rw [h.names_eq ht hr]
  exact ⟨y, hy, (h.satisfies_iff ht hr _ y).2 ⟨hvalue.symm, hholds⟩, hnn⟩

theorem exists_levels (h : Solved p 0 cap t e .alternateOptima lasts) :
    ∃ last s i j x r, lasts = [last] ∧ last.iteration = e.past.length ∧
      Run.Reaches p.standard.direction 0 (Run.start t) s ∧
      Run.Levels p.standard.direction s e i j x r := by
  cases h.ends with
  | @halted _ last hr _ hh =>
    rcases hr.alternate_cases h.represents_start rfl with hn | ⟨s, i, j, x, r, hs, hl⟩
    · have hsome := hh.of_alternateOptima
      rw [hn] at hsome
      cases hsome
    · exact ⟨last, s, i, j, x, r, rfl, hh.iteration_eq, hs, hl⟩

end Solved

end Problem

end LinearProgram
