import LinearProgram.Proofs.Shape
import LinearProgram.Proofs.Trace

/-!
The steps of a solution are a record of its run: they can be replayed, pivot by pivot, from the
first tableau to the last. Recording them changes nothing else.
-/

namespace LinearProgram

variable {α : Type}

structure Step.PivotsTo [Scalar α] (step : Step α) (next : Tableau α) (row col : Nat) : Prop where
  leaving_eq : ∃ name, step.leaving = some name ∧ step.tableau.basis[row - 1]? = some name
  entering_eq : ∃ name, step.entering = some name ∧ step.tableau.variableAt? col = some name
  pivot_eq : ∃ x, step.pivot = some x ∧ step.tableau.entryAt? row col = some x
  next_eq : step.tableau.pivot? row col = some next

namespace Solution

def tableauAfter (s : Solution α) (k : Nat) : Tableau α :=
  (s.steps[k + 1]?.map Step.tableau).getD s.tableau

variable [Scalar α]

structure Balanced (s : Solution α) : Prop where
  length_history : s.history.length = s.iterations + 1
  getLast_history : s.history.getLast? = some s.objectiveValue
  objectiveValue_eq : s.tableau.objectiveValue = s.objectiveValue
  values_eq : s.values = s.tableau.basicValues

structure Replays (s : Solution α) (t : Tableau α) : Prop where
  length_steps : s.steps.length =
    if s.status = .nonConvergent then s.iterations else s.iterations + 1
  first : ∀ step, s.steps[0]? = some step → step.tableau = t
  readings : ∀ (k : Nat) (step : Step α), s.steps[k]? = some step →
    step.iteration = k ∧ step.values = step.tableau.basicValues ∧
      s.history[k]? = some step.objectiveValue
  pivots : ∀ k < s.iterations, ∃ step row col,
    s.steps[k]? = some step ∧ step.PivotsTo (s.tableauAfter k) row col
  halt : s.status ≠ .nonConvergent → ∃ step, s.steps.getLast? = some step ∧
    step.tableau = s.tableau ∧ step.leaving = none ∧ step.pivot = none

end Solution

variable [Scalar α]

namespace Run

variable {d : Direction} {tolerance : α} {s s' : Run α} {t : Tableau α} {m n : Nat}
  {status : Status} {lasts : List (Step α)}

lemma pivotStep_pivotsTo (tolerance : α) (h : s.tableau.Shaped m n) {i j : Nat}
    (hi : i < s.tableau.rows.length) (hj : j < s.tableau.objective.entries.length) :
    (s.pivotStep tolerance i j).PivotsTo (s.tableau.pivot i j) (i + 1) (j + 1) := by
  have hcolumn := h.lt_names hj
  have hbasis : i < s.tableau.basis.length := by
    rwa [h.length_basis, ← h.length_rows]
  have hrow : s.tableau.rows[i]? = some s.tableau.rows[i] := List.getElem?_eq_getElem hi
  have hwidth : j < s.tableau.rows[i].entries.length := by
    rwa [h.width _ (List.mem_cons_of_mem _ (List.getElem_mem hi)), ← h.width _ List.mem_cons_self]
  refine ⟨⟨s.tableau.basis[i], ?_, ?_⟩, ⟨s.tableau.names[j], ?_, ?_⟩,
    ⟨s.tableau.rows[i].entry j, ?_, ?_⟩, ?_⟩
  · exact List.getElem?_eq_getElem hbasis
  · exact List.getElem?_eq_getElem hbasis
  · exact List.getElem?_eq_getElem hcolumn
  · exact List.getElem?_eq_getElem hcolumn
  · exact congrArg (Option.map fun r => r.entry j) hrow
  · show s.tableau.entryAt? (i + 1) (j + 1) = _
    rw [Tableau.entryAt?_of_getElem? hrow, Row.getElem?_toList_succ hwidth]
  · exact if_pos ⟨Nat.succ_pos i, hi, Nat.succ_pos j, hcolumn⟩

structure Replayed (t : Tableau α) (s : Run α) : Prop where
  first : s.visited[0]? = some t
  steps : ∀ (k : Nat) (step : Step α), s.past.reverse[k]? = some step →
    step.iteration = k ∧ step.ReadOff step.tableau ∧
      ∃ next row col, s.visited[k + 1]? = some next ∧ step.PivotsTo next row col

lemma Goes.replayed (hg : Goes d tolerance s s') (hs : s.tableau.Shaped m n)
    (h : s.Replayed t) : s'.Replayed t := by
  obtain ⟨i, j, alternate, hi, hj, rfl⟩ := hg.exists_next
  have hvisited : (s.next tolerance i j alternate).visited =
      s.visited ++ [s.tableau.pivot i j] := hg.visited_eq
  have hpast : (s.next tolerance i j alternate).past.reverse =
      s.past.reverse ++ [s.pivotStep tolerance i j] := List.reverse_cons
  refine ⟨by rw [hvisited, List.getElem?_append_left (by simp), h.first], fun k step hk => ?_⟩
  rw [hpast, getElem?_concat_eq_some] at hk
  rcases hk with hk | ⟨rfl, rfl⟩
  · obtain ⟨hiteration, hread, next, row, col, hnext, hpivot⟩ := h.steps k step hk
    refine ⟨hiteration, hread, next, row, col, ?_, hpivot⟩
    rw [hvisited, getElem?_concat_eq_some]
    exact .inl hnext
  · -- the step that the turn has added
    refine ⟨by simp [pivotStep, openStep, reading], ⟨rfl, rfl, rfl⟩, s.tableau.pivot i j, i + 1,
      j + 1, ?_, pivotStep_pivotsTo tolerance hs hi hj⟩
    rw [hvisited, getElem?_concat_eq_some]
    exact .inr ⟨by simp, rfl⟩

theorem Reaches.replayed (hr : Reaches d tolerance (start t) s) (ht : t.Shaped m n) :
    s.Replayed t := by
  induction hr with
  | refl => exact ⟨rfl, fun k step hk => by cases hk⟩
  | tail hr hg ih => exact hg.replayed (Reaches.shaped hr ht) ih

lemma Halts.leaving_eq {last : Step α} (hh : Halts d tolerance s status last) :
    last.leaving = none ∧ last.pivot = none := by
  cases hh <;> exact ⟨rfl, rfl⟩

lemma balanced_finish (s : Run α) (d : Direction) (count : Nat) (trace : Bool) (status : Status)
    (lasts : List (Step α)) : (s.finish d count trace status lasts).Balanced where
  length_history := by simp [finish]
  getLast_history := by simp [finish]
  objectiveValue_eq := rfl
  values_eq := rfl

section Ends

variable {cap : Nat} (he : Ends d tolerance cap (start t) s status lasts)

include he

lemma Ends.of_getElem?_steps (h : s.Replayed t) {k : Nat} {step : Step α}
    (hk : (s.past.reverse ++ lasts)[k]? = some step) :
    step.iteration = k ∧ step.ReadOff step.tableau ∧ s.visited[k]? = some step.tableau := by
  cases he with
  | capped =>
    rw [List.append_nil] at hk
    obtain ⟨hiteration, hread, -⟩ := h.steps k step hk
    exact ⟨hiteration, hread, getElem?_visited_of_past hk⟩
  | halted _ _ hh =>
    rcases getElem?_concat_eq_some.1 hk with hk | ⟨rfl, rfl⟩
    · obtain ⟨hiteration, hread, -⟩ := h.steps k step hk
      exact ⟨hiteration, hread, getElem?_visited_of_past hk⟩
    · have hread := hh.readOff
      rw [List.length_reverse, hread.tableau_eq]
      exact ⟨hh.iteration_eq, hread, s.getElem?_visited_length⟩

lemma Ends.length_steps :
    (s.past.reverse ++ lasts).length =
      if status = .nonConvergent then s.past.length else s.past.length + 1 := by
  cases he with
  | capped => simp
  | halted _ _ hh => simp [hh.ne_nonConvergent]

lemma Ends.tableauAfter_eq (h : s.Replayed t) (count : Nat) {k : Nat} (hk : k < s.past.length)
    {next : Tableau α} (hnext : s.visited[k + 1]? = some next) :
    (s.finish d count true status lasts).tableauAfter k = next := by
  have hsteps : (s.finish d count true status lasts).steps = s.past.reverse ++ lasts := rfl
  rw [Solution.tableauAfter, hsteps]
  cases hstep : (s.past.reverse ++ lasts)[k + 1]? with
  | some step =>
    obtain ⟨-, -, hvisited⟩ := he.of_getElem?_steps h hstep
    exact Option.some_inj.1 (hvisited.symm.trans hnext)
  | none =>
    rw [List.getElem?_eq_none_iff, List.length_append, List.length_reverse] at hstep
    have hlength : k + 1 = s.past.length := by omega
    rw [hlength] at hnext
    exact Option.some_inj.1 (s.getElem?_visited_length.symm.trans hnext)

theorem Ends.replays (h : s.Replayed t) (count : Nat) :
    (s.finish d count true status lasts).Replays t where
  length_steps := he.length_steps
  first := by
    intro step hstep
    obtain ⟨-, -, hvisited⟩ := he.of_getElem?_steps h hstep
    exact Option.some_inj.1 (hvisited.symm.trans h.first)
  readings := by
    intro k step hstep
    obtain ⟨hiteration, hread, hvisited⟩ := he.of_getElem?_steps h hstep
    refine ⟨hiteration, hread.values_eq, ?_⟩
    show s.history[k]? = _
    rw [he.reaches.history_eq, List.getElem?_map, hvisited, hread.objectiveValue_eq]
    rfl
  pivots := by
    intro k hk
    have hlt : k < s.past.reverse.length := by
      rwa [List.length_reverse]
    have hstep := List.getElem?_eq_getElem hlt
    obtain ⟨-, -, next, row, col, hnext, hpivot⟩ := h.steps k _ hstep
    refine ⟨_, row, col, ?_, he.tableauAfter_eq h count hk hnext ▸ hpivot⟩
    show (s.past.reverse ++ lasts)[k]? = _
    rw [List.getElem?_append_left hlt, hstep]
  halt := by
    intro hstatus
    cases he with
    | capped => exact absurd rfl hstatus
    | halted _ _ hh =>
      exact ⟨_, List.getLast?_concat, hh.readOff.tableau_eq, hh.leaving_eq⟩

end Ends

end Run

namespace Tableau

/-- The steps of a solution replay its run: they start at the first tableau, each pivot leads to the
next tableau, and all that a solution shows is read off the tableaux. Without them the solution is
the same. -/
theorem solve_replays {p : StandardForm α} {t : Tableau α} (h : start p = .ok t) (d : Direction)
    (tolerance : α) (cap count : Nat) :
    t.solve ⟨cap, tolerance, false⟩ d count =
        { t.solve ⟨cap, tolerance, true⟩ d count with steps := [] } ∧
      (∀ trace, (t.solve ⟨cap, tolerance, trace⟩ d count).Balanced) ∧
      (t.solve ⟨cap, tolerance, true⟩ d count).Replays t ∧
      (0 < cap → (t.solve ⟨cap, tolerance, true⟩ d count).steps ≠ []) := by
  obtain ⟨s, status, lasts, he, hsolve⟩ := t.solve_eq_finish d tolerance cap
  have hreplayed := he.reaches.replayed (shaped_of_start h)
  refine ⟨?_, fun trace => ?_, ?_, fun hcap => ?_⟩
  · rw [hsolve, hsolve]
    rfl
  · rw [hsolve]
    exact Run.balanced_finish s d count trace status lasts
  · rw [hsolve]
    exact he.replays hreplayed count
  · rw [hsolve, ← List.length_pos_iff]
    show 0 < (s.past.reverse ++ lasts).length
    cases he with
    | capped _ hlength => simp [hlength, Run.start, hcap]
    | halted => simp

theorem solve_replays_of_two_pivots :
    ∃ (p : Problem Float) (t : Tableau Float) (s : Solution Float),
      Problem.ofLines ["Maximize: z = 5x1 + 4x2", "6x1 + 4x2 <= 24", "x1 + 2x2 <= 6"] = .ok p ∧
      start p.standard = .ok t ∧
      t.solve ⟨10000, Scalar.ofDecimal Settings.defaultTolerance, true⟩ .maximize 2 = s ∧
      s.status = .optimal ∧ s.iterations = 2 ∧
      s.steps.map Step.entering = [some "x1", some "x2", none] ∧
      t.solve ⟨10000, Scalar.ofDecimal Settings.defaultTolerance, false⟩ .maximize 2 =
        { s with steps := [] } ∧
      s.Balanced ∧ s.Replays t := by
  have h : ((Problem.start? ["Maximize: z = 5x1 + 4x2", "6x1 + 4x2 <= 24", "x1 + 2x2 <= 6"]).map
      fun o : Problem Float × Tableau Float =>
        let s := o.2.solve ⟨10000, Scalar.ofDecimal Settings.defaultTolerance, true⟩ .maximize 2
        (s.status, s.iterations, s.steps.map Step.entering)) =
      some (.optimal, 2, [some "x1", some "x2", none]) := by decide +kernel
  obtain ⟨⟨p, t⟩, ho, hr⟩ := Option.map_eq_some_iff.1 h
  simp only [Prod.mk.injEq] at hr
  obtain ⟨hstatus, hiterations, hentering⟩ := hr
  obtain ⟨hp, ht⟩ := Problem.start?_eq_some ho
  obtain ⟨hplain, hbalanced, hreplays, -⟩ := solve_replays ht .maximize
    (Scalar.ofDecimal Settings.defaultTolerance) 10000 2
  exact ⟨p, t, _, hp, ht, rfl, hstatus, hiterations, hentering, hplain, hbalanced true, hreplays⟩

end Tableau

end LinearProgram
