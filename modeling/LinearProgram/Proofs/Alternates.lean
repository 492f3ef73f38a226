import LinearProgram.Proofs.Equations
import LinearProgram.Proofs.Termination

namespace LinearProgram

namespace Run

open Tableau

variable {d : Direction} {s s' : Run Rat} {m n i j : Nat} {e : String} {r : Row Rat}

lemma Pivots.reading_entering (hp : Pivots d 0 s s' i j e r) (h : s.tableau.Proper m n) :
    0 < s'.tableau.reading e := by
  rw [hp.tableau_eq, hp.toExchange.reading_pivot h]
  exact hp.ratio_gt

lemma Pivots.basicValues_ne (hp : Pivots d 0 s s' i j e r) (h : s.tableau.Proper m n) :
    s.tableau.basicValues ≠ s'.tableau.basicValues := by
  intro hv
  have hreading : s.tableau.reading = s'.tableau.reading := by
    rw [Tableau.reading, Tableau.reading, hv, hp.tableau_eq, names_pivot]
  have hpos := hp.reading_entering h
  rw [← hreading, h.reading_of_notMem_basis hp.notMem_basis] at hpos
  exact lt_irrefl 0 hpos

end Run

namespace Problem

variable {lines : List String} {p : Problem Rat} {t : Tableau Rat}

theorem alternateValues_spec (hp : ofLines lines = .ok p)
    (ht : Tableau.start p.standard = .ok t) (cap : Nat) (trace : Bool) :
    ∃ s traced, p.standard.solve ⟨cap, 0, trace⟩ = .ok s ∧
      p.standard.solve ⟨cap, 0, true⟩ = .ok traced ∧
      (s.status = .alternateOptima →
        ∃ earlier step last, traced.steps = earlier ++ [step, last] ∧
          step.iteration + 1 = last.iteration ∧ last.iteration = s.iterations ∧
          s.alternateValues = some step.values ∧ step.values ≠ s.values ∧
          p.standard.BasicSolution step.tableau.basis step.values s.objectiveValue ∧
          p.standard.BasicSolution s.tableau.basis s.values s.objectiveValue) ∧
      (s.status ≠ .alternateOptima → s.alternateValues = none) := by
  obtain ⟨e, status, lasts, h⟩ := exists_solved_of_start hp ht 0 cap
  refine ⟨_, _, h.solve_eq trace, h.solve_eq true, fun hst => ?_, fun hst => if_neg hst⟩
  obtain rfl : status = .alternateOptima := hst
  obtain ⟨last, s, i, j, x, r, rfl, hlast, hr, hl⟩ := h.exists_levels
  have hrep := h.represents le_rfl hr
  have hfirst := basicSolution_of_represents h.standard_eq h.started hrep
  rw [← hl.objectiveValue_eq] at hfirst
  refine ⟨s.past.reverse, s.pivotStep 0 i j, last, ?_, ?_, hlast, hl.alternate_eq,
    hl.toPivots.basicValues_ne hrep.toProper, hfirst, ?_⟩
  · show e.past.reverse ++ [last] = _
    rw [hl.past_eq, List.reverse_cons, List.append_assoc]
    rfl
  · rw [hlast, hl.past_eq]
    rfl
  · exact basicSolution_of_represents h.standard_eq h.started (h.represents le_rfl h.ends.reaches)

theorem alternateValues_of_edge :
    ∃ p s, outcome? ["Maximize: z = 2x1 + 4x2", "x1 + 2x2 <= 5", "x1 + x2 <= 4"] ⟨10000, 0, true⟩ =
        some (p, s) ∧ s.status = .alternateOptima ∧ s.iterations = 2 ∧
      s.alternateValues = some [0, 5 / 2, 0, 3 / 2] ∧ s.values = [3, 1, 0, 0] ∧
      ∃ earlier step last, s.steps = earlier ++ [step, last] ∧
        step.iteration + 1 = last.iteration ∧ last.iteration = s.iterations ∧
        s.alternateValues = some step.values ∧ step.values ≠ s.values ∧
        p.standard.BasicSolution step.tableau.basis step.values s.objectiveValue ∧
        p.standard.BasicSolution s.tableau.basis s.values s.objectiveValue := by
  have h : ((outcome? ["Maximize: z = 2x1 + 4x2", "x1 + 2x2 <= 5", "x1 + x2 <= 4"]
      ⟨10000, 0, true⟩).map fun o =>
        (o.2.status, o.2.iterations, o.2.alternateValues, o.2.values)) =
      some (.alternateOptima, 2, some [0, 5 / 2, 0, 3 / 2], [3, 1, 0, 0]) := by decide +kernel
  obtain ⟨⟨p, s⟩, ho, hr⟩ := Option.map_eq_some_iff.1 h
  simp only [Prod.mk.injEq] at hr
  obtain ⟨hst, hit, halt, hval⟩ := hr
  obtain ⟨hp, hs⟩ := outcome?_eq_some ho
  obtain ⟨t, ht⟩ := StandardForm.exists_start hs
  obtain ⟨s', traced, hs', htraced, hspec, -⟩ := alternateValues_spec hp ht 10000 true
  obtain rfl : s = s' := Except.ok.inj (hs.symm.trans hs')
  obtain rfl : s = traced := Except.ok.inj (hs.symm.trans htraced)
  exact ⟨p, s, ho, hst, hit, halt, hval, hspec hst⟩

end Problem

end LinearProgram
