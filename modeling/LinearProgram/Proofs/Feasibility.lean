import LinearProgram.Proofs.Solve
import LinearProgram.Proofs.Trace

/-!
When the values that a run reads off its tableaux satisfy the lines of the problem. The ratio test
passes over rows whose ratio is zero, and a pivot past such a row makes its basic variable negative.
-/

namespace LinearProgram

namespace Tableau

variable {t : Tableau Rat} {i j : Nat} {e : String} {r : Row Rat}

def Blocked (t : Tableau Rat) (j : Nat) : Prop :=
  ∃ q ∈ t.rows, q.rhs = 0 ∧ 0 < q.entry j

lemma some_zero_mem_ratios_iff (t : Tableau Rat) (j : Nat) :
    some 0 ∈ t.ratios j 0 ↔ t.Blocked j := by
  rw [ratios, Blocked, List.mem_map]
  constructor
  · rintro ⟨q, hq, hr⟩
    split at hr
    · rename_i hpos
      have h0 := (div_eq_zero_iff.1 (Option.some_inj.1 hr)).resolve_right hpos.ne'
      exact ⟨q, hq, h0, hpos⟩
    · cases hr
  · rintro ⟨q, hq, h0, hpos⟩
    exact ⟨q, hq, by rw [if_pos hpos, h0, zero_div]⟩

theorem Exchange.feasible_pivot_iff (hx : t.Exchange i j e r) (hf : t.Feasible)
    (hratio : 0 < r.rhs / r.entry j)
    (hmin : ∀ q ∈ t.rows, 0 < q.entry j → 0 < q.rhs / q.entry j →
      r.rhs / r.entry j ≤ q.rhs / q.entry j) :
    (t.pivot i j).Feasible ↔ ¬ t.Blocked j := by
  constructor
  · rintro hp ⟨q, hq, h0, hq0⟩
    obtain ⟨k, hk⟩ := List.mem_iff_getElem?.1 hq
    have hki : k ≠ i := by
      rintro rfl
      obtain rfl : r = q := Option.some_inj.1 (hx.row.symm.trans hk)
      rw [h0, zero_div] at hratio
      exact lt_irrefl 0 hratio
    have hmem : q.clear (r.divide (r.entry j)) j ∈ (t.pivot i j).rows :=
      List.mem_iff_getElem?.2 ⟨k, by rw [hx.row_pivot_of_ne hki, hk]; rfl⟩
    have hneg := hp _ hmem
    rw [Row.rhs_clear, Row.rhs_divide, h0, zero_sub] at hneg
    have := mul_pos hq0 hratio
    linarith
  · intro hb s hs
    obtain ⟨k, hk⟩ := List.mem_iff_getElem?.1 hs
    rcases hx.row_cases hk with ⟨-, rfl⟩ | ⟨-, q, hq, rfl⟩
    · exact hratio.le
    · have hmem := List.mem_of_getElem? hq
      rw [Row.rhs_clear, Row.rhs_divide, sub_nonneg]
      by_cases hq0 : 0 < q.entry j
      · have hrhs : 0 < q.rhs := (hf q hmem).lt_of_ne fun h0 => hb ⟨q, hmem, h0.symm, hq0⟩
        rw [mul_comm, ← le_div_iff₀ hq0]
        exact hmin q hmem hq0 (div_pos hrhs hq0)
      · exact (mul_nonpos_of_nonpos_of_nonneg (not_lt.1 hq0) hratio.le).trans (hf q hmem)

end Tableau

namespace Run

open Tableau

variable {d : Direction} {s s' : Run Rat} {t : Tableau Rat} {m n : Nat}

lemma Pivots.feasible_iff {i j : Nat} {e : String} {r : Row Rat} (hp : Pivots d 0 s s' i j e r)
    (hf : s.tableau.Feasible) :
    s'.tableau.Feasible ↔ some 0 ∉ (s.pivotStep 0 i j).ratios := by
  rw [hp.tableau_eq, hp.toExchange.feasible_pivot_iff hf hp.ratio_gt hp.ratio_le,
    ← some_zero_mem_ratios_iff]
  rfl

theorem Reaches.feasible_iff (hr : Reaches d 0 (start t) s) (h : t.Proper m n) (hf : t.Feasible) :
    (∀ t' ∈ s.visited, t'.Feasible) ↔ ∀ step ∈ s.past, some 0 ∉ step.ratios := by
  induction hr with
  | refl => simpa [visited, start] using hf
  | @tail s s' hr hg ih =>
    have hrep : t.Represents s.tableau m n := Reaches.represents_start hr le_rfl h
    obtain ⟨i, j, e, r, hp⟩ := hg.pivots le_rfl hrep.toProper
    rw [hg.visited_eq, hp.past_eq, List.forall_mem_append, ih, List.forall_mem_singleton,
      List.forall_mem_cons, and_comm]
    refine and_congr_left fun hpast => hp.feasible_iff ?_
    exact ih.2 hpast _ (List.mem_append_right _ List.mem_cons_self)

end Run

namespace Problem

variable {p : Problem Rat} {s : Solution Rat} {cap : Nat} {trace : Bool} {lines : List String}

def Admits (p : Problem Rat) (names : List String) (values : List Rat) : Prop :=
  (∀ v ∈ values, 0 ≤ v) ∧ p.Feasible fun name => (Solution.valueIn values names name).getD 0

namespace Solved

variable {t : Tableau Rat} {e : Run Rat} {status : Status} {lasts : List (Step Rat)}

theorem admits_iff (h : Solved p 0 cap t e status lasts) {s : Run Rat}
    (hr : Run.Reaches p.standard.direction 0 (Run.start t) s) :
    p.Admits s.tableau.names s.tableau.basicValues ↔ s.tableau.Feasible := by
  have hrep := h.represents le_rfl hr
  have hpoint : (fun name => (Solution.valueIn s.tableau.basicValues s.tableau.names name).getD 0) =
      s.tableau.reading := funext (getD_valueIn s.tableau.length_basicValues)
  rw [Admits, hpoint, hrep.basicValues_nonneg_iff, hrep.feasible_iff]
  exact and_iff_left_of_imp fun hnn =>
    (h.feasible_of_satisfies le_rfl hr hrep.satisfies_reading hnn).1

theorem admits_alternate_iff (h : Solved p 0 cap t e .alternateOptima lasts) :
    (∀ values, e.alternate = some values → p.Admits e.tableau.names values) ↔
      ∀ step, e.past.head? = some step → step.tableau.Feasible := by
  obtain ⟨last, s, i, j, x, r, -, -, hr, hl⟩ := h.exists_levels
  have hnames : e.tableau.names = s.tableau.names := by
    rw [(h.represents le_rfl h.ends.reaches).names_eq, (h.represents le_rfl hr).names_eq]
  rw [hl.alternate_eq, hl.past_eq, hnames]
  simp only [Option.some_inj, List.head?_cons, forall_eq']
  exact h.admits_iff hr

end Solved

def AdmitsSolution (p : Problem Rat) (s : Solution Rat) : Prop :=
  p.Admits s.names s.values ∧
    ∀ values, s.alternateValues = some values → p.Admits s.names values

/-- The reported values are admitted just where the tableaux that they are read off are feasible,
and all tableaux are feasible just where no pivot was made past a ratio of zero. -/
theorem admitsSolution_iff (hp : ofLines lines = .ok p)
    (hs : p.standard.solve ⟨cap, 0, trace⟩ = .ok s) :
    ∃ traced, p.standard.solve ⟨cap, 0, true⟩ = .ok traced ∧
      (p.AdmitsSolution s ↔ s.tableau.Feasible ∧ (s.status = .alternateOptima →
        ∀ step, traced.pivots.getLast? = some step → step.tableau.Feasible)) ∧
      ((∀ t ∈ traced.visited, t.Feasible) ↔ ∀ step ∈ traced.pivots, some 0 ∉ step.ratios) ∧
      ((∀ step ∈ traced.pivots, some 0 ∉ step.ratios) → p.AdmitsSolution s) := by
  obtain ⟨t, e, status, lasts, h, rfl⟩ := exists_solved hp hs
  have hadmits : p.AdmitsSolution
      (e.finish p.standard.direction p.standard.decisionCount trace status lasts) ↔
        e.tableau.Feasible ∧ (status = .alternateOptima →
          ∀ step, e.past.reverse.getLast? = some step → step.tableau.Feasible) := by
    refine and_congr (h.admits_iff h.ends.reaches) ?_
    rw [List.getLast?_reverse]
    by_cases hst : status = .alternateOptima
    · subst hst
      simpa [Run.finish] using h.admits_alternate_iff
    · simp [Run.finish, hst]
  have hvisited : (∀ t' ∈ e.visited, t'.Feasible) ↔
      ∀ step ∈ e.past.reverse, some 0 ∉ step.ratios := by
    simpa only [List.mem_reverse] using
      h.ends.reaches.feasible_iff h.proper_start h.started_standardForm.feasible
  refine ⟨_, h.solve_eq true, ?_⟩
  rw [Run.visited_finish, Run.pivots_finish]
  refine ⟨hadmits, hvisited, fun hz => hadmits.2 ⟨?_, fun _ step hstep => ?_⟩⟩
  · exact hvisited.2 hz _ (List.mem_append_right _ List.mem_cons_self)
  · have hmem := List.mem_map_of_mem (f := Step.tableau) (List.mem_of_getLast? hstep)
    exact hvisited.2 hz _ (List.mem_append_left _ hmem)

theorem admitsSolution_of_zero_row :
    ∃ p s, outcome? ["Maximize: z = 2x1 + x2", "-x1 + x2 <= 0", "x1 <= 4", "x2 <= 4"]
        ⟨10000, 0, true⟩ = some (p, s) ∧ s.status = .optimal ∧ p.AdmitsSolution s := by
  have h : ((outcome? ["Maximize: z = 2x1 + x2", "-x1 + x2 <= 0", "x1 <= 4", "x2 <= 4"]
      ⟨10000, 0, true⟩).map fun o =>
        (o.2.status, decide (∀ step ∈ o.2.pivots, some 0 ∉ step.ratios))) =
      some (.optimal, true) := by decide +kernel
  obtain ⟨⟨p, s⟩, ho, hr⟩ := Option.map_eq_some_iff.1 h
  obtain ⟨hp, hs⟩ := outcome?_eq_some ho
  obtain ⟨hst, hz⟩ := Prod.mk.inj hr
  obtain ⟨traced, ht, -, -, hadm⟩ := admitsSolution_iff hp hs
  obtain rfl : s = traced := Except.ok.inj (hs.symm.trans ht)
  exact ⟨p, s, ho, hst, hadm (of_decide_eq_true hz)⟩

/-- Here the pivot passes over the row of `x1 <= 0`, and the optimum that is reported is not even
non-negative. -/
theorem not_admitsSolution_of_zero_bound :
    ∃ p s, outcome? ["Maximize: z = x1", "x1 <= 0", "x1 <= 4"] ⟨10000, 0, false⟩ = some (p, s) ∧
      s.status = .optimal ∧ ¬ p.AdmitsSolution s := by
  have h : ((outcome? ["Maximize: z = x1", "x1 <= 0", "x1 <= 4"] ⟨10000, 0, false⟩).map fun o =>
      (o.2.status, decide (∀ v ∈ o.2.values, 0 ≤ v))) = some (.optimal, false) := by
    decide +kernel
  obtain ⟨⟨p, s⟩, ho, hr⟩ := Option.map_eq_some_iff.1 h
  obtain ⟨hst, hv⟩ := Prod.mk.inj hr
  exact ⟨p, s, ho, hst, fun hadm => of_decide_eq_false hv hadm.1.1⟩

end Problem

end LinearProgram
