import Mathlib.Algebra.Order.BigOperators.Group.Finset
import LinearProgram.Proofs.Solve

/-!
A reported optimum bounds the objective: the objective row of the last tableau is a consequence of
the equations, and nothing in it can be improved by raising a variable.
-/

namespace LinearProgram

open Finset

lemma Direction.atLeastAsGood_iff (d : Direction) (a b : Rat) :
    d.AtLeastAsGood a b ↔ d.sign * b ≤ d.sign * a := by
  cases d <;> simp [AtLeastAsGood, sign]

namespace Tableau

variable {t : Tableau Rat} {m n : Nat} {d : Direction}

lemma Settled.cost_nonneg (hs : t.Settled d 0) (h : t.Proper m n) {name : String}
    (hname : name ∈ t.nonbasic) : 0 ≤ d.sign * t.objective.entry (t.names.idxOf name) := by
  have hmem := (mem_nonbasic.1 hname).1
  have hentry := hs _ (h.entry_mem_entries (List.getElem?_idxOf hmem))
  rwa [d.improves_zero_iff, not_lt] at hentry

theorem Settled.atLeastAsGood (hs : t.Settled d 0) (h : t.Proper m n) {z : Rat}
    {x : String → Rat} (hx : t.Satisfies z x) (hnn : ∀ name ∈ t.names, 0 ≤ x name) :
    d.AtLeastAsGood t.objectiveValue z := by
  have hrest : 0 ≤ d.sign * t.rest t.objective x := by
    rw [rest, mul_sum]
    refine sum_nonneg fun name hname => ?_
    rw [← mul_assoc]
    exact mul_nonneg (hs.cost_nonneg h hname) (hnn name (mem_nonbasic.1 hname).1)
  rw [d.atLeastAsGood_iff, ((h.satisfies_iff z x).1 hx).1, mul_sub]
  exact sub_le_self _ hrest

lemma Settled.eq_zero_of_optimum (hs : t.Settled d 0) (h : t.Proper m n) {x : String → Rat}
    (hx : t.Satisfies t.objectiveValue x) (hnn : ∀ name ∈ t.names, 0 ≤ x name) {name : String}
    (hname : name ∈ t.nonbasic) (hcost : t.objective.entry (t.names.idxOf name) ≠ 0) :
    x name = 0 := by
  have hrest : t.rest t.objective x = 0 := by
    have := ((h.satisfies_iff _ x).1 hx).1
    linarith
  have hsum : ∑ k ∈ t.nonbasic, d.sign * t.objective.entry (t.names.idxOf k) * x k = 0 := by
    simp only [mul_assoc]
    rw [← mul_sum, ← rest, hrest, mul_zero]
  have hterms := (sum_eq_zero_iff_of_nonneg fun k hk =>
    mul_nonneg (hs.cost_nonneg h hk) (hnn k (mem_nonbasic.1 hk).1)).1 hsum name hname
  exact (mul_eq_zero.1 hterms).resolve_left (mul_ne_zero d.sign_ne_zero hcost)

end Tableau

namespace Problem

variable {lines : List String} {p : Problem Rat} {s : Solution Rat} {cap : Nat} {trace : Bool}

theorem Solved.settled {t : Tableau Rat} {e : Run Rat} {status : Status} {lasts : List (Step Rat)}
    (h : Solved p 0 cap t e status lasts)
    (hst : status = .optimal ∨ status = .alternateOptima) :
    e.tableau.Settled p.standard.direction 0 := by
  cases h.ends with
  | capped => simp at hst
  | halted hr _ hh => exact hh.settled_tableau hr h.represents_start rfl hst

theorem objectiveValue_atLeastAsGood (hp : ofLines lines = .ok p)
    (hs : p.standard.solve ⟨cap, 0, trace⟩ = .ok s)
    (hst : s.status = .optimal ∨ s.status = .alternateOptima) {x : String → Rat}
    (hx : p.Feasible x) :
    p.objective.direction.AtLeastAsGood s.objectiveValue (p.objective.valueAt x) := by
  obtain ⟨t, e, status, lasts, h, rfl⟩ := exists_solved hp hs
  obtain ⟨y, -, hy, hnn⟩ := h.exists_satisfies le_rfl h.ends.reaches hx
  have hrep := h.represents le_rfl h.ends.reaches
  rw [← h.direction_eq]
  exact (h.settled hst).atLeastAsGood hrep.toProper hy hnn

theorem objectiveValue_atLeastAsGood_of_edge :
    ∃ p s, outcome? ["Maximize: z = 2x1 + 4x2", "x1 + 2x2 <= 5", "x1 + x2 <= 4"] ⟨10000, 0, true⟩ =
        some (p, s) ∧ s.status = .alternateOptima ∧
      p.Feasible (fun name => if name = "x1" then 1 else 2) ∧
      p.objective.direction.AtLeastAsGood s.objectiveValue
        (p.objective.valueAt fun name => if name = "x1" then (1 : Rat) else 2) := by
  have h : ((outcome? ["Maximize: z = 2x1 + 4x2", "x1 + 2x2 <= 5", "x1 + x2 <= 4"]
      ⟨10000, 0, true⟩).map fun o =>
        (o.2.status, decide (o.1.Feasible fun name => if name = "x1" then 1 else 2))) =
      some (.alternateOptima, true) := by decide +kernel
  obtain ⟨⟨p, s⟩, ho, hr⟩ := Option.map_eq_some_iff.1 h
  obtain ⟨hp, hs⟩ := outcome?_eq_some ho
  obtain ⟨hst, hx⟩ := Prod.mk.inj hr
  have hx := of_decide_eq_true hx
  exact ⟨p, s, ho, hst, hx, objectiveValue_atLeastAsGood hp hs (.inr hst) hx⟩

end Problem

end LinearProgram
