import LinearProgram.Proofs.Solve

/-!
Whether a reported optimum is one at the tolerance of the run: no entry of the last objective row
improves. It is, unless a variable entered at a small cost that was taken for zero, and the pivot
brought out an improving column that no row limits.
-/

namespace LinearProgram

open Tableau

namespace Step

def cost (step : Step Rat) : Option Rat :=
  step.entering.map fun e => step.tableau.objective.entry (step.tableau.names.idxOf e)

def Exact (d : Direction) (tolerance : Rat) (step : Step Rat) : Prop :=
  ∀ c ∈ step.cost, d.improves tolerance c ∨ c = 0

instance (d : Direction) (tolerance : Rat) (step : Step Rat) : Decidable (step.Exact d tolerance) :=
  inferInstanceAs (Decidable (∀ c ∈ step.cost, d.improves tolerance c ∨ c = 0))

end Step

namespace Run

variable {d : Direction} {tolerance : Rat} {s₀ s s' : Run Rat} {t₀ : Tableau Rat} {m n i j : Nat}
  {status : Status} {last : Step Rat}

@[simp] lemma cost_reading (s : Run Rat) : s.reading.cost = none := rfl

lemma cost_openStep (tolerance : Rat) (h : s.tableau.Proper m n) {e : String}
    (he : s.tableau.names[j]? = some e) :
    (s.openStep tolerance j).cost = some (s.tableau.objective.entry j) := by
  simp only [Step.cost, openStep, he, Option.map_some]
  rw [← h.idxOf_eq he]
  rfl

lemma cost_openStep_of_getElem? (h : s.tableau.Proper m n) {x : Rat}
    (hx : s.tableau.objective.entries[j]? = some x) :
    (s.openStep tolerance j).cost = some x := by
  obtain ⟨e, he⟩ := h.exists_name hx
  rw [cost_openStep tolerance h he, Row.entry_of_getElem? hx]

lemma Pivots.cost_eq {e : String} {r : Row Rat} (hp : Pivots d tolerance s s' i j e r)
    (h : s.tableau.Proper m n) :
    (s.pivotStep tolerance i j).cost = some (s.tableau.objective.entry j) :=
  cost_openStep tolerance h hp.column

theorem Reaches.settled_of_exact (hr : Reaches d tolerance s₀ s) (ht : 0 ≤ tolerance)
    (h : t₀.Represents s₀.tableau m n) (h₀ : s₀.alternate = none)
    (hexact : ∀ step ∈ s.past, step.Exact d tolerance) (ha : s.alternate.isSome) :
    s.tableau.Settled d tolerance := by
  induction hr with
  | refl =>
    rw [h₀] at ha
    cases ha
  | @tail s s' hr hg ih =>
    have hproper := (Reaches.represents hr ht h).toProper
    obtain ⟨i, j, e, r, hp⟩ := hg.pivots ht hproper
    rw [hp.past_eq, List.forall_mem_cons] at hexact
    obtain ⟨hlast, hpast⟩ := hexact
    have hmem := hproper.entry_mem_entries hp.column
    have he := hp.enters
    generalize s'.alternate = a at he ha
    cases he with
    -- values were stored before this pivot, where the row is settled already
    | improving hi => exact absurd hi (ih hpast ha _ hmem)
    | level _ hs _ =>
      have hzero : s.tableau.objective.entry j = 0 :=
        (hlast _ (hp.cost_eq hproper)).resolve_left (hs _ hmem)
      rw [Settled, hp.tableau_eq, hp.toExchange.objective_pivot_of_level hzero]
      exact hs

theorem Halts.settled_iff (hh : Halts d tolerance s status last) (h : s.tableau.Proper m n)
    (hs : status = .optimal ∨ status = .alternateOptima) :
    s.tableau.Settled d tolerance ↔ ∀ c ∈ last.cost, ¬ d.improves tolerance c := by
  cases hh with
  | degenerate => simp at hs
  | settled _ he => simp [settled_of_entering_eq_optimal he]
  | improving _ he =>
    obtain ⟨x, hx, hi, -⟩ := entering_eq_improving he
    constructor
    · intro hset
      exact absurd hi (hset x (List.mem_of_getElem? hx))
    · intro hcost
      exact absurd hi (hcost x (cost_openStep_of_getElem? h hx))
  | level _ he =>
    obtain ⟨-, hset, -, x, hx, -⟩ := entering_eq_level he
    refine iff_of_true hset fun c hc => ?_
    obtain rfl := Option.some_inj.1 ((cost_openStep_of_getElem? h hx).symm.trans hc)
    exact hset x (List.mem_of_getElem? hx)

end Run

namespace Problem

variable {lines : List String} {p : Problem Rat} {t : Tableau Rat} {s : Solution Rat}
  {tolerance : Rat} {cap : Nat} {trace : Bool}

/-- A run that reports an optimum ends in a settled tableau just where no improving variable was to
enter last, as is the case when every variable that entered without improving had cost zero. -/
theorem settled_iff_of_optimum (hp : ofLines lines = .ok p)
    (ht : Tableau.start p.standard = .ok t) (htol : 0 ≤ tolerance) {d : Direction} {count : Nat}
    (hs : t.solve ⟨cap, tolerance, trace⟩ d count = s)
    (hst : s.status = .optimal ∨ s.status = .alternateOptima) :
    ∃ traced last, t.solve ⟨cap, tolerance, true⟩ d count = traced ∧
      traced.steps.getLast? = some last ∧
      (s.tableau.Settled d tolerance ↔ ∀ c ∈ last.cost, ¬ d.improves tolerance c) ∧
      ((∀ step ∈ traced.pivots, step.Exact d tolerance) → s.tableau.Settled d tolerance) ∧
      (¬ s.tableau.Settled d tolerance →
        s.status = .optimal ∧ ∀ q, some q ∈ last.ratios → q ≤ tolerance) := by
  obtain ⟨e, status, lasts, he, hsolve⟩ := t.solve_eq_finish d tolerance cap
  have hrep := he.reaches.represents_start htol (proper_of_start hp ht)
  rw [hsolve] at hs
  subst hs
  cases he with
  | capped => simp [Run.finish] at hst
  | @halted _ last hr _ hh =>
    refine ⟨_, last, hsolve count true, by simp [Run.finish], hh.settled_iff hrep.toProper hst,
      fun hexact => ?_, fun hn => ?_⟩
    · rw [Run.pivots_finish] at hexact
      by_contra hn
      refine hn (hr.settled_of_exact htol (proper_of_start hp ht).represents_self rfl ?_
        (hh.of_not_settled hst hn).2.1)
      intro step hstep
      exact hexact step (List.mem_reverse.2 hstep)
    · obtain ⟨hopt, -, hle⟩ := hh.of_not_settled hst hn
      exact ⟨hopt, hle⟩

theorem settled_of_zero_cost :
    ∃ p t s, ofLines ["Maximize: z = 2x1 + 4x2", "x1 + 2x2 <= 5", "x1 + x2 <= 4"] = .ok p ∧
      Tableau.start p.standard = .ok t ∧ t.solve ⟨10000, 1 / 10, true⟩ .maximize 2 = s ∧
      s.status = .alternateOptima ∧ s.history = [0, 10, 10] ∧
      s.tableau.Settled .maximize (1 / 10) := by
  have h : ((outcome? ["Maximize: z = 2x1 + 4x2", "x1 + 2x2 <= 5", "x1 + x2 <= 4"]
      ⟨10000, 1 / 10, true⟩).map fun o => (o.2.status, o.2.history, o.1.standard.direction,
        o.1.standard.decisionCount, decide (∀ step ∈ o.2.pivots, step.Exact .maximize (1 / 10)))) =
      some (.alternateOptima, [0, 10, 10], .maximize, 2, true) := by decide +kernel
  obtain ⟨⟨p, s⟩, ho, hr⟩ := Option.map_eq_some_iff.1 h
  obtain ⟨t, hp, ht, hsolve⟩ := exists_start_of_outcome? ho
  simp only [Prod.mk.injEq, decide_eq_true_eq] at hr
  obtain ⟨hst, hhist, hd, hcount, hexact⟩ := hr
  rw [hd, hcount] at hsolve
  obtain ⟨traced, last, htr, -, -, hset, -⟩ :=
    settled_iff_of_optimum hp ht (by norm_num) hsolve (.inr hst)
  obtain rfl : s = traced := hsolve.symm.trans htr
  exact ⟨p, t, s, hp, ht, hsolve, hst, hhist, hset hexact⟩

/-- The cost of `x1` is within the tolerance, and its pivot makes the column of `x2`, which no row
limits, improve by a hundred times the tolerance. -/
theorem not_settled_of_small_cost :
    ∃ p s, outcome? ["Maximize: z = 0.000000001x1", "x1 - 100x2 <= 1"] (Settings.standard Rat) =
        some (p, s) ∧ s.status = .optimal ∧
      ¬ s.tableau.Settled s.direction (Settings.standard Rat).tolerance := by
  have h : ((outcome? ["Maximize: z = 0.000000001x1", "x1 - 100x2 <= 1"]
      (Settings.standard Rat)).map fun o => (o.2.status,
        decide (∀ x ∈ o.2.tableau.objective.entries,
          ¬ o.2.direction.improves (Settings.standard Rat).tolerance x))) =
      some (.optimal, false) := by decide +kernel
  obtain ⟨⟨p, s⟩, ho, hr⟩ := Option.map_eq_some_iff.1 h
  obtain ⟨hst, hset⟩ := Prod.mk.inj hr
  exact ⟨p, s, ho, hst, fun hs => of_decide_eq_false hset hs⟩

end Problem

end LinearProgram
