import LinearProgram.Proofs.Ray
import LinearProgram.Proofs.Solve

/-!
When a problem that is reported as unbounded is so: its equations need an improving ray. The column
that no row limits is one if it has no positive entry; a positive entry whose ratio is not positive
does not limit the column either, and then it is none.
-/

namespace LinearProgram

def Direction.Beyond : Direction → Rat → Rat → Prop
  | .maximize, bound, z => bound < z
  | .minimize, bound, z => z < -bound

lemma Direction.beyond_iff (d : Direction) (bound z : Rat) :
    d.Beyond bound z ↔ bound < d.sign * z := by
  cases d
  · rw [Beyond, sign, one_mul]
  · rw [Beyond, sign, neg_one_mul, lt_neg]

namespace Tableau

open Finset

variable {t : Tableau Rat} {m n j : Nat} {d : Direction} {e : String}

def Raises (t : Tableau Rat) (e : String) (v : String → Rat) : Prop :=
  ∀ name ∈ t.nonbasic, v name = if name = e then 1 else 0

lemma rest_of_raises {v : String → Rat} (hv : t.Raises e v) (he : e ∈ t.nonbasic) (r : Row Rat) :
    t.rest r v = r.entry (t.names.idxOf e) := by
  rw [rest, sum_eq_single_of_mem e he, hv e he, if_pos rfl, mul_one]
  intro name hname hne
  rw [hv name hname, if_neg hne, mul_zero]

theorem Proper.exists_ray_raises_iff (h : t.Proper m n) (he : t.names[j]? = some e)
    (hb : e ∉ t.basis) (hi : d.improves 0 (t.objective.entry j)) :
    (∃ v, t.Ray d v ∧ t.Raises e v) ↔ ∀ r ∈ t.rows, r.entry j ≤ 0 := by
  have hmem : e ∈ t.nonbasic := mem_nonbasic.2 ⟨List.mem_of_getElem? he, hb⟩
  have hj := h.idxOf_eq he
  constructor
  · rintro ⟨v, hray, hv⟩ r hr
    obtain ⟨i, hi⟩ := List.mem_iff_getElem?.1 hr
    obtain ⟨b, hbasis⟩ := h.basis_of_row hi
    have hfollow := hray.follows i b r hbasis hi
    have hnn := hray.nonneg b (h.basis_subset (List.mem_of_getElem? hbasis))
    rw [hfollow, rest_of_raises hv hmem, hj] at hnn
    exact neg_nonneg.1 hnn
  · intro hle
    obtain ⟨v, hf, hv⟩ := h.exists_follows fun name => if name = e then 1 else 0
    refine ⟨v, ⟨hf, fun name hname => ?_, ?_⟩, hv⟩
    · by_cases hbasis : name ∈ t.basis
      · obtain ⟨i, hi⟩ := List.mem_iff_getElem?.1 hbasis
        obtain ⟨r, hr⟩ := h.row_of_basis hi
        rw [hf i name r hi hr, rest_of_raises hv hmem, hj]
        exact neg_nonneg.2 (hle r (List.mem_of_getElem? hr))
      · rw [hv name (mem_nonbasic.2 ⟨hname, hbasis⟩)]
        split
        · exact zero_le_one
        · exact le_rfl
    · rwa [rest_of_raises hv hmem, hj]

lemma ratios_eq_none_iff (t : Tableau Rat) (j : Nat) :
    (∀ ratio ∈ t.ratios j 0, ratio = none) ↔ ∀ r ∈ t.rows, r.entry j ≤ 0 := by
  simp [ratios]

end Tableau

namespace Run

variable {d : Direction} {s : Run Rat} {last : Step Rat} {m n : Nat}

lemma Halts.exists_open_column (hh : Halts d 0 s .unbounded last) (h : s.tableau.Proper m n) :
    ∃ j e, last = s.openStep 0 j ∧ s.tableau.names[j]? = some e ∧ e ∉ s.tableau.basis ∧
      d.improves 0 (s.tableau.objective.entry j) ∧ ∀ q, some q ∈ last.ratios → q ≤ 0 := by
  obtain ⟨j, -, he, hl, rfl⟩ := hh.of_unbounded
  obtain ⟨x, hx, hi, -⟩ := Tableau.entering_eq_improving he
  obtain ⟨e, hname⟩ := h.exists_name hx
  rw [← Row.entry_of_getElem? hx] at hi
  exact ⟨j, e, rfl, hname, h.notMem_basis_of_improves le_rfl hname hi, hi,
    Tableau.leaving_eq_none_iff.1 hl⟩

end Run

namespace Problem

variable {p : Problem Rat} {s : Solution Rat} {cap : Nat} {trace : Bool} {lines : List String}

def Unlimited (p : Problem Rat) : Prop :=
  ∀ bound, ∃ x, p.Feasible x ∧ p.objective.direction.Beyond bound (p.objective.valueAt x)

theorem Solved.unlimited_iff {t : Tableau Rat} {e : Run Rat} {status : Status}
    {lasts : List (Step Rat)} (h : Solved p 0 cap t e status lasts) {s : Run Rat}
    (hr : Run.Reaches p.standard.direction 0 (Run.start t) s) :
    p.Unlimited ↔ ∃ v, s.tableau.Ray p.standard.direction v := by
  have hrep := h.represents le_rfl hr
  rw [Unlimited]
  simp only [Direction.beyond_iff, ← h.direction_eq]
  constructor
  · intro hunl
    refine hrep.exists_ray fun bound => ?_
    obtain ⟨x, hx, hlt⟩ := hunl bound
    obtain ⟨y, -, hy, hnn⟩ := h.exists_satisfies le_rfl hr hx
    exact ⟨_, y, hy, hnn, hlt⟩
  · rintro ⟨v, hv⟩ bound
    have hstart : s.tableau.Satisfies t.objectiveValue t.reading :=
      (hrep.satisfies_iff _ _).2 h.proper_start.satisfies_reading
    have hnn : ∀ name ∈ s.tableau.names, 0 ≤ t.reading name := by
      rw [hrep.names_eq]
      exact h.proper_start.feasible_iff.1 h.started_standardForm.feasible
    obtain ⟨z, y, hy, hynn, hlt⟩ := hv.exists_beyond hrep.toProper hstart hnn bound
    obtain ⟨hfeas, rfl⟩ := h.feasible_of_satisfies le_rfl hr hy hynn
    exact ⟨y, hfeas, hlt⟩

/-- A problem reported as unbounded is unlimited just where the last tableau has a ray. Raising the
variable that entered last is a ray just where the ratio test met no ratio at all. -/
theorem unlimited_iff_of_unbounded (hp : ofLines lines = .ok p)
    (hs : p.standard.solve ⟨cap, 0, trace⟩ = .ok s) (hst : s.status = .unbounded) :
    ∃ traced step e, p.standard.solve ⟨cap, 0, true⟩ = .ok traced ∧
      traced.steps.getLast? = some step ∧ step.entering = some e ∧
      (∀ q, some q ∈ step.ratios → q ≤ 0) ∧
      (p.Unlimited ↔ ∃ v, s.tableau.Ray s.direction v) ∧
      ((∃ v, s.tableau.Ray s.direction v ∧ s.tableau.Raises e v) ↔
        ∀ ratio ∈ step.ratios, ratio = none) ∧
      ((∀ ratio ∈ step.ratios, ratio = none) → p.Unlimited) := by
  obtain ⟨t, e, status, lasts, h, rfl⟩ := exists_solved hp hs
  have hrep := h.represents le_rfl h.ends.reaches
  obtain rfl : status = .unbounded := hst
  cases h.ends with
  | halted hr _ hh =>
    obtain ⟨j, name, rfl, hname, hb, hi, hle⟩ := hh.exists_open_column hrep.toProper
    have hraise := (hrep.toProper.exists_ray_raises_iff hname hb hi).trans
      (e.tableau.ratios_eq_none_iff j).symm
    refine ⟨_, e.openStep 0 j, name, h.solve_eq true, by simp [Run.finish], hname, hle,
      h.unlimited_iff hr, hraise, fun hnone => (h.unlimited_iff hr).2 ?_⟩
    obtain ⟨v, hv, -⟩ := hraise.2 hnone
    exact ⟨v, hv⟩

theorem unlimited_of_open_column :
    ∃ p s, outcome? ["Maximize: z = x1", "x1 - x2 <= 1"] ⟨10000, 0, true⟩ = some (p, s) ∧
      s.status = .unbounded ∧ p.Unlimited := by
  have h : ((outcome? ["Maximize: z = x1", "x1 - x2 <= 1"] ⟨10000, 0, true⟩).map fun o =>
      (o.2.status, o.2.steps.getLast?.map Step.ratios)) = some (.unbounded, some [none]) := by
    decide +kernel
  obtain ⟨⟨p, s⟩, ho, hr⟩ := Option.map_eq_some_iff.1 h
  obtain ⟨hp, hs⟩ := outcome?_eq_some ho
  obtain ⟨hst, hratios⟩ := Prod.mk.inj hr
  obtain ⟨traced, step, e, ht, hstep, -, -, -, -, hunl⟩ := unlimited_iff_of_unbounded hp hs hst
  obtain rfl : s = traced := Except.ok.inj (hs.symm.trans ht)
  rw [hstep] at hratios
  refine ⟨p, s, ho, hst, hunl ?_⟩
  rw [Option.some_inj.1 hratios]
  simp

/-- Here the only ratio is zero, and the constraint keeps the objective from being positive. -/
theorem not_unlimited_of_zero_ratio :
    ∃ p s, outcome? ["Maximize: z = x1", "x1 <= 0"] ⟨10000, 0, false⟩ = some (p, s) ∧
      s.status = .unbounded ∧ ¬ p.Unlimited := by
  have h : ((outcome? ["Maximize: z = x1", "x1 <= 0"] ⟨10000, 0, false⟩).map fun o =>
      (o.2.status, o.1.objective.direction, decide (∃ c ∈ o.1.constraints, c.relation = .atMost ∧
        c.bound.value Rat = 0 ∧ rowTerms Rat c none = objectiveTerms Rat o.1.objective))) =
      some (.unbounded, .maximize, true) := by
    decide +kernel
  obtain ⟨⟨p, s⟩, ho, hr⟩ := Option.map_eq_some_iff.1 h
  obtain ⟨hst, hd, hc⟩ : s.status = .unbounded ∧ p.objective.direction = .maximize ∧
      ∃ c ∈ p.constraints, c.relation = .atMost ∧ c.bound.value Rat = 0 ∧
        rowTerms Rat c none = objectiveTerms Rat p.objective := by
    simpa only [Option.some_inj, Prod.mk.injEq, decide_eq_true_eq] using hr
  obtain ⟨c, hmem, hrel, hbound, hterms⟩ := hc
  refine ⟨p, s, ho, hst, fun hunl => ?_⟩
  obtain ⟨x, hx, hlt⟩ := hunl 0
  have hle := hx.2 c hmem
  have hsum : Term.sumAt x c.terms = p.objective.valueAt x := by
    rw [← sum_rowTerms_none, hterms, sum_objectiveTerms]
  rw [Constraint.Holds, hrel, hbound, hsum] at hle
  rw [hd] at hlt
  exact absurd hlt (not_lt.2 hle)

end Problem

end LinearProgram
