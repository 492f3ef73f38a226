import LinearProgram.Proofs.Alternates
import LinearProgram.Proofs.Feasibility
import LinearProgram.Proofs.Optimality
import LinearProgram.Proofs.Ray

/-!
All optima, and the two that are reported. The optima on the line through the two are the convex
combinations of them. In any other optimum some variable is above zero that costs nothing and is in
neither basis, and there is such an optimum unless rows with a zero right-hand side are in its way.
-/

namespace LinearProgram

namespace Tableau

open Finset

variable {t t' : Tableau Rat} {m n i j : Nat} {e : String} {r : Row Rat} {z z' : Rat}
  {x y : String → Rat} {name : String}

lemma Proper.eq_of_eq_on_nonbasic (h : t.Proper m n) (hx : t.Satisfies z x)
    (hy : t.Satisfies z' y) (hxy : ∀ name ∈ t.nonbasic, y name = x name) :
    ∀ name ∈ t.names, y name = x name := by
  rw [h.satisfies_iff] at hx hy
  intro name hname
  by_cases hb : name ∈ t.basis
  · obtain ⟨i, hi⟩ := List.mem_iff_getElem?.1 hb
    obtain ⟨r, hr⟩ := h.row_of_basis hi
    rw [hx.2 i name r hi hr, hy.2 i name r hi hr, rest_congr hxy]
  · exact hxy name (mem_nonbasic.2 ⟨hname, hb⟩)

def between (c : Rat) (x y : String → Rat) : String → Rat :=
  x + c • (y - x)

lemma between_apply (c : Rat) (x y : String → Rat) (name : String) :
    between c x y name = (1 - c) * x name + c * y name := by
  simp only [between, Pi.add_apply, Pi.smul_apply, Pi.sub_apply, smul_eq_mul]
  ring

lemma Proper.satisfies_between (h : t.Proper m n) (hx : t.Satisfies z x) (hy : t.Satisfies z' y)
    (c : Rat) : ∃ w, t.Satisfies w (between c x y) :=
  ⟨_, h.satisfies_add hx ((h.follows_sub hx hy).1.smul c)⟩

namespace Exchange

variable (hx : t.Exchange i j e r) (h : t.Proper m n)

include hx h

lemma leaving_notMem_basis {l : String} (hl : t.basis[i]? = some l) :
    l ∉ (t.pivot i j).basis := by
  intro hmem
  obtain ⟨k, hk⟩ := List.mem_iff_getElem?.1 hmem
  by_cases hki : k = i
  · subst hki
    obtain rfl : e = l := Option.some_inj.1 ((hx.basis_pivot_self h).symm.trans hk)
    exact hx.notMem_basis (List.mem_of_getElem? hl)
  · rw [hx.basis_pivot, List.getElem?_set_ne (Ne.symm hki)] at hk
    obtain ⟨hi, -⟩ := List.getElem?_eq_some_iff.1 hl
    exact hki ((List.getElem?_inj hi h.basis_nodup).1 (hl.trans hk.symm)).symm

lemma reading_pivot_of_ne (hname : name ∈ t.nonbasic) (hne : name ≠ e) :
    (t.pivot i j).reading name = 0 := by
  refine (hx.proper_pivot h).reading_of_notMem_basis fun hmem => ?_
  rw [hx.basis_pivot] at hmem
  rcases List.mem_or_eq_of_mem_set hmem with hmem | rfl
  · exact (mem_nonbasic.1 hname).2 hmem
  · exact hne rfl

/-- With positive entry and ratio, a pivot leads along an edge: the non-negative solutions that hold
all other variables outside the basis at zero are those between the two readings. -/
theorem eq_between_iff (hentry : 0 < r.entry j) (hratio : 0 < r.rhs / r.entry j)
    (hy : t.Satisfies z y) (hnn : ∀ name ∈ t.names, 0 ≤ y name) :
    (∃ c, 0 ≤ c ∧ c ≤ 1 ∧ ∀ name ∈ t.names, y name =
        between c t.reading (t.pivot i j).reading name) ↔
      ∀ name ∈ t.nonbasic, name ≠ e → y name = 0 := by
  have hent : t.reading e = 0 := h.reading_of_notMem_basis hx.notMem_basis
  have hent' : (t.pivot i j).reading e = r.rhs / r.entry j := hx.reading_pivot h
  constructor
  · rintro ⟨c, -, -, hc⟩ name hname hne
    rw [hc name (mem_nonbasic.1 hname).1, between_apply, hx.reading_pivot_of_ne h hname hne,
      h.reading_of_notMem_basis (mem_nonbasic.1 hname).2, mul_zero, mul_zero, add_zero]
  · intro hzero
    have hsat := (hx.satisfies_pivot_iff h _ _).1 (hx.proper_pivot h).satisfies_reading
    let c := y e / (r.rhs / r.entry j)
    obtain ⟨w, hw⟩ := h.satisfies_between h.satisfies_reading hsat c
    have hnonbasic : ∀ name ∈ t.nonbasic,
        y name = between c t.reading (t.pivot i j).reading name := by
      intro name hname
      rw [between_apply, h.reading_of_notMem_basis (mem_nonbasic.1 hname).2, mul_zero, zero_add]
      by_cases hne : name = e
      · rw [hne, hent', div_mul_cancel₀ _ hratio.ne']
      · rw [hzero name hname hne, hx.reading_pivot_of_ne h hname hne, mul_zero]
    have hall := h.eq_of_eq_on_nonbasic hw hy hnonbasic
    refine ⟨c, ?_, ?_, hall⟩
    · exact div_nonneg (hnn e (List.mem_of_getElem? hx.column)) hratio.le
    · -- beyond the second reading the variable that left would be negative
      obtain ⟨l, hl⟩ := h.basis_of_row hx.row
      have hlmem : l ∈ t.names := h.basis_subset (List.mem_of_getElem? hl)
      have hleft := hall l hlmem
      rw [between_apply, h.reading_basis hl hx.row,
        (hx.proper_pivot h).reading_of_notMem_basis (hx.leaving_notMem_basis h hl), mul_zero,
        add_zero] at hleft
      have hrhs : 0 < r.rhs := (div_pos_iff_of_pos_right hentry).1 hratio
      have := nonneg_of_mul_nonneg_left (hleft ▸ hnn l hlmem) hrhs
      linarith

end Exchange

structure Free (t t' : Tableau Rat) (name : String) : Prop where
  mem_names : name ∈ t.names
  notMem_basis : name ∉ t.basis
  notMem_basis' : name ∉ t'.basis
  entry_eq_zero : t.objective.entry (t.names.idxOf name) = 0

instance : Decidable (t.Free t' name) :=
  decidable_of_iff (name ∈ t.names ∧ name ∉ t.basis ∧ name ∉ t'.basis ∧
      t.objective.entry (t.names.idxOf name) = 0)
    ⟨fun ⟨hm, hb, hb', hc⟩ => ⟨hm, hb, hb', hc⟩, fun ⟨hm, hb, hb', hc⟩ => ⟨hm, hb, hb', hc⟩⟩

lemma Free.mem_nonbasic (hf : t.Free t' name) : name ∈ t.nonbasic :=
  Tableau.mem_nonbasic.2 ⟨hf.mem_names, hf.notMem_basis⟩

lemma Follows.pos_of_falls {v : String → Rat} (hv : t.Follows v) (h : t.Proper m n)
    (hf : t.Feasible) (hrest : ∀ r, t.rest r v = r.entry j) (hb : ¬ t.Blocked j) {k : String}
    (hk : k ∈ t.basis) (hfall : v k < 0) : 0 < t.reading k := by
  obtain ⟨i, hi⟩ := List.mem_iff_getElem?.1 hk
  obtain ⟨q, hq⟩ := h.row_of_basis hi
  have hmem := List.mem_of_getElem? hq
  rw [hv i k q hi hq, hrest, neg_lt_zero] at hfall
  rw [h.reading_basis hi hq]
  exact (hf q hmem).lt_of_ne' fun h0 => hb ⟨q, hmem, h0, hfall⟩

theorem Proper.exists_raised (h : t.Proper m n) (hf : t.Feasible) (hname : name ∈ t.nonbasic)
    (hb : ¬ t.Blocked (t.names.idxOf name)) :
    ∃ c y, 0 < c ∧ y name = c ∧ (∀ k ∈ t.names, 0 ≤ y k) ∧
      t.Satisfies (t.objectiveValue - c * t.objective.entry (t.names.idxOf name)) y := by
  obtain ⟨v, hv, hvn⟩ := h.exists_follows fun k => if k = name then 1 else 0
  have hrest (r : Row Rat) : t.rest r v = r.entry (t.names.idxOf name) := by
    rw [rest_congr hvn, rest, sum_eq_single name]
    · rw [if_pos rfl, mul_one]
    · intro k _ hk
      rw [if_neg hk, mul_zero]
    · exact fun hn => absurd hname hn
  -- what falls along the direction is basic, and its row does not block
  have hpos (k : String) (hk : k ∈ t.names) (hfall : v k < 0) : 0 < t.reading k := by
    refine hv.pos_of_falls h hf hrest hb ?_ hfall
    by_contra hkb
    rw [hvn k (mem_nonbasic.2 ⟨hk, hkb⟩)] at hfall
    split at hfall
    · exact absurd hfall (by norm_num)
    · exact lt_irrefl 0 hfall
  have hnn := h.feasible_iff.1 hf
  obtain ⟨c, hc, hy⟩ : ∃ c : Rat, 0 < c ∧ ∀ k ∈ t.names, 0 ≤ (t.reading + c • v) k := by
    by_cases hfall : ∃ k ∈ t.names, v k < 0
    · obtain ⟨c, hc, hy, k, hk, hlt, hzero⟩ := exists_blocking hnn hfall
      refine ⟨c, hc.lt_of_ne ?_, hy⟩
      rintro rfl
      rw [zero_smul, add_zero] at hzero
      exact (hpos k hk hlt).ne' hzero
    · refine ⟨1, one_pos, fun k hk => ?_⟩
      rw [one_smul]
      exact add_nonneg (hnn k hk) (not_lt.1 fun hlt => hfall ⟨k, hk, hlt⟩)
  refine ⟨c, t.reading + c • v, hc, ?_, hy, ?_⟩
  · rw [Pi.add_apply, Pi.smul_apply, h.reading_of_notMem_basis (mem_nonbasic.1 hname).2,
      hvn name hname, if_pos rfl, zero_add, smul_eq_mul, mul_one]
  · have hsat := h.satisfies_add h.satisfies_reading (hv.smul c)
    rwa [rest_smul, hrest] at hsat

end Tableau

namespace Run

open Tableau

variable {d : Direction} {s s' : Run Rat} {m n i j : Nat} {e : String} {r : Row Rat}
  {y : String → Rat}

lemma Levels.free_iff (hl : Levels d s s' i j e r) (h : s.tableau.Proper m n) {name : String} :
    s'.tableau.Free s.tableau name ↔ name ∈ s.tableau.nonbasic ∧ name ≠ e ∧
      s.tableau.objective.entry (s.tableau.names.idxOf name) = 0 := by
  have hx := hl.toExchange
  have hnames : s'.tableau.names = s.tableau.names := by rw [hl.tableau_eq, names_pivot]
  constructor
  · rintro ⟨hmem, hb', hb, hcost⟩
    rw [hl.objective_eq, hnames] at hcost
    refine ⟨mem_nonbasic.2 ⟨hnames ▸ hmem, hb⟩, ?_, hcost⟩
    rintro rfl
    rw [hl.tableau_eq] at hb'
    exact hb' (hx.entering_mem_basis h)
  · rintro ⟨hmem, hne, hcost⟩
    obtain ⟨hname, hb⟩ := mem_nonbasic.1 hmem
    refine ⟨hnames ▸ hname, ?_, hb, by rwa [hl.objective_eq, hnames]⟩
    rw [hl.tableau_eq, hx.basis_pivot]
    intro hb'
    exact (List.mem_or_eq_of_mem_set hb').elim hb hne

theorem Levels.eq_between_iff (hl : Levels d s s' i j e r) (h : s.tableau.Proper m n)
    (hy : s.tableau.Satisfies s.tableau.objectiveValue y)
    (hnn : ∀ name ∈ s.tableau.names, 0 ≤ y name) :
    (∃ c, 0 ≤ c ∧ c ≤ 1 ∧ ∀ name ∈ s.tableau.names, y name =
        between c s.tableau.reading s'.tableau.reading name) ↔
      ∀ name, s'.tableau.Free s.tableau name → y name = 0 := by
  have hedge := hl.toExchange.eq_between_iff h hl.entry_gt hl.ratio_gt hy hnn
  rw [← hl.tableau_eq] at hedge
  rw [hedge]
  constructor
  · intro hzero name hfree
    obtain ⟨hname, hne, -⟩ := (hl.free_iff h).1 hfree
    exact hzero name hname hne
  · intro hzero name hname hne
    by_cases hcost : s.tableau.objective.entry (s.tableau.names.idxOf name) = 0
    · exact hzero name ((hl.free_iff h).2 ⟨hname, hne, hcost⟩)
    · exact hl.settled.eq_zero_of_optimum h hy hnn hname hcost

end Run

namespace Problem

open Tableau

variable {lines : List String} {p : Problem Rat} {t : Tableau Rat} {s : Solution Rat} {cap : Nat}
  {trace : Bool}

def SpansOptima (p : Problem Rat) (s : Solution Rat) : Prop :=
  ∀ x, p.Feasible x → p.objective.valueAt x = s.objectiveValue →
    ∃ a b : Rat, 0 ≤ a ∧ 0 ≤ b ∧ a + b = 1 ∧ ∀ n ∈ unknowns p.objective p.constraints,
      ∃ u v, s.alternateValue? n = some u ∧ s.value? n = some v ∧ x n = a * u + b * v

namespace Solved

variable {e s₁ : Run Rat} {lasts : List (Step Rat)} {i j : Nat} {x : String} {r : Row Rat}
  (h : Solved p 0 cap t e .alternateOptima lasts)
  (hr : Run.Reaches p.standard.direction 0 (Run.start t) s₁)
  (hl : Run.Levels p.standard.direction s₁ e i j x r)

include h hr

lemma eq_between_of_agree {y : String → Rat} {c : Rat} (hy : p.standard.Holds y)
    (hagree : ∀ n ∈ unknowns p.objective p.constraints,
      y n = between c s₁.tableau.reading e.tableau.reading n) :
    ∀ n ∈ p.standard.names, y n = between c s₁.tableau.reading e.tableau.reading n := by
  have hrep := h.represents le_rfl hr
  have hlast := (h.represents le_rfl h.ends.reaches).satisfies_reading
  rw [h.satisfies_iff le_rfl h.ends.reaches, ← h.satisfies_iff le_rfl hr] at hlast
  obtain ⟨w, hw⟩ := hrep.satisfies_between hrep.satisfies_reading hlast c
  have hline := ((h.satisfies_iff le_rfl hr _ _).1 hw).2
  -- both points solve the equations, and these leave no choice beyond the unknowns
  rw [h.standard_eq] at hy hline ⊢
  exact fun n hn => eq_of_agree hy hline hagree hn

include hl

lemma reported_values {n : String} (hn : n ∈ p.standard.names) (d : Direction) (count : Nat)
    (trace : Bool) :
    (e.finish d count trace .alternateOptima lasts).alternateValue? n =
        some (s₁.tableau.reading n) ∧
      (e.finish d count trace .alternateOptima lasts).value? n = some (e.tableau.reading n) := by
  have hnames : s₁.tableau.names = p.standard.names := h.names_eq le_rfl hr
  have hnames' : e.tableau.names = p.standard.names := h.names_eq le_rfl h.ends.reaches
  simp only [Solution.alternateValue?, Solution.value?, Run.finish, if_true, hl.alternate_eq,
    Option.bind_some]
  rw [hnames', ← hnames]
  constructor
  · exact valueIn_eq_some s₁.tableau.length_basicValues (hnames ▸ hn)
  · rw [hnames, ← hnames']
    exact valueIn_eq_some e.tableau.length_basicValues (hnames' ▸ hn)

lemma spansOptima_iff_between (trace : Bool) :
    p.SpansOptima (e.finish p.standard.direction p.standard.decisionCount trace .alternateOptima
        lasts) ↔
      ∀ x, p.Feasible x → p.objective.valueAt x = e.tableau.objectiveValue →
        ∃ c, 0 ≤ c ∧ c ≤ 1 ∧ ∀ n ∈ unknowns p.objective p.constraints,
          x n = between c s₁.tableau.reading e.tableau.reading n := by
  have hvalues {n : String} (hn : n ∈ unknowns p.objective p.constraints) :=
    h.reported_values hr hl (h.unknowns_subset hn) p.standard.direction p.standard.decisionCount
      trace
  refine forall_congr' fun x => forall_congr' fun hx => forall_congr' fun hval => ?_
  constructor
  · rintro ⟨a, b, ha, hb, hab, hcomb⟩
    refine ⟨b, hb, by linarith, fun n hn => ?_⟩
    obtain ⟨u, v, hu, hv, hxn⟩ := hcomb n hn
    cases hu.symm.trans (hvalues hn).1
    cases hv.symm.trans (hvalues hn).2
    rw [hxn, between_apply, ← hab, add_sub_cancel_right]
  · rintro ⟨c, hc0, hc1, hc⟩
    refine ⟨1 - c, c, by linarith, hc0, by ring, fun n hn => ?_⟩
    exact ⟨_, _, (hvalues hn).1, (hvalues hn).2, (hc n hn).trans (between_apply _ _ _ _)⟩

theorem spansOptima_iff (trace : Bool) :
    p.SpansOptima (e.finish p.standard.direction p.standard.decisionCount trace .alternateOptima
        lasts) ↔
      ∀ y, p.standard.Feasible y → p.standard.objectiveAt y = e.tableau.objectiveValue →
        ∀ name, e.tableau.Free s₁.tableau name → y name = 0 := by
  have hrep := h.represents le_rfl hr
  have hnames : s₁.tableau.names = p.standard.names := h.names_eq le_rfl hr
  have hz : e.tableau.objectiveValue = s₁.tableau.objectiveValue := hl.objectiveValue_eq
  rw [h.spansOptima_iff_between hr hl]
  constructor
  · intro hspans y hy hobj
    have hsat := (h.satisfies_iff le_rfl hr _ y).2 ⟨hobj.symm, hy.2⟩
    have hx := feasible_of_standard h.standard_eq h.allAdded hy
    rw [objectiveAt_eq_valueAt h.standard_eq] at hobj
    obtain ⟨c, hc0, hc1, hc⟩ := hspans y hx hobj
    have hall := h.eq_between_of_agree hr hy.2 hc
    have hnn := hy.1
    rw [← hnames] at hnn hall
    rw [hz] at hsat
    exact (hl.eq_between_iff hrep.toProper hsat hnn).1 ⟨c, hc0, hc1, hall⟩
  · intro hzero x hx hval
    obtain ⟨y, hyx, hsat, hnn⟩ := h.exists_satisfies le_rfl hr hx
    obtain ⟨hobj, hholds⟩ := (h.satisfies_iff le_rfl hr _ _).1 hsat
    rw [hval] at hobj
    rw [hval, hz] at hsat
    obtain ⟨c, hc0, hc1, hc⟩ := (hl.eq_between_iff hrep.toProper hsat hnn).2
      (hzero y ⟨hnames ▸ hnn, hholds⟩ hobj.symm)
    refine ⟨c, hc0, hc1, fun n hn => ?_⟩
    rw [← hyx n hn, hc n (hnames ▸ h.unknowns_subset hn)]

theorem not_spansOptima_of_free {name : String} (hfree : e.tableau.Free s₁.tableau name)
    (hf : e.tableau.Feasible) (hb : ¬ e.tableau.Blocked (e.tableau.names.idxOf name)) :
    ¬ p.SpansOptima (e.finish p.standard.direction p.standard.decisionCount trace .alternateOptima
        lasts) := by
  have hrep := h.represents le_rfl h.ends.reaches
  obtain ⟨c, y, hc, hyc, hnn, hsat⟩ := hrep.exists_raised hf hfree.mem_nonbasic hb
  rw [hfree.entry_eq_zero, mul_zero, sub_zero, h.satisfies_iff le_rfl h.ends.reaches] at hsat
  rw [h.names_eq le_rfl h.ends.reaches] at hnn
  intro hspans
  have hzero := (h.spansOptima_iff hr hl trace).1 hspans y ⟨hnn, hsat.2⟩ hsat.1.symm name hfree
  exact hc.ne' (hyc.symm.trans hzero)

end Solved

/-- The two reported optima span all others just where no optimum has a free variable above zero. A
free variable that no row with a zero right-hand side blocks is above zero in some optimum. -/
theorem spansOptima_iff_of_alternateOptima (hp : ofLines lines = .ok p)
    (hs : p.standard.solve ⟨cap, 0, trace⟩ = .ok s) (hst : s.status = .alternateOptima) :
    ∃ traced step, p.standard.solve ⟨cap, 0, true⟩ = .ok traced ∧
      traced.pivots.getLast? = some step ∧
      (p.SpansOptima s ↔
        ∀ y, p.standard.Feasible y → p.standard.objectiveAt y = s.objectiveValue →
          ∀ name, s.tableau.Free step.tableau name → y name = 0) ∧
      ((∀ name, ¬ s.tableau.Free step.tableau name) → p.SpansOptima s) ∧
      (∀ name, s.tableau.Free step.tableau name → s.tableau.Feasible →
        ¬ s.tableau.Blocked (s.tableau.names.idxOf name) → ¬ p.SpansOptima s) := by
  obtain ⟨t, e, status, lasts, h, rfl⟩ := exists_solved hp hs
  obtain rfl : status = .alternateOptima := hst
  obtain ⟨last, s₁, i, j, x, r, -, -, hr, hl⟩ := h.exists_levels
  have hiff := h.spansOptima_iff hr hl trace
  refine ⟨_, s₁.pivotStep 0 i j, h.solve_eq true, ?_, hiff, fun hno => ?_, fun name hfree hf hb => ?_⟩
  · rw [Run.pivots_finish, hl.past_eq, List.getLast?_reverse, List.head?_cons]
  · exact hiff.2 fun y _ _ name hfree => absurd hfree (hno name)
  · exact h.not_spansOptima_of_free hr hl hfree hf hb

theorem spansOptima_of_edge :
    ∃ p s, outcome? ["Maximize: z = 2x1 + 4x2", "x1 + 2x2 <= 5", "x1 + x2 <= 4"] ⟨10000, 0, true⟩ =
        some (p, s) ∧ s.status = .alternateOptima ∧ p.SpansOptima s := by
  have h : ((outcome? ["Maximize: z = 2x1 + 4x2", "x1 + 2x2 <= 5", "x1 + x2 <= 4"]
      ⟨10000, 0, true⟩).map fun o => (o.2.status, decide (∀ step ∈ o.2.pivots.getLast?,
        ∀ name ∈ o.2.tableau.names, ¬ o.2.tableau.Free step.tableau name))) =
      some (.alternateOptima, true) := by decide +kernel
  obtain ⟨⟨p, s⟩, ho, hr⟩ := Option.map_eq_some_iff.1 h
  obtain ⟨hp, hs⟩ := outcome?_eq_some ho
  obtain ⟨hst, hno⟩ := Prod.mk.inj hr
  obtain ⟨traced, step, ht, hstep, -, hspans, -⟩ := spansOptima_iff_of_alternateOptima hp hs hst
  obtain rfl : s = traced := Except.ok.inj (hs.symm.trans ht)
  refine ⟨p, s, ho, hst, hspans fun name hfree => ?_⟩
  exact of_decide_eq_true hno step hstep name hfree.mem_names hfree

/-- The point with `x2 = 4` is an optimum too, and `x2` is zero in both that are reported. -/
theorem not_spansOptima_of_three_optima :
    ∃ p s, outcome? ["Maximize: z = x1 + x2 + 2x3", "x1 + x2 + 2x3 <= 4"] ⟨10000, 0, false⟩ =
        some (p, s) ∧ s.status = .alternateOptima ∧ ¬ p.SpansOptima s := by
  let x (name : String) : Rat := if name = "x2" then 4 else 0
  have h : ((outcome? ["Maximize: z = x1 + x2 + 2x3", "x1 + x2 + 2x3 <= 4"] ⟨10000, 0, false⟩).map
      fun o => (o.2.status, o.2.alternateValue? "x2", o.2.value? "x2",
        decide (o.1.Feasible x ∧ o.1.objective.valueAt x = o.2.objectiveValue ∧
          "x2" ∈ unknowns o.1.objective o.1.constraints))) =
      some (.alternateOptima, some 0, some 0, true) := by decide +kernel
  obtain ⟨⟨p, s⟩, ho, hr⟩ := Option.map_eq_some_iff.1 h
  simp only [Prod.mk.injEq, decide_eq_true_eq] at hr
  obtain ⟨hst, halternate, hvalue, hx, hobj, hmem⟩ := hr
  refine ⟨p, s, ho, hst, fun hspans => ?_⟩
  obtain ⟨a, b, -, -, -, hcomb⟩ := hspans x hx hobj
  obtain ⟨u, v, hu, hv, hxv⟩ := hcomb "x2" hmem
  cases halternate.symm.trans hu
  cases hvalue.symm.trans hv
  simp [x] at hxv

end Problem

end LinearProgram
