import LinearProgram.Proofs.Columns
import LinearProgram.Proofs.Completion
import LinearProgram.Proofs.Invariant

namespace LinearProgram

namespace Tableau

section Started

variable {α : Type} [Scalar α]

def rowOfStandard (r : StandardRow α) : Row α :=
  ⟨0, r.equation.coefficients, r.rhs⟩

structure Started (p : StandardForm α) (t : Tableau α) : Prop where
  names_eq : t.names = p.names
  objective_eq : t.objective = objectiveRow p.objective p.names.length
  rows_eq : t.rows = p.rows.map rowOfStandard
  basis_eq : t.basis.map some = p.initialBasis
  width_eq : ∀ r ∈ p.rows, r.equation.width = p.names.length
  rhs_ge : ∀ r ∈ p.rows, ¬ r.rhs < 0

lemma startRow_eq_ok {width index : Nat} {r : StandardRow α} {b : String × Row α}
    (h : startRow width index r = .ok b) :
    some b.1 = r.basicName ∧ b.2 = rowOfStandard r ∧ r.equation.width = width ∧ ¬ r.rhs < 0 := by
  rw [startRow] at h
  split at h
  · cases h
  · rename_i hw
    split at h
    · cases h
    · rename_i name hname
      split at h
      · cases h
      · rename_i hrhs
        cases h
        exact ⟨hname.symm, rfl, not_not.1 hw, hrhs⟩

lemma startRows_eq_ok {width index : Nat} {rs : List (StandardRow α)} {bs : List (String × Row α)}
    (h : startRows width index rs = .ok bs) :
    (bs.map fun b => some b.1) = rs.map StandardRow.basicName ∧
      bs.map Prod.snd = rs.map rowOfStandard ∧
      ∀ r ∈ rs, r.equation.width = width ∧ ¬ r.rhs < 0 := by
  induction rs generalizing index bs with
  | nil =>
    cases h
    exact ⟨rfl, rfl, fun r hr => nomatch hr⟩
  | cons r rs ih =>
    simp only [startRows, bind, Except.bind, pure, Except.pure] at h
    split at h
    · cases h
    · rename_i b hb
      split at h
      · cases h
      · rename_i bs hbs
        cases h
        obtain ⟨hname, hrow, hr⟩ := startRow_eq_ok hb
        obtain ⟨hnames, hrows, hrs⟩ := ih hbs
        refine ⟨by rw [List.map_cons, hname, hnames, List.map_cons],
          by rw [List.map_cons, hrow, hrows, List.map_cons], fun q hq => ?_⟩
        rcases List.mem_cons.1 hq with rfl | hq
        · exact hr
        · exact hrs q hq

theorem started_of_start {p : StandardForm α} {t : Tableau α} (h : start p = .ok t) :
    Started p t := by
  simp only [start, bind, Except.bind, pure, Except.pure] at h
  split at h
  · cases h
  · split at h
    · cases h
    · rename_i bs hbs
      cases h
      obtain ⟨hnames, hrows, hrs⟩ := startRows_eq_ok hbs
      exact ⟨rfl, rfl, hrows, by rw [List.map_map]; exact hnames, fun r hr => (hrs r hr).1,
        fun r hr => (hrs r hr).2⟩

end Started

variable {o : Objective} {cs : List Constraint} {t : Tableau Rat}

open Problem

lemma Started.allAdded (h : Started (standardForm Rat o cs) t) : AllAdded o cs := by
  intro r hr hn
  have hb : r.basicName ∈ t.basis.map some := by
    rw [h.basis_eq]
    exact List.mem_map_of_mem hr
  rw [StandardRow.basicName, hn] at hb
  simp at hb

lemma Started.basis_eq_addedNames (h : Started (standardForm Rat o cs) t) :
    t.basis = addedNames (addedVariables Rat o cs) := by
  have := congrArg (List.filterMap id) (h.basis_eq.trans (initialBasis_standardForm o cs))
  simpa [List.filterMap_map, addedNames, Function.comp_def] using this

lemma Started.length_rows (h : Started (standardForm Rat o cs) t) :
    t.rows.length = (standardForm Rat o cs).rows.length := by
  rw [h.rows_eq, List.length_map]

lemma Started.length_basis (h : Started (standardForm Rat o cs) t) :
    t.basis.length = (standardForm Rat o cs).rows.length := by
  have := congrArg List.length h.basis_eq
  simpa [StandardForm.initialBasis] using this

lemma Started.length_objective (h : Started (standardForm Rat o cs) t) :
    t.objective.entries.length = (standardForm Rat o cs).names.length := by
  have hle : (unknowns o cs).length ≤ (variableNames Rat o cs).length := by simp [variableNames]
  simp [h.objective_eq, objectiveRow, standardForm]
  omega

lemma Started.objective_entry (h : Started (standardForm Rat o cs) t) {name : String}
    (hb : name ∈ t.basis) : t.objective.entry (t.names.idxOf name) = 0 := by
  rw [h.basis_eq_addedNames] at hb
  have hu := notMem_unknowns_of_added hb
  have hn : t.names = unknowns o cs ++ addedNames (addedVariables Rat o cs) := h.names_eq
  rw [hn, List.idxOf_append_of_notMem hu, h.objective_eq]
  simp only [Row.entry, objectiveRow, standardForm, List.getD_eq_getElem?_getD]
  rw [List.getElem?_append_right (by simp), List.getElem?_replicate]
  split <;> rfl

lemma Started.entry (h : Started (standardForm Rat o cs) t) {i k : Nat} {name : String}
    {r : Row Rat} (hi : t.basis[i]? = some name) (hr : t.rows[k]? = some r) :
    r.entry (t.names.idxOf name) = if k = i then 1 else 0 := by
  have hb : (t.basis.map some)[i]? = some (some name) := by rw [List.getElem?_map, hi]; rfl
  rw [h.basis_eq, StandardForm.initialBasis, List.getElem?_map] at hb
  obtain ⟨u, hu, hname⟩ := Option.map_eq_some_iff.1 hb
  rw [h.rows_eq, List.getElem?_map] at hr
  obtain ⟨q, hq, rfl⟩ := Option.map_eq_some_iff.1 hr
  obtain ⟨x, hx, hunit⟩ := column_standardForm hu hname hq
  have hnames : t.names = variableNames Rat o cs := h.names_eq
  rw [hnames]
  split
  · rw [if_pos ‹k = i›] at hunit
    exact hunit ▸ Row.entry_of_getElem? hx
  · rw [if_neg ‹¬ k = i›] at hunit
    exact eq_of_beq hunit ▸ Row.entry_of_getElem? hx

theorem Started.proper (h : Started (standardForm Rat o cs) t) :
    t.Proper (standardForm Rat o cs).rows.length (standardForm Rat o cs).names.length where
  length_rows := h.length_rows
  length_names := by rw [h.names_eq]
  length_basis := h.length_basis
  width := by
    intro r hr
    rcases List.mem_cons.1 hr with rfl | hr
    · exact h.length_objective
    · rw [h.rows_eq] at hr
      obtain ⟨q, hq, rfl⟩ := List.mem_map.1 hr
      exact h.width_eq q hq
  basis_nodup := by
    rw [h.basis_eq_addedNames]
    exact (List.nodup_append.1 (nodup_variableNames o cs)).2.1
  basis_subset := by
    rw [h.basis_eq_addedNames, h.names_eq]
    exact List.subset_append_right _ _
  objective_z := by rw [h.objective_eq]; rfl
  rows_z := by
    intro r hr
    rw [h.rows_eq] at hr
    obtain ⟨q, -, rfl⟩ := List.mem_map.1 hr
    rfl
  objective_entry := fun _ hb => h.objective_entry hb
  entry := fun _ _ _ _ hi hr => h.entry hi hr
  names_nodup := by
    rw [h.names_eq]
    exact nodup_variableNames o cs

lemma Started.feasible (h : Started (standardForm Rat o cs) t) : t.Feasible := by
  intro r hr
  rw [h.rows_eq] at hr
  obtain ⟨q, hq, rfl⟩ := List.mem_map.1 hr
  exact not_lt.1 (h.rhs_ge q hq)

lemma Started.objective_holds_iff (h : Started (standardForm Rat o cs) t) (z : Rat)
    (x : String → Rat) :
    t.objective.Holds z (t.names.map x) ↔ z = (standardForm Rat o cs).objectiveAt x := by
  have hn : t.names = unknowns o cs ++ addedNames (addedVariables Rat o cs) := h.names_eq
  rw [h.objective_eq, hn, StandardForm.objectiveAt, decisionVariables_standardForm, Row.Holds]
  simp only [objectiveRow, standardForm, List.map_append]
  rw [dot_append (by simp), dot_map_neg, dot_replicate_zero]
  constructor <;> intro he <;> linarith

theorem Started.satisfies_iff (h : Started (standardForm Rat o cs) t) (z : Rat)
    (x : String → Rat) :
    t.Satisfies z x ↔
      z = (standardForm Rat o cs).objectiveAt x ∧ (standardForm Rat o cs).Holds x := by
  have hrow (q : StandardRow Rat) :
      (rowOfStandard q).Holds z (t.names.map x) ↔
        q.equation.Holds (standardForm Rat o cs).names x := by
    rw [← h.names_eq]
    simp [Row.Holds, LinearForm.Holds, rowOfStandard, StandardRow.rhs]
  rw [Satisfies, Holds, allRows, List.forall_mem_cons, h.objective_holds_iff, h.rows_eq, List.forall_mem_map]
  simp only [hrow]
  rfl

end Tableau

end LinearProgram
