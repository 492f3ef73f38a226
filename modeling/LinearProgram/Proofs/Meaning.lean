import LinearProgram.Proofs.LinearForm
import LinearProgram.Proofs.StandardForm

namespace LinearProgram

instance Relation.decidableHolds : (r : Relation) → (a b : Rat) → Decidable (r.Holds a b)
  | .atMost, a, b => inferInstanceAs (Decidable (a ≤ b))
  | .atLeast, a, b => inferInstanceAs (Decidable (b ≤ a))
  | .equal, a, b => inferInstanceAs (Decidable (a = b))

instance Constraint.decidableHolds (c : Constraint) (x : String → Rat) : Decidable (c.Holds x) :=
  c.relation.decidableHolds _ _

instance Problem.decidableFeasible (p : Problem Rat) (x : String → Rat) :
    Decidable (p.Feasible x) :=
  inferInstanceAs (Decidable (_ ∧ _))

def Constraint.distance (c : Constraint) (x : String → Rat) : Rat :=
  match Problem.addedKind Rat c with
  | some .slack => c.bound.value Rat - Term.sumAt x c.terms
  | some .surplus => Term.sumAt x c.terms - c.bound.value Rat
  | none => 0

lemma Term.sumAt_congr {x y : String → Rat} {ts : List Term} (h : ∀ t ∈ ts, y t.name = x t.name) :
    Term.sumAt y ts = Term.sumAt x ts := by
  unfold Term.sumAt Term.valueAt
  rw [List.map_congr_left fun t ht => by rw [h t ht]]

namespace Constraint

variable {c : Constraint} {x y : String → Rat}

lemma distance_congr (h : ∀ t ∈ c.terms, y t.name = x t.name) : c.distance y = c.distance x := by
  simp only [distance]
  rw [Term.sumAt_congr h]

lemma holds_congr (h : ∀ t ∈ c.terms, y t.name = x t.name) : c.Holds y ↔ c.Holds x := by
  rw [Holds, Holds, Term.sumAt_congr h]

lemma holds_iff_distance (h : Problem.addedKind Rat c ≠ none) : c.Holds x ↔ 0 ≤ c.distance x := by
  rw [Holds, distance, Problem.addedKind] at *
  cases hr : c.relation with
  | atMost => exact sub_nonneg.symm
  | atLeast =>
    simp only [hr] at h ⊢
    split at h
    · rename_i hb
      simp only [hb, if_true]
      exact sub_nonneg.symm
    · exact absurd rfl h
  | equal =>
    rw [hr] at h
    exact absurd rfl h

lemma holds_of_isSignBound (h : c.isSignBound Rat = true) (hx : ∀ t ∈ c.terms, 0 ≤ x t.name) :
    c.Holds x := by
  rw [isSignBound] at h
  simp only [Bool.and_eq_true, decide_eq_true_eq] at h
  obtain ⟨⟨hrel, hb⟩, ht⟩ := h
  split at ht
  · rename_i t hts
    have hc : 0 < t.coefficient.value Rat := by simpa using ht
    have hv : 0 ≤ t.coefficient.value Rat * x t.name :=
      mul_nonneg hc.le (hx t (by rw [hts]; exact List.mem_cons_self))
    have hsum : Term.sumAt x c.terms = t.coefficient.value Rat * x t.name := by
      rw [hts]
      simp [Term.sumAt, Term.valueAt]
    rw [Holds, hrel, eq_of_beq hb, hsum]
    exact hv
  · cases ht

def Balanced (c : Constraint) (added : Option AddedVariable) (x : String → Rat) : Prop :=
  match added with
  | none => Term.sumAt x c.terms = c.bound.value Rat
  | some v => x v.name = c.distance x

def Startable (c : Constraint) : Prop :=
  c.relation = .atLeast → c.bound.value Rat < 0

lemma Startable.relation_eq (hc : c.Startable) (h : Problem.addedKind Rat c = none) :
    c.relation = .equal := by
  rw [Problem.addedKind] at h
  cases hr : c.relation with
  | atMost => simp [hr] at h
  | atLeast => simp [hr, hc hr] at h
  | equal => rfl

end Constraint

namespace Problem

variable {o : Objective} {cs : List Constraint} {c : Constraint} {columns : List String}
  {v : AddedVariable} {added : Option AddedVariable} {x : String → Rat}

lemma sum_rowTerms (c : Constraint) (v : AddedVariable) (x : String → Rat) :
    ((rowTerms Rat c (some v)).map fun t => t.1 * x t.2).sum =
      Term.sumAt x c.terms + v.coefficient Rat * x v.name := by
  simp [rowTerms, Term.sumAt, Function.comp_def]
  rfl

lemma sum_rowTerms_none (c : Constraint) (x : String → Rat) :
    ((rowTerms Rat c none).map fun t => t.1 * x t.2).sum = Term.sumAt x c.terms := by
  simp [rowTerms, Term.sumAt, Function.comp_def]
  rfl

lemma sum_objectiveTerms (o : Objective) (x : String → Rat) :
    ((objectiveTerms Rat o).map fun t => t.1 * x t.2).sum = o.valueAt x := by
  rw [objectiveTerms, List.map_map]
  rfl

lemma rowEquation_holds_iff (h : ∀ t ∈ rowTerms Rat c added, t.2 ∈ columns) :
    (rowEquation columns c added).Holds columns x ↔
      ((rowTerms Rat c added).map fun t => t.1 * x t.2).sum = c.bound.value Rat := by
  rw [← LinearForm.dot_densify x h]
  unfold rowEquation
  dsimp only
  split
  · exact LinearForm.holds_negated _ x
  · exact Iff.rfl

theorem rowOf_holds_iff (hv : addedKind Rat c = some v.kind)
    (h : ∀ t ∈ rowTerms Rat c (some v), t.2 ∈ columns) :
    (rowOf columns c (some v)).equation.Holds columns x ↔ x v.name = c.distance x := by
  rw [rowOf, Constraint.distance, rowEquation_holds_iff h, sum_rowTerms, hv, AddedVariable.coefficient]
  cases v.kind with
  | slack =>
    rw [one_mul]
    constructor <;> intro he <;> linarith
  | surplus =>
    rw [neg_one_mul]
    constructor <;> intro he <;> linarith

theorem rowOf_holds_iff_balanced (hk : added.map AddedVariable.kind = addedKind Rat c)
    (h : ∀ t ∈ rowTerms Rat c added, t.2 ∈ columns) :
    (rowOf columns c added).equation.Holds columns x ↔ c.Balanced added x := by
  cases added with
  | none => rw [rowOf, rowEquation_holds_iff h, sum_rowTerms_none, Constraint.Balanced]
  | some v => exact rowOf_holds_iff hk.symm h

theorem standardForm_holds_iff_balanced (x : String → Rat) :
    (standardForm Rat o cs).Holds x ↔
      ∀ c added, (c, added) ∈ (kept Rat cs).zip (addedVariables Rat o cs) → c.Balanced added x := by
  rw [StandardForm.Holds, standardForm, List.forall_mem_map, Prod.forall]
  refine forall₃_congr fun c added hm => ?_
  exact rowOf_holds_iff_balanced (kind_of_mem_zip hm) fun t ht => rowTerm_mem_variableNames hm ht

lemma exists_added_of_kept (o : Objective) (hc : c ∈ kept Rat cs) :
    ∃ added, (c, added) ∈ (kept Rat cs).zip (addedVariables Rat o cs) := by
  obtain ⟨k, hk⟩ := List.mem_iff_getElem?.1 hc
  obtain ⟨hlt, -⟩ := List.getElem?_eq_some_iff.1 hk
  rw [← length_addVariables Rat (unknowns o cs) (kept Rat cs)] at hlt
  refine ⟨(addedVariables Rat o cs)[k], List.mem_iff_getElem?.2 ⟨k, ?_⟩⟩
  rw [List.getElem?_zip_eq_some]
  exact ⟨hk, List.getElem?_eq_getElem hlt⟩

lemma exists_constraint_of_added (h : some v ∈ addedVariables Rat o cs) :
    ∃ c, (c, some v) ∈ (kept Rat cs).zip (addedVariables Rat o cs) := by
  obtain ⟨k, hk⟩ := List.mem_iff_getElem?.1 h
  obtain ⟨hlt, -⟩ := List.getElem?_eq_some_iff.1 hk
  have hlt' : k < (kept Rat cs).length := by
    rw [← length_addVariables Rat (unknowns o cs) (kept Rat cs)]
    exact hlt
  refine ⟨(kept Rat cs)[k], List.mem_iff_getElem?.2 ⟨k, ?_⟩⟩
  rw [List.getElem?_zip_eq_some]
  exact ⟨List.getElem?_eq_getElem hlt', hk⟩

lemma exists_extension {base : List String} {ps : List (String × Rat)}
    (h : (base ++ ps.map Prod.fst).Nodup) (x : String → Rat) :
    ∃ y : String → Rat, (∀ n ∈ base, y n = x n) ∧ ∀ p ∈ ps, y p.1 = p.2 := by
  induction ps with
  | nil => exact ⟨x, fun _ _ => rfl, fun _ hp => nomatch hp⟩
  | cons p ps ih =>
    rw [List.map_cons, List.nodup_middle, List.nodup_cons, List.mem_append, not_or] at h
    obtain ⟨⟨hb, hps⟩, hn⟩ := h
    obtain ⟨y, hy, hyp⟩ := ih hn
    refine ⟨Function.update y p.1 p.2, fun n hmem => ?_, fun q hq => ?_⟩
    · have hne : n ≠ p.1 := fun he => hb (he ▸ hmem)
      rw [Function.update_of_ne hne, hy n hmem]
    · rcases List.mem_cons.1 hq with rfl | hq
      · exact Function.update_self _ _ _
      · have hne : q.1 ≠ p.1 := fun he => hps (he ▸ List.mem_map_of_mem hq)
        rw [Function.update_of_ne hne, hyp q hq]

lemma exists_added (o : Objective) (cs : List Constraint) (x : String → Rat) :
    ∃ y : String → Rat, (∀ n ∈ unknowns o cs, y n = x n) ∧
      ∀ c v, (c, some v) ∈ (kept Rat cs).zip (addedVariables Rat o cs) →
        y v.name = c.distance x := by
  let ps := ((kept Rat cs).zip (addedVariables Rat o cs)).filterMap fun p =>
    p.2.map fun v => (v.name, p.1.distance x)
  have hnames : ps.map Prod.fst = addedNames (addedVariables Rat o cs) := by
    have hl : (addedVariables Rat o cs).length ≤ (kept Rat cs).length :=
      (length_addVariables Rat _ _).le
    rw [addedNames, ← List.map_snd_zip hl, List.filterMap_map, List.map_filterMap]
    simp [Function.comp_def]
  have hnd : (unknowns o cs ++ ps.map Prod.fst).Nodup := by
    rw [hnames]
    exact nodup_addedNames Rat (nodup_unknowns o cs) _
  obtain ⟨y, hy, hyp⟩ := exists_extension hnd x
  refine ⟨y, hy, fun c v hm => ?_⟩
  exact hyp (v.name, c.distance x) (List.mem_filterMap.2 ⟨(c, some v), hm, rfl⟩)

theorem objectiveAt_eq_valueAt {p : Problem Rat}
    (hp : p.standard = standardForm Rat p.objective p.constraints) (x : String → Rat) :
    p.standard.objectiveAt x = p.objective.valueAt x := by
  rw [hp, StandardForm.objectiveAt, decisionVariables_standardForm]
  exact (LinearForm.dot_densify x fun t ht => objectiveTerm_mem_unknowns ht).trans
    (sum_objectiveTerms _ x)

end Problem

end LinearProgram
