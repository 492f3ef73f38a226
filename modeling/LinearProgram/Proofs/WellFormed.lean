import LinearProgram.Proofs.Doubles

/-!
What normalizing gives, in terms of the lines alone: which variables, in which order and under which
names, which rows, and a column of the unit matrix for each added variable.
-/

namespace LinearProgram

variable {α : Type} [Scalar α]

def Problem.writtenNames (o : Objective) (cs : List Constraint) : List String :=
  (o.terms ++ cs.flatMap Constraint.terms).map Term.name

structure StandardRow.StandsFor (r : StandardRow α) (c : Constraint) : Prop where
  text_eq : r.text = c.text
  relation_eq : r.relation = c.relation
  slack_iff : r.added.map AddedVariable.kind = some .slack ↔ c.relation = .atMost
  surplus_iff : r.added.map AddedVariable.kind = some .surplus ↔
    c.relation = .atLeast ∧ c.bound.value α < 0
  signFlipped_iff : r.signFlipped = true ↔ r.added.map AddedVariable.kind = some .surplus
  rhs_pos : r.signFlipped = true → 0 < r.rhs

structure StandardForm.WellFormed (p : StandardForm α) (o : Objective) (cs : List Constraint) :
    Prop where
  names_nodup : p.names.Nodup
  decisionCount_le : p.decisionCount ≤ p.names.length
  mem_decisionVariables : ∀ name,
    name ∈ p.decisionVariables ↔ name ∈ Problem.writtenNames o cs
  pairwise_decisionVariables : p.decisionVariables.Pairwise fun a b =>
    (Problem.writtenNames o cs).idxOf a < (Problem.writtenNames o cs).idxOf b
  addedNames_eq : p.names.drop p.decisionCount = p.rows.filterMap StandardRow.basicName
  numbers : ∃ ks : List Nat, p.names.drop p.decisionCount = ks.map SlackName.ofNumber ∧
    ((∀ k ∈ ks, k < Decimal.wordLimit) → ks.Pairwise (· < ·))
  length_objective : p.objective.length = p.decisionCount
  width : ∀ r ∈ p.rows, r.equation.width = p.names.length
  rows : p.rows.Forall₂ StandardRow.StandsFor (cs.filter fun c => !c.isSignBound α)
  column : ∀ (i k : Nat) (r q : StandardRow α) (name : String), p.rows[i]? = some r →
    r.basicName = some name → p.rows[k]? = some q →
      ∃ x, q.equation.coefficients[p.names.idxOf name]? = some x ∧
        if k = i then x = 1 else (x == 0) = true

namespace Problem

lemma addedKind_eq_slack {c : Constraint} :
    addedKind α c = some .slack ↔ c.relation = .atMost := by
  cases hrel : c.relation <;> simp [addedKind, hrel]

lemma addedKind_eq_surplus {c : Constraint} :
    addedKind α c = some .surplus ↔ c.relation = .atLeast ∧ c.bound.value α < 0 := by
  cases hrel : c.relation <;> simp [addedKind, hrel]

lemma isFlipped_iff {added : Option AddedVariable} :
    isFlipped added = true ↔ added.map AddedVariable.kind = some .surplus := by
  cases added <;> simp [isFlipped]

variable [LawfulSigns α] (o : Objective) (cs : List Constraint)

lemma standsFor_rowOf {c : Constraint} {added : Option AddedVariable} (columns : List String)
    (h : added.map AddedVariable.kind = addedKind α c) :
    (rowOf columns c added : StandardRow α).StandsFor c where
  text_eq := rfl
  relation_eq := rfl
  slack_iff := h ▸ addedKind_eq_slack
  surplus_iff := h ▸ addedKind_eq_surplus
  signFlipped_iff := isFlipped_iff
  rhs_pos := by
    intro hf
    have hf : isFlipped added = true := hf
    have hneg : c.bound.value α < 0 := (addedKind_eq_surplus.1 (h ▸ isFlipped_iff.1 hf)).2
    have hrhs : (rowOf columns c added : StandardRow α).rhs = -c.bound.value α := by
      simp [StandardRow.rhs, rowOf, rowEquation, hf, LinearForm.negated]
    rw [hrhs]
    exact LawfulSigns.neg_pos hneg

lemma forall₂_rows_standardForm :
    (standardForm α o cs).rows.Forall₂ StandardRow.StandsFor (kept α cs) := by
  have hl : (kept α cs).length ≤ (addedVariables α o cs).length :=
    (length_addVariables α _ _).ge
  have hpairs : ((kept α cs).zip (addedVariables α o cs)).Forall₂
      (fun p q => (rowOf (variableNames α o cs) p.1 p.2 : StandardRow α).StandsFor q.1)
      ((kept α cs).zip (addedVariables α o cs)) :=
    List.forall₂_same.2 fun p hp => standsFor_rowOf _ (kind_of_mem_zip hp)
  have hrows := List.forall₂_map_right_iff.2 (List.forall₂_map_left_iff.2 hpairs)
  rwa [List.map_fst_zip hl] at hrows

lemma wellFormed_standardForm : (standardForm α o cs).WellFormed o cs where
  names_nodup := nodup_variableNames o cs
  decisionCount_le := by simp [standardForm, variableNames]
  mem_decisionVariables := by
    intro name
    rw [decisionVariables_standardForm]
    exact mem_firstOccurrences
  pairwise_decisionVariables := by
    rw [decisionVariables_standardForm]
    exact pairwise_idxOf_firstOccurrences _
  addedNames_eq := by rw [drop_names_standardForm, filterMap_basicName_standardForm]
  numbers := by
    obtain ⟨ks, hks, hlt⟩ := exists_numbers α (unknowns o cs) (kept α cs)
    exact ⟨ks, (drop_names_standardForm o cs).trans hks, fun h => (hlt h).1⟩
  length_objective := LinearForm.length_densify _
  width := by
    intro r hr
    obtain ⟨k, hk⟩ := List.getElem?_of_mem hr
    obtain ⟨c, added, -, rfl⟩ := exists_of_getElem?_rows hk
    exact width_rowEquation _ c added
  rows := forall₂_rows_standardForm o cs
  column := fun _ _ _ _ _ hr hname hq => column_standardForm hr hname hq

theorem exists_wellFormed :
    ∃ p : StandardForm α, normalize o cs = .ok p ∧ p.WellFormed o cs :=
  ⟨standardForm α o cs, normalize_eq_ok o cs, wellFormed_standardForm o cs⟩

theorem exists_wellFormed_of_user_slack :
    ∃ p : Problem Float,
      ofLines ["Maximize: z = x1 + 2s4", "x1 + x2 <= 4.5", "-x1 >= -3", "x2 >= 0", "x1 = 2"] =
        .ok p ∧
      p.standard.names = ["x1", "s4", "x2", "s3", "s5"] ∧
      p.standard.WellFormed p.objective p.constraints := by
  have h : ((ofLines ["Maximize: z = x1 + 2s4", "x1 + x2 <= 4.5", "-x1 >= -3", "x2 >= 0",
      "x1 = 2"]).toOption.map fun p : Problem Float => p.standard.names) =
        some ["x1", "s4", "x2", "s3", "s5"] := by decide +kernel
  obtain ⟨p, hp, hnames⟩ := Option.map_eq_some_iff.1 h
  have hok : ofLines _ = .ok p := eq_ok_of_toOption hp
  obtain ⟨q, hq, hwell⟩ : ∃ q : StandardForm Float, _ := exists_wellFormed p.objective p.constraints
  have hpq : p.standard = q := by
    rw [standard_of_ofLines hok]
    exact Except.ok.inj ((normalize_eq_ok _ _).symm.trans hq)
  exact ⟨p, hok, hnames, hpq ▸ hwell⟩

end Problem

end LinearProgram
