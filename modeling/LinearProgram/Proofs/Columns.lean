import LinearProgram.Proofs.LinearForm
import LinearProgram.Proofs.StandardForm

namespace LinearProgram

class LawfulSigns (α : Type) [Scalar α] : Prop where
  zero_beq_zero : ((0 : α) == 0) = true
  neg_zero_beq_zero : (-(0 : α) == 0) = true
  zero_add_one : (0 : α) + 1 = 1
  neg_zero_add_neg_one : -((0 : α) + -1) = 1
  neg_pos : ∀ {x : α}, x < 0 → 0 < -x

instance : LawfulSigns Rat where
  zero_beq_zero := by decide
  neg_zero_beq_zero := by decide
  zero_add_one := zero_add 1
  neg_zero_add_neg_one := by rw [zero_add, neg_neg]
  neg_pos := neg_pos.2

namespace Problem

variable {α : Type} [Scalar α] {o : Objective} {cs : List Constraint} {c : Constraint}
  {columns : List String} {name : String} {v : AddedVariable} {added : Option AddedVariable}

lemma nodup_variableNames (o : Objective) (cs : List Constraint) : (variableNames α o cs).Nodup :=
  nodup_addedNames α (nodup_unknowns o cs) _

lemma notMem_unknowns_of_added (h : name ∈ addedNames (addedVariables α o cs)) :
    name ∉ unknowns o cs := by
  intro hu
  have hnd : (variableNames α o cs).Nodup := nodup_variableNames o cs
  exact (List.nodup_append.1 hnd).2.2 name hu name h rfl

lemma name_ne_of_added (h : name ∈ addedNames (addedVariables α o cs)) (hc : c ∈ kept α cs) :
    ∀ t ∈ c.terms, t.name ≠ name := by
  rintro t ht rfl
  exact notMem_unknowns_of_added h (name_mem_unknowns (List.mem_of_mem_filter hc) ht)

lemma getElem?_rowEquation (c : Constraint) (added : Option AddedVariable) (j : Nat) :
    (rowEquation columns c added : LinearForm α).coefficients[j]? =
      (LinearForm.densify columns (rowTerms α c added))[j]?.map
        fun x => if isFlipped added then -x else x := by
  unfold rowEquation
  dsimp only
  cases isFlipped added <;> simp [LinearForm.negated]

@[simp] lemma width_rowEquation (columns : List String) (c : Constraint)
    (added : Option AddedVariable) :
    (rowEquation columns c added : LinearForm α).width = columns.length := by
  unfold rowEquation
  dsimp only
  cases isFlipped added <;> simp [LinearForm.width, LinearForm.negated]

lemma filter_rowTerms (hc : ∀ t ∈ c.terms, t.name ≠ name) (added : Option AddedVariable) :
    ((rowTerms α c added).filter fun t => t.2 = name).map Prod.fst =
      (added.toList.filter fun v => v.name = name).map (AddedVariable.coefficient α) := by
  have hterms : (c.terms.map fun t => (t.coefficient.value α, t.name)).filter
      (fun t => t.2 = name) = [] := by
    simpa using hc
  rw [rowTerms, List.filter_append, hterms, List.nil_append, List.filter_map, List.map_map]
  rfl

lemma basicName_inj {i k : Nat} {r q : StandardRow α} (hr : (standardForm α o cs).rows[i]? = some r)
    (hq : (standardForm α o cs).rows[k]? = some q) (hrn : r.basicName = some name)
    (hqn : q.basicName = some name) : i = k := by
  have hnd : (standardForm α o cs).rows.Pairwise fun r q =>
      ∀ a, r.basicName = some a → ∀ b, q.basicName = some b → a ≠ b := by
    rw [← List.pairwise_filterMap, filterMap_basicName_standardForm]
    exact (List.nodup_append.1 (nodup_variableNames o cs)).2.1
  obtain ⟨hi, rfl⟩ := List.getElem?_eq_some_iff.1 hr
  obtain ⟨hk, rfl⟩ := List.getElem?_eq_some_iff.1 hq
  rcases Nat.lt_trichotomy i k with hlt | he | hlt
  · exact absurd rfl (List.pairwise_iff_getElem.1 hnd i k hi hk hlt name hrn name hqn)
  · exact he
  · exact absurd rfl (List.pairwise_iff_getElem.1 hnd k i hk hi hlt name hqn name hrn)

variable [LawfulSigns α]

lemma getElem?_rowEquation_self (hv : v.name ∈ columns) (hc : ∀ t ∈ c.terms, t.name ≠ v.name) :
    (rowEquation columns c (some v) : LinearForm α).coefficients[columns.idxOf v.name]? =
      some 1 := by
  rw [getElem?_rowEquation, LinearForm.getElem?_densify hv, filter_rowTerms hc]
  cases hk : v.kind with
  | slack => simp [isFlipped, AddedVariable.coefficient, hk, LawfulSigns.zero_add_one]
  | surplus => simp [isFlipped, AddedVariable.coefficient, hk, LawfulSigns.neg_zero_add_neg_one]

lemma getElem?_rowEquation_of_ne (hname : name ∈ columns) (hc : ∀ t ∈ c.terms, t.name ≠ name)
    (hne : ∀ v ∈ added, v.name ≠ name) :
    ∃ x, (rowEquation columns c added : LinearForm α).coefficients[columns.idxOf name]? = some x ∧
      (x == 0) = true := by
  have hfilter : added.toList.filter (fun v => v.name = name) = [] := by
    simpa using hne
  rw [getElem?_rowEquation, LinearForm.getElem?_densify hname, filter_rowTerms hc, hfilter]
  refine ⟨_, rfl, ?_⟩
  split
  · exact LawfulSigns.neg_zero_beq_zero
  · exact LawfulSigns.zero_beq_zero

theorem column_standardForm {i k : Nat} {r q : StandardRow α}
    (hr : (standardForm α o cs).rows[i]? = some r) (hname : r.basicName = some name)
    (hq : (standardForm α o cs).rows[k]? = some q) :
    ∃ x, q.equation.coefficients[(variableNames α o cs).idxOf name]? = some x ∧
      if k = i then x = 1 else (x == 0) = true := by
  have hadd : name ∈ addedNames (addedVariables α o cs) := by
    rw [← filterMap_basicName_standardForm]
    exact List.mem_filterMap.2 ⟨r, List.mem_of_getElem? hr, hname⟩
  have hmem : name ∈ variableNames α o cs := List.mem_append_right _ hadd
  obtain ⟨c, added, hm, rfl⟩ := exists_of_getElem?_rows hq
  have hc := name_ne_of_added hadd (List.of_mem_zip hm).1
  by_cases hki : k = i
  · subst hki
    obtain rfl := Option.some_inj.1 (hq.symm.trans hr)
    obtain ⟨v, rfl, rfl⟩ := Option.map_eq_some_iff.1 hname
    exact ⟨1, getElem?_rowEquation_self hmem hc, by rw [if_pos rfl]⟩
  · have hne : ∀ v ∈ added, v.name ≠ name := by
      rintro v rfl rfl
      exact hki (basicName_inj hq hr rfl hname)
    obtain ⟨x, hx, h0⟩ : ∃ x : α, _ ∧ (x == 0) = true := getElem?_rowEquation_of_ne hmem hc hne
    exact ⟨x, hx, by rwa [if_neg hki]⟩

end Problem

end LinearProgram
