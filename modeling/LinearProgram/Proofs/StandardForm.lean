import LinearProgram.Proofs.Names

namespace LinearProgram

lemma eq_ok_of_toOption {ε β : Type} {e : Except ε β} {x : β} (h : e.toOption = some x) :
    e = .ok x := by
  cases e with
  | error => cases h
  | ok y => exact congrArg Except.ok (Option.some_inj.1 h)

lemma exists_eq_ok_of_map {ε β δ : Type} {e : Except ε β} {f : β → δ} {y : δ}
    (h : e.toOption.map f = some y) : ∃ x, e = .ok x ∧ f x = y := by
  obtain ⟨x, hx, hy⟩ := Option.map_eq_some_iff.1 h
  exact ⟨x, eq_ok_of_toOption hx, hy⟩

variable {α : Type} [Scalar α]

lemma LinearForm.ofTerms_eq_ok {columns : List String} {coefficients : List α} {names : List String}
    (hl : coefficients.length = names.length) (hn : ∀ n ∈ names, n ∈ columns) (constant : α) :
    ofTerms coefficients names constant columns =
      .ok ⟨densify columns (coefficients.zip names), constant⟩ := by
  have hf : names.find? (fun n => !columns.contains n) = none := by
    rw [List.find?_eq_none]
    intro n hmem
    simpa using hn n hmem
  rw [ofTerms, if_neg (not_not_intro hl), hf]

namespace Problem

variable (α)

def kept (cs : List Constraint) : List Constraint :=
  cs.filter fun c => !c.isSignBound α

def addedVariables (o : Objective) (cs : List Constraint) : List (Option AddedVariable) :=
  addVariables α (unknowns o cs) (kept α cs)

def variableNames (o : Objective) (cs : List Constraint) : List String :=
  unknowns o cs ++ addedNames (addedVariables α o cs)

def objectiveTerms (o : Objective) : List (α × String) :=
  o.terms.map fun t => (t.coefficient.value α, t.name)

def rowTerms (c : Constraint) (added : Option AddedVariable) : List (α × String) :=
  (c.terms.map fun t => (t.coefficient.value α, t.name)) ++
    added.toList.map fun v => (v.coefficient α, v.name)

variable {α}

def isFlipped (added : Option AddedVariable) : Bool :=
  added.toList.any fun v => v.kind = .surplus

def rowEquation (columns : List String) (c : Constraint) (added : Option AddedVariable) :
    LinearForm α :=
  let plain := ⟨LinearForm.densify columns (rowTerms α c added), c.bound.value α⟩
  if isFlipped added then plain.negated else plain

def rowOf (columns : List String) (c : Constraint) (added : Option AddedVariable) :
    StandardRow α :=
  ⟨c.text, c.relation, added, isFlipped added, rowEquation columns c added⟩

variable (α)

def standardForm (o : Objective) (cs : List Constraint) : StandardForm α where
  direction := o.direction
  objectiveName := o.name
  names := variableNames α o cs
  decisionCount := (unknowns o cs).length
  objective := LinearForm.densify (unknowns o cs) (objectiveTerms α o)
  rows := ((kept α cs).zip (addedVariables α o cs)).map fun p =>
    rowOf (variableNames α o cs) p.1 p.2

variable {α}

lemma decisionVariables_standardForm (o : Objective) (cs : List Constraint) :
    (standardForm α o cs).decisionVariables = unknowns o cs := List.take_left

lemma drop_names_standardForm (o : Objective) (cs : List Constraint) :
    (standardForm α o cs).names.drop (standardForm α o cs).decisionCount =
      addedNames (addedVariables α o cs) := List.drop_left

lemma initialBasis_standardForm (o : Objective) (cs : List Constraint) :
    (standardForm α o cs).initialBasis =
      (addedVariables α o cs).map fun v => v.map AddedVariable.name := by
  have hl : (addedVariables α o cs).length ≤ (kept α cs).length :=
    Nat.le_of_eq (length_addVariables α _ _)
  rw [← List.map_snd_zip hl, List.map_map]
  simp only [StandardForm.initialBasis, standardForm, List.map_map]
  rfl

lemma filterMap_basicName_standardForm (o : Objective) (cs : List Constraint) :
    (standardForm α o cs).rows.filterMap StandardRow.basicName =
      addedNames (addedVariables α o cs) := by
  have h : (standardForm α o cs).initialBasis = _ := initialBasis_standardForm o cs
  have := congrArg (List.filterMap id) h
  simpa [StandardForm.initialBasis, List.filterMap_map, addedNames, Function.comp_def] using this

lemma exists_of_getElem?_rows {o : Objective} {cs : List Constraint} {k : Nat} {r : StandardRow α}
    (h : (standardForm α o cs).rows[k]? = some r) :
    ∃ c added, (c, added) ∈ (kept α cs).zip (addedVariables α o cs) ∧
      r = rowOf (variableNames α o cs) c added := by
  simp only [standardForm, List.getElem?_map] at h
  obtain ⟨⟨c, added⟩, hp, rfl⟩ := Option.map_eq_some_iff.1 h
  exact ⟨c, added, List.mem_of_getElem? hp, rfl⟩

lemma mem_addedNames {added : List (Option AddedVariable)} {name : String} :
    name ∈ addedNames added ↔ ∃ v, some v ∈ added ∧ v.name = name := by
  simp [addedNames, List.mem_filterMap]

lemma kind_of_mem_zip {cs : List Constraint} {names : List String} {c : Constraint}
    {added : Option AddedVariable} (h : (c, added) ∈ cs.zip (addVariables α names cs)) :
    added.map AddedVariable.kind = addedKind α c := by
  obtain ⟨k, hk⟩ := List.getElem?_of_mem h
  obtain ⟨hc, hadded⟩ := List.getElem?_zip_eq_some.1 hk
  have hkind := congrArg (·[k]?) (map_kind_addVariables α names cs)
  simpa [hc, hadded] using hkind

lemma name_mem_unknowns {o : Objective} {cs : List Constraint} {c : Constraint} {t : Term}
    (hc : c ∈ cs) (ht : t ∈ c.terms) : t.name ∈ unknowns o cs :=
  mem_unknowns.2 (.inr ⟨c, hc, t, ht, rfl⟩)

lemma objectiveTerm_mem_unknowns {o : Objective} {cs : List Constraint} {t : α × String}
    (ht : t ∈ objectiveTerms α o) : t.2 ∈ unknowns o cs := by
  obtain ⟨u, hu, rfl⟩ := List.mem_map.1 ht
  exact mem_unknowns.2 (.inl ⟨u, hu, rfl⟩)

lemma rowTerm_mem_variableNames {o : Objective} {cs : List Constraint} {c : Constraint}
    {added : Option AddedVariable} (h : (c, added) ∈ (kept α cs).zip (addedVariables α o cs))
    {t : α × String} (ht : t ∈ rowTerms α c added) : t.2 ∈ variableNames α o cs := by
  obtain ⟨hc, ha⟩ := List.of_mem_zip h
  rcases List.mem_append.1 ht with ht | ht
  · obtain ⟨u, hu, rfl⟩ := List.mem_map.1 ht
    exact List.mem_append_left _ (name_mem_unknowns (List.mem_of_mem_filter hc) hu)
  · obtain ⟨v, hv, rfl⟩ := List.mem_map.1 ht
    rw [Option.mem_toList] at hv
    subst hv
    exact List.mem_append_right _ (mem_addedNames.2 ⟨v, ha, rfl⟩)

lemma standardRow_eq_ok {columns : List String} {c : Constraint} {added : Option AddedVariable}
    (h : ∀ t ∈ rowTerms α c added, t.2 ∈ columns) :
    standardRow columns c added = .ok (rowOf columns c added : StandardRow α) := by
  have hn : ∀ n ∈ c.terms.map Term.name ++ added.toList.map AddedVariable.name, n ∈ columns := by
    intro n hn
    rcases List.mem_append.1 hn with hn | hn
    · obtain ⟨t, ht, rfl⟩ := List.mem_map.1 hn
      exact h _ (List.mem_append_left _ (List.mem_map_of_mem ht))
    · obtain ⟨v, hv, rfl⟩ := List.mem_map.1 hn
      exact h _ (List.mem_append_right _ (List.mem_map_of_mem hv))
  have hok : LinearForm.ofTerms
      ((c.terms.map fun t => t.coefficient.value α) ++
        added.toList.map (AddedVariable.coefficient α))
      (c.terms.map Term.name ++ added.toList.map AddedVariable.name) (c.bound.value α) columns =
        .ok ⟨LinearForm.densify columns (rowTerms α c added), c.bound.value α⟩ := by
    rw [LinearForm.ofTerms_eq_ok (by simp) hn, List.zip_append (by simp), List.zip_map',
      List.zip_map']
    rfl
  rw [standardRow]
  simp only [hok]
  rfl

lemma standardRows_eq_ok {columns : List String} {ps : List (Constraint × Option AddedVariable)}
    (h : ∀ p ∈ ps, ∀ t ∈ rowTerms α p.1 p.2, t.2 ∈ columns) :
    standardRows columns ps = .ok (ps.map fun p => (rowOf columns p.1 p.2 : StandardRow α)) := by
  induction ps with
  | nil => rfl
  | cons p ps ih =>
    rw [standardRows, standardRow_eq_ok (h p List.mem_cons_self),
      ih fun q hq => h q (List.mem_cons_of_mem _ hq)]
    rfl

theorem normalize_eq_ok (o : Objective) (cs : List Constraint) :
    normalize o cs = .ok (standardForm α o cs) := by
  have hn : ∀ n ∈ o.terms.map Term.name, n ∈ unknowns o cs := by
    intro n hn
    obtain ⟨t, ht, rfl⟩ := List.mem_map.1 hn
    exact mem_unknowns.2 (.inl ⟨t, ht, rfl⟩)
  have hobj : LinearForm.ofTerms (o.terms.map fun t => t.coefficient.value α)
      (o.terms.map Term.name) 0 (unknowns o cs) =
        .ok ⟨LinearForm.densify (unknowns o cs) (objectiveTerms α o), 0⟩ := by
    rw [LinearForm.ofTerms_eq_ok (by simp) hn, List.zip_map']
    rfl
  have hrows : standardRows (variableNames α o cs) ((kept α cs).zip (addedVariables α o cs)) =
      .ok (standardForm α o cs).rows :=
    standardRows_eq_ok fun p hp t ht => rowTerm_mem_variableNames hp ht
  rw [normalize]
  simp only [hobj]
  simp only [variableNames, addedNames, addedVariables, kept] at hrows
  simp only [hrows, bind, Except.bind, pure, Except.pure]
  rfl

theorem standard_of_ofLines {lines : List String} {p : Problem α} (h : ofLines lines = .ok p) :
    p.standard = standardForm α p.objective p.constraints := by
  cases lines with
  | nil => cases h
  | cons first rest =>
    simp only [ofLines, normalize_eq_ok, bind, Except.bind, pure, Except.pure] at h
    split at h
    · cases h
    · split at h
      · cases h
      · cases h
        rfl

lemma normalize_of_ofLines {lines : List String} {p : Problem α} (h : ofLines lines = .ok p) :
    normalize p.objective p.constraints = .ok p.standard := by
  rw [standard_of_ofLines h, normalize_eq_ok]

end Problem

end LinearProgram
