import LinearProgram.Proofs.Renaming
import LinearProgram.Proofs.WellFormed

/-!
Names do not influence numbers. Lines that differ in the names of their unknowns have standard forms
that differ in the names of their variables. What the added variables are called depends on what the
unknowns are called, so that they need not keep their names; their kinds and places they keep.
-/

namespace LinearProgram

@[mk_iff]
structure Objective.Renames (f : String → String) (o o' : Objective) : Prop where
  direction_eq : o'.direction = o.direction
  terms_eq : o'.terms.map Term.written = (o.terms.map Term.written).map (Prod.map id f)

@[mk_iff]
structure Constraint.Renames (f : String → String) (c c' : Constraint) : Prop where
  relation_eq : c'.relation = c.relation
  bound_eq : c'.bound = c.bound
  terms_eq : c'.terms.map Term.written = (c.terms.map Term.written).map (Prod.map id f)

instance (f : String → String) (o o' : Objective) : Decidable (o.Renames f o') :=
  decidable_of_iff' _ (Objective.renames_iff f o o')

instance (f : String → String) (c c' : Constraint) : Decidable (c.Renames f c') :=
  decidable_of_iff' _ (Constraint.renames_iff f c c')

variable {f g : String → String} {o o' : Objective} {c c' : Constraint} {cs cs' : List Constraint}

namespace Term

variable {ts ts' : List Term} (h : ts'.map written = (ts.map written).map (Prod.map id f))

include h

lemma map_name_renames : ts'.map name = (ts.map name).map f := by
  have := congrArg (List.map Prod.snd) h
  simpa [written, Function.comp_def] using this

lemma map_coefficient_renames : ts'.map coefficient = ts.map coefficient := by
  have := congrArg (List.map Prod.fst) h
  simpa [written, Function.comp_def] using this

lemma map_value_renames (α : Type) [Scalar α] :
    (ts'.map fun t => (t.coefficient.value α, t.name)) =
      (ts.map fun t => (t.coefficient.value α, t.name)).map (Prod.map id f) := by
  have := congrArg (List.map (Prod.map (SignedDecimal.value α) id)) h
  simpa [written, Function.comp_def] using this

lemma renames_congr (hfg : ∀ t ∈ ts, g t.name = f t.name) :
    ts'.map written = (ts.map written).map (Prod.map id g) := by
  rw [h, List.map_map, List.map_map, List.map_inj_left]
  intro t ht
  exact congrArg (t.coefficient, ·) (hfg t ht).symm

end Term

lemma Objective.Renames.congr (h : o.Renames f o') (hfg : ∀ t ∈ o.terms, g t.name = f t.name) :
    o.Renames g o' :=
  ⟨h.direction_eq, Term.renames_congr h.terms_eq hfg⟩

namespace Constraint

lemma Renames.congr (h : c.Renames f c') (hfg : ∀ t ∈ c.terms, g t.name = f t.name) :
    c.Renames g c' :=
  ⟨h.relation_eq, h.bound_eq, Term.renames_congr h.terms_eq hfg⟩

lemma forall₂_renames_congr (h : cs.Forall₂ (Renames f) cs')
    (hfg : ∀ c ∈ cs, ∀ t ∈ c.terms, g t.name = f t.name) : cs.Forall₂ (Renames g) cs' := by
  induction h with
  | nil => exact .nil
  | cons hc _ ih =>
    have hfirst := hfg _ List.mem_cons_self
    exact .cons (hc.congr hfirst) (ih fun c hmem => hfg c (List.mem_cons_of_mem _ hmem))

variable {α : Type} [Scalar α]

lemma isSignBound_iff : c.isSignBound α = true ↔ c.relation = .atLeast ∧
    (c.bound.value α == 0) = true ∧
      ∃ a, c.terms.map Term.coefficient = [a] ∧ 0 < a.value α := by
  simp only [isSignBound, Bool.and_eq_true, decide_eq_true_eq, and_assoc]
  refine and_congr_right fun _ => and_congr_right fun _ => ?_
  rcases c.terms with _ | ⟨t, _ | ⟨u, ts⟩⟩ <;> simp

lemma Renames.isSignBound_eq (h : c.Renames f c') : c'.isSignBound α = c.isSignBound α := by
  rw [Bool.eq_iff_iff, isSignBound_iff, isSignBound_iff, h.relation_eq, h.bound_eq,
    Term.map_coefficient_renames h.terms_eq]

end Constraint

namespace LinearForm

variable {α : Type} [Scalar α] {columns : List String} {ts : List (α × String)}

lemma densify_map (hg : Set.InjOn g {name | name ∈ columns}) (hts : ∀ t ∈ ts, t.2 ∈ columns) :
    densify (columns.map g) (ts.map (Prod.map id g)) = densify columns ts := by
  rw [densify, densify, List.length_map, List.foldl_map]
  apply List.foldl_ext
  intro dense t ht
  rw [addTerm, addTerm, Prod.map_fst, Prod.map_snd, idxOf_map_of_injOn hg (hts t ht)]
  rfl

end LinearForm

namespace Problem

lemma firstOccurrences_map {names : List String} (hf : Set.InjOn f {name | name ∈ names}) :
    firstOccurrences (names.map f) = (firstOccurrences names).map f := by
  induction names using List.reverseRecOn with
  | nil => rfl
  | append_singleton names name ih =>
    have hnames : firstOccurrences names ⊆ names ++ [name] := fun _ hn =>
      List.mem_append_left _ (mem_firstOccurrences.1 hn)
    have hmem := mem_map_iff_of_injOn hf hnames (List.mem_append_right names List.mem_cons_self)
    rw [List.map_append, List.map_singleton, firstOccurrences_concat, firstOccurrences_concat,
      ih (hf.mono fun _ hn => List.mem_append_left _ hn), insertName, insertName]
    by_cases h : name ∈ firstOccurrences names
    · rw [if_pos h, if_pos (hmem.2 h)]
    · rw [if_neg h, if_neg (mt hmem.1 h), List.map_append, List.map_singleton]

lemma writtenNames_renames (ho : o.Renames f o') (hcs : cs.Forall₂ (Constraint.Renames f) cs') :
    writtenNames o' cs' = (writtenNames o cs).map f := by
  have hconstraints : (cs'.flatMap Constraint.terms).map Term.name =
      ((cs.flatMap Constraint.terms).map Term.name).map f := by
    induction hcs with
    | nil => rfl
    | cons hc _ ih =>
      simp only [List.flatMap_cons, List.map_append, Term.map_name_renames hc.terms_eq, ih]
  simp only [writtenNames, List.map_append, Term.map_name_renames ho.terms_eq, hconstraints]

lemma unknowns_renames (hf : Set.InjOn f {name | name ∈ writtenNames o cs}) (ho : o.Renames f o')
    (hcs : cs.Forall₂ (Constraint.Renames f) cs') : unknowns o' cs' = (unknowns o cs).map f := by
  have hwritten : unknowns o' cs' = firstOccurrences (writtenNames o' cs') := rfl
  rw [hwritten, writtenNames_renames ho hcs, firstOccurrences_map hf]
  rfl

variable (α : Type) [Scalar α]

lemma kept_renames (hcs : cs.Forall₂ (Constraint.Renames f) cs') :
    (kept α cs).Forall₂ (Constraint.Renames f) (kept α cs') := by
  refine List.rel_filter (fun c c' hc => ?_) hcs
  have hbound : c'.isSignBound α = c.isSignBound α := hc.isSignBound_eq
  exact Eq.to_iff (congrArg (fun b => (!b) = true) hbound.symm)

lemma map_addedKind_renames (hcs : cs.Forall₂ (Constraint.Renames f) cs') :
    cs'.map (addedKind α) = cs.map (addedKind α) := by
  induction hcs with
  | nil => rfl
  | cons hc _ ih =>
    rw [List.map_cons, List.map_cons, ih, addedKind, addedKind, hc.relation_eq, hc.bound_eq]

variable {α}

lemma map_kind_renames (hcs : cs.Forall₂ (Constraint.Renames f) cs') :
    (addedVariables α o' cs').map (Option.map AddedVariable.kind) =
      (addedVariables α o cs).map (Option.map AddedVariable.kind) := by
  rw [addedVariables, addedVariables, map_kind_addVariables, map_kind_addVariables,
    map_addedKind_renames α (kept_renames α hcs)]

lemma eq_map_rename {vs vs' : List (Option AddedVariable)}
    (hkind : vs'.map (Option.map AddedVariable.kind) = vs.map (Option.map AddedVariable.kind))
    (hname : addedNames vs' = (addedNames vs).map g) :
    vs' = vs.map (Option.map (AddedVariable.rename g)) := by
  induction vs generalizing vs' with
  | nil => exact List.map_eq_nil_iff.1 hkind
  | cons v vs ih =>
    cases vs' with
    | nil => cases hkind
    | cons v' vs' =>
      obtain ⟨hhead, htail⟩ := List.cons_eq_cons.1 hkind
      cases v with
      | none =>
        obtain rfl := Option.map_eq_none_iff.1 hhead
        rw [ih htail hname]
        rfl
      | some v =>
        obtain ⟨w, rfl, hw⟩ := Option.map_eq_some_iff.1 hhead
        obtain ⟨hfirst, hrest⟩ := List.cons_eq_cons.1 hname
        have hrename : w = v.rename g := by
          rw [AddedVariable.rename, ← hw]
          exact congrArg (fun name => { w with name := name }) hfirst
        rw [ih htail hrest, hrename]
        rfl

lemma length_addedNames (vs : List (Option AddedVariable)) : (addedNames vs).length =
    (vs.map (Option.map AddedVariable.kind)).countP Option.isSome := by
  simp [addedNames, List.length_filterMap_eq_countP, List.countP_map, Function.comp_def]

lemma exists_map_eq {as bs : List String} (ha : as.Nodup) (hl : as.length = bs.length) :
    ∃ g : String → String, as.map g = bs := by
  refine ⟨fun a => bs.getD (as.idxOf a) "", List.ext_getElem ?_ fun i hi hi' => ?_⟩
  · rw [List.length_map, hl]
  · rw [List.getElem_map, ha.idxOf_getElem, List.getD_eq_getElem]

theorem exists_renaming (hf : Set.InjOn f {name | name ∈ writtenNames o cs}) (ho : o.Renames f o')
    (hcs : cs.Forall₂ (Constraint.Renames f) cs') :
    ∃ g, variableNames α o' cs' = (variableNames α o cs).map g ∧
      Set.InjOn g {name | name ∈ variableNames α o cs} ∧
      (∀ name ∈ writtenNames o cs, g name = f name) ∧
      addedVariables α o' cs' =
        (addedVariables α o cs).map (Option.map (AddedVariable.rename g)) := by
  have hunknowns := unknowns_renames hf ho hcs
  have hkind : (addedVariables α o' cs').map (Option.map AddedVariable.kind) =
    (addedVariables α o cs).map (Option.map AddedVariable.kind) := map_kind_renames hcs
  have hlength : (addedNames (addedVariables α o' cs')).length =
      (addedNames (addedVariables α o cs)).length := by
    rw [length_addedNames, length_addedNames, hkind]
  have hnodup : (variableNames α o' cs').Nodup := nodup_variableNames o' cs'
  have hsame : (variableNames α o cs).length = (variableNames α o' cs').length := by
    rw [variableNames, variableNames, List.length_append, List.length_append, hlength, hunknowns,
      List.length_map]
  -- `g` goes by position, so that it is known on the unknowns only after the lists are split
  obtain ⟨g, hg⟩ := exists_map_eq (nodup_variableNames o cs) hsame
  have hparts := hg
  rw [variableNames, variableNames, hunknowns, List.map_append] at hparts
  obtain ⟨hold, hadded⟩ := List.append_inj hparts (by rw [List.length_map, List.length_map])
  refine ⟨g, hg.symm, ?_, fun name hname => ?_, eq_map_rename hkind hadded.symm⟩
  · rw [← hg] at hnodup
    exact fun a ha b hb hab => List.inj_on_of_nodup_map hnodup ha hb hab
  · exact List.map_inj_left.1 hold name (mem_firstOccurrences.2 hname)

variable {columns : List String} {added : Option AddedVariable}

lemma rowTerms_renames (hc : c.Renames g c') (added : Option AddedVariable) :
    rowTerms α c' (added.map (AddedVariable.rename g)) =
      (rowTerms α c added).map (Prod.map id g) := by
  rw [rowTerms, rowTerms, List.map_append, Term.map_value_renames hc.terms_eq α]
  cases added <;> rfl

lemma isFlipped_rename (added : Option AddedVariable) :
    isFlipped (added.map (AddedVariable.rename g)) = isFlipped added := by
  cases added <;> rfl

lemma rowOf_renames (hg : Set.InjOn g {name | name ∈ columns}) (hc : c.Renames g c')
    (hterms : ∀ t ∈ rowTerms α c added, t.2 ∈ columns) :
    (rowOf columns c added : StandardRow α).Renames g
      (rowOf (columns.map g) c' (added.map (AddedVariable.rename g))) where
  relation_eq := hc.relation_eq
  added_eq := rfl
  signFlipped_eq := isFlipped_rename added
  equation_eq := by
    simp only [rowOf, rowEquation]
    rw [rowTerms_renames hc, LinearForm.densify_map hg hterms, hc.bound_eq, isFlipped_rename]

lemma forall₂_rowOf (hg : Set.InjOn g {name | name ∈ columns})
    (hcs : cs.Forall₂ (Constraint.Renames g) cs') {vs : List (Option AddedVariable)}
    (hterms : ∀ q ∈ cs.zip vs, ∀ t ∈ rowTerms α q.1 q.2, t.2 ∈ columns) :
    ((cs.zip vs).map fun q => (rowOf columns q.1 q.2 : StandardRow α)).Forall₂
      (StandardRow.Renames g)
      ((cs'.zip (vs.map (Option.map (AddedVariable.rename g)))).map
        fun q => rowOf (columns.map g) q.1 q.2) := by
  induction hcs generalizing vs with
  | nil => exact .nil
  | cons hc _ ih =>
    cases vs with
    | nil => exact .nil
    | cons v vs =>
      refine .cons (rowOf_renames hg hc (hterms _ List.mem_cons_self)) (ih fun q hq => ?_)
      exact hterms q (List.mem_cons_of_mem _ hq)

lemma listed_standardForm (o : Objective) (cs : List Constraint) :
    (standardForm α o cs).Listed := by
  intro name hname
  rw [initialBasis_standardForm] at hname
  obtain ⟨v, hv, hsome⟩ := List.mem_map.1 hname
  obtain ⟨w, rfl, rfl⟩ := Option.map_eq_some_iff.1 hsome
  exact List.mem_append_right _ (mem_addedNames.2 ⟨w, hv, rfl⟩)

lemma standardForm_renames (hg : Set.InjOn g {name | name ∈ variableNames α o cs})
    (ho : o.Renames g o') (hcs : cs.Forall₂ (Constraint.Renames g) cs')
    (hunknowns : unknowns o' cs' = (unknowns o cs).map g)
    (hnames : variableNames α o' cs' = (variableNames α o cs).map g)
    (hadded : addedVariables α o' cs' =
      (addedVariables α o cs).map (Option.map (AddedVariable.rename g))) :
    (standardForm α o cs).Renames g (standardForm α o' cs') where
  direction_eq := ho.direction_eq
  names_eq := hnames
  decisionCount_eq := by rw [standardForm, standardForm, hunknowns, List.length_map]
  objective_eq := by
    have hterms : objectiveTerms α o' = (objectiveTerms α o).map (Prod.map id g) :=
      Term.map_value_renames ho.terms_eq α
    have hinj : Set.InjOn g {name | name ∈ unknowns o cs} :=
      hg.mono fun _ hn => List.mem_append_left _ hn
    rw [standardForm, standardForm, hunknowns, hterms]
    exact LinearForm.densify_map hinj fun _ ht => objectiveTerm_mem_unknowns ht
  rows := by
    rw [standardForm, standardForm, hnames, hadded]
    exact forall₂_rowOf hg (kept_renames α hcs) fun _ hq _ ht => rowTerm_mem_variableNames hq ht

theorem normalize_renames (hf : Set.InjOn f {name | name ∈ writtenNames o cs})
    (ho : o.Renames f o') (hcs : cs.Forall₂ (Constraint.Renames f) cs') :
    ∃ (p p' : StandardForm α) (g : String → String),
      normalize o cs = .ok p ∧ normalize o' cs' = .ok p' ∧
      (∀ name ∈ writtenNames o cs, g name = f name) ∧ Set.InjOn g {name | name ∈ p.names} ∧
      p.Renames g p' ∧
      ∀ settings : Settings α, (p'.solve settings).mapError Tableau.Error.withoutText =
        ((p.solve settings).mapError Tableau.Error.withoutText).map (Solution.rename g) := by
  obtain ⟨g, hnames, hg, hfg, hadded⟩ := exists_renaming (α := α) hf ho hcs
  have hagree : ∀ name ∈ unknowns o cs, g name = f name := fun name hname =>
    hfg name (mem_firstOccurrences.1 hname)
  have hog : o.Renames g o' := ho.congr fun t ht => hagree _ (mem_unknowns.2 (.inl ⟨t, ht, rfl⟩))
  have hcsg : cs.Forall₂ (Constraint.Renames g) cs' :=
    Constraint.forall₂_renames_congr hcs fun c hc t ht => hagree _ (name_mem_unknowns hc ht)
  have hunknowns : unknowns o' cs' = (unknowns o cs).map g := by
    rw [unknowns_renames hf ho hcs, List.map_inj_left]
    exact fun name hname => (hagree name hname).symm
  have hp := standardForm_renames hg hog hcsg hunknowns hnames hadded
  exact ⟨standardForm α o cs, standardForm α o' cs', g, normalize_eq_ok o cs,
    normalize_eq_ok o' cs', hfg, hg, hp, hp.solve_eq (listed_standardForm o cs) hg⟩

theorem normalize_renames_onto_slack_names :
    ∃ (p p' : Problem Float) (g : String → String),
      ofLines ["Maximize: z = x1 + 2x2", "x1 + x2 <= 4", "x2 >= 0", "-x1 >= -3"] = .ok p ∧
      ofLines ["Maximize: y = s4 + 2s3", "s4 + s3 <= 4", "s3 >= 0", "-s4 >= -3"] = .ok p' ∧
      p.standard.names = ["x1", "x2", "s3", "s4"] ∧
      p'.standard.names = ["s4", "s3", "s5", "s6"] ∧
      p.standard.Renames g p'.standard ∧
      ∀ settings : Settings Float,
        (p'.standard.solve settings).mapError Tableau.Error.withoutText =
          ((p.standard.solve settings).mapError Tableau.Error.withoutText).map
            (Solution.rename g) := by
  let f (name : String) := if name = "x1" then "s4" else "s3"
  have h : ((ofLines ["Maximize: z = x1 + 2x2", "x1 + x2 <= 4", "x2 >= 0",
      "-x1 >= -3"]).toOption.bind fun p : Problem Float =>
        (ofLines ["Maximize: y = s4 + 2s3", "s4 + s3 <= 4", "s3 >= 0",
          "-s4 >= -3"]).toOption.map fun p' : Problem Float => (p.standard.names,
            p'.standard.names, decide (p.objective.Renames f p'.objective),
            decide (p.constraints.Forall₂ (Constraint.Renames f) p'.constraints),
            decide (∀ a ∈ writtenNames p.objective p.constraints,
              ∀ b ∈ writtenNames p.objective p.constraints, f a = f b → a = b))) =
      some (["x1", "x2", "s3", "s4"], ["s4", "s3", "s5", "s6"], true, true, true) := by
    decide +kernel
  obtain ⟨p, hp, h⟩ := Option.bind_eq_some_iff.1 h
  obtain ⟨p', hp', h⟩ := Option.map_eq_some_iff.1 h
  simp only [Prod.mk.injEq, decide_eq_true_eq] at h
  obtain ⟨hnames, hnames', ho, hcs, hf⟩ := h
  have hok : ofLines _ = .ok p := eq_ok_of_toOption hp
  have hok' : ofLines _ = .ok p' := eq_ok_of_toOption hp'
  obtain ⟨q, q', g, hq, hq', -, -, hrenames, hsolve⟩ :=
    normalize_renames (α := Float) (fun a ha b hb => hf a ha b hb) ho hcs
  obtain rfl := Except.ok.inj ((normalize_of_ofLines hok).symm.trans hq)
  obtain rfl := Except.ok.inj ((normalize_of_ofLines hok').symm.trans hq')
  exact ⟨p, p', g, hok, hok', hnames, hnames', hrenames, hsolve⟩

end Problem

end LinearProgram
