import LinearProgram.Proofs.Meaning
import LinearProgram.Proofs.RenamedLines

/-!
A line that bounds its terms from below by a negative number says the same as the line with all signs
changed, which bounds them from above. The first gets a surplus variable and has the signs of its row
changed afterwards, the second gets a slack variable. Both give the same row, and the rest of the
standard form does not show which of the two was written.
-/

namespace LinearProgram

lemma LinearForm.densify_map_neg (columns : List String) (ts : List (Rat × String)) :
    densify columns (ts.map fun t => (-t.1, t.2)) = (densify columns ts).map fun c => -c := by
  suffices hfold : ∀ dense : List Rat,
      (ts.map fun t => (-t.1, t.2)).foldl (fun dense t => addTerm columns dense t.1 t.2)
          (dense.map fun c => -c) =
        (ts.foldl (fun dense t => addTerm columns dense t.1 t.2) dense).map fun c => -c by
    simpa [densify] using hfold (List.replicate columns.length 0)
  induction ts with
  | nil => exact fun _ => rfl
  | cons t ts ih =>
    intro dense
    have hstep : addTerm columns (dense.map fun c => -c) (-t.1) t.2 =
        (addTerm columns dense t.1 t.2).map fun c => -c := by
      refine List.ext_getElem? fun k => ?_
      rw [addTerm, addTerm, List.getElem?_modify, List.getElem?_map, List.getElem?_map,
        List.getElem?_modify]
      cases dense[k]? with
      | none => rfl
      | some x =>
        by_cases hk : columns.idxOf t.2 = k
        · simp [hk, add_comm]
        · simp [hk]
    rw [List.map_cons, List.foldl_cons, List.foldl_cons, hstep, ih]

@[mk_iff]
structure Constraint.Flips (c c' : Constraint) : Prop where
  relation_eq : c.relation = .atLeast
  bound_neg : c.bound.value Rat < 0
  relation_eq' : c'.relation = .atMost
  bound_eq : c'.bound.value Rat = -c.bound.value Rat
  terms_eq : (c'.terms.map fun t => (t.coefficient.value Rat, t.name)) =
    c.terms.map fun t => (-t.coefficient.value Rat, t.name)

instance (c c' : Constraint) : Decidable (c.Flips c') :=
  decidable_of_iff' _ (Constraint.flips_iff c c')

namespace Tableau

variable {α : Type} [Scalar α]

structure StartsAlike (width : Nat) (r r' : StandardRow α) : Prop where
  equation_eq : r'.equation = r.equation
  basicName_eq : r'.basicName = r.basicName
  width_eq : r.equation.width = width
  exists_name : ∃ name, r.basicName = some name
  rhs_ge : ¬ r.rhs < 0

variable {width index : Nat} {r r' : StandardRow α}

lemma StartsAlike.startRow_eq (h : StartsAlike width r r') (index : Nat) :
    startRow width index r' = startRow width index r := by
  obtain ⟨name, hname⟩ := h.exists_name
  have hrhs : r'.rhs = r.rhs := congrArg LinearForm.constant h.equation_eq
  have hge := h.rhs_ge
  simp only [startRow, h.equation_eq, h.width_eq, h.basicName_eq, hname, hrhs, hge, ne_eq,
    not_true_eq_false, if_false]

lemma StartsAlike.startRows_eq (h : StartsAlike width r r') (index : Nat)
    (as bs : List (StandardRow α)) :
    startRows width index (as ++ r' :: bs) = startRows width index (as ++ r :: bs) := by
  induction as generalizing index with
  | nil => rw [List.nil_append, List.nil_append, startRows, startRows, h.startRow_eq]
  | cons a as ih => rw [List.cons_append, List.cons_append, startRows, startRows, ih]

end Tableau

namespace StandardForm

variable {α : Type} [Scalar α]

structure DiffersInRow (p p' : StandardForm α) : Prop where
  direction_eq : p'.direction = p.direction
  objectiveName_eq : p'.objectiveName = p.objectiveName
  names_eq : p'.names = p.names
  decisionCount_eq : p'.decisionCount = p.decisionCount
  objective_eq : p'.objective = p.objective
  rows : ∃ as r r' bs, p.rows = as ++ r :: bs ∧ p'.rows = as ++ r' :: bs ∧
    Tableau.StartsAlike p.names.length r r'

variable {p p' : StandardForm α}

namespace DiffersInRow

variable (h : DiffersInRow p p')

include h

lemma initialBasis_eq : p'.initialBasis = p.initialBasis := by
  obtain ⟨as, r, r', bs, hrows, hrows', hr⟩ := h.rows
  rw [initialBasis, initialBasis, hrows, hrows', List.map_append, List.map_append, List.map_cons,
    List.map_cons, hr.basicName_eq]

lemma equations_eq : p'.rows.map StandardRow.equation = p.rows.map StandardRow.equation := by
  obtain ⟨as, r, r', bs, hrows, hrows', hr⟩ := h.rows
  rw [hrows, hrows', List.map_append, List.map_append, List.map_cons, List.map_cons, hr.equation_eq]

lemma start_eq : Tableau.start p' = Tableau.start p := by
  obtain ⟨as, r, r', bs, hrows, hrows', hr⟩ := h.rows
  have hstart := hr.startRows_eq 1 as bs
  rw [← hrows, ← hrows'] at hstart
  simp only [Tableau.start, h.names_eq, h.objective_eq, h.decisionCount_eq, hstart]

theorem solve_eq (settings : Settings α) : p'.solve settings = p.solve settings := by
  rw [solve, solve, h.start_eq, h.direction_eq, h.decisionCount_eq]

end DiffersInRow

end StandardForm

namespace Problem

variable {c c' : Constraint} {o : Objective} {before after : List Constraint}

lemma exists_addVariables_eq (α : Type) [Scalar α] (names : List String)
    (before after : List Constraint) :
    ∃ as name bs, as.length = before.length ∧ ∀ c kind, addedKind α c = some kind →
      addVariables α names (before ++ c :: after) = as ++ some ⟨name, kind⟩ :: bs := by
  induction before generalizing names with
  | nil =>
    refine ⟨[], SlackName.next names, addVariables α (names ++ [SlackName.next names]) after, rfl,
      fun c kind hkind => ?_⟩
    rw [List.nil_append, addVariables, hkind]
    rfl
  | cons b before ih =>
    cases hb : addedKind α b with
    | none =>
      obtain ⟨as, name, bs, hl, hadd⟩ := ih names
      refine ⟨none :: as, name, bs, by rw [List.length_cons, List.length_cons, hl],
        fun c kind hkind => ?_⟩
      rw [List.cons_append, addVariables, hb, hadd c kind hkind]
      rfl
    | some kind' =>
      obtain ⟨as, name, bs, hl, hadd⟩ := ih (names ++ [SlackName.next names])
      refine ⟨some ⟨SlackName.next names, kind'⟩ :: as, name, bs,
        by rw [List.length_cons, List.length_cons, hl], fun c kind hkind => ?_⟩
      rw [List.cons_append, addVariables, hb]
      simp only [hadd c kind hkind, List.cons_append]

section

variable (h : c.Flips c')

include h

lemma map_name_flips : c'.terms.map Term.name = c.terms.map Term.name := by
  have hnames := congrArg (List.map Prod.snd) h.terms_eq
  rwa [List.map_map, List.map_map] at hnames

lemma unknowns_flips (o : Objective) (before after : List Constraint) :
    unknowns o (before ++ c' :: after) = unknowns o (before ++ c :: after) := by
  simp only [unknowns, List.map_append, List.flatMap_append, List.flatMap_cons, map_name_flips h]

lemma kept_flips (before after : List Constraint) :
    kept Rat (before ++ c :: after) = kept Rat before ++ c :: kept Rat after ∧
      kept Rat (before ++ c' :: after) = kept Rat before ++ c' :: kept Rat after := by
  have hc : c.isSignBound Rat = false := by
    rw [← Bool.not_eq_true, Constraint.isSignBound_iff]
    rintro ⟨-, h0, -⟩
    exact h.bound_neg.ne (eq_of_beq h0)
  have hc' : c'.isSignBound Rat = false := by
    rw [← Bool.not_eq_true, Constraint.isSignBound_iff]
    rintro ⟨hrel, -⟩
    rw [h.relation_eq'] at hrel
    cases hrel
  constructor <;> simp [kept, List.filter_append, hc, hc']

lemma rowEquation_flips (columns : List String) (name : String) :
    (rowEquation columns c' (some ⟨name, .slack⟩) : LinearForm Rat) =
      rowEquation columns c (some ⟨name, .surplus⟩) := by
  have hterms : rowTerms Rat c' (some ⟨name, .slack⟩) =
      (rowTerms Rat c (some ⟨name, .surplus⟩)).map fun t => (-t.1, t.2) := by
    rw [rowTerms, rowTerms, List.map_append, h.terms_eq, List.map_map]
    simp [AddedVariable.coefficient]
  rw [rowEquation, rowEquation, hterms, LinearForm.densify_map_neg, h.bound_eq]
  rfl

lemma startsAlike_flips (columns : List String) (name : String) :
    Tableau.StartsAlike columns.length
      (rowOf columns c (some ⟨name, .surplus⟩) : StandardRow Rat)
      (rowOf columns c' (some ⟨name, .slack⟩)) where
  equation_eq := rowEquation_flips h columns name
  basicName_eq := rfl
  width_eq := width_rowEquation columns c _
  exists_name := ⟨name, rfl⟩
  rhs_ge := by
    have hrhs : (rowOf columns c (some ⟨name, .surplus⟩) : StandardRow Rat).rhs =
        -c.bound.value Rat := rfl
    rw [hrhs, not_lt, neg_nonneg]
    exact h.bound_neg.le

lemma standardForm_flips (o : Objective) (before after : List Constraint) :
    (standardForm Rat o (before ++ c :: after)).DiffersInRow
      (standardForm Rat o (before ++ c' :: after)) := by
  obtain ⟨hkept, hkept'⟩ := kept_flips h before after
  have hunknowns := unknowns_flips h o before after
  obtain ⟨as, name, bs, hl, hadd⟩ := exists_addVariables_eq Rat
    (unknowns o (before ++ c :: after)) (kept Rat before) (kept Rat after)
  have hadded : addedVariables Rat o (before ++ c :: after) = as ++ some ⟨name, .surplus⟩ :: bs := by
    rw [addedVariables, hkept]
    exact hadd c .surplus (addedKind_eq_surplus.2 ⟨h.relation_eq, h.bound_neg⟩)
  have hadded' : addedVariables Rat o (before ++ c' :: after) = as ++ some ⟨name, .slack⟩ :: bs := by
    rw [addedVariables, hkept', hunknowns]
    exact hadd c' .slack (addedKind_eq_slack.2 h.relation_eq')
  have hnames : variableNames Rat o (before ++ c' :: after) =
      variableNames Rat o (before ++ c :: after) := by
    rw [variableNames, variableNames, hunknowns, hadded, hadded']
    simp [addedNames, List.filterMap_append]
  let row (q : Constraint × Option AddedVariable) : StandardRow Rat :=
    rowOf (variableNames Rat o (before ++ c :: after)) q.1 q.2
  have hrows (d : Constraint) (v : Option AddedVariable) :
      ((kept Rat before ++ d :: kept Rat after).zip (as ++ v :: bs)).map row =
        ((kept Rat before).zip as).map row ++ row (d, v) :: ((kept Rat after).zip bs).map row := by
    rw [List.zip_append hl.symm, List.map_append, List.zip_cons_cons, List.map_cons]
  have hp := hrows c (some ⟨name, .surplus⟩)
  have hp' := hrows c' (some ⟨name, .slack⟩)
  rw [← hkept, ← hadded] at hp
  rw [← hkept', ← hadded'] at hp'
  refine ⟨rfl, rfl, hnames, ?_, ?_, _, _, _, _, hp, ?_, startsAlike_flips h _ name⟩
  · rw [standardForm, standardForm, hunknowns]
  · rw [standardForm, standardForm, hunknowns]
  · rw [standardForm, hnames]
    exact hp'

/-- A line with `>=` and a negative bound may be written with all signs changed and with `<=`: the
standard form has the same variables, objective, initial basis and equations, and solving starts from
the same tableau and ends in the same way. -/
theorem normalize_flips (o : Objective) (before after : List Constraint) :
    ∃ p p' : StandardForm Rat, normalize o (before ++ c :: after) = .ok p ∧
      normalize o (before ++ c' :: after) = .ok p' ∧ p'.names = p.names ∧
      p'.decisionCount = p.decisionCount ∧ p'.direction = p.direction ∧
      p'.objectiveName = p.objectiveName ∧ p'.objective = p.objective ∧
      p'.initialBasis = p.initialBasis ∧
      p'.rows.map StandardRow.equation = p.rows.map StandardRow.equation ∧
      Tableau.start p' = Tableau.start p ∧
      ∀ settings, p'.solve settings = p.solve settings := by
  have hd := standardForm_flips h o before after
  exact ⟨_, _, normalize_eq_ok o _, normalize_eq_ok o _, hd.names_eq, hd.decisionCount_eq,
    hd.direction_eq, hd.objectiveName_eq, hd.objective_eq, hd.initialBasis_eq, hd.equations_eq,
    hd.start_eq, hd.solve_eq⟩

end

theorem normalize_flips_of_repeated_term :
    ∃ p p' : Problem Rat,
      ofLines ["Maximize: z = 3x + 4y", "x + y <= 10", "-x - 2y - x >= -8", "y <= 5"] = .ok p ∧
      ofLines ["Maximize: z = 3x + 4y", "x + y <= 10", "x + 2y + x <= 8", "y <= 5"] = .ok p' ∧
      p.standard.rows.map StandardRow.signFlipped = [false, true, false] ∧
      p'.standard.rows.map StandardRow.signFlipped = [false, false, false] ∧
      p'.standard.rows.map StandardRow.equation = p.standard.rows.map StandardRow.equation ∧
      Tableau.start p'.standard = Tableau.start p.standard ∧
      ∀ settings, p'.standard.solve settings = p.standard.solve settings := by
  have h : ((ofLines ["Maximize: z = 3x + 4y", "x + y <= 10", "-x - 2y - x >= -8",
      "y <= 5"]).toOption.bind fun p : Problem Rat =>
        (ofLines ["Maximize: z = 3x + 4y", "x + y <= 10", "x + 2y + x <= 8",
          "y <= 5"]).toOption.map fun p' : Problem Rat => (decide (p'.objective = p.objective),
            decide (∃ c ∈ p.constraints, ∃ c' ∈ p'.constraints, c.Flips c' ∧
              p.constraints = p.constraints.take 1 ++ c :: p.constraints.drop 2 ∧
              p'.constraints = p.constraints.take 1 ++ c' :: p.constraints.drop 2),
            p.standard.rows.map StandardRow.signFlipped,
            p'.standard.rows.map StandardRow.signFlipped)) =
      some (true, true, [false, true, false], [false, false, false]) := by decide +kernel
  obtain ⟨p, hp, h⟩ := Option.bind_eq_some_iff.1 h
  obtain ⟨p', hp', h⟩ := Option.map_eq_some_iff.1 h
  simp only [Prod.mk.injEq, decide_eq_true_eq] at h
  obtain ⟨hobjective, ⟨c, -, c', -, hflips, hc, hc'⟩, hsigns, hsigns'⟩ := h
  have hok : ofLines _ = .ok p := eq_ok_of_toOption hp
  have hok' : ofLines _ = .ok p' := eq_ok_of_toOption hp'
  obtain ⟨q, q', hq, hq', -, -, -, -, -, -, hequations, hstart, hsolve⟩ := normalize_flips hflips
    p.objective (p.constraints.take 1) (p.constraints.drop 2)
  rw [← hc] at hq
  rw [← hc', ← hobjective] at hq'
  obtain rfl := Except.ok.inj ((normalize_of_ofLines hok).symm.trans hq)
  obtain rfl := Except.ok.inj ((normalize_of_ofLines hok').symm.trans hq')
  exact ⟨p, p', hok, hok', hsigns, hsigns', hequations, hstart, hsolve⟩

end Problem

end LinearProgram
