import LinearProgram.Proofs.Meaning

/-!
Standard form keeps the meaning of the lines: an assignment satisfies the lines just where values of
the added variables complete it to a solution of the equations, and there is one completion at most.
Equations, which get no variable, are their own rows.
-/

namespace LinearProgram

/-- `y` gives the variables of the problem the values that `x` gives them, and solves the equations
with values of the added variables that are not negative. -/
structure StandardForm.Completion (p : StandardForm Rat) (x y : String → Rat) : Prop where
  agrees : ∀ n ∈ p.decisionVariables, y n = x n
  nonneg : ∀ n ∈ p.names.drop p.decisionCount, 0 ≤ y n
  holds : p.Holds y

namespace Problem

variable {o : Objective} {cs : List Constraint} {c : Constraint}
  {added : Option AddedVariable} {x y : String → Rat}

lemma holds_iff_of_balanced (hk : added.map AddedVariable.kind = addedKind Rat c)
    (hs : c.Startable) (hb : c.Balanced added x) : c.Holds x ↔ ∀ v ∈ added, 0 ≤ x v.name := by
  cases added with
  | none =>
    -- only an equation is left without a variable, and its row is the equation itself
    have hrel := hs.relation_eq hk.symm
    rw [Constraint.Holds, hrel]
    refine iff_of_true hb fun v hv => ?_
    cases hv
  | some v =>
    have hne : addedKind Rat c ≠ none := by
      rw [← hk]
      exact Option.some_ne_none _
    rw [Constraint.holds_iff_distance hne, ← show x v.name = c.distance x from hb]
    simp

lemma agrees_on_terms (hxy : ∀ n ∈ unknowns o cs, y n = x n) (hc : c ∈ cs) :
    ∀ t ∈ c.terms, y t.name = x t.name :=
  fun _ ht => hxy _ (name_mem_unknowns hc ht)

theorem holds_of_completion (hs : ∀ c ∈ kept Rat cs, c.Startable)
    (hx : ∀ n ∈ unknowns o cs, 0 ≤ x n) (h : (standardForm Rat o cs).Completion x y)
    (hc : c ∈ cs) : c.Holds x := by
  have hxy := h.agrees
  rw [decisionVariables_standardForm] at hxy
  cases hbound : c.isSignBound Rat with
  | true => exact Constraint.holds_of_isSignBound hbound fun t ht => hx _ (name_mem_unknowns hc ht)
  | false =>
    have hkept : c ∈ kept Rat cs := List.mem_filter.2 ⟨hc, by simp [hbound]⟩
    obtain ⟨added, hm⟩ := exists_added_of_kept o hkept
    have hb := (standardForm_holds_iff_balanced y).1 h.holds c added hm
    rw [← Constraint.holds_congr (agrees_on_terms hxy hc),
      holds_iff_of_balanced (kind_of_mem_zip hm) (hs c hkept) hb]
    rintro v rfl
    apply h.nonneg
    rw [drop_names_standardForm]
    exact mem_addedNames.2 ⟨v, (List.of_mem_zip hm).2, rfl⟩

lemma balanced_of_holds (hk : added.map AddedVariable.kind = addedKind Rat c) (hs : c.Startable)
    (hc : c.Holds x) (hxy : ∀ t ∈ c.terms, y t.name = x t.name)
    (hadd : ∀ v, added = some v → y v.name = c.distance x) : c.Balanced added y := by
  cases added with
  | none =>
    rw [Constraint.Holds, hs.relation_eq hk.symm] at hc
    exact (Term.sumAt_congr hxy).trans hc
  | some v => exact (hadd v rfl).trans (Constraint.distance_congr hxy).symm

theorem exists_completion (hs : ∀ c ∈ kept Rat cs, c.Startable) (h : ∀ c ∈ cs, c.Holds x) :
    ∃ y, (standardForm Rat o cs).Completion x y := by
  obtain ⟨y, hxy, hadd⟩ := exists_added o cs x
  have hbalanced (c : Constraint) (added : Option AddedVariable)
      (hm : (c, added) ∈ (kept Rat cs).zip (addedVariables Rat o cs)) : c.Balanced added y := by
    have hkept := (List.of_mem_zip hm).1
    have hc := List.mem_of_mem_filter hkept
    apply balanced_of_holds (kind_of_mem_zip hm) (hs c hkept) (h c hc) (agrees_on_terms hxy hc)
    rintro v rfl
    exact hadd c v hm
  refine ⟨y, ?_, ?_, (standardForm_holds_iff_balanced y).2 hbalanced⟩
  · rw [decisionVariables_standardForm]
    exact hxy
  · rw [drop_names_standardForm]
    intro n hn
    obtain ⟨v, hv, rfl⟩ := mem_addedNames.1 hn
    obtain ⟨c, hm⟩ := exists_constraint_of_added hv
    have hkept := (List.of_mem_zip hm).1
    have hc := List.mem_of_mem_filter hkept
    have hholds := (Constraint.holds_congr (agrees_on_terms hxy hc)).2 (h c hc)
    rw [holds_iff_of_balanced (kind_of_mem_zip hm) (hs c hkept) (hbalanced c _ hm)] at hholds
    exact hholds v rfl

theorem eq_of_agree {y' : String → Rat} (h : (standardForm Rat o cs).Holds y)
    (h' : (standardForm Rat o cs).Holds y') (hyy' : ∀ n ∈ unknowns o cs, y n = y' n) {n : String}
    (hn : n ∈ variableNames Rat o cs) : y n = y' n := by
  rcases List.mem_append.1 hn with hn | hn
  · exact hyy' n hn
  · obtain ⟨v, hv, rfl⟩ := mem_addedNames.1 hn
    obtain ⟨c, hm⟩ := exists_constraint_of_added hv
    have hc := List.mem_of_mem_filter (List.of_mem_zip hm).1
    have hb : y v.name = c.distance y := (standardForm_holds_iff_balanced y).1 h c _ hm
    have hb' : y' v.name = c.distance y' := (standardForm_holds_iff_balanced y').1 h' c _ hm
    rw [hb, hb', Constraint.distance_congr (agrees_on_terms hyy' hc)]

theorem completion_unique {y' : String → Rat} (h : (standardForm Rat o cs).Completion x y)
    (h' : (standardForm Rat o cs).Completion x y') {n : String} (hn : n ∈ variableNames Rat o cs) :
    y n = y' n := by
  refine eq_of_agree h.holds h'.holds (fun k hk => ?_) hn
  have hk : k ∈ (standardForm Rat o cs).decisionVariables := by rwa [decisionVariables_standardForm]
  rw [h.agrees k hk, h'.agrees k hk]

def AllAdded (o : Objective) (cs : List Constraint) : Prop :=
  ∀ r ∈ (standardForm Rat o cs).rows, r.added ≠ none

lemma AllAdded.startable (h : AllAdded o cs) (hc : c ∈ kept Rat cs) : c.Startable := by
  obtain ⟨added, hm⟩ := exists_added_of_kept o hc
  have hne := h _ (List.mem_map_of_mem hm)
  intro hrel
  by_contra hbound
  have hk : addedKind Rat c = none := by simp [addedKind, hrel, hbound]
  rw [← kind_of_mem_zip hm] at hk
  exact hne (Option.map_eq_none_iff.1 hk)

theorem feasible_of_standard {p : Problem Rat}
    (hp : p.standard = standardForm Rat p.objective p.constraints)
    (hall : AllAdded p.objective p.constraints) (hx : p.standard.Feasible x) : p.Feasible x := by
  rw [hp] at hx
  obtain ⟨hnn, hh⟩ := hx
  have hu : ∀ n ∈ unknowns p.objective p.constraints, 0 ≤ x n := fun n hn =>
    hnn n (List.mem_append_left _ hn)
  have hself : (standardForm Rat p.objective p.constraints).Completion x x :=
    ⟨fun _ _ => rfl, fun n hn => hnn n (List.mem_of_mem_drop hn), hh⟩
  exact ⟨hu, fun c hc => holds_of_completion (fun _ => hall.startable) hu hself hc⟩

theorem exists_standard {p : Problem Rat}
    (hp : p.standard = standardForm Rat p.objective p.constraints)
    (hall : AllAdded p.objective p.constraints) (hx : p.Feasible x) :
    ∃ y : String → Rat, (∀ n ∈ unknowns p.objective p.constraints, y n = x n) ∧
      p.standard.Feasible y := by
  obtain ⟨y, hy⟩ := exists_completion (o := p.objective) (fun _ => hall.startable) hx.2
  have hxy := hy.agrees
  rw [decisionVariables_standardForm] at hxy
  rw [hp]
  refine ⟨y, hxy, fun n hn => ?_, hy.holds⟩
  rcases List.mem_append.1 hn with hn | hn
  · rw [hxy n hn]
    exact hx.1 n hn
  · apply hy.nonneg
    rwa [drop_names_standardForm]

variable {lines : List String} {p : Problem Rat}

/-- The lines hold of non-negative values of the variables just where these have a completion, which
is then determined; the objective is the one of the lines. -/
theorem holds_iff_exists_completion (hp : ofLines lines = .ok p)
    (hs : ∀ c ∈ kept Rat p.constraints, c.Startable)
    (hx : ∀ n ∈ p.standard.decisionVariables, 0 ≤ x n) :
    ((∀ c ∈ p.constraints, c.Holds x) ↔ ∃ y, p.standard.Completion x y) ∧
      (∀ y y', p.standard.Completion x y → p.standard.Completion x y' →
        ∀ n ∈ p.standard.names, y n = y' n) ∧
      p.standard.objectiveAt x = p.objective.valueAt x := by
  have hstd := standard_of_ofLines hp
  refine ⟨?_, ?_, objectiveAt_eq_valueAt hstd x⟩
  · rw [hstd, decisionVariables_standardForm] at hx
    rw [hstd]
    constructor
    · exact exists_completion hs
    · rintro ⟨y, hy⟩ c hc
      exact holds_of_completion hs hx hy hc
  · rw [hstd]
    intro y y' hy hy' n hn
    exact completion_unique hy hy' hn

theorem exists_completion_of_equation :
    ∃ p, ofLines ["Maximize: z = 3x + 2y + x", "x + y + x <= 10", "-x - y >= -8", "x - w = 1",
        "2v >= 0"] = .ok p ∧ p.standard.names = ["x", "y", "w", "v", "s5", "s6"] ∧
      ∃ y, p.standard.Completion (fun name => if name = "x" then 2 else 1) y := by
  have h : ((ofLines ["Maximize: z = 3x + 2y + x", "x + y + x <= 10", "-x - y >= -8", "x - w = 1",
      "2v >= 0"]).toOption.map fun p : Problem Rat => (p.standard.names,
        decide (∀ c ∈ kept Rat p.constraints, c.relation = .atLeast → c.bound.value Rat < 0),
        decide (∀ n ∈ p.standard.decisionVariables, (0 : Rat) ≤ if n = "x" then 2 else 1),
        decide (∀ c ∈ p.constraints, c.Holds fun name => if name = "x" then (2 : Rat) else 1))) =
      some (["x", "y", "w", "v", "s5", "s6"], true, true, true) := by decide +kernel
  obtain ⟨p, hp, hr⟩ := Option.map_eq_some_iff.1 h
  simp only [Prod.mk.injEq, decide_eq_true_eq] at hr
  obtain ⟨hnames, hs, hx, hholds⟩ := hr
  have hok : ofLines _ = .ok p := eq_ok_of_toOption hp
  exact ⟨p, hok, hnames, (holds_iff_exists_completion hok hs hx).1.1 hholds⟩

end Problem

end LinearProgram
