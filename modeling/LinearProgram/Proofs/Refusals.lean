import LinearProgram.Proofs.Columns
import LinearProgram.Run

namespace LinearProgram

/-- Numbers as lines give them have a sign, which an undefined number would not have. -/
class OrderedSigns (α : Type) [Scalar α] : Prop extends LawfulSigns α where
  not_neg_of_pos : ∀ {x : α}, 0 < x → ¬ x < 0
  nonneg_iff : ∀ d : SignedDecimal, 0 ≤ d.value α ↔ ¬ d.value α < 0

instance : OrderedSigns Rat where
  not_neg_of_pos := not_lt_of_gt
  nonneg_iff _ := not_lt.symm

variable {α : Type} [Scalar α]

namespace Constraint

variable (α) in
def Unstartable (c : Constraint) : Prop :=
  c.relation = .equal ∨ c.relation = .atLeast ∧ 0 ≤ c.bound.value α ∨
    c.relation = .atMost ∧ c.bound.value α < 0

instance (c : Constraint) : Decidable (c.Unstartable α) :=
  inferInstanceAs (Decidable (_ ∨ _ ∧ _ ∨ _ ∧ _))

def startError (c : Constraint) (row : Nat) : Tableau.Error :=
  if c.relation = .atMost then .infeasibleStart row c.text else .missingBasicVariable row c.text

end Constraint

namespace Problem

open Tableau

variable [OrderedSigns α] {columns : List String} {c : Constraint} {added : Option AddedVariable}
  {index : Nat} {o : Objective} {cs : List Constraint}

lemma startRow_of_unstartable (hk : added.map AddedVariable.kind = addedKind α c)
    (h : c.Unstartable α) :
    startRow columns.length index (rowOf columns c added : StandardRow α) =
      .error (c.startError index) := by
  rcases h with h | ⟨h, hb⟩ | ⟨h, hb⟩
  · have hnone : added = none := by simpa [addedKind, h] using hk
    simp [startRow, rowOf, hnone, StandardRow.basicName, Constraint.startError, h]
  · have hneg := (OrderedSigns.nonneg_iff c.bound).1 hb
    have hnone : added = none := by simpa [addedKind, h, hneg] using hk
    simp [startRow, rowOf, hnone, StandardRow.basicName, Constraint.startError, h]
  · have hslack : addedKind α c = some .slack := by simp [addedKind, h]
    obtain ⟨v, rfl, hv⟩ := Option.map_eq_some_iff.1 (hk.trans hslack)
    have hrhs : (rowOf columns c (some v) : StandardRow α).rhs = c.bound.value α := by
      simp [StandardRow.rhs, rowOf, rowEquation, isFlipped, hv]
    have hwidth : (rowOf columns c (some v) : StandardRow α).equation.width = columns.length := 
      width_rowEquation columns c (some v)
    rw [startRow, hwidth, if_neg (by simp), hrhs]
    simp [rowOf, StandardRow.basicName, Constraint.startError, h, hb]

lemma startRow_of_startable (hk : added.map AddedVariable.kind = addedKind α c)
    (h : ¬ c.Unstartable α) :
    ∃ b, startRow columns.length index (rowOf columns c added : StandardRow α) = .ok b := by
  have hwidth : (rowOf columns c added : StandardRow α).equation.width = columns.length :=
    width_rowEquation columns c added
  suffices hstart : ∃ v, added = some v ∧ ¬ (rowOf columns c added : StandardRow α).rhs < 0 by
    obtain ⟨v, rfl, hrhs⟩ := hstart
    have hname : (rowOf columns c (some v) : StandardRow α).basicName = some v.name := rfl
    rw [startRow, hwidth, if_neg (by simp), hname]
    exact ⟨_, if_neg hrhs⟩
  simp only [Constraint.Unstartable, not_or, not_and] at h
  obtain ⟨hequal, hleast, hmost⟩ := h
  cases hrel : c.relation with
  | equal => exact absurd hrel hequal
  | atMost =>
    have hslack : addedKind α c = some .slack := by simp [addedKind, hrel]
    obtain ⟨v, rfl, hv⟩ := Option.map_eq_some_iff.1 (hk.trans hslack)
    refine ⟨v, rfl, ?_⟩
    simpa [StandardRow.rhs, rowOf, rowEquation, isFlipped, hv] using hmost hrel
  | atLeast =>
    have hneg : c.bound.value α < 0 := by
      by_contra hneg
      exact hleast hrel ((OrderedSigns.nonneg_iff c.bound).2 hneg)
    have hsurplus : addedKind α c = some .surplus := by simp [addedKind, hrel, hneg]
    obtain ⟨v, rfl, hv⟩ := Option.map_eq_some_iff.1 (hk.trans hsurplus)
    refine ⟨v, rfl, ?_⟩
    have := OrderedSigns.not_neg_of_pos (LawfulSigns.neg_pos hneg)
    simpa [StandardRow.rhs, rowOf, rowEquation, isFlipped, hv, LinearForm.negated] using this

lemma startRows_eq_error_iff {ps : List (Constraint × Option AddedVariable)} {e : Tableau.Error}
    (hk : ∀ p ∈ ps, p.2.map AddedVariable.kind = addedKind α p.1) :
    startRows columns.length index (ps.map fun p => (rowOf columns p.1 p.2 : StandardRow α)) =
        .error e ↔
      ∃ before c after, ps.map Prod.fst = before ++ c :: after ∧
        (∀ b ∈ before, ¬ b.Unstartable α) ∧ c.Unstartable α ∧
          e = c.startError (index + before.length) := by
  induction ps generalizing index with
  | nil => simp [startRows]
  | cons p ps ih =>
    obtain ⟨hp, hps⟩ := List.forall_mem_cons.1 hk
    rw [List.map_cons, startRows]
    by_cases hbad : p.1.Unstartable α
    · simp only [startRow_of_unstartable hp hbad, bind, Except.bind, Except.error.injEq]
      constructor
      · rintro rfl
        exact ⟨[], p.1, ps.map Prod.fst, rfl, nofun, hbad, rfl⟩
      · rintro ⟨before, c, after, heq, hbefore, hc, rfl⟩
        cases before with
        | nil =>
          obtain ⟨rfl, -⟩ := List.cons_eq_cons.1 heq
          rfl
        | cons b before =>
          obtain ⟨rfl, -⟩ := List.cons_eq_cons.1 heq
          exact absurd hbad (hbefore _ List.mem_cons_self)
    · obtain ⟨b, hb⟩ : ∃ b, startRow columns.length index _ = .ok b :=
        startRow_of_startable hp hbad
      have hrest : startRows columns.length index
          ((p :: ps).map fun p => (rowOf columns p.1 p.2 : StandardRow α)) = .error e ↔
          startRows columns.length (index + 1)
            (ps.map fun p => (rowOf columns p.1 p.2 : StandardRow α)) = .error e := by
        rw [List.map_cons, startRows, hb]
        cases startRows columns.length (index + 1)
            (ps.map fun p => (rowOf columns p.1 p.2 : StandardRow α)) <;>
          simp [bind, Except.bind, pure, Except.pure]
      refine hrest.trans ((ih hps).trans ?_)
      constructor
      · rintro ⟨before, c, after, heq, hbefore, hc, rfl⟩
        refine ⟨p.1 :: before, c, after, by rw [List.map_cons, heq]; rfl,
          List.forall_mem_cons.2 ⟨hbad, hbefore⟩, hc, ?_⟩
        rw [List.length_cons, Nat.add_assoc, Nat.add_comm 1]
      · rintro ⟨before, c, after, heq, hbefore, hc, rfl⟩
        cases before with
        | nil =>
          obtain ⟨rfl, -⟩ := List.cons_eq_cons.1 heq
          exact absurd hc hbad
        | cons b before =>
          obtain ⟨-, htail⟩ := List.cons_eq_cons.1 heq
          refine ⟨before, c, after, htail, fun b hb => hbefore b (List.mem_cons_of_mem _ hb), hc, ?_⟩
          rw [List.length_cons, Nat.add_assoc, Nat.add_comm 1]

theorem solve_eq_error_iff {lines : List String} {p : Problem α} (h : ofLines lines = .ok p)
    (settings : Settings α) (e : Tableau.Error) :
    p.standard.solve settings = .error e ↔
      ∃ before c after, kept α p.constraints = before ++ c :: after ∧
        (∀ b ∈ before, ¬ b.Unstartable α) ∧ c.Unstartable α ∧
          e = c.startError (before.length + 1) := by
  have hstandard := standard_of_ofLines h
  have hwidth : ¬ p.standard.names.length < p.standard.objective.length := by
    rw [hstandard]
    simp [standardForm, variableNames, LinearForm.length_densify]
  have hrows : p.standard.solve settings = .error e ↔
      startRows p.standard.names.length 1 p.standard.rows = .error e := by
    rw [StandardForm.solve, start, if_neg hwidth]
    cases startRows p.standard.names.length 1 p.standard.rows <;>
      simp [bind, Except.bind, pure, Except.pure]
  have hkept : ((kept α p.constraints).zip
      (addedVariables α p.objective p.constraints)).map Prod.fst = kept α p.constraints :=
    List.map_fst_zip (length_addVariables α _ _).ge
  rw [hrows, hstandard, ← hkept]
  simp only [Nat.add_comm _ 1]
  exact startRows_eq_error_iff fun p hp => kind_of_mem_zip hp

end Problem

end LinearProgram
