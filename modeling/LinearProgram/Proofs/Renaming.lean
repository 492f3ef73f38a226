import Mathlib.Data.Set.Function
import LinearProgram.Proofs.Shape

/-!
A run looks at the names of variables only to find their columns. Renaming the variables, so that
different ones stay different, renames them in the solution and changes nothing else.
-/

namespace LinearProgram

section Lists

variable {g : String → String} {names : List String} {name : String}

lemma getD_map {j : Nat} (g : String → String) (hj : j < names.length) :
    (names.map g).getD j "" = g (names.getD j "") := by
  simp [List.getD_eq_getElem?_getD, hj]

lemma mem_map_iff_of_injOn {taken : List String} (hg : Set.InjOn g {n | n ∈ names})
    (ht : taken ⊆ names) (h : name ∈ names) : g name ∈ taken.map g ↔ name ∈ taken := by
  rw [List.mem_map]
  constructor
  · rintro ⟨n, hn, he⟩
    exact hg (ht hn) h he ▸ hn
  · intro hn
    exact ⟨name, hn, rfl⟩

lemma idxOf_map_of_injOn (hg : Set.InjOn g {n | n ∈ names}) (h : name ∈ names) :
    (names.map g).idxOf (g name) = names.idxOf name := by
  induction names with
  | nil => cases h
  | cons a names ih =>
    rw [List.map_cons]
    by_cases ha : a = name
    · rw [ha, List.idxOf_cons_self, List.idxOf_cons_self]
    · have hga : g a ≠ g name := fun he => ha (hg List.mem_cons_self h he)
      have hname : name ∈ names := (List.mem_cons.1 h).resolve_left (Ne.symm ha)
      rw [List.idxOf_cons_ne _ hga, List.idxOf_cons_ne _ ha,
        ih (hg.mono fun n hn => List.mem_cons_of_mem _ hn) hname]

end Lists

variable {α : Type}

def Tableau.rename (g : String → String) (t : Tableau α) : Tableau α :=
  { t with names := t.names.map g, basis := t.basis.map g }

def Step.rename (g : String → String) (s : Step α) : Step α :=
  { s with
    tableau := s.tableau.rename g
    entering := s.entering.map g
    leaving := s.leaving.map g }

def Solution.rename (g : String → String) (s : Solution α) : Solution α :=
  { s with
    names := s.names.map g
    tableau := s.tableau.rename g
    steps := s.steps.map (Step.rename g) }

def Run.rename (g : String → String) (s : Run α) : Run α :=
  { s with tableau := s.tableau.rename g, past := s.past.map (Step.rename g) }

variable {g : String → String}

namespace Tableau

lemma pivot_rename [Scalar α] {t : Tableau α} (i : Nat) {j : Nat} (hj : j < t.names.length) :
    (t.rename g).pivot i j = (t.pivot i j).rename g := by
  simp only [pivot, rename, getD_map g hj, List.map_set]

structure Renamable (g : String → String) (t : Tableau α) (m n : Nat) : Prop
    extends t.Shaped m n where
  basis_subset : t.basis ⊆ t.names
  injOn : Set.InjOn g {name | name ∈ t.names}

namespace Renamable

variable {t : Tableau α} {m n i j : Nat}

lemma isBasic_rename (h : t.Renamable g m n) {name : String} (hname : name ∈ t.names) :
    (t.rename g).isBasic (g name) = t.isBasic name := by
  rw [Bool.eq_iff_iff, isBasic, isBasic, List.contains_iff_mem, List.contains_iff_mem]
  exact mem_map_iff_of_injOn h.injOn h.basis_subset hname

variable [Scalar α] (h : t.Renamable g m n)

include h

lemma entering_rename (d : Direction) (tolerance : α) (seen : Bool) :
    (t.rename g).entering d tolerance seen = t.entering d tolerance seen := by
  have hobjective : (t.rename g).objective = t.objective := rfl
  rw [entering, entering, hobjective]
  split
  · rfl
  · rename_i x j hb
    have hj := h.lt_names (List.getElem?_eq_some_iff.1 (getElem?_of_firstBest hb)).1
    have hname : (t.rename g).names.getD j "" = g (t.names.getD j "") := getD_map g hj
    rw [hname, h.isBasic_rename (getD_mem hj)]

lemma basicValues_rename : (t.rename g).basicValues = t.basicValues := by
  have hzip : (t.rename g).basis.zip t.rows = (t.basis.zip t.rows).map (Prod.map g id) := by
    rw [← List.zip_map, List.map_id]
    rfl
  have hlength : (t.rename g).names.length = t.names.length := List.length_map _
  have hrows : (t.rename g).rows = t.rows := rfl
  rw [basicValues, basicValues, hrows, hzip, hlength, List.foldl_map]
  apply List.foldl_ext
  intro values b hb
  have hname : b.1 ∈ t.names := h.basis_subset (List.of_mem_zip hb).1
  have hplace : (t.rename g).names.idxOf (g b.1) = t.names.idxOf b.1 :=
    idxOf_map_of_injOn h.injOn hname
  rw [Prod.map_fst, Prod.map_snd, hplace]
  rfl

lemma pivot (hi : i < m) (hj : j < t.names.length) : (t.pivot i j).Renamable g m n where
  toShaped := h.toShaped.pivot hi j
  basis_subset := by
    intro name hname
    rcases List.mem_or_eq_of_mem_set hname with hname | rfl
    · exact h.basis_subset hname
    · exact getD_mem hj
  injOn := h.injOn

end Renamable

end Tableau

namespace Run

variable [Scalar α]

variable {s s' : Run α} {d : Direction} {tolerance : α} {m n : Nat}

lemma reading_rename (h : s.tableau.Renamable g m n) :
    (s.rename g).reading = s.reading.rename g := by
  have hvalues : (s.rename g).tableau.basicValues = s.tableau.basicValues := h.basicValues_rename
  simp only [reading, hvalues]
  simp only [rename, Step.rename, List.length_map]
  rfl

lemma openStep_rename (h : s.tableau.Renamable g m n) (tolerance : α) (j : Nat) :
    (s.rename g).openStep tolerance j = (s.openStep tolerance j).rename g := by
  have hentering : (s.rename g).tableau.names[j]? = s.tableau.names[j]?.map g := List.getElem?_map
  simp only [openStep, reading_rename h, hentering]
  rfl

lemma pivotStep_rename (h : s.tableau.Renamable g m n) (tolerance : α) (i j : Nat) :
    (s.rename g).pivotStep tolerance i j = (s.pivotStep tolerance i j).rename g := by
  have hleaving : (s.rename g).tableau.basis[i]? = s.tableau.basis[i]?.map g := List.getElem?_map
  simp only [pivotStep, openStep_rename h, hleaving]
  rfl

lemma enter_rename (h : s.tableau.Renamable g m n) {j : Nat}
    (hj : j < s.tableau.objective.entries.length) :
    (s.rename g).enter tolerance j = (s.enter tolerance j).map (rename g) (Step.rename g) := by
  cases hl : Tableau.leaving tolerance (s.tableau.ratios j tolerance) with
  | none =>
    have hl' : Tableau.leaving tolerance ((s.rename g).tableau.ratios j tolerance) = none := hl
    rw [enter_of_none hl, enter_of_none hl', openStep_rename h]
    rfl
  | some i =>
    have hl' : Tableau.leaving tolerance ((s.rename g).tableau.ratios j tolerance) = some i := hl
    have hpivot : (s.rename g).tableau.pivot i j = (s.tableau.pivot i j).rename g :=
      Tableau.pivot_rename i (h.lt_names hj)
    rw [enter_of_some hl, enter_of_some hl', pivotStep_rename h, hpivot]
    rfl

theorem turn_rename (h : s.tableau.Renamable g m n) :
    (s.rename g).turn d tolerance = (s.turn d tolerance).map (rename g) (Step.rename g) := by
  have hzero : (s.rename g).tableau.hasZeroBasic tolerance = s.tableau.hasZeroBasic tolerance := rfl
  have hstalled : (s.rename g).stalled = s.stalled := rfl
  have hentering : (s.rename g).tableau.entering d tolerance (s.rename g).alternate.isSome =
      s.tableau.entering d tolerance s.alternate.isSome := h.entering_rename _ _ _
  have hvalues : (s.rename g).tableau.basicValues = s.tableau.basicValues := h.basicValues_rename
  simp only [turn, hzero, hstalled, hentering, hvalues]
  split
  · rw [reading_rename h]
    rfl
  · cases he : s.tableau.entering d tolerance s.alternate.isSome with
    | improving j =>
      exact enter_rename (s := { s with stalled := s.tableau.hasZeroBasic tolerance }) h
        (Tableau.lt_of_entering (.inl he))
    | level j =>
      exact enter_rename (s := { s with
        stalled := s.tableau.hasZeroBasic tolerance
        alternate := some s.tableau.basicValues }) h (Tableau.lt_of_entering (.inr he))
    | optimal => exact congrArg (Turn.halt _) (reading_rename h)

lemma Goes.renamable (hg : Goes d tolerance s s') (h : s.tableau.Renamable g m n) :
    s'.tableau.Renamable g m n := by
  obtain ⟨i, j, alternate, hi, hj, rfl⟩ := hg.exists_next
  exact h.pivot (h.length_rows ▸ hi) (h.lt_names hj)

lemma finish_rename (h : s.tableau.Renamable g m n) (d : Direction) (count : Nat)
    (trace : Bool) (status : Status) (lasts : List (Step α)) :
    (s.rename g).finish d count trace status (lasts.map (Step.rename g)) =
      (s.finish d count trace status lasts).rename g := by
  have hvalues : (s.rename g).tableau.basicValues = s.tableau.basicValues := h.basicValues_rename
  have hhistory : (s.rename g).past.reverse.map Step.objectiveValue =
      s.past.reverse.map Step.objectiveValue := by
    rw [rename, ← List.map_reverse, List.map_map]
    rfl
  have hsteps : (s.rename g).past.reverse ++ lasts.map (Step.rename g) =
      (s.past.reverse ++ lasts).map (Step.rename g) := by
    rw [rename, ← List.map_reverse, List.map_append]
  have hlength : (s.rename g).past.length = s.past.length := List.length_map _
  rw [finish, hvalues, hhistory, hsteps, hlength]
  cases trace <;> rfl

theorem complete_rename (h : s.tableau.Renamable g m n) (d : Direction) (count : Nat)
    (tolerance : α) (trace : Bool) (cap : Nat) :
    (s.rename g).complete d count tolerance trace cap =
      (s.complete d count tolerance trace cap).rename g := by
  refine complete_comm (P := fun s => s.tableau.Renamable g m n) (fun hg => hg.renamable)
    turn_rename (fun hs status lasts => ?_) h cap
  exact finish_rename hs d count trace status lasts

end Run

def AddedVariable.rename (g : String → String) (v : AddedVariable) : AddedVariable :=
  { v with name := g v.name }

structure StandardRow.Renames (g : String → String) (r r' : StandardRow α) : Prop where
  relation_eq : r'.relation = r.relation
  added_eq : r'.added = r.added.map (AddedVariable.rename g)
  signFlipped_eq : r'.signFlipped = r.signFlipped
  equation_eq : r'.equation = r.equation

structure StandardForm.Renames (g : String → String) (p p' : StandardForm α) : Prop where
  direction_eq : p'.direction = p.direction
  names_eq : p'.names = p.names.map g
  decisionCount_eq : p'.decisionCount = p.decisionCount
  objective_eq : p'.objective = p.objective
  rows : p.rows.Forall₂ (StandardRow.Renames g) p'.rows

lemma StandardRow.Renames.basicName_eq {r r' : StandardRow α} (h : r.Renames g r') :
    r'.basicName = r.basicName.map g := by
  rw [basicName, basicName, h.added_eq, Option.map_map, Option.map_map]
  rfl

lemma mapError_bind_map {ε ε' β β' γ γ' : Type} {e : ε → ε'} {f : β → β'} {g : γ → γ'}
    {x : Except ε β} {x' : Except ε β'} {k : β → Except ε γ} {k' : β' → Except ε γ'}
    (hx : x'.mapError e = (x.mapError e).map f)
    (hk : ∀ a, x = .ok a → (k' (f a)).mapError e = ((k a).mapError e).map g) :
    (x' >>= k').mapError e = ((x >>= k).mapError e).map g := by
  cases x with
  | error cause =>
    cases x' with
    | error cause' => exact congrArg Except.error (Except.error.inj hx)
    | ok a' => cases hx
  | ok a =>
    cases x' with
    | error cause' => cases hx
    | ok a' =>
      obtain rfl := Except.ok.inj hx
      exact hk a rfl

namespace Tableau

def Error.withoutText : Error → Error
  | objectiveWidth expected found => objectiveWidth expected found
  | rowWidth _ expected found => rowWidth "" expected found
  | missingBasicVariable row _ => missingBasicVariable row ""
  | infeasibleStart row _ => infeasibleStart row ""

variable [Scalar α]

lemma startRow_renames {r r' : StandardRow α} (h : r.Renames g r') (width index : Nat) :
    (startRow width index r').mapError Error.withoutText =
      ((startRow width index r).mapError Error.withoutText).map (Prod.map g id) := by
  have hrhs : r'.rhs = r.rhs := congrArg LinearForm.constant h.equation_eq
  rw [startRow, startRow, h.equation_eq, h.basicName_eq, hrhs]
  split
  · rfl
  · cases r.basicName with
    | none => rfl
    | some name =>
      simp only [Option.map_some]
      split <;> rfl

lemma startRows_renames {rs rs' : List (StandardRow α)}
    (h : rs.Forall₂ (StandardRow.Renames g) rs') (width index : Nat) :
    (startRows width index rs').mapError Error.withoutText =
      ((startRows width index rs).mapError Error.withoutText).map (List.map (Prod.map g id)) := by
  induction h generalizing index with
  | nil => rfl
  | cons hr _ ih =>
    refine mapError_bind_map (startRow_renames hr width index) fun first _ => ?_
    exact mapError_bind_map (ih (index + 1)) fun rest _ => rfl

lemma start_renames {p p' : StandardForm α} (h : p.Renames g p') :
    (start p').mapError Error.withoutText =
      ((start p).mapError Error.withoutText).map (rename g) := by
  rw [start, start, h.objective_eq, h.decisionCount_eq, h.names_eq, List.length_map]
  split
  · rfl
  · refine mapError_bind_map (startRows_renames h.rows p.names.length 1) fun rows _ => ?_
    refine congrArg Except.ok ?_
    simp only [rename, List.map_map]
    rfl

end Tableau

def StandardForm.Listed (p : StandardForm α) : Prop :=
  ∀ name, some name ∈ p.initialBasis → name ∈ p.names

variable [Scalar α]

lemma Tableau.renamable_of_start {p : StandardForm α} {t : Tableau α} (ht : start p = .ok t)
    (hlisted : p.Listed) (hg : Set.InjOn g {name | name ∈ p.names}) :
    t.Renamable g p.rows.length p.names.length where
  toShaped := shaped_of_start ht
  basis_subset := by
    intro name hname
    have hs := started_of_start ht
    rw [hs.names_eq]
    apply hlisted
    rw [← hs.basis_eq]
    exact List.mem_map_of_mem hname
  injOn := by rwa [(started_of_start ht).names_eq]

theorem StandardForm.Renames.solve_eq {p p' : StandardForm α} (h : p.Renames g p')
    (hlisted : p.Listed) (hg : Set.InjOn g {name | name ∈ p.names}) (settings : Settings α) :
    (p'.solve settings).mapError Tableau.Error.withoutText =
      ((p.solve settings).mapError Tableau.Error.withoutText).map (Solution.rename g) := by
  refine mapError_bind_map (Tableau.start_renames h) fun t ht => ?_
  have hr : (Run.start t).tableau.Renamable g p.rows.length p.names.length :=
    Tableau.renamable_of_start ht hlisted hg
  rw [h.direction_eq, h.decisionCount_eq]
  exact congrArg Except.ok (Run.complete_rename hr p.direction p.decisionCount settings.tolerance
    settings.trace settings.maxIterations)

end LinearProgram
