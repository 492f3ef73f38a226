import Mathlib.Data.List.Perm.Basic
import LinearProgram.Proofs.LinearForm
import LinearProgram.Proofs.StandardForm

namespace LinearProgram.LinearForm

section Errors

variable {α : Type} [Scalar α] {coefficients : List α} {names columns : List String} {constant : α}

lemma ofTerms_eq_lengthMismatch_iff {expected found : Nat} :
    ofTerms coefficients names constant columns = .error (.lengthMismatch expected found) ↔
      coefficients.length ≠ names.length ∧
        expected = names.length ∧ found = coefficients.length := by
  rw [ofTerms]
  split
  next hlength => simp [hlength, eq_comm]
  next hlength =>
    refine iff_of_false (fun h => ?_) fun h => hlength h.1
    split at h <;> cases h

lemma ofTerms_eq_unknownVariable_iff {name : String} :
    ofTerms coefficients names constant columns = .error (.unknownVariable name) ↔
      coefficients.length = names.length ∧ ∃ before behind, names = before ++ name :: behind ∧
        (∀ n ∈ before, n ∈ columns) ∧ name ∉ columns := by
  have hfirst : names.find? (fun n => !columns.contains n) = some name ↔
      ∃ before behind, names = before ++ name :: behind ∧
        (∀ n ∈ before, n ∈ columns) ∧ name ∉ columns := by
    rw [List.find?_eq_some_iff_append]
    simp only [Bool.not_not, List.contains_iff_mem, Bool.not_eq_true', ← Bool.not_eq_true]
    constructor
    · rintro ⟨hname, before, behind, hnames, hbefore⟩
      exact ⟨before, behind, hnames, hbefore, hname⟩
    · rintro ⟨before, behind, hnames, hbefore, hname⟩
      exact ⟨hname, before, behind, hnames, hbefore⟩
  rw [ofTerms, ← hfirst]
  split
  next hlength =>
    refine iff_of_false (fun h => ?_) fun h => hlength h.1
    cases h
  next hlength =>
    rw [and_iff_right (not_not.1 hlength)]
    cases names.find? fun n => !columns.contains n with
    | none => simp
    | some n => simp

def addKnown (columns : List String) (dense : List α) (t : α × String) : Except Error (List α) :=
  if t.2 ∈ columns then .ok (addTerm columns dense t.1 t.2) else .error (.unknownVariable t.2)

lemma foldlM_addKnown (columns : List String) (ts : List (α × String)) (dense : List α) :
    ts.foldlM (addKnown columns) dense =
      match (ts.map Prod.snd).find? (fun n => !columns.contains n) with
      | some n => .error (.unknownVariable n)
      | none => .ok (ts.foldl (fun dense t => addTerm columns dense t.1 t.2) dense) := by
  induction ts generalizing dense with
  | nil => rfl
  | cons t ts ih =>
    rw [List.foldlM_cons, List.map_cons, List.find?_cons, addKnown]
    by_cases ht : t.2 ∈ columns
    · have hknown : (!columns.contains t.2) = false := by simpa using ht
      rw [if_pos ht, hknown]
      exact ih _
    · have hunknown : (!columns.contains t.2) = true := by simpa using ht
      rw [if_neg ht, hunknown]
      rfl

theorem ofTerms_eq_foldlM (h : coefficients.length = names.length) :
    ofTerms coefficients names constant columns =
      ((coefficients.zip names).foldlM (addKnown columns)
        (List.replicate columns.length 0)).map fun dense => ⟨dense, constant⟩ := by
  rw [ofTerms, if_neg (not_not_intro h), foldlM_addKnown, List.map_snd_zip h.ge]
  cases names.find? fun n => !columns.contains n with
  | none => rfl
  | some n => rfl

end Errors

variable {columns : List String} {ts us : List (Rat × String)}

lemma addTerm_comm (dense : List Rat) (t u : Rat × String) :
    addTerm columns (addTerm columns dense t.1 t.2) u.1 u.2 =
      addTerm columns (addTerm columns dense u.1 u.2) t.1 t.2 := by
  by_cases hplace : columns.idxOf t.2 = columns.idxOf u.2
  · simp only [addTerm, hplace, List.modify_modify_eq]
    congr 1
    funext x
    exact add_right_comm x t.1 u.1
  · exact List.modify_modify_ne _ _ _ hplace

lemma densify_perm (h : ts.Perm us) : densify columns ts = densify columns us := by
  have : RightCommutative fun (dense : List Rat) (t : Rat × String) =>
    addTerm columns dense t.1 t.2 := ⟨addTerm_comm⟩
  exact h.foldl_eq _

lemma negated_negated (f : LinearForm Rat) : f.negated.negated = f := by
  have hneg : (fun c : Rat => -c) ∘ (fun c => -c) = id := funext neg_neg
  rw [negated, negated, List.map_map, hneg, List.map_id, neg_neg]

/-- Rational terms are refused for the lengths of their lists, or else for the first name that is not
among the variables. All others give a form that has a coefficient for each variable and says the same
of every assignment; the order of the terms is of no account, and a change of sign negates both sides
and undoes itself. -/
theorem ofTerms_same_form (coefficients : List Rat) (names : List String) (constant : Rat)
    (columns : List String) :
    (∀ expected found, ofTerms coefficients names constant columns =
        .error (.lengthMismatch expected found) ↔
      coefficients.length ≠ names.length ∧
        expected = names.length ∧ found = coefficients.length) ∧
    (∀ name, ofTerms coefficients names constant columns = .error (.unknownVariable name) ↔
      coefficients.length = names.length ∧ ∃ before behind, names = before ++ name :: behind ∧
        (∀ n ∈ before, n ∈ columns) ∧ name ∉ columns) ∧
    (coefficients.length = names.length → (∀ n ∈ names, n ∈ columns) →
      ∃ f, ofTerms coefficients names constant columns = .ok f ∧
        f.width = columns.length ∧ f.constant = constant ∧
        (∀ v : String → Rat, dot f.coefficients (columns.map v) =
          (List.zipWith (fun c n => c * v n) coefficients names).sum) ∧
        ∀ coefficients' names', coefficients'.length = names'.length →
          (coefficients'.zip names').Perm (coefficients.zip names) →
            ofTerms coefficients' names' constant columns = .ok f) ∧
    ∀ f : LinearForm Rat, f.negated.width = f.width ∧ f.negated.constant = -f.constant ∧
      (∀ v : String → Rat, dot f.negated.coefficients (columns.map v) =
        -dot f.coefficients (columns.map v)) ∧ f.negated.negated = f := by
  refine ⟨fun _ _ => ofTerms_eq_lengthMismatch_iff, fun _ => ofTerms_eq_unknownVariable_iff,
    fun hlength hnames => ?_, fun f => ⟨?_, rfl, fun v => dot_map_neg _ _, negated_negated f⟩⟩
  · refine ⟨_, ofTerms_eq_ok hlength hnames constant, length_densify _, rfl, fun v => ?_,
      fun coefficients' names' hlength' hperm => ?_⟩
    · have hterms : ∀ t ∈ coefficients.zip names, t.2 ∈ columns := fun t ht =>
        hnames _ (List.of_mem_zip ht).2
      rw [dot_densify v hterms, ← List.map_uncurry_zip_eq_zipWith]
      rfl
    · have hnames' : names'.Perm names := by
        have := hperm.map Prod.snd
        rwa [List.map_snd_zip hlength'.ge, List.map_snd_zip hlength.ge] at this
      rw [ofTerms_eq_ok hlength' (fun n hn => hnames n (hnames'.subset hn)), densify_perm hperm]
  · exact List.length_map _

theorem ofTerms_same_form_of_repeated_names :
    ∃ f : LinearForm Rat, ofTerms [2, 1, -1] ["x", "y", "x"] 7 ["x", "y", "x"] = .ok f ∧
      f.coefficients = [1, 1, 0] ∧
      ofTerms [1, -1, 2] ["y", "x", "x"] 7 ["x", "y", "x"] = .ok f ∧
      (∀ v : String → Rat, dot f.coefficients (["x", "y", "x"].map v) =
        2 * v "x" + (1 * v "y" + (-1 * v "x" + 0))) ∧
      ofTerms [(2 : Rat), 1, -1] ["x", "w", "u"] 7 ["x", "y", "x"] =
        .error (.unknownVariable "w") := by
  obtain ⟨-, -, hok, -⟩ := ofTerms_same_form [2, 1, -1] ["x", "y", "x"] 7 ["x", "y", "x"]
  obtain ⟨f, hf, -, -, hdot, hperm⟩ := hok rfl (by decide)
  obtain ⟨-, hunknown, -⟩ := ofTerms_same_form [2, 1, -1] ["x", "w", "u"] 7 ["x", "y", "x"]
  have hcoefficients : f.coefficients = [1, 1, 0] := by
    have hvalue : ofTerms [2, 1, -1] ["x", "y", "x"] 7 ["x", "y", "x"] =
        .ok (⟨[1, 1, 0], 7⟩ : LinearForm Rat) := by decide +kernel
    rw [hf] at hvalue
    exact congrArg coefficients (Except.ok.inj hvalue)
  exact ⟨f, hf, hcoefficients, hperm [1, -1, 2] ["y", "x", "x"] rfl (by decide), hdot,
    (hunknown "w").2 ⟨rfl, ["x"], ["u"], rfl, by decide, by decide⟩⟩

end LinearProgram.LinearForm
