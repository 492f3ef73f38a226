import LinearProgram.Proofs.Pivot
import LinearProgram.Solution

/-!
A tableau in canonical form gives the objective value and the basic variables in terms of the
variables outside the basis. With those at zero it has one solution, the one that is read off it.
-/

namespace LinearProgram

open Finset

def assign (names : List String) (values : List Rat) (name : String) : Rat :=
  values.getD (names.idxOf name) 0

lemma map_assign {names : List String} {values : List Rat} (hn : names.Nodup)
    (h : values.length = names.length) : names.map (assign names values) = values := by
  apply List.ext_getElem
  · simp [h]
  · intro k h₁ h₂
    have hk : k < names.length := by simpa using h₁
    simp [assign, hn.idxOf_getElem k hk, h₂]

lemma getD_valueIn {names : List String} {values : List Rat}
    (h : values.length = names.length) (name : String) :
    (Solution.valueIn values names name).getD 0 = assign names values name := by
  rw [Solution.valueIn, assign]
  split
  · rw [List.getD_eq_getElem?_getD]
  · rename_i hn
    have hlen : values.length ≤ names.idxOf name := by
      rw [List.idxOf_eq_length hn, h]
    simp [hlen]

lemma valueIn_eq_some {names : List String} {values : List Rat} {name : String}
    (h : values.length = names.length) (hname : name ∈ names) :
    Solution.valueIn values names name = some (assign names values name) := by
  have hlt : names.idxOf name < values.length := h ▸ List.idxOf_lt_length_iff.2 hname
  rw [Solution.valueIn, if_pos hname, assign, List.getD_eq_getElem?_getD,
    List.getElem?_eq_getElem hlt, Option.getD_some]

namespace Tableau

variable {t : Tableau Rat} {m n i j : Nat} {e : String} {r : Row Rat}

def nonbasic (t : Tableau Rat) : Finset String :=
  t.names.toFinset \ t.basis.toFinset

lemma mem_nonbasic {name : String} : name ∈ t.nonbasic ↔ name ∈ t.names ∧ name ∉ t.basis := by
  simp [nonbasic]

def rest (t : Tableau Rat) (r : Row Rat) (x : String → Rat) : Rat :=
  ∑ n ∈ t.nonbasic, r.entry (t.names.idxOf n) * x n

lemma rest_eq_zero {x : String → Rat} (h : ∀ name ∈ t.nonbasic, x name = 0) : t.rest r x = 0 :=
  sum_eq_zero fun name hname => by rw [h name hname, mul_zero]

lemma Canonical.sumAt_eq (h : t.Canonical) (r : Row Rat) (x : String → Rat) :
    r.sumAt t.names x = t.rest r x + ∑ n ∈ t.basis.toFinset, r.entry (t.names.idxOf n) * x n := by
  have hs : t.basis.toFinset ⊆ t.names.toFinset := by
    intro name hname
    rw [List.mem_toFinset] at hname ⊢
    exact h.basis_subset hname
  exact (sum_sdiff hs).symm

lemma Canonical.sumAt_objective (h : t.Canonical) (x : String → Rat) :
    t.objective.sumAt t.names x = t.rest t.objective x := by
  rw [h.sumAt_eq, sum_eq_zero, add_zero]
  intro name hname
  rw [h.objective_entry name (List.mem_toFinset.1 hname), zero_mul]

lemma Canonical.sumAt_row (h : t.Canonical) (hb : t.basis[i]? = some e) (hr : t.rows[i]? = some r)
    (x : String → Rat) : r.sumAt t.names x = t.rest r x + x e := by
  rw [h.sumAt_eq, sum_eq_single e, h.entry i i e r hb hr, if_pos rfl, one_mul]
  · intro name hname hne
    obtain ⟨k, hk⟩ := List.mem_iff_getElem?.1 (List.mem_toFinset.1 hname)
    have hki : i ≠ k := by
      rintro rfl
      exact hne (Option.some_inj.1 (hk.symm.trans hb))
    rw [h.entry k i name r hk hr, if_neg hki, zero_mul]
  · intro hne
    exact absurd (List.mem_toFinset.2 (List.mem_of_getElem? hb)) hne

lemma Proper.basis_of_row (h : t.Proper m n) (hr : t.rows[i]? = some r) :
    ∃ e, t.basis[i]? = some e := by
  obtain ⟨hi, -⟩ := List.getElem?_eq_some_iff.1 hr
  have hb : i < t.basis.length := by rw [h.length_basis, ← h.length_rows]; exact hi
  exact ⟨_, List.getElem?_eq_getElem hb⟩

lemma Proper.row_of_basis (h : t.Proper m n) (hb : t.basis[i]? = some e) :
    ∃ r, t.rows[i]? = some r := by
  obtain ⟨hi, -⟩ := List.getElem?_eq_some_iff.1 hb
  have hr : i < t.rows.length := by rw [h.length_rows, ← h.length_basis]; exact hi
  exact ⟨_, List.getElem?_eq_getElem hr⟩

theorem Proper.satisfies_iff (h : t.Proper m n) (z : Rat) (x : String → Rat) :
    t.Satisfies z x ↔
      z = t.objectiveValue - t.rest t.objective x ∧
        ∀ (i : Nat) (e : String) (r : Row Rat), t.basis[i]? = some e → t.rows[i]? = some r →
          x e = r.rhs - t.rest r x := by
  have hz (r : Row Rat) (hr : r ∈ t.rows) : r.z * z = 0 := by rw [h.rows_z r hr, zero_mul]
  rw [Satisfies, holds_iff_getElem?, Row.holds_iff h.names_nodup h.width_objective, h.sumAt_objective,
    h.objective_z, one_mul]
  constructor
  · rintro ⟨ho, hr⟩
    refine ⟨eq_sub_of_add_eq ho, fun i e r hb hi => ?_⟩
    have hrow := (Row.holds_iff h.names_nodup (h.width_row hi) z x).1 (hr i r hi)
    rw [hz r (List.mem_of_getElem? hi), h.sumAt_row hb hi, zero_add] at hrow
    exact eq_sub_of_add_eq' hrow
  · rintro ⟨ho, hr⟩
    refine ⟨by rw [ho]; exact sub_add_cancel _ _, fun i r hi => ?_⟩
    obtain ⟨e, hb⟩ := h.basis_of_row hi
    rw [Row.holds_iff h.names_nodup (h.width_row hi), hz r (List.mem_of_getElem? hi),
      h.sumAt_row hb hi, hr i e r hb hi, zero_add, add_sub_cancel]

def reading (t : Tableau Rat) : String → Rat :=
  assign t.names t.basicValues

lemma length_foldl_set (names : List String) (bs : List (String × Row Rat)) (values : List Rat) :
    (bs.foldl (fun values b => values.set (names.idxOf b.1) b.2.rhs) values).length =
      values.length := by
  induction bs generalizing values with
  | nil => rfl
  | cons b bs ih => simp [ih]

lemma length_basicValues (t : Tableau Rat) : t.basicValues.length = t.names.length := by
  rw [basicValues, length_foldl_set, List.length_replicate]

lemma assign_foldl_set_of_notMem {names : List String} {bs : List (String × Row Rat)}
    {name : String} (hsub : ∀ b ∈ bs, b.1 ∈ names) (hname : name ∉ bs.map Prod.fst)
    (values : List Rat) :
    assign names (bs.foldl (fun values b => values.set (names.idxOf b.1) b.2.rhs) values) name =
      assign names values name := by
  induction bs generalizing values with
  | nil => rfl
  | cons b bs ih =>
    simp only [List.map_cons, List.mem_cons, not_or] at hname
    have hne : names.idxOf b.1 ≠ names.idxOf name := fun he =>
      hname.1 ((List.idxOf_inj (hsub b List.mem_cons_self)).1 he).symm
    rw [List.foldl_cons, ih (fun c hc => hsub c (List.mem_cons_of_mem _ hc)) hname.2]
    simp [assign, List.getD_eq_getElem?_getD, List.getElem?_set_ne hne]

lemma assign_foldl_set_of_mem {names : List String} {bs : List (String × Row Rat)}
    {b : String × Row Rat} (hsub : ∀ b ∈ bs, b.1 ∈ names) (hnd : (bs.map Prod.fst).Nodup)
    (hb : b ∈ bs) {values : List Rat} (hv : values.length = names.length) :
    assign names (bs.foldl (fun values b => values.set (names.idxOf b.1) b.2.rhs) values) b.1 =
      b.2.rhs := by
  induction bs generalizing values with
  | nil => cases hb
  | cons c bs ih =>
    have hsub' : ∀ d ∈ bs, d.1 ∈ names := fun d hd => hsub d (List.mem_cons_of_mem _ hd)
    rw [List.map_cons, List.nodup_cons] at hnd
    rw [List.foldl_cons]
    rcases List.mem_cons.1 hb with rfl | hb
    · have hlt : names.idxOf b.1 < values.length := by
        rw [hv]
        exact List.idxOf_lt_length_iff.2 (hsub b List.mem_cons_self)
      rw [assign_foldl_set_of_notMem hsub' hnd.1]
      simp [assign, hlt]
    · exact ih hsub' hnd.2 hb (by rw [List.length_set, hv])

lemma Proper.map_fst_zip (h : t.Proper m n) : (t.basis.zip t.rows).map Prod.fst = t.basis :=
  List.map_fst_zip (h.length_basis.trans h.length_rows.symm).le

lemma Proper.fst_mem_names (h : t.Proper m n) :
    ∀ b ∈ t.basis.zip t.rows, b.1 ∈ t.names :=
  fun _ hb => h.basis_subset (List.of_mem_zip hb).1

lemma Proper.reading_of_notMem_basis (h : t.Proper m n) (he : e ∉ t.basis) : t.reading e = 0 := by
  rw [reading, basicValues, assign_foldl_set_of_notMem h.fst_mem_names (by rwa [h.map_fst_zip])]
  simp only [assign, List.getD_eq_getElem?_getD, List.getElem?_replicate]
  split <;> rfl

lemma Proper.reading_basis (h : t.Proper m n) (hb : t.basis[i]? = some e)
    (hr : t.rows[i]? = some r) : t.reading e = r.rhs := by
  have hmem : (e, r) ∈ t.basis.zip t.rows := by
    refine List.mem_iff_getElem?.2 ⟨i, ?_⟩
    rw [List.getElem?_zip_eq_some]
    exact ⟨hb, hr⟩
  exact assign_foldl_set_of_mem h.fst_mem_names (by rw [h.map_fst_zip]; exact h.basis_nodup) hmem
    (by rw [List.length_replicate])

lemma Exchange.basis_pivot_self (hx : t.Exchange i j e r) (h : t.Proper m n) :
    (t.pivot i j).basis[i]? = some e := by
  obtain ⟨b, hb⟩ := h.basis_of_row hx.row
  obtain ⟨hi, -⟩ := List.getElem?_eq_some_iff.1 hb
  rw [hx.basis_pivot, List.getElem?_set_self hi]

lemma Exchange.entering_mem_basis (hx : t.Exchange i j e r) (h : t.Proper m n) :
    e ∈ (t.pivot i j).basis :=
  List.mem_of_getElem? (hx.basis_pivot_self h)

lemma Exchange.reading_pivot (hx : t.Exchange i j e r) (h : t.Proper m n) :
    (t.pivot i j).reading e = r.rhs / r.entry j :=
  (hx.proper_pivot h).reading_basis (hx.basis_pivot_self h) hx.row_pivot

lemma Proper.map_reading (h : t.Proper m n) : t.names.map t.reading = t.basicValues :=
  map_assign h.names_nodup t.length_basicValues

theorem Proper.satisfies_reading (h : t.Proper m n) : t.Satisfies t.objectiveValue t.reading := by
  have hzero (r : Row Rat) : t.rest r t.reading = 0 :=
    rest_eq_zero fun name hname => h.reading_of_notMem_basis (mem_nonbasic.1 hname).2
  rw [h.satisfies_iff]
  refine ⟨by rw [hzero, sub_zero], fun i e r hb hr => ?_⟩
  rw [hzero, sub_zero, h.reading_basis hb hr]

theorem Proper.eq_objectiveValue_of_satisfies (h : t.Proper m n) {z : Rat} {x : String → Rat}
    (hx : t.Satisfies z x) (h0 : ∀ name ∈ t.nonbasic, x name = 0) : z = t.objectiveValue := by
  rw [((h.satisfies_iff z x).1 hx).1, rest_eq_zero h0, sub_zero]

lemma Proper.basicValues_nonneg_iff (h : t.Proper m n) :
    (∀ v ∈ t.basicValues, 0 ≤ v) ↔ ∀ name ∈ t.names, 0 ≤ t.reading name := by
  rw [← h.map_reading, List.forall_mem_map]

theorem Proper.feasible_iff (h : t.Proper m n) :
    t.Feasible ↔ ∀ name ∈ t.names, 0 ≤ t.reading name := by
  constructor
  · intro hf name _
    by_cases hb : name ∈ t.basis
    · obtain ⟨i, hi⟩ := List.mem_iff_getElem?.1 hb
      obtain ⟨r, hr⟩ := h.row_of_basis hi
      rw [h.reading_basis hi hr]
      exact hf r (List.mem_of_getElem? hr)
    · rw [h.reading_of_notMem_basis hb]
  · intro hnn r hr
    obtain ⟨i, hi⟩ := List.mem_iff_getElem?.1 hr
    obtain ⟨e, he⟩ := h.basis_of_row hi
    rw [← h.reading_basis he hi]
    exact hnn e (h.basis_subset (List.mem_of_getElem? he))

end Tableau

end LinearProgram
