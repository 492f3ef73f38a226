import LinearProgram.Proofs.Row

/-!
One pivot over the rationals: it keeps the solutions of the tableau's equations and the canonical
form, and moves the objective value by the entry of the objective row times the ratio of its row.
-/

namespace LinearProgram

namespace Tableau

structure Proper (t : Tableau Rat) (m n : Nat) : Prop extends t.Shaped m n, t.Canonical where
  names_nodup : t.names.Nodup

def Satisfies (t : Tableau Rat) (z : Rat) (x : String → Rat) : Prop :=
  t.Holds z (t.names.map x)

structure Exchange (t : Tableau Rat) (i j : Nat) (e : String) (r : Row Rat) : Prop where
  row : t.rows[i]? = some r
  column : t.names[j]? = some e
  notMem_basis : e ∉ t.basis
  entry_ne_zero : r.entry j ≠ 0

variable {t : Tableau Rat} {m n i j k : Nat} {e : String} {r : Row Rat}

lemma mem_allRows_of_getElem? (h : t.rows[k]? = some r) : r ∈ t.allRows :=
  List.mem_cons_of_mem _ (List.mem_of_getElem? h)

lemma objective_mem_allRows : t.objective ∈ t.allRows := List.mem_cons_self

lemma holds_iff_getElem? {z : Rat} {xs : List Rat} :
    t.Holds z xs ↔
      t.objective.Holds z xs ∧ ∀ (k : Nat) (s : Row Rat), t.rows[k]? = some s → s.Holds z xs := by
  constructor
  · intro h
    exact ⟨h _ objective_mem_allRows, fun k s hs => h s (mem_allRows_of_getElem? hs)⟩
  · rintro ⟨ho, hr⟩ s hs
    rcases List.mem_cons.1 hs with rfl | hs
    · exact ho
    · obtain ⟨k, hk⟩ := List.mem_iff_getElem?.1 hs
      exact hr k s hk

lemma Proper.width_row (h : t.Proper m n) (hr : t.rows[k]? = some r) :
    r.entries.length = t.names.length :=
  (h.width r (mem_allRows_of_getElem? hr)).trans h.length_names.symm

lemma Proper.width_objective (h : t.Proper m n) : t.objective.entries.length = t.names.length :=
  (h.width _ objective_mem_allRows).trans h.length_names.symm

lemma Proper.exists_name (h : t.Proper m n) {x : Rat} (hx : t.objective.entries[j]? = some x) :
    ∃ e, t.names[j]? = some e := by
  obtain ⟨hj, -⟩ := List.getElem?_eq_some_iff.1 hx
  exact ⟨_, List.getElem?_eq_getElem (h.width_objective ▸ hj)⟩

lemma Proper.entry_mem_entries (h : t.Proper m n) (he : t.names[j]? = some e) :
    t.objective.entry j ∈ t.objective.entries := by
  obtain ⟨hj, -⟩ := List.getElem?_eq_some_iff.1 he
  have hx := List.getElem?_eq_getElem (h.width_objective.symm ▸ hj)
  rw [Row.entry_of_getElem? hx]
  exact List.mem_of_getElem? hx

lemma Proper.idxOf_eq (h : t.Proper m n) (he : t.names[j]? = some e) : t.names.idxOf e = j := by
  obtain ⟨hj, rfl⟩ := List.getElem?_eq_some_iff.1 he
  exact h.names_nodup.idxOf_getElem j hj

lemma pivot_eq (hr : t.rows[i]? = some r) (he : t.names[j]? = some e) :
    t.pivot i j =
      { names := t.names
        basis := t.basis.set i e
        objective := t.objective.clear (r.divide (r.entry j)) j
        rows := (t.rows.map fun s => s.clear (r.divide (r.entry j)) j).set i
          (r.divide (r.entry j)) } := by
  simp [pivot, List.getD_eq_getElem?_getD, hr, he]

namespace Exchange

variable (hx : t.Exchange i j e r)

include hx

lemma basis_pivot : (t.pivot i j).basis = t.basis.set i e := by
  rw [pivot_eq hx.row hx.column]

lemma objective_pivot : (t.pivot i j).objective = t.objective.clear (r.divide (r.entry j)) j := by
  rw [pivot_eq hx.row hx.column]

lemma row_pivot : (t.pivot i j).rows[i]? = some (r.divide (r.entry j)) := by
  obtain ⟨hi, -⟩ := List.getElem?_eq_some_iff.1 hx.row
  rw [pivot_eq hx.row hx.column]
  simp [hi]

lemma row_pivot_of_ne (hk : k ≠ i) :
    (t.pivot i j).rows[k]? = t.rows[k]?.map fun s => s.clear (r.divide (r.entry j)) j := by
  rw [pivot_eq hx.row hx.column]
  simp [List.getElem?_set_ne (Ne.symm hk)]

lemma row_cases {s : Row Rat} (hs : (t.pivot i j).rows[k]? = some s) :
    (k = i ∧ s = r.divide (r.entry j)) ∨
      k ≠ i ∧ ∃ q, t.rows[k]? = some q ∧ s = q.clear (r.divide (r.entry j)) j := by
  by_cases hk : k = i
  · subst hk
    rw [hx.row_pivot, Option.some_inj] at hs
    exact .inl ⟨rfl, hs.symm⟩
  · rw [hx.row_pivot_of_ne hk, Option.map_eq_some_iff] at hs
    obtain ⟨q, hq, rfl⟩ := hs
    exact .inr ⟨hk, q, hq, rfl⟩

lemma objectiveValue_pivot :
    (t.pivot i j).objectiveValue =
      t.objectiveValue - t.objective.entry j * (r.rhs / r.entry j) := by
  simp [objectiveValue, hx.objective_pivot]

lemma objective_pivot_of_level (h : t.objective.entry j = 0) :
    (t.pivot i j).objective = t.objective := by
  rw [hx.objective_pivot, Row.clear_of_entry_eq_zero _ h]

theorem satisfies_pivot_iff (h : t.Proper m n) (z : Rat) (x : String → Rat) :
    (t.pivot i j).Satisfies z x ↔ t.Satisfies z x := by
  have hn := h.names_nodup
  have hw := h.width_row hx.row
  have hp : (r.divide (r.entry j)).entries.length = t.names.length := by
    rw [Row.length_divide, hw]
  have hd := Row.holds_divide_iff hx.entry_ne_zero hn hw z x
  simp only [Satisfies]
  rw [names_pivot, holds_iff_getElem?, holds_iff_getElem?, hx.objective_pivot]
  constructor
  · rintro ⟨ho, hr⟩
    have hpr := hr i _ hx.row_pivot
    refine ⟨(Row.holds_clear_iff j hn h.width_objective hp hpr).1 ho, fun k s hs => ?_⟩
    by_cases hk : k = i
    · subst hk
      obtain rfl : r = s := Option.some_inj.1 (hx.row.symm.trans hs)
      exact hd.1 hpr
    · have := hr k (s.clear (r.divide (r.entry j)) j) (by rw [hx.row_pivot_of_ne hk, hs]; rfl)
      exact (Row.holds_clear_iff j hn (h.width_row hs) hp hpr).1 this
  · rintro ⟨ho, hr⟩
    have hpr := hd.2 (hr i r hx.row)
    refine ⟨(Row.holds_clear_iff j hn h.width_objective hp hpr).2 ho, fun k s hs => ?_⟩
    rcases hx.row_cases hs with ⟨-, rfl⟩ | ⟨-, q, hq, rfl⟩
    · exact hpr
    · exact (Row.holds_clear_iff j hn (h.width_row hq) hp hpr).2 (hr k q hq)

end Exchange

def UnitAt (t : Tableau Rat) (i j : Nat) : Prop :=
  t.objective.entry j = 0 ∧
    ∀ (k : Nat) (s : Row Rat), t.rows[k]? = some s → s.entry j = if k = i then 1 else 0

lemma Canonical.unitAt (h : t.Canonical) (hb : t.basis[i]? = some e) :
    t.UnitAt i (t.names.idxOf e) :=
  ⟨h.objective_entry e (List.mem_of_getElem? hb), fun k s hs => h.entry i k e s hb hs⟩

namespace Exchange

variable (hx : t.Exchange i j e r) (h : t.Proper m n)

include hx h

lemma width_divide : (r.divide (r.entry j)).entries.length = t.names.length := by
  rw [Row.length_divide, h.width_row hx.row]

lemma entry_objective_pivot (l : Nat) :
    (t.pivot i j).objective.entry l =
      t.objective.entry l - t.objective.entry j * (r.entry l / r.entry j) := by
  rw [hx.objective_pivot, Row.entry_clear j l ((hx.width_divide h).trans h.width_objective.symm),
    Row.entry_divide]

lemma entry_clear_row {q : Row Rat} (hq : t.rows[k]? = some q) (l : Nat) :
    (q.clear (r.divide (r.entry j)) j).entry l =
      q.entry l - q.entry j * (r.entry l / r.entry j) := by
  rw [Row.entry_clear j l ((hx.width_divide h).trans (h.width_row hq).symm), Row.entry_divide]

lemma unitAt_pivot : (t.pivot i j).UnitAt i j := by
  have hone : r.entry j / r.entry j = 1 := div_self hx.entry_ne_zero
  constructor
  · rw [hx.entry_objective_pivot h, hone, mul_one, sub_self]
  · intro k s hs
    rcases hx.row_cases hs with ⟨rfl, rfl⟩ | ⟨hk, q, hq, rfl⟩
    · rw [Row.entry_divide, hone, if_pos rfl]
    · rw [hx.entry_clear_row h hq, hone, mul_one, sub_self, if_neg hk]

lemma unitAt_pivot_of_ne {l : Nat} (hk : k ≠ i) (hu : t.UnitAt k l) : (t.pivot i j).UnitAt k l := by
  have hzero : r.entry l = 0 := by rw [hu.2 i r hx.row, if_neg (Ne.symm hk)]
  constructor
  · rw [hx.entry_objective_pivot h, hzero, zero_div, mul_zero, sub_zero, hu.1]
  · intro k' s hs
    rcases hx.row_cases hs with ⟨rfl, rfl⟩ | ⟨-, q, hq, rfl⟩
    · rw [Row.entry_divide, hzero, zero_div, if_neg (Ne.symm hk)]
    · rw [hx.entry_clear_row h hq, hzero, zero_div, mul_zero, sub_zero, hu.2 k' q hq]

lemma unitAt_of_basis_pivot {name : String} (hb : (t.pivot i j).basis[k]? = some name) :
    (t.pivot i j).UnitAt k (t.names.idxOf name) := by
  rw [hx.basis_pivot] at hb
  by_cases hk : k = i
  · subst hk
    obtain ⟨_, hname⟩ := List.getElem?_eq_some_iff.1 hb
    rw [List.getElem_set_self] at hname
    rw [← hname, h.idxOf_eq hx.column]
    exact hx.unitAt_pivot h
  · rw [List.getElem?_set_ne (Ne.symm hk)] at hb
    exact hx.unitAt_pivot_of_ne h hk (h.toCanonical.unitAt hb)

theorem proper_pivot : (t.pivot i j).Proper m n := by
  obtain ⟨hi, -⟩ := List.getElem?_eq_some_iff.1 hx.row
  have hz : (r.divide (r.entry j)).z = 0 := by
    rw [Row.z_divide, h.rows_z r (List.mem_of_getElem? hx.row), zero_div]
  refine
    { toShaped := h.toShaped.pivot (h.length_rows ▸ hi) j
      basis_nodup := ?_
      basis_subset := ?_
      objective_z := ?_
      rows_z := ?_
      objective_entry := ?_
      entry := ?_
      names_nodup := h.names_nodup }
  · rw [hx.basis_pivot]
    exact h.basis_nodup.set hx.notMem_basis
  · rw [hx.basis_pivot]
    intro name hname
    rcases List.mem_or_eq_of_mem_set hname with hname | rfl
    · exact h.basis_subset hname
    · exact List.mem_of_getElem? hx.column
  · rw [hx.objective_pivot, Row.z_clear, hz, mul_zero, sub_zero, h.objective_z]
  · intro s hs
    obtain ⟨k, hk⟩ := List.mem_iff_getElem?.1 hs
    rcases hx.row_cases hk with ⟨-, rfl⟩ | ⟨-, q, hq, rfl⟩
    · exact hz
    · rw [Row.z_clear, hz, mul_zero, sub_zero, h.rows_z q (List.mem_of_getElem? hq)]
  · intro name hname
    obtain ⟨k, hk⟩ := List.mem_iff_getElem?.1 hname
    exact (hx.unitAt_of_basis_pivot h hk).1
  · intro k k' name s hname hs
    exact (hx.unitAt_of_basis_pivot h hname).2 k' s hs

end Exchange

end Tableau

end LinearProgram
