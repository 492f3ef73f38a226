import LinearProgram.Proofs.Shape
import LinearProgram.Proofs.Solve

namespace LinearProgram

namespace Tableau

variable {t : Tableau Rat} {m n i j col row : Nat}

theorem isUnitColumn?_eq_true_iff :
    t.isUnitColumn? col row 0 = some true ↔
      ∀ k < t.rowCount, t.entryAt? k col = some (if k = row then 1 else 0) := by
  rw [isUnitColumn?, Option.map_eq_some_iff]
  constructor
  · rintro ⟨column, hcolumn, hall⟩ k hk
    rw [mapM_eq_some_iff] at hcolumn
    rw [List.all_eq_true] at hall
    have hr : t.allRows[k]? = some t.allRows[k] := List.getElem?_eq_getElem hk
    have hget : some (t.allRows[k].toList[col]?) = column[k]?.map some := by
      rw [← List.getElem?_map, ← hcolumn, List.getElem?_map, hr]
      rfl
    obtain ⟨x, hx, hxr⟩ := Option.map_eq_some_iff.1 hget.symm
    have hzero := isNegligible_zero.1 (hall (x, k) (List.mk_mem_zipIdx_iff_getElem?.2 hx))
    rw [entryAt?_of_getElem? hr, ← hxr, sub_eq_zero.1 hzero]
  · intro h
    let column := (List.range t.rowCount).map fun k => if k = row then (1 : Rat) else 0
    refine ⟨column, mapM_eq_some_iff.2 ?_, ?_⟩
    · apply List.ext_getElem
      · simp [column, rowCount, allRows]
      · intro k hk _
        rw [List.length_map] at hk
        have hentry := h k hk
        rw [entryAt?_of_getElem? (List.getElem?_eq_getElem hk)] at hentry
        simpa [column] using hentry
    · rw [List.all_eq_true]
      rintro ⟨x, k⟩ hx
      rw [List.mk_mem_zipIdx_iff_getElem?, List.getElem?_map] at hx
      obtain ⟨k', hk', rfl⟩ := Option.map_eq_some_iff.1 hx
      obtain ⟨-, rfl⟩ := List.getElem?_eq_some_iff.1 hk'
      simp

/-- The tableau has one row more than `p` has and two columns more, its first column is that of `z`,
and the column of each basic variable has its one in the row of that variable. -/
structure CanonicalOver (p : StandardForm Rat) (t : Tableau Rat) : Prop where
  rowCount_eq : t.rowCount = 1 + p.rows.length
  length_row : ∀ k < t.rowCount, ∃ r, t.rowAt? k = some r ∧ r.length = p.names.length + 2
  names_eq : t.names = p.names
  zColumn : t.isUnitColumn? 0 0 0 = some true
  length_basis : t.basis.length = p.rows.length
  basis_nodup : t.basis.Nodup
  basis_subset : t.basis ⊆ t.names
  basicColumn : ∀ (i : Nat) (name : String), t.basis[i]? = some name →
    ∃ col, t.columnOf? name = some col ∧ t.isUnitColumn? col (i + 1) 0 = some true

lemma Canonical.isUnitColumn?_zero (h : t.Canonical) : t.isUnitColumn? 0 0 0 = some true := by
  rw [isUnitColumn?_eq_true_iff]
  intro k hk
  cases k with
  | zero =>
    rw [entryAt?_of_getElem? rfl, if_pos rfl]
    exact congrArg some h.objective_z
  | succ k =>
    have hr : t.allRows[k + 1]? = some t.allRows[k + 1] := List.getElem?_eq_getElem hk
    have hmem : t.allRows[k + 1] ∈ t.rows := List.getElem_mem (Nat.lt_of_succ_lt_succ hk)
    rw [entryAt?_of_getElem? hr, if_neg k.succ_ne_zero]
    exact congrArg some (h.rows_z _ hmem)

lemma UnitAt.isUnitColumn? (hu : t.UnitAt i j) (h : t.Proper m n) (hj : j < t.names.length) :
    t.isUnitColumn? (j + 1) (i + 1) 0 = some true := by
  rw [isUnitColumn?_eq_true_iff]
  intro k hk
  have hr : t.allRows[k]? = some t.allRows[k] := List.getElem?_eq_getElem hk
  have hw : j < t.allRows[k].entries.length := by
    rw [h.width _ (List.getElem_mem hk), ← h.length_names]
    exact hj
  rw [entryAt?_of_getElem? hr, Row.getElem?_toList_succ hw]
  cases k with
  | zero =>
    rw [if_neg (Nat.succ_ne_zero i).symm]
    exact congrArg some hu.1
  | succ k =>
    have hrow := hu.2 k _ (List.getElem?_eq_getElem (Nat.lt_of_succ_lt_succ hk))
    simpa [allRows] using hrow

theorem Proper.canonicalOver {p : StandardForm Rat} (h : t.Proper p.rows.length p.names.length)
    (hn : t.names = p.names) : t.CanonicalOver p where
  rowCount_eq := by rw [rowCount, h.length_rows, add_comm]
  length_row := by
    intro k hk
    refine ⟨t.allRows[k].toList, by rw [rowAt?, List.getElem?_eq_getElem hk]; rfl, ?_⟩
    simp [Row.toList, h.width _ (List.getElem_mem hk)]
  names_eq := hn
  zColumn := h.toCanonical.isUnitColumn?_zero
  length_basis := h.length_basis
  basis_nodup := h.basis_nodup
  basis_subset := h.basis_subset
  basicColumn := by
    intro i name hb
    have hname : name ∈ t.names := h.basis_subset (List.mem_of_getElem? hb)
    refine ⟨t.names.idxOf name + 1, if_pos hname, ?_⟩
    exact (h.toCanonical.unitAt hb).isUnitColumn? h (List.idxOf_lt_length_iff.2 hname)

end Tableau

namespace Problem

variable {lines : List String} {p : Problem Rat} {t t' : Tableau Rat} {settings : Settings Rat}
  {d : Direction} {count : Nat} {values : List Rat} {z : Rat}

theorem canonicalOver_of_shows (hp : ofLines lines = .ok p)
    (ht : Tableau.start p.standard = .ok t) (htol : 0 ≤ settings.tolerance)
    (h : (t.solve settings d count).Shows t' values z) : t'.CanonicalOver p.standard := by
  have hrep := represents_of_shows hp ht htol h
  exact hrep.toProper.canonicalOver (hrep.names_eq.trans (Tableau.started_of_start ht).names_eq)

theorem canonicalOver_of_surplus :
    ∃ p t, ofLines ["Minimize: z = -3s3 - 2x", "s3 + x <= 4", "-s3 - 3x >= -6", "s3 <= 3"] = .ok p ∧
      Tableau.start p.standard = .ok t ∧ p.standard.names = ["s3", "x", "s4", "s5", "s6"] ∧
      (t.solve ⟨10000, 1 / 10, true⟩ .minimize 2).iterations = 2 ∧
      (t.solve ⟨10000, 1 / 10, true⟩ .minimize 2).tableau.CanonicalOver p.standard ∧
      ∀ step ∈ (t.solve ⟨10000, 1 / 10, true⟩ .minimize 2).steps,
        step.tableau.CanonicalOver p.standard := by
  have h : ((outcome? ["Minimize: z = -3s3 - 2x", "s3 + x <= 4", "-s3 - 3x >= -6", "s3 <= 3"]
      ⟨10000, 1 / 10, true⟩).map fun o => (o.1.standard.names, o.2.iterations,
        o.1.standard.direction, o.1.standard.decisionCount)) =
      some (["s3", "x", "s4", "s5", "s6"], 2, .minimize, 2) := by decide +kernel
  obtain ⟨⟨p, s⟩, ho, hr⟩ := Option.map_eq_some_iff.1 h
  obtain ⟨t, hp, ht, hsolve⟩ := exists_start_of_outcome? ho
  simp only [Prod.mk.injEq] at hr
  obtain ⟨hnames, hiter, hd, hcount⟩ := hr
  rw [hd, hcount] at hsolve
  subst hsolve
  exact ⟨p, t, hp, ht, hnames, hiter, canonicalOver_of_shows hp ht (by norm_num) .last,
    fun step hstep => canonicalOver_of_shows hp ht (by norm_num) (.step hstep)⟩

end Problem

end LinearProgram
