import LinearProgram.Proofs.Shape
import LinearProgram.Proofs.Unboundedness

/-!
A tableau is determined by its basis: pivots keep the solutions, and the solutions say what every
entry of a tableau in canonical form is. So a pivot is undone by one that lets the variable which left
return to its row.
-/

namespace LinearProgram

lemma Row.ext_of_names {names : List String} {r q : Row Rat} (hn : names.Nodup)
    (hr : r.entries.length = names.length) (hq : q.entries.length = names.length)
    (hz : r.z = q.z) (hrhs : r.rhs = q.rhs)
    (hentry : ∀ name ∈ names, r.entry (names.idxOf name) = q.entry (names.idxOf name)) : r = q := by
  have hentries : r.entries = q.entries := by
    refine List.ext_getElem (hr.trans hq.symm) fun k hk hk' => ?_
    have h := hentry names[k] (List.getElem_mem (hr ▸ hk))
    rwa [hn.idxOf_getElem k, entry_of_getElem? (List.getElem?_eq_getElem hk),
      entry_of_getElem? (List.getElem?_eq_getElem hk')] at h
  obtain ⟨z, entries, rhs⟩ := r
  obtain ⟨z', entries', rhs'⟩ := q
  obtain rfl : z = z' := hz
  obtain rfl : rhs = rhs' := hrhs
  obtain rfl : entries = entries' := hentries
  rfl

namespace Tableau

variable {t a b s : Tableau Rat} {m n i j row col : Nat} {e : String} {r q : Row Rat}

section Uniqueness

lemma Proper.exists_satisfies (h : t.Proper m n) (u : String → Rat) :
    ∃ z x, t.Satisfies z x ∧ ∀ name ∈ t.nonbasic, x name = u name := by
  obtain ⟨v, hv, hu⟩ := h.exists_follows u
  refine ⟨_, _, h.satisfies_add h.satisfies_reading hv, fun name hname => ?_⟩
  rw [Pi.add_apply, h.reading_of_notMem_basis (mem_nonbasic.1 hname).2, zero_add, hu name hname]

lemma eq_of_sub_rest_eq (h : ∀ x, r.rhs - t.rest r x = q.rhs - t.rest q x) :
    r.rhs = q.rhs ∧ ∀ name ∈ t.nonbasic,
      r.entry (t.names.idxOf name) = q.entry (t.names.idxOf name) := by
  have hzero (s : Row Rat) : t.rest s 0 = 0 := rest_eq_zero fun _ _ => rfl
  have hrhs : r.rhs = q.rhs := by
    have h0 := h 0
    rwa [hzero, hzero, sub_zero, sub_zero] at h0
  refine ⟨hrhs, fun name hname => ?_⟩
  have h1 := h fun other => if other = name then 1 else 0
  rwa [hrhs, sub_right_inj, rest_of_raises (fun _ _ => rfl) hname,
    rest_of_raises (fun _ _ => rfl) hname] at h1

lemma rest_eq_of_basis_eq (hn : a.names = b.names) (hb : a.basis = b.basis) (r : Row Rat)
    (x : String → Rat) : b.rest r x = a.rest r x := by
  rw [rest, rest, nonbasic, nonbasic, hn, hb]

section

variable (ha : t.Represents a m n) (hb : t.Represents b m n) (h : a.basis = b.basis)

include ha hb h

lemma Represents.exists_satisfies_both (u : String → Rat) :
    ∃ z x, a.Satisfies z x ∧ b.Satisfies z x ∧ ∀ r, a.rest r x = a.rest r u ∧
      b.rest r x = a.rest r u := by
  obtain ⟨z, x, hx, hu⟩ := ha.exists_satisfies u
  refine ⟨z, x, hx, (hb.satisfies_iff z x).2 ((ha.satisfies_iff z x).1 hx), fun r => ?_⟩
  rw [rest_eq_of_basis_eq (ha.names_eq.trans hb.names_eq.symm) h, rest_congr hu]
  exact ⟨rfl, rfl⟩

lemma Represents.objective_eq : a.objective = b.objective := by
  have hn : a.names = b.names := ha.names_eq.trans hb.names_eq.symm
  obtain ⟨hrhs, hrest⟩ := eq_of_sub_rest_eq (t := a) (r := a.objective) (q := b.objective) fun u => by
    obtain ⟨z, x, hxa, hxb, hrest⟩ := ha.exists_satisfies_both hb h u
    have hza := ((ha.toProper.satisfies_iff z x).1 hxa).1
    have hzb := ((hb.toProper.satisfies_iff z x).1 hxb).1
    rw [(hrest _).1] at hza
    rw [(hrest _).2] at hzb
    exact hza.symm.trans hzb
  refine Row.ext_of_names ha.names_nodup ha.width_objective (hn ▸ hb.width_objective)
    (ha.objective_z.trans hb.objective_z.symm) hrhs fun name hname => ?_
  by_cases hbasic : name ∈ a.basis
  · rw [ha.objective_entry name hbasic, hn, hb.objective_entry name (h ▸ hbasic)]
  · exact hrest name (mem_nonbasic.2 ⟨hname, hbasic⟩)

lemma Represents.row_eq (hr : a.rows[i]? = some r) (hq : b.rows[i]? = some q) : r = q := by
  have hn : a.names = b.names := ha.names_eq.trans hb.names_eq.symm
  obtain ⟨e, he⟩ := ha.toProper.basis_of_row hr
  obtain ⟨hrhs, hrest⟩ := eq_of_sub_rest_eq (t := a) (r := r) (q := q) fun u => by
    obtain ⟨z, x, hxa, hxb, hrest⟩ := ha.exists_satisfies_both hb h u
    have hea := ((ha.toProper.satisfies_iff z x).1 hxa).2 i e r he hr
    have heb := ((hb.toProper.satisfies_iff z x).1 hxb).2 i e q (h ▸ he) hq
    rw [(hrest _).1] at hea
    rw [(hrest _).2] at heb
    exact hea.symm.trans heb
  refine Row.ext_of_names ha.names_nodup (ha.width_row hr) (hn ▸ hb.width_row hq)
    ((ha.rows_z r (List.mem_of_getElem? hr)).trans (hb.rows_z q (List.mem_of_getElem? hq)).symm) hrhs
    fun name hname => ?_
  by_cases hbasic : name ∈ a.basis
  · obtain ⟨k, hk⟩ := List.mem_iff_getElem?.1 hbasic
    rw [ha.entry k i name r hk hr, hn, hb.entry k i name q (h ▸ hk) hq]
  · exact hrest name (mem_nonbasic.2 ⟨hname, hbasic⟩)

theorem Represents.eq_of_basis_eq : a = b := by
  have hrows : a.rows = b.rows := by
    refine List.ext_getElem (ha.length_rows.trans hb.length_rows.symm) fun k hk hk' => ?_
    exact ha.row_eq hb h (List.getElem?_eq_getElem hk) (List.getElem?_eq_getElem hk')
  have hn : a.names = b.names := ha.names_eq.trans hb.names_eq.symm
  have hobjective := ha.objective_eq hb h
  obtain ⟨names, basis, objective, rows⟩ := a
  obtain ⟨names', basis', objective', rows'⟩ := b
  obtain rfl : names = names' := hn
  obtain rfl : basis = basis' := h
  obtain rfl : objective = objective' := hobjective
  obtain rfl : rows = rows' := hrows
  rfl

end

end Uniqueness

def pivotOn? (t : Tableau Rat) (row col : Nat) : Option (Tableau Rat) :=
  if t.entryAt? row col = some 0 then none else t.pivot? row col

def pivots? (t : Tableau Rat) (cells : List (Nat × Nat)) : Option (Tableau Rat) :=
  cells.foldlM (fun t cell => t.pivotOn? cell.1 cell.2) t

lemma Shaped.pivotOn?_eq_some_iff (h : t.Shaped m n) : t.pivotOn? row col = some s ↔
    ∃ i j e r, row = i + 1 ∧ col = j + 1 ∧ t.names[j]? = some e ∧ t.rows[i]? = some r ∧
      r.entry j ≠ 0 ∧ s = t.pivot i j := by
  rw [pivotOn?]
  constructor
  · intro hs
    split at hs
    · cases hs
    · rename_i hx
      obtain ⟨i, j, rfl, rfl, hi, hj, rfl⟩ := pivot?_eq_some_iff.1 hs
      have hr := List.getElem?_eq_getElem hi
      rw [h.entryAt?_succ hr hj, Option.some_inj] at hx
      exact ⟨i, j, _, _, rfl, rfl, List.getElem?_eq_getElem hj, hr, hx, rfl⟩
  · rintro ⟨i, j, e, r, rfl, rfl, he, hr, hx, rfl⟩
    have hi := (List.getElem?_eq_some_iff.1 hr).1
    have hj := (List.getElem?_eq_some_iff.1 he).1
    have hne : t.entryAt? (i + 1) (j + 1) ≠ some 0 := by
      rwa [h.entryAt?_succ hr hj, Ne, Option.some_inj]
    rw [if_neg hne]
    exact pivot?_eq_some_iff.2 ⟨i, j, rfl, rfl, hi, hj, rfl⟩

lemma Proper.pivot_idxOf_eq_self (h : t.Proper m n) (hb : t.basis[i]? = some e)
    (hr : t.rows[i]? = some r) : t.pivot i (t.names.idxOf e) = t := by
  have hu := h.toCanonical.unitAt hb
  have hone : r.entry (t.names.idxOf e) = 1 := by rw [hu.2 i r hr, if_pos rfl]
  have hdivide : r.divide 1 = r := by
    simp [Row.divide]
  have hrows : (t.rows.map fun q => q.clear r (t.names.idxOf e)).set i r = t.rows := by
    refine List.ext_getElem? fun k => ?_
    by_cases hk : k = i
    · subst hk
      have hlt := (List.getElem?_eq_some_iff.1 hr).1
      rw [List.getElem?_set_self (by simpa using hlt), hr]
    · rw [List.getElem?_set_ne (Ne.symm hk), List.getElem?_map]
      cases hq : t.rows[k]? with
      | none => rfl
      | some q =>
        rw [Option.map_some, Row.clear_of_entry_eq_zero _ (by rw [hu.2 k q hq, if_neg hk])]
  have hbasis : t.basis.set i e = t.basis := by
    obtain ⟨hi, rfl⟩ := List.getElem?_eq_some_iff.1 hb
    exact List.set_getElem_self hi
  have hname := List.getElem?_idxOf (h.basis_subset (List.mem_of_getElem? hb))
  rw [pivot_eq hr hname, hone, hdivide, hrows, hbasis, Row.clear_of_entry_eq_zero _ hu.1]

lemma Represents.pivot_of_entry_ne_zero (h : t.Represents a m n) (he : a.names[j]? = some e)
    (hr : a.rows[i]? = some r) (hx : r.entry j ≠ 0) : t.Represents (a.pivot i j) m n := by
  by_cases hb : e ∈ a.basis
  · -- of the basic columns only that of this row has an entry here
    obtain ⟨k, hk⟩ := List.mem_iff_getElem?.1 hb
    have hj := h.toProper.idxOf_eq he
    have hik : i = k := by
      by_contra hne
      rw [← hj, h.entry k i e r hk hr, if_neg hne] at hx
      exact hx rfl
    rw [← hj, h.toProper.pivot_idxOf_eq_self (hik ▸ hk) hr]
    exact h
  · exact h.pivot ⟨hr, he, hb, hx⟩

lemma Represents.pivots (h : t.Represents a m n) {cells : List (Nat × Nat)}
    (hp : a.pivots? cells = some b) : t.Represents b m n := by
  induction cells generalizing a with
  | nil =>
    cases hp
    exact h
  | cons cell cells ih =>
    rw [pivots?, List.foldlM_cons] at hp
    obtain ⟨s, hs, hp⟩ := Option.bind_eq_some_iff.1 hp
    obtain ⟨i, j, e, r, -, -, he, hr, hx, rfl⟩ := h.toShaped.pivotOn?_eq_some_iff.1 hs
    exact ih (h.pivot_of_entry_ne_zero he hr hx) hp

theorem Represents.exists_undo (h : t.Represents a m n) (hs : a.pivotOn? row col = some s) :
    ∃ l back, a.basis[row - 1]? = some l ∧ a.columnOf? l = some back ∧
      s.pivotOn? row back = some a := by
  obtain ⟨i, j, e, r, rfl, rfl, he, hr, h0, rfl⟩ := h.toShaped.pivotOn?_eq_some_iff.1 hs
  obtain ⟨l, hl⟩ := h.toProper.basis_of_row hr
  have hmem := h.basis_subset (List.mem_of_getElem? hl)
  have hpivot := h.pivot_of_entry_ne_zero he hr h0
  have hname : (a.pivot i j).names[a.names.idxOf l]? = some l := List.getElem?_idxOf hmem
  have hrow : (a.pivot i j).rows[i]? = some (r.divide (r.entry j)) := by
    have hi := (List.getElem?_eq_some_iff.1 hr).1
    rw [pivot_eq hr he, List.getElem?_set_self (by simpa using hi)]
  have hentry : (r.divide (r.entry j)).entry (a.names.idxOf l) ≠ 0 := by
    rw [Row.entry_divide, h.entry i i l r hl hr, if_pos rfl]
    exact one_div_ne_zero h0
  have hbasis : ((a.pivot i j).pivot i (a.names.idxOf l)).basis = a.basis := by
    obtain ⟨hi, hli⟩ := List.getElem?_eq_some_iff.1 hl
    rw [pivot_eq hrow hname, pivot_eq hr he, List.set_set, ← hli, List.set_getElem_self hi]
  have hback := hpivot.pivot_of_entry_ne_zero hname hrow hentry
  refine ⟨l, a.names.idxOf l + 1, hl, if_pos hmem, hpivot.toShaped.pivotOn?_eq_some_iff.2 ?_⟩
  exact ⟨i, _, l, _, rfl, rfl, hname, hrow, hentry, h.eq_of_basis_eq hback hbasis.symm⟩

variable {p : Problem Rat} {lines : List String}

theorem eq_of_basis_eq_of_pivots (hp : Problem.ofLines lines = .ok p)
    (ht : start p.standard = .ok t) :
    (∀ cells cells' a b, t.pivots? cells = some a → t.pivots? cells' = some b →
      a.basis = b.basis → a = b) ∧
    ∀ cells a row col s, t.pivots? cells = some a → a.pivotOn? row col = some s →
      ∃ l back, a.basis[row - 1]? = some l ∧ a.columnOf? l = some back ∧
        s.pivotOn? row back = some a := by
  have h := (Problem.proper_of_start hp ht).represents_self
  constructor
  · intro cells cells' a b ha hb hbasis
    exact (h.pivots ha).eq_of_basis_eq (h.pivots hb) hbasis
  · intro cells a row col s ha hs
    exact (h.pivots ha).exists_undo hs

theorem eq_of_basis_eq_of_pivots_of_two_rows :
    ∃ p t a s, Problem.start? ["Maximize: z = x + y", "x + y <= 4", "x + 3y <= 6"] = some (p, t) ∧
      t.pivots? [(1, 1), (2, 2)] = some a ∧ t.pivots? [(1, 2), (1, 1), (2, 2)] = some a ∧
      a.pivotOn? 2 3 = some s ∧ s.basis = ["x", "s3"] ∧ s.pivotOn? 2 2 = some a := by
  have h : ((Problem.start? ["Maximize: z = x + y", "x + y <= 4", "x + 3y <= 6"]).bind
      fun o : Problem Rat × Tableau Rat =>
        (o.2.pivots? [(1, 1), (2, 2)]).bind fun a =>
          (o.2.pivots? [(1, 2), (1, 1), (2, 2)]).bind fun b =>
            (a.pivotOn? 2 3).map fun s => (a.basis, b.basis, a.columnOf? "y", s.basis)) =
      some (["x", "y"], ["x", "y"], some 2, ["x", "s3"]) := by decide +kernel
  obtain ⟨⟨p, t⟩, ho, h⟩ := Option.bind_eq_some_iff.1 h
  obtain ⟨a, ha, h⟩ := Option.bind_eq_some_iff.1 h
  obtain ⟨b, hb, h⟩ := Option.bind_eq_some_iff.1 h
  obtain ⟨s, hs, h⟩ := Option.map_eq_some_iff.1 h
  simp only [Prod.mk.injEq] at h
  obtain ⟨hbasis, hbasis', hcol, hsbasis⟩ := h
  obtain ⟨hp, ht⟩ := Problem.start?_eq_some ho
  obtain ⟨hunique, hundo⟩ := eq_of_basis_eq_of_pivots hp ht
  obtain rfl : a = b := hunique _ _ a b ha hb (hbasis.trans hbasis'.symm)
  obtain ⟨l, back, hl, hback, hreturn⟩ := hundo _ a 2 3 s ha hs
  obtain rfl : "y" = l := by simpa [hbasis] using hl
  obtain rfl : 2 = back := Option.some_inj.1 (hcol.symm.trans hback)
  exact ⟨p, t, a, s, ho, ha, hb, hs, hsbasis, hreturn⟩

end Tableau

end LinearProgram
