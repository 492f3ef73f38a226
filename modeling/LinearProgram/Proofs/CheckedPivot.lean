import Mathlib.Data.Nat.PSub
import LinearProgram.Proofs.Shape

/-!
The pivot cell by cell. Every cell, row and name is taken by its index, and an index that is out of
range gives no result. On a tableau whose rows have the right width this happens just where the pivot
lies outside the tableau, whatever its numbers and names are.
-/

namespace LinearProgram.Checked

section Cells

variable {β : Type} {f : Nat → β → Option β} {cells ys : List β}

def write? (xs : List β) (k : Nat) (x : β) : Option (List β) :=
  if k < xs.length then some (xs.set k x) else none

lemma write?_of_lt {xs : List β} {k : Nat} (h : k < xs.length) (x : β) :
    write? xs k x = some (xs.set k x) :=
  if_pos h

def replaceCell (f : Nat → β → Option β) (cells : List β) (j : Nat) : Option (List β) := do
  let x ← cells[j]?
  let y ← f j x
  write? cells j y

def replaceCells (f : Nat → β → Option β) (width : Nat) (cells : List β) : Option (List β) :=
  (List.range width).foldlM (replaceCell f) cells

lemma replaceCell_eq_some {k : Nat} (hl : ys.length = cells.length) (hk : k < cells.length)
    (hf : f k cells[k] = ys[k]?) :
    replaceCell f (ys.take k ++ cells.drop k) k = some (ys.take (k + 1) ++ cells.drop (k + 1)) := by
  have hk' : k < ys.length := hl ▸ hk
  have hlength : (ys.take k).length = k := by rw [List.length_take]; omega
  have hread : (ys.take k ++ cells.drop k)[k]? = some cells[k] := by
    rw [List.getElem?_append_right hlength.le, hlength, Nat.sub_self, List.getElem?_drop,
      Nat.add_zero, List.getElem?_eq_getElem hk]
  have hset : (ys.take k ++ cells.drop k).set k ys[k] =
      ys.take (k + 1) ++ cells.drop (k + 1) := by
    rw [List.set_append_right _ _ hlength.le, hlength, Nat.sub_self,
      List.drop_eq_getElem_cons hk, List.set_cons_zero, List.take_succ_eq_append_getElem hk',
      List.append_assoc, List.singleton_append]
  have hlt : k < (ys.take k ++ cells.drop k).length := (List.getElem?_eq_some_iff.1 hread).1
  rw [List.getElem?_eq_getElem hk'] at hf
  simp only [replaceCell, hread, hf, bind, Option.bind]
  rw [write?_of_lt hlt, hset]

lemma replaceCells_eq_some (hl : ys.length = cells.length)
    (hf : ∀ (k : Nat) (x : β), cells[k]? = some x → f k x = ys[k]?) :
    replaceCells f cells.length cells = some ys := by
  have hloop : ∀ k ≤ cells.length,
      (List.range k).foldlM (replaceCell f) cells = some (ys.take k ++ cells.drop k) := by
    intro k hk
    induction k with
    | zero => rfl
    | succ k ih =>
      rw [List.range_succ, List.foldlM_append, ih (by omega)]
      have hstep := replaceCell_eq_some hl hk (hf k _ (List.getElem?_eq_getElem hk))
      simpa [List.foldlM_cons] using hstep
  rw [replaceCells, hloop _ le_rfl, ← hl, List.take_length, hl, List.drop_length, List.append_nil]

end Cells

variable {α : Type}

def row? : List α → Option (Row α)
  | [] => none
  | z :: cells => cells.getLast?.map fun rhs => ⟨z, cells.dropLast, rhs⟩

lemma row?_toList (r : Row α) : row? r.toList = some r := by
  simp [row?, Row.toList]

lemma mapM_row?_toList (rs : List (Row α)) : (rs.map Row.toList).mapM row? = some rs := by
  rw [mapM_eq_some_iff, List.map_map]
  exact List.map_congr_left fun r _ => row?_toList r

variable [Scalar α]

def divideCells (a : α) (width : Nat) (cells : List α) : Option (List α) :=
  replaceCells (fun _ x => some (x / a)) width cells

def clearCells (p : List α) (col width : Nat) (cells : List α) : Option (List α) := do
  let factor ← cells[col]?
  if factor == 0 then some cells
  else replaceCells (fun j x => p[j]?.map fun y => x - factor * y) width cells

def pivot (t : Tableau α) (row col : Nat) : Option (Tableau α) := do
  let cells ← t.rowAt? row
  let a ← cells[col]?
  let p ← divideCells a t.columnCount cells
  let data ← write? (t.allRows.map Row.toList) row p
  let data ← data.zipIdx.mapM fun (cells, k) =>
    if k = row then some cells else clearCells p col t.columnCount cells
  let i ← row.ppred
  let name ← t.variableAt? col
  let basis ← write? t.basis i name
  let rows ← data.mapM row?
  match rows with
  | [] => none
  | objective :: rows => some ⟨t.names, basis, objective, rows⟩

variable {t : Tableau α} {m n i j row col : Nat} {r p q : Row α}

lemma divideCells_toList (a : α) (r : Row α) :
    divideCells a r.toList.length r.toList = some (r.divide a).toList := by
  have hcells : (r.divide a).toList = r.toList.map (· / a) := by simp [Row.toList, Row.divide]
  rw [divideCells, hcells]
  refine replaceCells_eq_some (List.length_map _) fun k x hx => ?_
  rw [List.getElem?_map, hx, Option.map_some]

lemma clearCells_toList (hp : p.entries.length = q.entries.length) (hj : j < q.entries.length) :
    clearCells p.toList (j + 1) q.toList.length q.toList = some (q.clear p j).toList := by
  rw [clearCells, Row.getElem?_toList_succ hj, Row.clear, Row.eliminate]
  simp only [bind, Option.bind]
  split
  · rfl
  · have hcells : Row.toList ⟨q.z - q.entry j * p.z,
        q.entries.zipWith (fun x y => x - q.entry j * y) p.entries, q.rhs - q.entry j * p.rhs⟩ =
          q.toList.zipWith (fun x y => x - q.entry j * y) p.toList := by
      simp [Row.toList, List.zipWith_append hp.symm]
    rw [hcells]
    refine replaceCells_eq_some (by simp [Row.toList, hp]) fun k x hx => ?_
    rw [List.getElem?_zipWith, hx]
    cases p.toList[k]? <;> rfl

omit [Scalar α] in
lemma length_toList (h : t.Shaped m n) (hr : t.allRows[row]? = some r) :
    r.toList.length = t.columnCount := by
  simp [Row.toList, Tableau.columnCount, h.width r (List.mem_of_getElem? hr), h.length_names]

omit [Scalar α] in
lemma variableAt?_succ (hj : j < t.names.length) :
    t.variableAt? (j + 1) = some (t.names.getD j "") := by
  rw [List.getD_eq_getElem?_getD, List.getElem?_eq_getElem hj]
  exact List.getElem?_eq_getElem hj

lemma inside_of_pivot_eq_some {t' : Tableau α} (h : pivot t row col = some t') :
    1 ≤ row ∧ row ≤ t.rows.length ∧ 1 ≤ col ∧ col ≤ t.names.length := by
  simp only [pivot, bind, Option.bind_eq_some_iff] at h
  obtain ⟨cells, hcells, -, -, -, -, -, -, -, -, i, hi, name, hname, -⟩ := h
  obtain ⟨r, hr, -⟩ := Option.map_eq_some_iff.1 hcells
  have hrow := (List.getElem?_eq_some_iff.1 hr).1
  rw [Nat.ppred_eq_some] at hi
  cases col with
  | zero => cases hname
  | succ j =>
    have hj := (List.getElem?_eq_some_iff.1 hname).1
    rw [Tableau.allRows, List.length_cons] at hrow
    omega

lemma mapM_clearCells (h : t.Shaped m n) (hi : i < t.rows.length) (hj : j < t.names.length)
    (hp : p = (t.rows.getD i Row.zero).divide ((t.rows.getD i Row.zero).entry j)) :
    (((t.allRows.map Row.toList).set (i + 1) p.toList).zipIdx.mapM fun (cells, k) =>
      if k = i + 1 then some cells else clearCells p.toList (j + 1) t.columnCount cells) =
        some ((t.pivot i j).allRows.map Row.toList) := by
  have hrows : (t.pivot i j).allRows = (t.allRows.map fun q => q.clear p j).set (i + 1) p := by
    subst hp
    rfl
  have hwidth : p.entries.length = n := by
    rw [hp, Row.length_divide, List.getD_eq_getElem?_getD, List.getElem?_eq_getElem hi]
    exact h.width _ (List.mem_cons_of_mem _ (List.getElem_mem hi))
  rw [mapM_eq_some_iff, hrows]
  refine List.ext_getElem? fun k => ?_
  rw [List.getElem?_map, List.getElem?_zipIdx, List.getElem?_map, List.getElem?_map]
  by_cases hk : k = i + 1
  · subst hk
    have hlt : i + 1 < t.allRows.length := Nat.succ_lt_succ hi
    rw [List.getElem?_set_self (by rwa [List.length_map]),
      List.getElem?_set_self (by rwa [List.length_map])]
    simp
  · rw [List.getElem?_set_ne (Ne.symm hk), List.getElem?_set_ne (Ne.symm hk), List.getElem?_map,
      List.getElem?_map]
    cases hq : t.allRows[k]? with
    | none => rfl
    | some q =>
      have hq' : q.entries.length = n := h.width q (List.mem_of_getElem? hq)
      have hclear := clearCells_toList (p := p) (q := q) (j := j) (hwidth.trans hq'.symm)
        (by rw [hq', ← h.length_names]; exact hj)
      rw [length_toList h hq] at hclear
      simpa [hk] using hclear

lemma pivot_of_lt (h : t.Shaped m n) (hi : i < t.rows.length) (hj : j < t.names.length) :
    pivot t (i + 1) (j + 1) = some (t.pivot i j) := by
  have hr : t.allRows[i + 1]? = some (t.rows.getD i Row.zero) := by
    rw [List.getD_eq_getElem?_getD, List.getElem?_eq_getElem hi]
    exact List.getElem?_eq_getElem hi
  have hclear := mapM_clearCells h hi hj rfl
  generalize t.rows.getD i Row.zero = r at hr hclear
  have hrow : t.rowAt? (i + 1) = some r.toList := congrArg (Option.map Row.toList) hr
  have hentry : r.toList[j + 1]? = some (r.entry j) := by
    refine Row.getElem?_toList_succ ?_
    rwa [h.width r (List.mem_of_getElem? hr), ← h.length_names]
  have hdivide := divideCells_toList (r.entry j) r
  rw [length_toList h hr] at hdivide
  have hdata : write? (t.allRows.map Row.toList) (i + 1) (r.divide (r.entry j)).toList = _ :=
    write?_of_lt (by rw [List.length_map]; exact Nat.succ_lt_succ hi) _
  have hbasis : write? t.basis i (t.names.getD j "") = _ :=
    write?_of_lt (by rwa [h.length_basis, ← h.length_rows]) _
  simp only [pivot, hrow, hentry, hdivide, hdata, hclear, Nat.ppred, variableAt?_succ hj,
    hbasis, mapM_row?_toList, bind, Option.bind]
  rfl

theorem pivot_eq_pivot? (h : t.Shaped m n) (row col : Nat) : pivot t row col = t.pivot? row col := by
  by_cases hin : 1 ≤ row ∧ row ≤ t.rows.length ∧ 1 ≤ col ∧ col ≤ t.names.length
  · obtain ⟨i, rfl⟩ := Nat.exists_eq_add_of_le' hin.1
    obtain ⟨j, rfl⟩ := Nat.exists_eq_add_of_le' hin.2.2.1
    rw [pivot_of_lt h hin.2.1 hin.2.2.2, Tableau.pivot?, if_pos hin]
    rfl
  · rw [Tableau.pivot?, if_neg hin, Option.eq_none_iff_forall_ne_some]
    exact fun t' ht' => hin (inside_of_pivot_eq_some ht')

end LinearProgram.Checked
