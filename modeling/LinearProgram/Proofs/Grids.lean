import LinearProgram.Grid
import LinearProgram.Proofs.Layouts
import LinearProgram.Unicode.Width

namespace LinearProgram

namespace Unicode

lemma width_append (cs ds : List Char) : width (cs ++ ds) = width cs + width ds := by
  induction cs with
  | nil => exact (Nat.zero_add _).symm
  | cons c cs ih => rw [List.cons_append, width, width, ih, Nat.add_assoc]

lemma takesOne_of_columns {c : Char} (h : columns c = 1) : Grid.TakesOne width c := by
  intro before behind
  rw [width_append, width, h, Nat.add_assoc]

lemma measures_width : Grid.Measures width where
  nil := rfl
  blank := takesOne_of_columns rfl
  bar := takesOne_of_columns rfl
  joint := takesOne_of_columns rfl
  dash := takesOne_of_columns rfl

end Unicode

namespace Grid

variable {width : List Char → Nat} {cell : String} {row header : List String}
  {rows : List (List String)} {ws vs : List Nat}

lemma Fits.max_left (h : Fits width ws row) (hlength : vs.length = row.length) :
    Fits width (List.zipWith max ws vs) row := by
  induction h generalizing vs with
  | nil => exact .nil
  | cons hcell _ ih =>
    obtain ⟨v, vs, rfl⟩ := List.exists_cons_of_length_eq_add_one hlength
    exact .cons (hcell.trans (Nat.le_max_left _ _)) (ih (Nat.succ.inj hlength))

lemma Fits.max_right (h : Fits width ws row) (hlength : vs.length = row.length) :
    Fits width (List.zipWith max vs ws) row := by
  rw [List.zipWith_comm_of_comm Nat.max_comm]
  exact h.max_left hlength

lemma columnWidths_cons_cons (first second : List String) (rows : List (List String)) :
    columnWidths width (first :: second :: rows) =
      List.zipWith max (first.map (cellWidth width)) (columnWidths width (second :: rows)) :=
  rfl

lemma length_columnWidths {n : Nat} (hne : rows ≠ []) (hlength : ∀ row ∈ rows, row.length = n) :
    (columnWidths width rows).length = n := by
  induction rows with
  | nil => exact absurd rfl hne
  | cons row rows ih =>
    obtain ⟨hrow, hrows⟩ := List.forall_mem_cons.1 hlength
    cases rows with
    | nil => rwa [columnWidths, List.length_map]
    | cons row' rows =>
      rw [columnWidths_cons_cons, List.length_zipWith, List.length_map, hrow,
        ih (List.cons_ne_nil _ _) hrows, Nat.min_self]

namespace IsPlain

variable (h : IsPlain cell)

include h

lemma cellLines_eq : cellLines cell = [cell] := by
  rw [cellLines, List.splitOn_eq_singleton h.newline_notMem, List.map_singleton, String.ofList_toList]

lemma cellWidth_eq : cellWidth width cell = width cell.toList := by
  rw [cellWidth, h.cellLines_eq]
  exact Nat.max_zero _

lemma toList_cellLine (w : Nat) : (cellLine width w 0 cell).toList = cellText width w cell := by
  simp [cellLine, cellText, h.cellLines_eq, h.cellWidth_eq, textOf]

end IsPlain

section Row

variable (hplain : ∀ cell ∈ row, IsPlain cell)

include hplain

lemma fits_self : Fits width (row.map (cellWidth width)) row := by
  rw [Fits, List.forall₂_map_left_iff, List.forall₂_same]
  exact fun cell hcell => (hplain cell hcell).cellWidth_eq.ge

lemma height_eq (hne : row ≠ []) : height row = 1 := by
  induction row with
  | nil => exact absurd rfl hne
  | cons cell row ih =>
    obtain ⟨hcell, hrow⟩ := List.forall_mem_cons.1 hplain
    have hone : height (cell :: row) = max 1 (height row) := by
      rw [height, List.map_cons, hcell.cellLines_eq]
      rfl
    rw [hone]
    cases row with
    | nil => rfl
    | cons cell' row => rw [ih hrow (List.cons_ne_nil _ _), Nat.max_self]

lemma rowLines_eq (hne : row ≠ []) (ws : List Nat) :
    rowLines width ws row = [rowLine width ws 0 row] := by
  rw [rowLines, height_eq hplain hne]
  rfl

lemma toList_rowLine (ws : List Nat) : (rowLine width ws 0 row).toList = rowText width ws row := by
  have htexts : List.zipWith (fun w cell => (cellLine width w 0 cell).toList) ws row =
      List.zipWith (cellText width) ws row := by
    rw [← List.map_uncurry_zip_eq_zipWith, ← List.map_uncurry_zip_eq_zipWith]
    refine List.map_congr_left fun wc hwc => ?_
    exact (hplain wc.2 (List.of_mem_zip hwc).2).toList_cellLine wc.1
  rw [rowLine, String.toList_intercalate, List.map_zipWith, htexts]
  rfl

end Row

lemma fits_columnWidths {n : Nat} (hlength : ∀ row ∈ rows, row.length = n)
    (hplain : ∀ row ∈ rows, ∀ cell ∈ row, IsPlain cell) :
    ∀ row ∈ rows, Fits width (columnWidths width rows) row := by
  induction rows with
  | nil => exact nofun
  | cons first rows ih =>
    obtain ⟨hfirst, hrest⟩ := List.forall_mem_cons.1 hlength
    obtain ⟨hplainFirst, hplainRest⟩ := List.forall_mem_cons.1 hplain
    cases rows with
    | nil => exact List.forall_mem_singleton.2 (fits_self hplainFirst)
    | cons second rows =>
      have hwidths : (columnWidths width (second :: rows)).length = n :=
        length_columnWidths (List.cons_ne_nil second rows) hrest
      rw [columnWidths_cons_cons]
      refine List.forall_mem_cons.2 ⟨?_, fun row hrow => ?_⟩
      · exact (fits_self hplainFirst).max_left (hwidths.trans hfirst.symm)
      · refine (ih hrest hplainRest row hrow).max_right ?_
        rw [List.length_map, hfirst, hrest row hrow]

lemma toList_ruleLine (ws : List Nat) : (ruleLine ws).toList = ruleText ws := by
  rw [ruleLine, String.toList_intercalate, List.map_map]
  simp [ruleText, textOf, Function.comp_def]

lemma map_toList_lines (hne : ∀ row ∈ header :: rows, row ≠ [])
    (hplain : ∀ row ∈ header :: rows, ∀ cell ∈ row, IsPlain cell) :
    (lines width header rows).map String.toList =
      let ws := columnWidths width (header :: rows)
      rowText width ws header :: ruleText ws :: rows.map (rowText width ws) := by
  obtain ⟨hheader, hrows⟩ := List.forall_mem_cons.1 hne
  obtain ⟨hplain, hplains⟩ := List.forall_mem_cons.1 hplain
  have hbody (ws : List Nat) :
      (rows.flatMap (rowLines width ws)).map String.toList = rows.map (rowText width ws) := by
    rw [List.map_flatMap, List.map_eq_flatMap]
    refine List.flatMap_congr fun row hrow => ?_
    rw [rowLines_eq (hplains row hrow) (hrows row hrow), List.map_singleton,
      toList_rowLine (hplains row hrow)]
  rw [lines, rowLines_eq hplain hheader, List.singleton_append, List.map_cons, List.map_cons, hbody,
    toList_rowLine hplain, toList_ruleLine]

theorem psql_render (width : List Char → Nat) : Psql width (render width) := by
  intro header rows hne _ hlength hplain
  have hlength : ∀ row ∈ header :: rows, row.length = header.length :=
    List.forall_mem_cons.2 ⟨rfl, hlength⟩
  have hne : ∀ row ∈ header :: rows, row ≠ [] := fun row hrow => by
    rwa [← List.length_pos_iff, hlength row hrow, List.length_pos_iff]
  refine ⟨columnWidths width (header :: rows), fits_columnWidths hlength hplain, ?_⟩
  rw [render, String.toList_intercalate, map_toList_lines hne hplain]
  rfl

end Grid

end LinearProgram
