import Mathlib.Data.List.Forall2
import LinearProgram.Proofs.Lines

/-!
Text grids in any layout that sets cells between bars, on a terminal of any widths that count a
space, a bar, a joint and a dash as one column. All lines of such a grid take the same columns, the
bars of its text lines and the joints of its rule stand below each other, and what stands between the
bars is what the cells hold.
-/

namespace LinearProgram

namespace Unicode

variable {cs ds es : List Char}

lemma trim_padded (hds : ∀ c ∈ ds, isBlank c = true) (hcs : ∀ c ∈ cs, isBlank c = false)
    (hes : ∀ c ∈ es, isBlank c = true) : trim (ds ++ (cs ++ es)) = cs := by
  have hrev : ∀ c ∈ es.reverse, isBlank c = true := fun c hc => hes c (List.mem_reverse.1 hc)
  rw [trim, List.dropWhile_append_of_pos hds, dropTrailing]
  cases cs with
  | nil =>
    rw [List.nil_append, List.dropWhile_eq_nil_iff.2 hes]
    rfl
  | cons c cs =>
    have hkeep : (c :: cs).reverse.dropWhile isBlank = (c :: cs).reverse := by
      refine List.dropWhile_eq_self_iff.2 fun hlength => Bool.eq_false_iff.1 (hcs _ ?_)
      exact List.mem_reverse.1 (List.getElem_mem _)
    rw [List.cons_append, List.dropWhile_cons_of_neg (Bool.eq_false_iff.1 (hcs c List.mem_cons_self)),
      ← List.cons_append, List.reverse_append, List.dropWhile_append_of_pos hrev, hkeep,
      List.reverse_reverse]

end Unicode

namespace Grid

open Unicode

variable {width : List Char → Nat} {mark : Char} {line before : List Char} {parts : List (List Char)}
  {widths cuts ws : List Nat} {cell : String} {row header : List String} {rows : List (List String)}
  {layout : List (List String) → String}

/-- A character takes one column of a line, whatever stands before and behind it. -/
def TakesOne (width : List Char → Nat) (mark : Char) : Prop :=
  ∀ before behind, width (before ++ mark :: behind) = width before + 1 + width behind

/-- What a grid needs of the widths of lines. Other characters may take any number of columns, and
neighbours among them may share some. -/
structure Measures (width : List Char → Nat) : Prop where
  nil : width [] = 0
  blank : TakesOne width ' '
  bar : TakesOne width '|'
  joint : TakesOne width '+'
  dash : TakesOne width '-'

/-- The columns in which the characters `mark` of a line stand, behind those in `before`. -/
def marks (width : List Char → Nat) (mark : Char) : List Char → List Char → List Nat
  | _, [] => []
  | before, c :: behind =>
    let rest := marks width mark (before ++ [c]) behind
    if c = mark then width before :: rest else rest

/-- The parts of a line before, between and behind the characters that have one of the columns `cuts`
to themselves. -/
def cutAt (width : List Char → Nat) (cuts : List Nat) : List Char → List Char → List (List Char)
  | _, [] => [[]]
  | before, c :: behind =>
    let rest := cutAt width cuts (before ++ [c]) behind
    if width before ∈ cuts ∧ width (before ++ c :: behind) = width before + 1 + width behind
    then [] :: rest
    else rest.modifyHead (c :: ·)

def borders : Nat → List Nat → List Nat
  | column, w :: w' :: ws => (column + w) :: borders (column + w + 1) (w' :: ws)
  | _, _ => []

def extent : List Nat → Nat
  | w :: w' :: ws => w + 1 + extent (w' :: ws)
  | [w] => w
  | [] => 0

lemma marks_append (before cs ds : List Char) :
    marks width mark before (cs ++ ds) =
      marks width mark before cs ++ marks width mark (before ++ cs) ds := by
  induction cs generalizing before with
  | nil => rw [List.append_nil]; rfl
  | cons c cs ih =>
    rw [List.cons_append, marks, marks, ih, List.append_assoc]
    split <;> rfl

lemma marks_eq_nil {cs : List Char} (h : mark ∉ cs) : marks width mark before cs = [] := by
  induction cs generalizing before with
  | nil => rfl
  | cons c cs ih =>
    have hc : c ≠ mark := (List.ne_of_not_mem_cons h).symm
    rw [marks, if_neg hc, ih (List.not_mem_of_not_mem_cons h)]

lemma mem_marks {cs : List Char} {q : Nat} : q ∈ marks width mark before cs ↔
    ∃ left right, cs = left ++ mark :: right ∧ width (before ++ left) = q := by
  induction cs generalizing before with
  | nil => simp [marks]
  | cons c cs ih =>
    have hcons : (∃ left right, c :: cs = left ++ mark :: right ∧ width (before ++ left) = q) ↔
        (c = mark ∧ width before = q) ∨
          ∃ left right, cs = left ++ mark :: right ∧ width (before ++ [c] ++ left) = q := by
      constructor
      · rintro ⟨left, right, hcs, hq⟩
        cases left with
        | nil =>
          rw [List.append_nil] at hq
          exact .inl ⟨(List.cons.inj hcs).1, hq⟩
        | cons d left =>
          obtain ⟨rfl, rfl⟩ := List.cons.inj hcs
          exact .inr ⟨left, right, rfl, by rwa [List.append_assoc]⟩
      · rintro (⟨rfl, hq⟩ | ⟨left, right, rfl, hq⟩)
        · exact ⟨[], cs, rfl, by rwa [List.append_nil]⟩
        · exact ⟨c :: left, right, rfl, by rwa [List.append_assoc] at hq⟩
    rw [hcons, marks, ← ih]
    split
    · rename_i hc
      simp [hc, eq_comm]
    · rename_i hc
      simp [hc]

lemma TakesOne.ne_of_mem_marks (hmark : TakesOne width mark) {c : Char} {behind : List Char}
    (hc : c ≠ mark) (h : width before ∈ marks width mark [] (before ++ c :: behind)) :
    width (before ++ c :: behind) ≠ width before + 1 + width behind := by
  obtain ⟨left, right, hline, hleft⟩ := mem_marks.1 h
  rw [List.nil_append] at hleft
  intro halone
  rw [hline, hmark left right, hleft] at halone
  rcases List.append_eq_append_iff.1 hline with ⟨mid, rfl, hmid⟩ | ⟨mid, rfl, hmid⟩
  · cases mid with
    | nil => exact hc (List.cons.inj hmid).1
    | cons d mid =>
      have hbehind : behind = mid ++ mark :: right := (List.cons.inj hmid).2
      rw [hbehind, hmark mid right] at halone
      omega
  · cases mid with
    | nil => exact hc (List.cons.inj hmid).1.symm
    | cons d mid =>
      obtain ⟨rfl, -⟩ := List.cons.inj hmid
      rw [hmark left mid] at halone hleft
      omega

lemma TakesOne.cutAt_eq_splitOn (hmark : TakesOne width mark) (before cs : List Char) :
    cutAt width (marks width mark [] (before ++ cs)) before cs = cs.splitOn mark := by
  induction cs generalizing before with
  | nil => rfl
  | cons c cs ih =>
    have hrest := ih (before ++ [c])
    rw [List.append_assoc, List.singleton_append] at hrest
    rw [cutAt, List.splitOn_cons_eq_if_modifyHead, hrest]
    by_cases hc : c = mark
    · subst hc
      have hcut : width before ∈ marks width c [] (before ++ c :: cs) :=
        mem_marks.2 ⟨before, cs, rfl, rfl⟩
      rw [if_pos ⟨hcut, hmark before cs⟩, if_pos (beq_self_eq_true c)]
    · rw [if_neg fun h => hmark.ne_of_mem_marks hc h.1 h.2, if_neg (by simpa using hc)]

structure Joined (width : List Char → Nat) (mark : Char) (widths : List Nat)
    (parts : List (List Char)) (line : List Char) : Prop where
  line_eq : line = [mark].intercalate parts
  widths_eq : parts.map width = widths
  mark_notMem : ∀ part ∈ parts, mark ∉ part

namespace Joined

lemma width_eq (h : Joined width mark widths parts line) (hnil : width [] = 0)
    (hmark : TakesOne width mark) : width line = extent widths := by
  obtain ⟨rfl, rfl, -⟩ := h
  induction parts with
  | nil => exact hnil
  | cons part parts ih =>
    cases parts with
    | nil => rw [List.intercalate_singleton]; rfl
    | cons part' parts =>
      rw [List.intercalate_cons_cons, List.append_assoc, List.singleton_append, hmark, ih]
      rfl

-- what stands before the parts ends in a mark or is nothing, so that a part is as wide behind it as
-- it is alone
lemma marks_intercalate (hnil : width [] = 0) (hmark : TakesOne width mark)
    (hbefore : ∀ cs, width (before ++ cs) = width before + width cs)
    (hparts : ∀ part ∈ parts, mark ∉ part) :
    marks width mark before ([mark].intercalate parts) =
      borders (width before) (parts.map width) := by
  induction parts generalizing before with
  | nil => rfl
  | cons part parts ih =>
    obtain ⟨hpart, hparts⟩ := List.forall_mem_cons.1 hparts
    cases parts with
    | nil => exact (congrArg _ List.intercalate_singleton).trans (marks_eq_nil hpart)
    | cons part' parts =>
      have hwidth : width (before ++ part ++ [mark]) = width before + width part + 1 := by
        rw [hmark, hbefore, hnil]
      have hbehind (cs : List Char) : width (before ++ part ++ [mark] ++ cs) =
          width (before ++ part ++ [mark]) + width cs := by
        rw [hwidth, List.append_assoc, List.singleton_append, hmark, hbefore]
      have hbar : marks width mark (before ++ part) [mark] = [width before + width part] := by
        rw [marks, if_pos rfl, hbefore]
        rfl
      rw [List.intercalate_cons_cons, marks_append, marks_append, marks_eq_nil hpart, hbar,
        ← List.append_assoc, ih hbehind hparts, hwidth]
      rfl

lemma marks_eq (h : Joined width mark widths parts line) (hnil : width [] = 0)
    (hmark : TakesOne width mark) : marks width mark [] line = borders 0 widths := by
  obtain ⟨rfl, rfl, hparts⟩ := h
  rw [marks_intercalate hnil hmark (fun cs => by rw [hnil, Nat.zero_add]; rfl) hparts, hnil]

lemma cutAt_eq (h : Joined width mark widths parts line) (hnil : width [] = 0)
    (hmark : TakesOne width mark) (hne : parts ≠ []) :
    cutAt width (borders 0 widths) [] line = parts := by
  have hcut := hmark.cutAt_eq_splitOn [] line
  rw [List.nil_append, h.marks_eq hnil hmark] at hcut
  rw [hcut, h.line_eq, List.splitOn_intercalate mark h.mark_notMem hne]

lemma notMem {c : Char} (h : Joined width mark widths parts line) (hmark : c ≠ mark)
    (hparts : ∀ part ∈ parts, c ∉ part) : c ∉ line := by
  obtain ⟨rfl, -, -⟩ := h
  induction parts with
  | nil => exact List.not_mem_nil
  | cons part parts ih =>
    obtain ⟨hpart, hparts⟩ := List.forall_mem_cons.1 hparts
    cases parts with
    | nil => rwa [List.intercalate_singleton]
    | cons part' parts =>
      rw [List.intercalate_cons_cons]
      simp [hpart, hmark, ih hparts]

end Joined

namespace Measures

variable (h : Measures width)

include h

lemma width_blanks (n : Nat) (cs : List Char) :
    width (List.replicate n ' ' ++ cs) = n + width cs := by
  induction n with
  | zero => exact (Nat.zero_add _).symm
  | succ n ih =>
    have hblank := h.blank [] (List.replicate n ' ' ++ cs)
    rw [List.nil_append, h.nil] at hblank
    rw [List.replicate_succ, List.cons_append, hblank, ih]
    omega

lemma width_dashes (n : Nat) : width (List.replicate n '-') = n := by
  induction n with
  | zero => exact h.nil
  | succ n ih =>
    have hdash := h.dash [] (List.replicate n '-')
    rw [List.nil_append, h.nil] at hdash
    rw [List.replicate_succ, hdash, ih]
    omega

end Measures

def IsPlain (cell : String) : Prop :=
  ∀ c ∈ cell.toList, isBlank c = false ∧ c ≠ '|'

instance (cell : String) : Decidable (IsPlain cell) :=
  decidable_of_iff (cell.toList.all fun c => !isBlank c && c != '|') (by simp [IsPlain])

abbrev Fits (width : List Char → Nat) (ws : List Nat) (row : List String) : Prop :=
  List.Forall₂ (fun w cell => width cell.toList ≤ w) ws row

def cellText (width : List Char → Nat) (w : Nat) (cell : String) : List Char :=
  (' ' :: List.replicate (w - width cell.toList) ' ') ++ (cell.toList ++ [' '])

def rowText (width : List Char → Nat) (ws : List Nat) (row : List String) : List Char :=
  ['|'].intercalate (List.zipWith (cellText width) ws row)

def ruleText (ws : List Nat) : List Char :=
  ['+'].intercalate (ws.map fun w => List.replicate (w + 2) '-')

/-- What a grid needs of a layout: it finds widths that every cell fits in, and writes the header, the
rule and the rows in columns of these widths, one line each. -/
def Psql (width : List Char → Nat) (layout : List (List String) → String) : Prop :=
  ∀ header rows, header ≠ [] → rows ≠ [] → (∀ row ∈ rows, row.length = header.length) →
    (∀ row ∈ header :: rows, ∀ cell ∈ row, IsPlain cell) →
    ∃ ws, (∀ row ∈ header :: rows, Fits width ws row) ∧
      (layout (header :: rows)).toList = ['\n'].intercalate
        (rowText width ws header :: ruleText ws :: rows.map (rowText width ws))

namespace IsPlain

variable (h : IsPlain cell)

include h

lemma trim_cellText (w : Nat) : trim (cellText width w cell) = cell.toList := by
  have hspace : isBlank ' ' = true := rfl
  rw [cellText, trim_padded ?_ (fun c hc => (h c hc).1) ?_]
  · simp [hspace]
  · simp [hspace]

lemma newline_notMem : '\n' ∉ cell.toList :=
  fun hc => Bool.eq_false_iff.1 (h _ hc).1 rfl

end IsPlain

lemma Measures.width_cellText (h : Measures width) {w : Nat} (hw : width cell.toList ≤ w) :
    width (cellText width w cell) = w + 2 := by
  have hbehind : width (cell.toList ++ [' ']) = width cell.toList + 1 := by
    rw [h.blank, h.nil]
  have htext := h.width_blanks (w - width cell.toList + 1) (cell.toList ++ [' '])
  rw [List.replicate_succ, hbehind] at htext
  rw [cellText, htext]
  omega

lemma notMem_cellText {c : Char} (hc : c ≠ ' ') (hcell : c ∉ cell.toList) (w : Nat) :
    c ∉ cellText width w cell := by
  simp [cellText, hc, hcell]

structure ShowsRow (width : List Char → Nat) (total : Nat) (cuts : List Nat) (line : List Char)
    (row : List String) : Prop where
  width_eq : width line = total
  marks_eq : marks width '|' [] line = cuts
  cells_eq : (cutAt width cuts [] line).map trim = row.map String.toList

/-- How lines show rows below a header and a rule, all of them as wide as each other and the joints of
the rule in the columns of the bars. -/
structure Shows (width : List Char → Nat) (total : Nat) (cuts : List Nat) (head rule : List Char)
    (body : List (List Char)) (header : List String) (rows : List (List String)) : Prop where
  head_shows : ShowsRow width total cuts head header
  rule_width : width rule = total
  rule_marks : marks width '+' [] rule = cuts
  body_shows : List.Forall₂ (ShowsRow width total cuts) body rows

section Row

variable (hplain : ∀ cell ∈ row, IsPlain cell) (hfits : Fits width ws row)

include hplain hfits

lemma map_trim_cellText :
    (List.zipWith (cellText width) ws row).map trim = row.map String.toList := by
  induction hfits with
  | nil => rfl
  | cons _ _ ih =>
    obtain ⟨hplain, hrest⟩ := List.forall_mem_cons.1 hplain
    exact congrArg₂ List.cons (hplain.trim_cellText _) (ih hrest)

lemma notMem_cellTexts {c : Char} (hc : c ≠ ' ') (hrow : ∀ cell ∈ row, c ∉ cell.toList) :
    ∀ part ∈ List.zipWith (cellText width) ws row, c ∉ part := by
  induction hfits with
  | nil => exact fun part hpart => nomatch hpart
  | cons _ _ ih =>
    obtain ⟨-, hplains⟩ := List.forall_mem_cons.1 hplain
    obtain ⟨hcell, hrow⟩ := List.forall_mem_cons.1 hrow
    exact List.forall_mem_cons.2 ⟨notMem_cellText hc hcell _, ih hplains hrow⟩

lemma joined_rowText (h : Measures width) :
    Joined width '|' (ws.map (· + 2)) (List.zipWith (cellText width) ws row)
      (rowText width ws row) where
  line_eq := rfl
  widths_eq := by
    induction hfits with
    | nil => rfl
    | cons hcell _ ih =>
      obtain ⟨-, hrest⟩ := List.forall_mem_cons.1 hplain
      exact congrArg₂ List.cons (h.width_cellText hcell) (ih hrest)
  mark_notMem := notMem_cellTexts hplain hfits (by decide) fun cell hcell hbar =>
    (hplain cell hcell _ hbar).2 rfl

lemma newline_notMem_rowText (h : Measures width) : '\n' ∉ rowText width ws row := by
  refine (joined_rowText hplain hfits h).notMem (by decide) ?_
  exact notMem_cellTexts hplain hfits (by decide) fun cell hcell => (hplain cell hcell).newline_notMem

lemma showsRow_rowText (h : Measures width) (hne : row ≠ []) :
    ShowsRow width (extent (ws.map (· + 2))) (borders 0 (ws.map (· + 2))) (rowText width ws row)
      row := by
  have hjoined := joined_rowText hplain hfits h
  have htrim := map_trim_cellText hplain hfits
  have hcells : List.zipWith (cellText width) ws row ≠ [] := by
    intro hnil
    rw [hnil] at htrim
    exact hne (List.map_eq_nil_iff.1 htrim.symm)
  refine ⟨hjoined.width_eq h.nil h.bar, hjoined.marks_eq h.nil h.bar, ?_⟩
  rw [hjoined.cutAt_eq h.nil h.bar hcells, htrim]

end Row

lemma Measures.joined_ruleText (h : Measures width) (ws : List Nat) :
    Joined width '+' (ws.map (· + 2)) (ws.map fun w => List.replicate (w + 2) '-')
      (ruleText ws) where
  line_eq := rfl
  widths_eq := by
    simp [Function.comp_def, h.width_dashes]
  mark_notMem := by
    simp [List.mem_replicate]

theorem Psql.exists_shows (hlayout : Psql width layout) (h : Measures width) (hne : header ≠ [])
    (hrows : rows ≠ []) (hlength : ∀ row ∈ rows, row.length = header.length)
    (hplain : ∀ row ∈ header :: rows, ∀ cell ∈ row, IsPlain cell) :
    ∃ total cuts head rule body,
      (layout (header :: rows)).toList.splitOn '\n' = head :: rule :: body ∧
      Shows width total cuts head rule body header rows := by
  obtain ⟨ws, hfits, htext⟩ := hlayout header rows hne hrows hlength hplain
  have hne : ∀ row ∈ header :: rows, row ≠ [] := by
    refine List.forall_mem_cons.2 ⟨hne, fun row hrow => ?_⟩
    rwa [← List.length_pos_iff, hlength row hrow, List.length_pos_iff]
  have hrule := h.joined_ruleText ws
  have hnewline : ∀ line ∈ rowText width ws header :: ruleText ws :: rows.map (rowText width ws),
      '\n' ∉ line := by
    have hline (row) (hrow : row ∈ header :: rows) :=
      newline_notMem_rowText (hplain row hrow) (hfits row hrow) h
    obtain ⟨hhead, hbody⟩ := List.forall_mem_cons.1 hline
    refine List.forall_mem_cons.2 ⟨hhead, List.forall_mem_cons.2 ⟨?_, List.forall_mem_map.2 hbody⟩⟩
    exact hrule.notMem (by decide) (by simp [List.mem_replicate])
  have hshows (row) (hrow : row ∈ header :: rows) :=
    showsRow_rowText (hplain row hrow) (hfits row hrow) h (hne row hrow)
  obtain ⟨hhead, hbody⟩ := List.forall_mem_cons.1 hshows
  refine ⟨extent (ws.map (· + 2)), borders 0 (ws.map (· + 2)), rowText width ws header, ruleText ws,
    rows.map (rowText width ws), ?_, hhead, hrule.width_eq h.nil h.joint,
    hrule.marks_eq h.nil h.joint, ?_⟩
  · rw [htext, List.splitOn_intercalate '\n' hnewline (List.cons_ne_nil _ _)]
  · rw [List.forall₂_map_left_iff, List.forall₂_same]
    exact hbody

end Grid

end LinearProgram
