import LinearProgram.Proofs.Amounts
import LinearProgram.Proofs.CheckedRun
import LinearProgram.Proofs.Grids
import LinearProgram.Proofs.RenamedLines
import LinearProgram.Proofs.WrittenLines
import LinearProgram.Proofs.WrittenProblem
import LinearProgram.Report.TableauGrid

/-!
The grids of tableaux. Amounts have none of the characters that lay a grid out, and neither have the
names that lines can give to variables, so the grid of every tableau that pivots make of lines shows
its cells in columns, however wide the names are.
-/

namespace LinearProgram

open Token Grid

lemma Grid.isPlain_of_isName {name : String} (h : IsName name.toList) : IsPlain name := by
  refine fun c hc => ⟨h.isBlank_eq_false c hc, ?_⟩
  rintro rfl
  have hbar : Lexeme.isNamePart '|' = false := by decide +kernel
  rw [h.isNamePart _ hc] at hbar
  cases hbar

namespace Report

lemma isPlain_amount (x : Float) : IsPlain (amount x) := by
  cases hx : x.isFinite with
  | true =>
    obtain ⟨k, -, htext⟩ := exists_toList_amount hx
    intro c hc
    rw [htext] at hc
    rcases (isThousandths_numeral k).eq_or_isDigit c hc with rfl | rfl | hdigit
    · decide
    · decide
    · refine ⟨Lexeme.isBlank_of_isDigit hdigit, ?_⟩
      rintro rfl
      cases hdigit
  | false =>
    rw [amount_of_not_isFinite hx]
    split
    · decide +kernel
    · split <;> decide +kernel

end Report

lemma SlackName.isName_ofNumber (k : Nat) : IsName (ofNumber k).toList := by
  have htext : (ofNumber k).toList = 's' :: Nat.toDigits 10 k := by simp [ofNumber]
  rw [htext]
  refine .mk rfl rfl fun c hc => Lexeme.isNamePart_of_isDigit ?_
  exact Nat.isDigit_of_mem_toDigits (by decide) (by decide) hc

namespace Problem

lemma isName_of_readConstraints {lines : List String} {cs : List Constraint}
    (h : readConstraints lines = .ok cs) : ∀ c ∈ cs, ∀ t ∈ c.terms, IsName t.name.toList := by
  induction lines generalizing cs with
  | nil =>
    cases h
    exact nofun
  | cons line lines ih =>
    obtain ⟨c, cs, hc, hcs, rfl⟩ := readConstraints_cons_eq_ok.1 h
    exact List.forall_mem_cons.2 ⟨(Constraint.isName_of_read hc).2, ih hcs⟩

variable {α : Type} [Scalar α] {lines : List String} {p : Problem α}

lemma isName_of_ofLines (h : ofLines lines = .ok p) :
    ∀ name ∈ p.standard.names, IsName name.toList := by
  cases lines with
  | nil => cases h
  | cons first rest =>
    obtain ⟨hobjective, hconstraints, hstandard⟩ := ofLines_cons_eq_ok.1 h
    obtain ⟨ks, hks, -⟩ := exists_numbers α (unknowns p.objective p.constraints)
      (p.constraints.filter fun c => !c.isSignBound α)
    have hnames : p.standard.names =
        unknowns p.objective p.constraints ++ ks.map SlackName.ofNumber := by
      rw [hstandard, ← hks]
      rfl
    rw [hnames]
    refine List.forall_mem_append.2 ⟨fun name hname => ?_, ?_⟩
    · rcases mem_unknowns.1 hname with ⟨t, ht, rfl⟩ | ⟨c, hc, t, ht, rfl⟩
      · exact (Objective.isName_of_read hobjective).2.2 t ht
      · exact isName_of_readConstraints hconstraints c hc t ht
    · exact List.forall_mem_map.2 fun k _ => SlackName.isName_ofNumber k

end Problem

namespace Tableau

variable {lines : List String} {p : Problem Float} {t t' : Tableau Float} {cells : List (Nat × Nat)}
  {m n : Nat} {width : List Char → Nat} {layout : List (List String) → String}

lemma length_gridHeader (h : t.Shaped m n) : t.gridHeader.length = n + 3 := by
  simp [gridHeader, h.length_names]

lemma length_gridRow {r : Row Float} (h : t.Shaped m n) (hr : r ∈ t.allRows) (label : String) :
    (gridRow label r).length = n + 3 := by
  simp [gridRow, Row.toList, h.width r hr]

lemma exists_gridRow {row : List String} (hrow : row ∈ t.gridRows) :
    ∃ label ∈ "z" :: t.basis, ∃ r ∈ t.allRows, gridRow label r = row := by
  rw [gridRows, ← List.map_uncurry_zip_eq_zipWith] at hrow
  obtain ⟨⟨label, r⟩, hmem, rfl⟩ := List.mem_map.1 hrow
  exact ⟨label, (List.of_mem_zip hmem).1, r, (List.of_mem_zip hmem).2, rfl⟩

lemma exists_shows (hwidth : Measures width) (hlayout : Psql width layout) (h : t.Shaped m n)
    (hnames : ∀ name ∈ t.names ++ t.basis, IsName name.toList) :
    ∃ total cuts head rule body,
      (t.renderWith layout).toList.splitOn '\n' = head :: rule :: body ∧
      Shows width total cuts head rule body t.gridHeader t.gridRows := by
  obtain ⟨hnames, hbasis⟩ := List.forall_mem_append.1 hnames
  have hz : IsPlain "z" := by decide +kernel
  have hheader : ∀ cell ∈ t.gridHeader, IsPlain cell := by
    have hbasic : IsPlain "Basic" := by decide +kernel
    have hrhs : IsPlain "RHS" := by decide +kernel
    refine List.forall_mem_cons.2 ⟨hbasic, List.forall_mem_cons.2 ⟨hz, ?_⟩⟩
    refine List.forall_mem_append.2 ⟨fun name hname => isPlain_of_isName (hnames name hname), ?_⟩
    exact List.forall_mem_singleton.2 hrhs
  have hrows : ∀ row ∈ t.gridRows, ∀ cell ∈ row, IsPlain cell := by
    have hlabels : ∀ label ∈ "z" :: t.basis, IsPlain label :=
      List.forall_mem_cons.2 ⟨hz, fun name hname => isPlain_of_isName (hbasis name hname)⟩
    intro row hrow
    obtain ⟨label, hlabel, r, -, rfl⟩ := exists_gridRow hrow
    refine List.forall_mem_cons.2 ⟨hlabels label hlabel, List.forall_mem_map.2 fun x _ => ?_⟩
    exact Report.isPlain_amount x
  refine hlayout.exists_shows hwidth (List.cons_ne_nil _ _) (List.cons_ne_nil _ _)
    (fun row hrow => ?_) (List.forall_mem_cons.2 ⟨hheader, hrows⟩)
  obtain ⟨label, -, r, hr, rfl⟩ := exists_gridRow hrow
  rw [length_gridRow h hr, length_gridHeader h]

/-- The grid of a tableau that pivots make of lines has a header, a rule and a line for each row, all
of one width and with their borders below each other, and its cells are the names, the basis and the
amounts. The layout and the widths may be any that do as little as a grid needs of them. -/
theorem render_shows (hwidth : Measures width) (hlayout : Psql width layout)
    (hp : Problem.ofLines lines = .ok p) (ht : start p.standard = .ok t)
    (hcells : Checked.pivots t cells = some t') :
    (∀ name ∈ t'.names ++ t'.basis, IsName name.toList) ∧
    ("z" :: t'.basis).length = t'.rowCount ∧
    (∀ r ∈ t'.allRows, r.toList.length = t'.names.length + 2) ∧
    ∃ total cuts head rule body,
      (t'.renderWith layout).toList.splitOn '\n' = head :: rule :: body ∧
      (head :: rule :: body).length = 2 + t'.rowCount ∧
      Shows width total cuts head rule body ("Basic" :: "z" :: (t'.names ++ ["RHS"]))
        (List.zipWith (fun label r => label :: r.toList.map Report.amount) ("z" :: t'.basis)
          t'.allRows) := by
  have h := (Checked.standsIn_of_start ht).of_pivots hcells
  have hlisted : p.standard.Listed := by
    rw [Problem.standard_of_ofLines hp]
    exact Problem.listed_standardForm _ _
  have hnames : ∀ name ∈ t'.names ++ t'.basis, IsName name.toList := by
    intro name hname
    refine Problem.isName_of_ofLines hp name ?_
    rcases List.mem_append.1 hname with hname | hname
    · exact h.names_eq ▸ hname
    · exact (h.mem_basis name hname).elim id (hlisted name)
  have hlabels : ("z" :: t'.basis).length = t'.rowCount := by
    rw [List.length_cons, rowCount, h.shaped.length_basis, h.shaped.length_rows]
  obtain ⟨total, cuts, head, rule, body, hlines, hshows⟩ :=
    exists_shows hwidth hlayout h.shaped hnames
  refine ⟨hnames, hlabels, fun r hr => ?_, total, cuts, head, rule, body, hlines, ?_, hshows⟩
  · simp [Row.toList, h.shaped.width r hr, h.shaped.length_names]
  · have hbody : body.length = t'.gridRows.length := hshows.body_shows.length_eq
    have hrows : t'.gridRows.length = t'.rowCount := by
      rw [gridRows, List.length_zipWith, hlabels]
      exact Nat.min_self _
    rw [List.length_cons, List.length_cons, hbody, hrows]
    omega

/-- One name has a character of two columns and the other one of none, and after two pivots both of
them are basic. -/
theorem render_shows_of_wide_and_zero_width_names :
    ∃ (p : Problem Float) (t t' : Tableau Float),
      Problem.ofLines ["Maximize: z = 3数 + 2กิ", "数 + 2กิ <= 40", "3数 - กิ <= 7.5"] = .ok p ∧
      start p.standard = .ok t ∧ Checked.pivots t [(2, 1), (1, 2)] = some t' ∧
      t'.names = ["数", "กิ", "s3", "s4"] ∧ t'.basis = ["กิ", "数"] ∧ t'.render =
        " Basic | z | 数 | กิ |    s3 |     s4 |    RHS \n" ++
        "-------+---+----+---+-------+--------+--------\n" ++
        "     z | 1 |  0 | 0 | 1.286 |  0.571 | 55.714 \n" ++
        "     กิ | 0 |  0 | 1 | 0.429 | -0.143 | 16.071 \n" ++
        "    数 | 0 |  1 | 0 | 0.143 |  0.286 |  7.857 " ∧
      ∃ total cuts head rule body, t'.render.toList.splitOn '\n' = head :: rule :: body ∧
        body.length = 3 ∧ Shows Unicode.width total cuts head rule body t'.gridHeader t'.gridRows := by
  have h : ((Problem.ofLines ["Maximize: z = 3数 + 2กิ", "数 + 2กิ <= 40",
      "3数 - กิ <= 7.5"]).toOption.bind fun p : Problem Float =>
        (start p.standard).toOption.bind fun t =>
          (Checked.pivots t [(2, 1), (1, 2)]).map fun t' =>
            (t'.names, t'.basis, t'.rowCount, t'.render)) =
      some (["数", "กิ", "s3", "s4"], ["กิ", "数"], 3,
        " Basic | z | 数 | กิ |    s3 |     s4 |    RHS \n" ++
        "-------+---+----+---+-------+--------+--------\n" ++
        "     z | 1 |  0 | 0 | 1.286 |  0.571 | 55.714 \n" ++
        "     กิ | 0 |  0 | 1 | 0.429 | -0.143 | 16.071 \n" ++
        "    数 | 0 |  1 | 0 | 0.143 |  0.286 |  7.857 ") := by
    decide +kernel
  obtain ⟨p, hp, h⟩ := Option.bind_eq_some_iff.1 h
  obtain ⟨t, ht, h⟩ := Option.bind_eq_some_iff.1 h
  obtain ⟨t', hcells, h⟩ := Option.map_eq_some_iff.1 h
  simp only [Prod.mk.injEq] at h
  obtain ⟨hnames, hbasis, hrows, htext⟩ := h
  obtain ⟨-, -, -, total, cuts, head, rule, body, hlines, hlength, hshows⟩ :=
    render_shows Unicode.measures_width (psql_render Unicode.width) (eq_ok_of_toOption hp)
      (eq_ok_of_toOption ht) hcells
  refine ⟨p, t, t', eq_ok_of_toOption hp, eq_ok_of_toOption ht, hcells, hnames, hbasis, htext,
    total, cuts, head, rule, body, hlines, ?_, hshows⟩
  simp only [List.length_cons, hrows] at hlength
  omega

end Tableau

end LinearProgram
