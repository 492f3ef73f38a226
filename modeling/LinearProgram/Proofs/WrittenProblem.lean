import LinearProgram.Proofs.StandardForm
import LinearProgram.Proofs.WrittenObjective

namespace LinearProgram

open Double Token Grammar

namespace Constraint

lemma text_of_read {source : String} {c : Constraint} (h : Constraint.read source = .ok c) :
    c.text = String.ofList (Unicode.trim source.toList) := by
  rw [read_eq] at h
  split at h
  · cases h
  · obtain ⟨⟨ts, rest₁⟩, -, h⟩ := bind_eq_ok.1 h
    obtain ⟨⟨r, rest₂⟩, -, h⟩ := bind_eq_ok.1 h
    obtain ⟨⟨bound, rest₃⟩, -, h⟩ := bind_eq_ok.1 h
    obtain ⟨⟨⟩, -, h⟩ := bind_eq_ok.1 h
    cases h
    rfl
  · cases h

end Constraint

namespace Problem

variable {α : Type} [Scalar α]

lemma readConstraints_cons_eq_ok {line : String} {lines : List String} {cs : List Constraint} :
    readConstraints (line :: lines) = .ok cs ↔ ∃ c rest, Constraint.read line = .ok c ∧
      readConstraints lines = .ok rest ∧ cs = c :: rest := by
  constructor
  · intro h
    obtain ⟨c, hc, h⟩ := bind_eq_ok.1 h
    obtain ⟨rest, hrest, h⟩ := bind_eq_ok.1 h
    cases h
    exact ⟨c, rest, mapError_eq_ok.1 hc, hrest, rfl⟩
  · rintro ⟨c, rest, hc, hrest, rfl⟩
    exact bind_eq_ok.2 ⟨c, mapError_eq_ok.2 hc, bind_eq_ok.2 ⟨rest, hrest, rfl⟩⟩

lemma map_text_of_readConstraints {lines : List String} {cs : List Constraint}
    (h : readConstraints lines = .ok cs) (hlines : ∀ line ∈ lines, Block.IsLine line.toList) :
    cs.map Constraint.text = lines := by
  induction lines generalizing cs with
  | nil =>
    cases h
    rfl
  | cons line lines ih =>
    obtain ⟨hline, hlines⟩ := List.forall_mem_cons.1 hlines
    obtain ⟨c, cs, hc, hcs, rfl⟩ := readConstraints_cons_eq_ok.1 h
    rw [List.map_cons, ih hcs hlines, Constraint.text_of_read hc, hline.trim_eq,
      String.ofList_toList]

lemma ofLines_cons_eq_ok {first : String} {rest : List String} {p : Problem α} :
    ofLines (first :: rest) = .ok p ↔ Objective.read first = .ok p.objective ∧
      readConstraints rest = .ok p.constraints ∧
        p.standard = standardForm α p.objective p.constraints := by
  constructor
  · intro h
    have hstandard := standard_of_ofLines h
    obtain ⟨o, ho, h⟩ := bind_eq_ok.1 h
    obtain ⟨cs, hcs, h⟩ := bind_eq_ok.1 h
    obtain ⟨standard, -, h⟩ := bind_eq_ok.1 h
    cases h
    exact ⟨mapError_eq_ok.1 ho, hcs, hstandard⟩
  · rintro ⟨ho, hcs, hstandard⟩
    refine bind_eq_ok.2 ⟨_, mapError_eq_ok.2 ho, bind_eq_ok.2 ⟨_, hcs, ?_⟩⟩
    refine bind_eq_ok.2 ⟨_, normalize_eq_ok _ _, ?_⟩
    rw [← hstandard]
    rfl

lemma forall₂_objectiveTerms {o o' : Objective} (h : o.Writable)
    (hterms : o'.terms.map Term.written = o.terms.map Term.restated) :
    List.Forall₂ (fun t u => EqUpToZeroSign t.1 u.1 ∧ t.2 = u.2)
      (objectiveTerms Float o') (objectiveTerms Float o) := by
  have hvalues : objectiveTerms Float o' =
      (o.terms.map Term.restated).map fun t => (t.1.value Float, t.2) := by
    rw [← hterms, List.map_map]
    rfl
  rw [hvalues, objectiveTerms, List.map_map, List.forall₂_map_left_iff, List.forall₂_map_right_iff,
    List.forall₂_same]
  exact fun t ht => ⟨Term.value_restated (h.terms t ht), rfl⟩

lemma standardForm_restated {o o' : Objective} (h : o.Writable)
    (hdirection : o'.direction = o.direction) (hname : o'.name = o.name)
    (hterms : o'.terms.map Term.written = o.terms.map Term.restated) (cs : List Constraint) :
    standardForm Float o' cs = standardForm Float o cs := by
  have hnames : o'.terms.map Term.name = o.terms.map Term.name := by
    have := congrArg (List.map Prod.snd) hterms
    simpa [Function.comp_def, Term.written, Term.restated] using this
  have hunknowns : unknowns o' cs = unknowns o cs := by
    rw [unknowns, unknowns, List.map_append, List.map_append, hnames]
  simp only [standardForm, variableNames, addedVariables, hunknowns, hdirection, hname,
    LinearForm.densify_congr (forall₂_objectiveTerms h hterms)]

/-- Rows need no more than their lines, which are written as they stand. The objective is written
from its terms, and a zero that loses its sign there adds the same to a sum. -/
theorem reads_back {source : String} {b : Block} (hb : b ∈ Block.ofText source)
    {p : Problem Float} (hp : ofLines b.lines = .ok p)
    (hfinite : ∀ t ∈ p.objective.terms, Scalar.isFinite (t.coefficient.value Float) = true) :
    ∃ b', Block.ofText p.write = [b'] ∧
      ∃ q : Problem Float, ofLines b'.lines = .ok q ∧ q.standard = p.standard := by
  have hlines : ∀ line ∈ b.lines, Block.IsLine line.toList := fun _ hline =>
    Block.isLine_of_mem_ofText hb hline
  generalize b.lines = lines at hp hlines
  cases lines with
  | nil => cases hp
  | cons first rest =>
    obtain ⟨-, hrest⟩ := List.forall_mem_cons.1 hlines
    obtain ⟨hobjective, hconstraints, hstandard⟩ := ofLines_cons_eq_ok.1 hp
    have htexts := map_text_of_readConstraints hconstraints hrest
    have hwritable := Objective.writable_of_read hobjective hfinite
    have hwrite : p.write = p.objective.write ++ "\nSubject to:" ++ Block.indented rest := by
      rw [write, Block.indented, ← htexts, List.map_map]
      rfl
    obtain ⟨o, ho, hdirection, hname, hterms⟩ := Objective.exists_read_write hwritable
    refine ⟨⟨1, 1, p.objective.write :: rest⟩, ?_, ⟨o, p.constraints, p.standard⟩, ?_, rfl⟩
    · rw [hwrite, Block.ofText_headed (Objective.isLine_write hwritable) hrest]
    · refine ofLines_cons_eq_ok.2 ⟨ho, hconstraints, ?_⟩
      rw [hstandard]
      exact (standardForm_restated hwritable hdirection hname hterms _).symm

theorem reads_back_of_negative_zero :
    ∃ p q : Problem Float,
      ofLines ["MAX: z = 0.50x - 0 y + 1 e5 - 2*e5", "x + y<=4 # both", "e5 >=0"] = .ok p ∧
      p.write = "Maximize: z = 0.5x + 0y + e5 - 2e5\nSubject to:\n\tx + y<=4 # both\n\te5 >=0" ∧
      (Block.ofText p.write).map (fun b => ofLines b.lines) = [.ok q] ∧
      q.standard = p.standard := by
  have htext : Block.ofText
      "# plan\nMAX: z = 0.50x - 0 y + 1 e5 - 2*e5\r\nSubject to\n\t x + y<=4 # both\n e5 >=0\n" =
        [⟨1, 2, ["MAX: z = 0.50x - 0 y + 1 e5 - 2*e5", "x + y<=4 # both", "e5 >=0"]⟩] := by
    decide +kernel
  have hp : ((ofLines ["MAX: z = 0.50x - 0 y + 1 e5 - 2*e5", "x + y<=4 # both",
      "e5 >=0"]).toOption.map fun p : Problem Float => (p.write,
        p.objective.terms.all fun t => Scalar.isFinite (t.coefficient.value Float))) =
      some ("Maximize: z = 0.5x + 0y + e5 - 2e5\nSubject to:\n\tx + y<=4 # both\n\te5 >=0",
        true) := by decide +kernel
  obtain ⟨p, hp, hwrite⟩ := Option.map_eq_some_iff.1 hp
  obtain ⟨hwrite, hfinite⟩ := Prod.ext_iff.1 hwrite
  have hok : ofLines _ = .ok p := eq_ok_of_toOption hp
  obtain ⟨b, hb, q, hq, hstandard⟩ := reads_back (htext ▸ List.mem_cons_self) hok
    (List.all_eq_true.1 hfinite)
  exact ⟨p, q, hok, hwrite, by rw [hb, List.map_singleton, hq], hstandard⟩

end Problem

end LinearProgram
