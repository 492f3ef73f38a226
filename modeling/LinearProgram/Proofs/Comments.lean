import LinearProgram.Proofs.Slices
import LinearProgram.Proofs.WrittenProblem

namespace LinearProgram

open Unicode

namespace Lexeme

lemma eq_of_comment {c : Char} {r : List Char} (h : (continuation c r).1 = .comment) : c = '#' := by
  fun_cases continuation c r <;> simp_all [continuation]

lemma noMore_comment (s t : List Char) : NoMore s (s ++ '#' :: t) := by
  cases s with
  | nil => exact ⟨fun _ => rfl, fun _ => rfl, fun _ => rfl, fun _ => rfl⟩
  | cons x s =>
    refine noMore_cons fun hs => ?_
    cases s with
    | nil => rfl
    | cons y s => exact hs

end Lexeme

namespace Token

lemma exists_scanFrom_comment {cs : List Char} (h : '#' ∉ cs) (pos : Nat) (t : List Char) :
    ∃ ts stop, scanFrom pos cs = ts ++ [endAt stop] ∧ scanFrom pos (cs ++ '#' :: t) =
      ts ++ [⟨.comment, ⟨stop, stop + byteLength ('#' :: t)⟩, String.ofList ('#' :: t)⟩,
        endAt (stop + byteLength ('#' :: t))] := by
  induction pos, cs using scanFrom_induction with
  | nil pos =>
    refine ⟨[], pos, scanFrom_nil pos, ?_⟩
    have hblank : isBlank '#' = false := rfl
    have hmark : Lexeme.continuation '#' (t ++ []) = (.comment, t) := by
      rw [List.append_nil]
      rfl
    have hscan := scanFrom_lexeme hblank hmark pos
    rwa [List.append_nil, scanFrom_nil] at hscan
  | blank pos c r hc ih =>
    obtain ⟨ts, stop, hscan, hcomment⟩ := ih fun hmem => h (List.mem_cons_of_mem c hmem)
    refine ⟨ts, stop, ?_, ?_⟩
    · rw [scanFrom_blank hc, hscan]
    · rw [List.cons_append, scanFrom_blank hc, hcomment]
  | lexeme pos c k s kind hc hk ih =>
    obtain ⟨ts, stop, hscan, hcomment⟩ := ih fun hmem => h (List.mem_append_right (c :: k) hmem)
    -- the mark cannot start this lexeme, and it is not taken into it either
    have hkind : kind ≠ .comment := by
      rintro rfl
      apply h
      simp [Lexeme.eq_of_comment (congrArg Prod.fst hk)]
    have hk' := Lexeme.continuation_of_noMore hk (Lexeme.noMore_comment s t)
      fun hcomment => absurd hcomment hkind
    refine ⟨⟨kind, ⟨pos, pos + byteLength (c :: k)⟩, String.ofList (c :: k)⟩ :: ts, stop, ?_, ?_⟩
    · rw [scanFrom_lexeme hc hk, hscan]
      rfl
    · rw [List.append_assoc, scanFrom_lexeme hc hk', hcomment]
      rfl

variable {s : String}

theorem words_comment (h : '#' ∉ s.toList) (t : String) : words (s ++ "#" ++ t) = words s := by
  obtain ⟨ts, stop, hscan, hcomment⟩ := exists_scanFrom_comment h 0 t.toList
  have htext : (s ++ "#" ++ t).toList = s.toList ++ '#' :: t.toList := by simp
  simp [words, scan, htext, hscan, hcomment, isWord, endAt]

end Token

namespace LineError

def withText (text : String) : LineError → LineError
  | missingRelation _ => missingRelation text
  | severalRelations _ => severalRelations text
  | error => error

@[simp] lemma withText_withText (error : LineError) (text text' : String) :
    (error.withText text).withText text' = error.withText text' := by
  cases error <;> rfl

lemma withText_of_isRefusal {error : LineError} (h : Reading.IsRefusal error) (text : String) :
    error.withText text = error := by
  cases error with
  | missingRelation text' => exact absurd rfl (h.ne_missingRelation text')
  | severalRelations text' => exact absurd rfl (h.ne_severalRelations text')
  | _ => rfl

end LineError

def Constraint.withText (text : String) (c : Constraint) : Constraint :=
  { c with text := text }

section Congr

open Reading

variable {s s' : String}

lemma Term.readAll_congr (h : Token.words s' = Token.words s) :
    Term.readAll s' = Term.readAll s := by
  have hwhole := whole_significant (commutes_terms (g := id) fun _ _ => rfl) Term.map_move_id
    .endOfExpression
  rw [readAll_eq, readAll_eq, hwhole, hwhole, h]

lemma Objective.read_congr (h : Token.words s' = Token.words s) :
    Objective.read s' = Objective.read s := by
  have hwhole := whole_significant (commutes_objective (g := id) fun _ _ => rfl)
    (fun b => congrArg (fun ts => (b.1, b.2.1, ts)) (Term.map_move_id b.2.2)) .endOfObjective
  rw [read_eq, read_eq, Token.dropLast_significant, Token.dropLast_significant, hwhole, hwhole, h]

namespace Constraint

lemma readParts_congr (h : Token.words s' = Token.words s) :
    readParts s' = withText (Problem.trimmed s') <$> readParts s := by
  have hwhole := whole_significant (commutes_constraint (g := id) fun _ _ => rfl)
    (fun b => congrArg (fun ts => (ts, b.2)) (Term.map_move_id b.1)) .endOfConstraint
  rw [readParts_eq, readParts_eq, Token.dropLast_significant, Token.dropLast_significant, hwhole,
    hwhole, h]
  cases whole .endOfConstraint constraint (Token.words s ++ [Token.endAt 0]) <;> rfl

lemma read_congr (h : Token.words s' = Token.words s) : Constraint.read s' =
    ((Constraint.read s).map (withText (Problem.trimmed s'))).mapError
      (LineError.withText (Problem.trimmed s')) := by
  rw [read_eq, read_eq, h]
  split
  · rfl
  · rw [readParts_congr h]
    cases hs : readParts s with
    | ok c => rfl
    | error e =>
      exact congrArg Except.error (LineError.withText_of_isRefusal (isRefusal_readParts hs) _).symm
  · rfl

end Constraint

end Congr

inductive Commented : String → String → Prop
  | bare (line : String) : Commented line line
  | comment {line : String} (t : String) : '#' ∉ line.toList → Commented line (line ++ "#" ++ t)

lemma Commented.words_eq {line line' : String} (h : Commented line line') :
    Token.words line' = Token.words line := by
  cases h with
  | bare => rfl
  | comment t h => exact Token.words_comment h t

def SameUpTo {ε ε' β δ : Type} (f : β → δ) (e : ε → ε') (x y : Except ε β) : Prop :=
  (x.map f).mapError e = (y.map f).mapError e

lemma SameUpTo.bind {ε ε' β γ δ δ' : Type} {f : β → δ} {g : γ → δ'} {e : ε → ε'}
    {x y : Except ε β} {k k' : β → Except ε γ} (h : SameUpTo f e x y)
    (hk : ∀ a b, f a = f b → SameUpTo g e (k a) (k' b)) : SameUpTo g e (x >>= k) (y >>= k') := by
  cases x with
  | ok a =>
    cases y with
    | ok b => exact hk a b (Except.ok.inj h)
    | error c => cases h
  | error c =>
    cases y with
    | ok b => cases h
    | error c' => exact congrArg Except.error (Except.error.inj h)

variable {α : Type}

def StandardForm.withoutTexts (p : StandardForm α) : StandardForm α :=
  { p with rows := p.rows.map fun r => { r with text := "" } }

namespace Problem

def withoutTexts (p : Problem α) : Problem α :=
  ⟨p.objective, p.constraints.map (Constraint.withText ""), p.standard.withoutTexts⟩

def Error.withoutTexts : Error → Error
  | noObjective => noObjective
  | malformedObjective _ cause => malformedObjective "" cause
  | malformedConstraint _ cause => malformedConstraint "" (cause.withText "")
  | invalidExpression _ cause => invalidExpression "" cause

variable [Scalar α]

lemma addVariables_withText (names : List String) (cs : List Constraint) :
    addVariables α names (cs.map (Constraint.withText "")) = addVariables α names cs := by
  induction cs generalizing names with
  | nil => rfl
  | cons c cs ih =>
    have hkind : addedKind α (c.withText "") = addedKind α c := rfl
    simp only [List.map_cons, addVariables, hkind, ih]

lemma standardForm_withText (o : Objective) (cs : List Constraint) :
    standardForm α o (cs.map (Constraint.withText "")) = (standardForm α o cs).withoutTexts := by
  have hunknowns : unknowns o (cs.map (Constraint.withText "")) = unknowns o cs := by
    rw [unknowns, unknowns, List.flatMap_map]
    rfl
  have hkept : kept α (cs.map (Constraint.withText "")) =
      (kept α cs).map (Constraint.withText "") := by
    rw [kept, kept, List.filter_map]
    rfl
  have hadded : addedVariables α o (cs.map (Constraint.withText "")) = addedVariables α o cs := by
    rw [addedVariables, addedVariables, hunknowns, hkept, addVariables_withText]
  simp only [standardForm, StandardForm.withoutTexts, variableNames, hunknowns, hkept, hadded,
    List.zip_map_left, List.map_map]
  rfl

section Words

variable {line line' : String} {lines lines' : List String}

lemma readObjective_congr (h : Token.words line' = Token.words line) :
    SameUpTo id Error.withoutTexts (readObjective line') (readObjective line) := by
  rw [readObjective, readObjective, Objective.read_congr h]
  cases Objective.read line <;> rfl

lemma readConstraint_congr (h : Token.words line' = Token.words line) :
    SameUpTo (Constraint.withText "") Error.withoutTexts (readConstraint line')
      (readConstraint line) := by
  rw [readConstraint, readConstraint, Constraint.read_congr h]
  cases Constraint.read line with
  | ok c => rfl
  | error e =>
    exact congrArg (fun cause => Except.error (Error.malformedConstraint "" cause))
      (e.withText_withText _ "")

lemma readConstraints_congr
    (h : List.Forall₂ (fun line line' => Token.words line' = Token.words line) lines lines') :
    SameUpTo (List.map (Constraint.withText "")) Error.withoutTexts (readConstraints lines')
      (readConstraints lines) := by
  induction h with
  | nil => rfl
  | cons hline _ ih =>
    refine (readConstraint_congr hline).bind fun c c' hc => ih.bind fun cs cs' hcs => ?_
    exact congrArg Except.ok (congrArg₂ List.cons hc hcs)

theorem ofLines_congr
    (h : List.Forall₂ (fun line line' => Token.words line' = Token.words line) lines lines') :
    SameUpTo withoutTexts Error.withoutTexts (ofLines lines' : Except Error (Problem α))
      (ofLines lines) := by
  cases h with
  | nil => rfl
  | cons hline hlines =>
    refine (readObjective_congr hline).bind fun o o' ho => ?_
    refine (readConstraints_congr hlines).bind fun cs cs' hcs => ?_
    obtain rfl : o = o' := ho
    have hstandard : (standardForm α o cs).withoutTexts = (standardForm α o cs').withoutTexts := by
      rw [← standardForm_withText, ← standardForm_withText, hcs]
    rw [normalize_eq_ok, normalize_eq_ok]
    refine congrArg Except.ok ?_
    simp [withoutTexts, hcs, hstandard]

end Words

/-- What stands behind the mark may be anything, relations and signs included. -/
theorem ofLines_commented {s : String} (h : '#' ∉ s.toList) (t : String) :
    let text := trimmed (s ++ "#" ++ t)
    Term.readAll (s ++ "#" ++ t) = Term.readAll s ∧
      Objective.read (s ++ "#" ++ t) = Objective.read s ∧
      Constraint.read (s ++ "#" ++ t) =
        ((Constraint.read s).map (Constraint.withText text)).mapError (LineError.withText text) ∧
      ∀ (α : Type) [Scalar α] (lines lines' : List String), List.Forall₂ Commented lines lines' →
        SameUpTo withoutTexts Error.withoutTexts (ofLines lines' : Except Error (Problem α))
          (ofLines lines) := by
  have hwords := Token.words_comment h t
  refine ⟨Term.readAll_congr hwords, Objective.read_congr hwords, Constraint.read_congr hwords, ?_⟩
  exact fun α _ lines lines' hlines => ofLines_congr (hlines.imp fun _ _ => Commented.words_eq)

theorem ofLines_commented_of_relation :
    '#' ∉ "x - .5y <= 4".toList ∧
      Constraint.read "x - .5y <= 4#.5 >= 3 + z # <=" =
        .ok ⟨⟨0, 12⟩, "x - .5y <= 4#.5 >= 3 + z # <=",
          [⟨⟨0, 1⟩, ⟨false, 1, 0⟩, "x"⟩, ⟨⟨2, 7⟩, ⟨true, 5, 1⟩, "y"⟩], .atMost, ⟨false, 4, 0⟩⟩ ∧
      ∃ p p' : Problem Float,
        ofLines ["max: z = x + y", "x - .5y <= 4", "y <= 5"] = .ok p ∧
        ofLines ["max: z = x + y# - 3z", "x - .5y <= 4#.5 >= 3 + z # <=", "y <= 5"] = .ok p' ∧
        p'.standard.withoutTexts = p.standard.withoutTexts ∧
        p'.standard.rows.map StandardRow.text = ["x - .5y <= 4#.5 >= 3 + z # <=", "y <= 5"] := by
  have hmark : '#' ∉ "x - .5y <= 4".toList := by decide
  have hread : Constraint.read "x - .5y <= 4" = .ok ⟨⟨0, 12⟩, "x - .5y <= 4",
      [⟨⟨0, 1⟩, ⟨false, 1, 0⟩, "x"⟩, ⟨⟨2, 7⟩, ⟨true, 5, 1⟩, "y"⟩], .atMost, ⟨false, 4, 0⟩⟩ := by
    decide +kernel
  have hp : ((ofLines ["max: z = x + y", "x - .5y <= 4", "y <= 5"]).toOption.map
      fun p : Problem Float => p.standard.rows.map StandardRow.text) =
        some ["x - .5y <= 4", "y <= 5"] := by decide +kernel
  have hp' : ((ofLines ["max: z = x + y# - 3z", "x - .5y <= 4#.5 >= 3 + z # <=",
      "y <= 5"]).toOption.map fun p : Problem Float => p.standard.rows.map StandardRow.text) =
        some ["x - .5y <= 4#.5 >= 3 + z # <=", "y <= 5"] := by decide +kernel
  obtain ⟨-, -, hconstraint, hproblem⟩ := ofLines_commented hmark ".5 >= 3 + z # <="
  obtain ⟨p, hok, -⟩ := exists_eq_ok_of_map hp
  obtain ⟨p', hok', htexts⟩ := exists_eq_ok_of_map hp'
  have hfirst : Commented "max: z = x + y" "max: z = x + y# - 3z" := .comment " - 3z" (by decide)
  have hsame := hproblem Float _ _
    (.cons hfirst (.cons (.comment ".5 >= 3 + z # <=" hmark) (.cons (.bare "y <= 5") .nil)))
  rw [hread] at hconstraint
  refine ⟨hmark, hconstraint, p, p', hok, hok', ?_, htexts⟩
  have hwhole : SameUpTo withoutTexts Error.withoutTexts (.ok p') (.ok p) := by
    rw [← hok, ← hok']
    exact hsame
  exact congrArg Problem.standard (Except.ok.inj hwhole)

end Problem

end LinearProgram
