import LinearProgram.Proofs.Placement
import LinearProgram.Proofs.Tiling

/-!
White space between tokens has no meaning: a line whose tokens are written with one blank between
them scans to the same tokens, and is read alike.
-/

namespace LinearProgram

open Unicode

namespace Token

def lexeme (t : Token) : TokenKind × String :=
  (t.kind, t.text)

def spaced (ts : List Token) : List Char :=
  [' '].intercalate (ts.map fun t => t.text.toList)

def respaced (source : String) : String :=
  " ".intercalate (((scan source).filter fun t => t.kind != .finish).map text)

lemma toList_respaced (source : String) :
    (respaced source).toList = spaced ((scan source).filter fun t => t.kind != .finish) := by
  rw [respaced, String.toList_intercalate, List.map_map]
  rfl

variable {pos : Nat} {c : Char} {k s : List Char} {kind : TokenKind} {t : Token} {ts : List Token}

lemma scanFrom_spaced_cons (hc : isBlank c = false)
    (h : Lexeme.continuation c (k ++ s) = (kind, k)) (htext : t.text.toList = c :: k)
    (hcomment : kind = .comment → ts = []) (pos : Nat) : ∃ pos',
    (scanFrom pos (spaced (t :: ts))).map lexeme =
      (kind, t.text) :: (scanFrom pos' (spaced ts)).map lexeme := by
  have htoken (rest : List Char) (hk : Lexeme.continuation c (k ++ rest) = (kind, k)) :
      (scanFrom pos (t.text.toList ++ rest)).map lexeme =
        (kind, t.text) :: (scanFrom (pos + byteLength (c :: k)) rest).map lexeme := by
    rw [htext, scanFrom_lexeme hc hk, ← htext, String.ofList_toList]
    rfl
  cases ts with
  | nil =>
    have hlast : spaced [t] = t.text.toList ++ [] := by simp [spaced]
    rw [hlast, htoken [] (Lexeme.continuation_of_noMore h
      (Lexeme.noMore_of_prefix List.nil_prefix) fun _ => rfl)]
    exact ⟨_, rfl⟩
  | cons u ts =>
    have hgap : spaced (t :: u :: ts) = t.text.toList ++ ' ' :: spaced (u :: ts) := by
      simp [spaced, List.intercalate_cons_cons]
    rw [hgap, htoken _ (Lexeme.continuation_of_noMore h (Lexeme.noMore_blank rfl s _)
      fun hkind => nomatch hcomment hkind), scanFrom_blank rfl]
    exact ⟨_, rfl⟩

theorem scanFrom_spaced (pos pos' : Nat) (cs : List Char) :
    (scanFrom pos' (spaced ((scanFrom pos cs).filter fun t => t.kind != .finish))).map lexeme =
      (scanFrom pos cs).map lexeme := by
  induction pos, cs using scanFrom_induction generalizing pos' with
  | nil pos =>
    have hnil : ([endAt pos].filter fun t => t.kind != .finish) = [] := rfl
    rw [scanFrom_nil, hnil, spaced, List.map_nil, List.intercalate_nil, scanFrom_nil]
    rfl
  | blank pos c r hc ih =>
    rw [scanFrom_blank hc]
    exact ih pos'
  | lexeme pos c k s kind hc hk ih =>
    have hkind : kind ≠ .finish := by simpa [hk] using Lexeme.kind_ne_finish c (k ++ s)
    rw [scanFrom_lexeme hc hk, List.filter_cons_of_pos (by simpa using hkind)]
    generalize htoken : (⟨kind, _, String.ofList (c :: k)⟩ : Token) = t
    have htext : t.text.toList = c :: k := by rw [← htoken, String.toList_ofList]
    have hcomment : kind = .comment →
        (scanFrom (pos + byteLength (c :: k)) s).filter (fun t => t.kind != .finish) = [] := by
      rintro rfl
      rw [Lexeme.eq_nil_of_comment hk, scanFrom_nil]
      rfl
    obtain ⟨pos'', h⟩ := scanFrom_spaced_cons hc hk htext hcomment pos'
    rw [h, ih, ← htoken]
    rfl

theorem map_lexeme_scan_respaced (source : String) :
    (scan (respaced source)).map lexeme = (scan source).map lexeme := by
  rw [scan, toList_respaced]
  exact scanFrom_spaced 0 0 source.toList

end Token

namespace LineError

def bare : LineError → LineError
  | unexpectedToken e found _ => unexpectedToken e found default
  | unexpectedEnd e => unexpectedEnd e
  | unknownDirection word => unknownDirection word
  | missingRelation _ => missingRelation ""
  | severalRelations _ => severalRelations ""

lemma bare_move (g : Span → Span) (error : LineError) : (error.move g).bare = error.bare := by
  cases error <;> rfl

end LineError

def Objective.content (o : Objective) : Direction × String × List (SignedDecimal × String) :=
  (o.direction, o.name, o.terms.map Term.written)

def Constraint.content (c : Constraint) :
    List (SignedDecimal × String) × Relation × SignedDecimal :=
  (c.terms.map Term.written, c.relation, c.bound)

namespace Reading

variable {β γ δ : Type} {x y : Except LineError β}

def Alike (content : β → δ) (x y : Except LineError β) : Prop :=
  (x.map content).mapError LineError.bare = (y.map content).mapError LineError.bare

lemma alike_of_moved {g : Span → Span} {f : β → β} {content : β → δ}
    (hf : ∀ b, content (f b) = content b) (h : moved g f x = moved g f y) : Alike content x y := by
  cases x with
  | ok a =>
    cases y with
    | ok b =>
      have hab : content a = content b := by
        rw [← hf a, ← hf b, Except.ok.inj h]
      exact congrArg Except.ok hab
    | error e => cases h
  | error e =>
    cases y with
    | ok b => cases h
    | error e' =>
      have hee' : e.bare = e'.bare := by
        rw [← e.bare_move g, ← e'.bare_move g, Except.error.inj h]
      exact congrArg Except.error hee'

lemma Alike.map {content : β → δ} (h : Alike content x y) {content' : γ → δ} {f f' : β → γ}
    (hf : ∀ b, content' (f b) = content b) (hf' : ∀ b, content' (f' b) = content b) :
    Alike content' (f <$> x) (f' <$> y) := by
  have hcomp (f : β → γ) (hf : ∀ b, content' (f b) = content b) (x : Except LineError β) :
      (f <$> x).map content' = x.map content := by
    cases x with
    | ok a => exact congrArg Except.ok (hf a)
    | error e => rfl
  rw [Alike, hcomp f hf, hcomp f' hf']
  exact h

end Reading

namespace Token

lemma map_move_of_map_lexeme {ts us : List Token} (h : ts.map lexeme = us.map lexeme) :
    ts.map (move fun _ => default) = us.map (move fun _ => default) := by
  have hmove (ts : List Token) :
      ts.map (move fun _ => default) = (ts.map lexeme).map fun l => ⟨l.1, default, l.2⟩ := by
    rw [List.map_map]
    refine List.map_congr_left fun t _ => ?_
    simp [move, lexeme]
  rw [hmove, hmove, h]

lemma map_move_filter_respaced {p : Token → Bool} (hp : ∀ (g : Span → Span) t, p (t.move g) = p t)
    (source : String) : ((scan (respaced source)).filter p).map (move fun _ => default) =
      ((scan source).filter p).map (move fun _ => default) := by
  rw [map_move_filter (hp _), map_move_filter (hp _),
    map_move_of_map_lexeme (map_lexeme_scan_respaced source)]

lemma countP_isRelation_words_respaced (source : String) :
    (words (respaced source)).countP isRelation = (words source).countP isRelation := by
  rw [← countP_isRelation_move (g := fun _ => default), words,
    map_move_filter_respaced fun _ _ => rfl, countP_isRelation_move]
  rfl

end Token

namespace Reading

variable {β δ : Type} {read : List Token → Except LineError (β × List Token)} {f : β → β}
  {content : β → δ}

lemma alike_respaced (hread : Commutes (fun _ => default) f read)
    (hf : ∀ b, content (f b) = content b) (e : Expectation) (source : String) :
    Alike content (whole e read (Token.significant (Token.respaced source)))
      (whole e read (Token.significant source)) := by
  refine alike_of_moved hf (g := fun _ => default) ?_
  rw [← hread.whole, ← hread.whole]
  exact congrArg (whole e read) (Token.map_move_filter_respaced (fun _ _ => rfl) source)

end Reading

lemma map_written_move (g : Span → Span) (ts : List Term) :
    (ts.map (Term.move g)).map Term.written = ts.map Term.written := by
  rw [List.map_map]
  rfl

theorem Token.respaced_alike (source : String) :
    (scan (respaced source)).map lexeme = (scan source).map lexeme ∧
      Reading.Alike (List.map Term.written) (Term.readAll (respaced source))
        (Term.readAll source) ∧
      Reading.Alike Objective.content (Objective.read (respaced source))
        (Objective.read source) ∧
      Reading.Alike Constraint.content (Constraint.read (respaced source))
        (Constraint.read source) := by
  have hjoin (a b : Span) : (fun _ : Span => (default : Span)) (a.join b) =
      (default : Span).join default := rfl
  refine ⟨map_lexeme_scan_respaced source, ?_, ?_, ?_⟩
  · exact Reading.alike_respaced (Reading.commutes_terms hjoin) (map_written_move _) _ source
  · have hparts : Reading.Alike
        (fun p : Direction × String × List Term => (p.1, p.2.1, p.2.2.map Term.written)) _ _ :=
      Reading.alike_respaced (Reading.commutes_objective hjoin)
        (fun p => congrArg (fun as => (p.1, p.2.1, as)) (map_written_move _ p.2.2))
        .endOfObjective source
    rw [Objective.read_eq, Objective.read_eq]
    exact hparts.map (fun p => rfl) fun p => rfl
  · rw [Constraint.read_eq, Constraint.read_eq, countP_isRelation_words_respaced]
    split
    · rfl
    · have hparts : Reading.Alike
          (fun p : List Term × Relation × SignedDecimal => (p.1.map Term.written, p.2)) _ _ :=
        Reading.alike_respaced (Reading.commutes_constraint hjoin)
          (fun p => congrArg (fun as => (as, p.2)) (map_written_move _ p.1))
          .endOfConstraint source
      rw [Constraint.readParts_eq, Constraint.readParts_eq]
      exact hparts.map (fun p => rfl) fun p => rfl
    · rfl

end LinearProgram
