import LinearProgram.Proofs.Sentences

namespace LinearProgram

variable {β γ : Type} {g : Span → Span}

def Token.move (g : Span → Span) (t : Token) : Token :=
  { t with span := if t.kind = .finish then default else g t.span }

def Term.move (g : Span → Span) (t : Term) : Term :=
  { t with span := g t.span }

def LineError.move (g : Span → Span) : LineError → LineError
  | unexpectedToken e found span => unexpectedToken e found (g span)
  | unexpectedEnd e => unexpectedEnd e
  | unknownDirection word => unknownDirection word
  | missingRelation text => missingRelation text
  | severalRelations text => severalRelations text

@[simp] lemma Token.kind_move (g : Span → Span) (t : Token) : (t.move g).kind = t.kind := rfl

@[simp] lemma Token.text_move (g : Span → Span) (t : Token) : (t.move g).text = t.text := rfl

lemma Token.span_move {t : Token} (h : t.kind ≠ .finish) (g : Span → Span) :
    (t.move g).span = g t.span :=
  if_neg h

namespace Token

lemma map_move_id {ts : List Token} (h : ∀ t ∈ ts, t.kind ≠ .finish) : ts.map (move id) = ts := by
  conv_rhs => rw [← List.map_id ts]
  refine List.map_congr_left fun t ht => ?_
  simp [move, h t ht]

lemma map_move_filter {p : Token → Bool} (hp : ∀ t, p (t.move g) = p t) (ts : List Token) :
    (ts.filter p).map (move g) = (ts.map (move g)).filter p := by
  have hcomp : p ∘ move g = p := funext hp
  rw [List.filter_map, hcomp]

lemma countP_isRelation_move (ts : List Token) :
    (ts.map (move g)).countP isRelation = ts.countP isRelation := by
  rw [List.countP_map]
  rfl

end Token

lemma Term.map_move_id (ts : List Term) : ts.map (move id) = ts :=
  List.map_id ts

namespace Reading

def moved (g : Span → Span) (f : β → γ) : Except LineError β → Except LineError γ
  | .ok b => .ok (f b)
  | .error e => .error (e.move g)

lemma moved_bind {x : Except LineError β} {k : β → Except LineError γ} {f : β → β}
    {k' : β → Except LineError γ} {h : γ → γ} (hk : ∀ b, x = .ok b → k' (f b) = moved g h (k b)) :
    moved g f x >>= k' = moved g h (x >>= k) := by
  cases x with
  | error e => rfl
  | ok b => exact hk b rfl

def Carries (g : Span → Span) (f : β → β)
    (read read' : List Token → Except LineError (β × List Token)) : Prop :=
  ∀ ts, read' (ts.map (Token.move g)) = moved g (Prod.map f (List.map (Token.move g))) (read ts)

abbrev Commutes (g : Span → Span) (f : β → β)
    (read : List Token → Except LineError (β × List Token)) : Prop :=
  Carries g f read read

lemma Carries.bind {read read' : List Token → Except LineError (β × List Token)}
    {k k' : β × List Token → Except LineError (γ × List Token)} {f : β → β} {h : γ → γ}
    (hread : Carries g f read read')
    (hk : ∀ b, Carries g h (fun rest => k (b, rest)) (fun rest => k' (f b, rest))) :
    Carries g h (fun ts => read ts >>= k) (fun ts => read' ts >>= k') := by
  intro ts
  simp only [hread ts]
  exact moved_bind fun b _ => hk b.1 b.2

lemma refuse_move (e : Expectation) (ts : List Token) :
    refuse e (ts.map (Token.move g)) = (refuse e ts).move g := by
  cases ts with
  | nil => rfl
  | cons t ts =>
    rw [List.map_cons, refuse, refuse, Token.kind_move]
    split
    · rfl
    · rename_i h
      rw [Token.span_move h]
      rfl

lemma commutes_expect (kind : TokenKind) (e : Expectation) :
    Commutes g (Token.move g) (expect kind e) := by
  rintro (_ | ⟨t, ts⟩)
  · rfl
  · rw [List.map_cons, expect, expect, Token.kind_move]
    split
    · rfl
    · exact congrArg Except.error (refuse_move e (t :: ts))

lemma finish_move (e : Expectation) (ts : List Token) :
    finish e (ts.map (Token.move g)) = moved g id (finish e ts) := by
  cases ts with
  | nil => rfl
  | cons t ts =>
    rw [List.map_cons, finish, finish, Token.kind_move]
    split
    · rfl
    · exact congrArg Except.error (refuse_move e (t :: ts))

lemma signs_move (ts : List Token) :
    signs (ts.map (Token.move g)) = ((signs ts).1, (signs ts).2.map (Token.move g)) := by
  simp only [signs, List.takeWhile_map, List.dropWhile_map, List.countP_map]
  rfl

lemma factor_move (ts : List Token) :
    factor (ts.map (Token.move g)) = ((factor ts).1, (factor ts).2.map (Token.move g)) := by
  cases ts with
  | nil => rfl
  | cons t ts =>
    rw [List.map_cons, factor, factor, Token.kind_move]
    split
    · cases ts with
      | nil => rfl
      | cons s ts =>
        by_cases hs : s.kind = .star <;> simp [hs]
    · rfl

lemma kind_ne_finish_of_term {ts rest : List Token} {t : Token} {found : Term}
    (h : term (t :: ts) = .ok (found, rest)) : t.kind ≠ .finish := by
  obtain ⟨us, hus, hterm⟩ := isTerm_of_term h
  obtain ⟨v, vs, rfl⟩ := List.exists_cons_of_ne_nil hterm.ne_nil
  obtain ⟨rfl, -⟩ := List.cons_eq_cons.1 hus
  exact Grammar.kind_ne_finish hterm.kind t List.mem_cons_self

variable (hg : ∀ a b : Span, g (a.join b) = (g a).join (g b))

include hg in
lemma commutes_term : Commutes g (Term.move g) term := by
  intro ts
  have hname : expect .name .variableName ((factor (signs ts).2).2.map (Token.move g)) = _ :=
    commutes_expect .name .variableName _
  have hterm : term ts = expect .name .variableName (factor (signs ts).2).2 >>= fun r =>
      .ok (⟨((ts.head?.map Token.span).getD r.1.span).join r.1.span,
        ⟨(signs ts).1, (factor (signs ts).2).1⟩, r.1.text⟩, r.2) := rfl
  rw [hterm]
  simp only [term, signs_move, factor_move, hname]
  refine moved_bind ?_
  rintro ⟨name, rest⟩ hok
  have hspan : (name.move g).span = g name.span := by
    rw [Token.span_move (by simp [(expect_eq_ok.1 hok).2])]
  rw [hok] at hterm
  have hfirst : ((ts.map (Token.move g)).head?.map Token.span).getD (g name.span) =
      g ((ts.head?.map Token.span).getD name.span) := by
    cases ts with
    | nil => rfl
    | cons t ts => exact Token.span_move (kind_ne_finish_of_term hterm) g
  simp only [moved, Prod.map, Term.move, Token.text_move, hspan, hfirst, hg]
  rfl

lemma head?_move (ts : List Token) :
    (ts.map (Token.move g)).head?.any Token.isSign = ts.head?.any Token.isSign := by
  cases ts <;> rfl

include hg in
lemma commutes_furtherTerms : Commutes g (List.map (Term.move g)) furtherTerms := by
  intro ts
  have hterm := commutes_term hg
  fun_induction furtherTerms ts with
  | case1 ts hs e ht =>
    refine furtherTerms_of_error ((head?_move ts).trans hs) ?_
    rw [hterm, ht]
    rfl
  | case2 ts hs t rest ht hlt e hr ih =>
    have hmoved : term (ts.map (Token.move g)) = .ok (t.move g, rest.map (Token.move g)) := by
      rw [hterm, ht]
      rfl
    rw [furtherTerms_of_term ((head?_move ts).trans hs) hmoved, ih, hr]
    rfl
  | case3 ts hs t rest ht hlt more rest' hr ih =>
    have hmoved : term (ts.map (Token.move g)) = .ok (t.move g, rest.map (Token.move g)) := by
      rw [hterm, ht]
      rfl
    rw [furtherTerms_of_term ((head?_move ts).trans hs) hmoved, ih, hr]
    rfl
  | case4 ts hs =>
    rw [furtherTerms, if_neg (by rwa [head?_move])]
    rfl

include hg in
lemma commutes_terms : Commutes g (List.map (Term.move g)) terms := by
  refine (commutes_term hg).bind fun first => ?_
  exact (commutes_furtherTerms hg).bind fun more rest => rfl

lemma commutes_direction : Commutes g id direction := by
  refine (commutes_expect .name .direction).bind fun word rest => ?_
  dsimp only [Token.text_move]
  split <;> rfl

lemma commutes_relation : Commutes g id relation := by
  rintro (_ | ⟨t, ts⟩)
  · rfl
  · rw [List.map_cons, relation, relation, Token.kind_move]
    split
    · rfl
    · rfl
    · rfl
    · exact congrArg Except.error (refuse_move .relation (t :: ts))

lemma commutes_signedNumber : Commutes g id signedNumber := by
  intro ts
  have hnumber : Commutes g id number :=
    (commutes_expect .number .number).bind fun t rest => rfl
  have h : Commutes g id fun us => number us >>= fun r =>
      .ok ((⟨(signs ts).1, r.1⟩ : SignedDecimal), r.2) := hnumber.bind fun m rest => rfl
  simp only [signedNumber, signs_move]
  exact h (signs ts).2

include hg in
lemma commutes_objective :
    Commutes g (Prod.map id (Prod.map id (List.map (Term.move g)))) objective := by
  refine commutes_direction.bind fun d => ?_
  refine (commutes_expect .colon .colon).bind fun _ => ?_
  refine (commutes_expect .name .objectiveName).bind fun name => ?_
  refine (commutes_expect .equal .equal).bind fun _ => ?_
  exact (commutes_terms hg).bind fun found rest => rfl

include hg in
lemma commutes_constraint : Commutes g (Prod.map (List.map (Term.move g)) id) constraint := by
  refine (commutes_terms hg).bind fun found => ?_
  refine commutes_relation.bind fun r => ?_
  exact commutes_signedNumber.bind fun bound rest => rfl

theorem Carries.whole {read : List Token → Except LineError (β × List Token)} {f : β → β}
    (hread : Commutes g f read) (e : Expectation) (ts : List Token) :
    whole e read (ts.map (Token.move g)) = moved g f (whole e read ts) := by
  rw [Reading.whole, hread]
  refine moved_bind fun b _ => ?_
  dsimp only [Prod.map]
  rw [finish_move]
  exact moved_bind fun _ _ => rfl

end Reading

end LinearProgram
