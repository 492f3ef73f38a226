import Mathlib.Computability.Language
import LinearProgram.Proofs.Placement

namespace LinearProgram

open Grammar

namespace Grammar

def ofKind (kind : TokenKind) : Language Token :=
  {ts | ∃ t, ts = [t] ∧ t.kind = kind}

def signRuns : Language Token :=
  {ts | ∃ negative, Signs negative ts}

def factors : Language Token :=
  {ts | ∃ m, Factor m ts}

def singleTerms : Language Token :=
  {ts | ∃ a, IsTerm a ts}

def laterTerms : Language Token :=
  {ts | ∃ as, FurtherTerms as ts}

def relations : Language Token :=
  {ts | ∃ t r, ts = [t] ∧ IsRelation r t}

def directions : Language Token :=
  {ts | ∃ t d, ts = [t] ∧ IsDirection d t}

def expressions : Language Token :=
  {ts | ∃ as, Terms as ts}

def objectives : Language Token :=
  {ts | ∃ d name as, IsObjective d name as ts}

def constraints : Language Token :=
  {ts | ∃ as r bound, IsConstraint as r bound ts}

end Grammar

namespace Reading

variable {β γ : Type} {read : List Token → Except LineError (β × List Token)}
  {P Q : Language Token} {us ts rest before more : List Token}

lemma head?_append_congr (h : us.head? = rest.head?) (ts : List Token) :
    (ts ++ us).head? = (ts ++ rest).head? := by
  cases ts with
  | nil => exact h
  | cons t ts => rfl

/-- What the reader does with the tokens, and would do with all that begin in the same way up to the
first token behind those it took. -/
inductive Outcome (read : List Token → Except LineError (β × List Token)) (P : Language Token) :
    List Token → Prop
  | takes (ts : List Token) {rest : List Token} (b : β) : ts ∈ P →
      (∀ rest', rest'.head? = rest.head? → read (ts ++ rest') = .ok (b, rest')) →
      Outcome read P (ts ++ rest)
  | stuck (before : List Token) {rest more : List Token} (e : Expectation) :
      before ++ more ∈ P → more ≠ [] →
      (∀ rest', rest'.head? = rest.head? → read (before ++ rest') = .error (refuse e rest')) →
      Outcome read P (before ++ rest)

abbrev Follows (read : List Token → Except LineError (β × List Token)) (P : Language Token) :
    Prop :=
  ∀ us, Outcome read P us

lemma Outcome.mono (h : Outcome read P us) (hPQ : ∀ ts ∈ P, ts ∈ Q) : Outcome read Q us := by
  cases h with
  | takes ts b hts hread => exact .takes ts b (hPQ _ hts) hread
  | stuck before e hbefore hne hread => exact .stuck before e (hPQ _ hbefore) hne hread

lemma Outcome.exists_mem (h : Outcome read P us) : ∃ ts, ts ∈ P := by
  cases h with
  | takes ts b hts _ => exact ⟨_, hts⟩
  | stuck before e hbefore _ _ => exact ⟨_, hbefore⟩

theorem Outcome.bind {k : β × List Token → Except LineError (γ × List Token)}
    (h : Outcome read P us) (hk : ∀ b, Follows (fun rest => k (b, rest)) Q)
    (hQ : ∃ ts, ts ∈ Q) : Outcome (fun ts => read ts >>= k) (P * Q) us := by
  cases h with
  | @takes ts rest b hts hread =>
    have hstep (rest' : List Token) (hhead : rest'.head? = rest.head?) :
        read (ts ++ rest') >>= k = k (b, rest') := by
      rw [hread rest' hhead]
      rfl
    cases hk b rest with
    | @takes us rest c hus hnext =>
      rw [← List.append_assoc]
      refine .takes _ c (Language.append_mem_mul hts hus) fun rest' hhead => ?_
      rw [List.append_assoc, hstep _ (head?_append_congr hhead us)]
      exact hnext rest' hhead
    | @stuck before rest more e hbefore hne hnext =>
      rw [← List.append_assoc]
      have hmem : ts ++ before ++ more ∈ P * Q := by
        rw [List.append_assoc]
        exact Language.append_mem_mul hts hbefore
      refine .stuck _ e hmem hne fun rest' hhead => ?_
      rw [List.append_assoc, hstep _ (head?_append_congr hhead before)]
      exact hnext rest' hhead
  | @stuck before rest more e hbefore hne hread =>
    obtain ⟨q, hq⟩ := hQ
    have hmem : before ++ (more ++ q) ∈ P * Q := by
      rw [← List.append_assoc]
      exact Language.append_mem_mul hbefore hq
    refine .stuck _ e hmem (by simp [hne]) fun rest' hhead => ?_
    simp only [hread rest' hhead]
    rfl

lemma Follows.bind {k : β × List Token → Except LineError (γ × List Token)} (h : Follows read P)
    (hk : ∀ b, Follows (fun rest => k (b, rest)) Q) (hQ : ∃ ts, ts ∈ Q) :
    Follows (fun ts => read ts >>= k) (P * Q) :=
  fun us => (h us).bind hk hQ

lemma exists_mem_mul (hP : ∃ ts, ts ∈ P) (hQ : ∃ ts, ts ∈ Q) : ∃ ts, ts ∈ P * Q := by
  obtain ⟨ts, hts⟩ := hP
  obtain ⟨us, hus⟩ := hQ
  exact ⟨ts ++ us, Language.append_mem_mul hts hus⟩

lemma follows_pure (c : γ) : Follows (fun ts => .ok (c, ts)) 1 := fun _ =>
  .takes [] c Language.nil_mem_one fun _ _ => rfl

lemma Follows.map (h : Follows read P) (f : β → γ) :
    Follows (fun ts => read ts >>= fun r => .ok (f r.1, r.2)) P := by
  have hpure := h.bind (k := fun r => .ok (f r.1, r.2)) (fun b => follows_pure (f b))
    ⟨[], Language.nil_mem_one⟩
  rwa [mul_one] at hpure

lemma outcome_of_head {e : Expectation} (hP : ∃ t, [t] ∈ P)
    (hnil : read [] = .error (refuse e []))
    (hhead : ∀ t ∈ us.head?, (∃ b, [t] ∈ P ∧ ∀ ts, read (t :: ts) = .ok (b, ts)) ∨
      ∀ ts, read (t :: ts) = .error (refuse e (t :: ts))) : Outcome read P us := by
  obtain ⟨first, hfirst⟩ := hP
  cases us with
  | nil =>
    refine .stuck [] e hfirst (List.cons_ne_nil _ _) fun rest' hrest => ?_
    rw [List.head?_eq_none_iff.1 hrest]
    exact hnil
  | cons t us =>
    rcases hhead t rfl with ⟨b, ht, hread⟩ | hread
    · exact .takes [t] b ht fun rest' _ => hread rest'
    · refine .stuck [] e hfirst (List.cons_ne_nil _ _) fun rest' hrest => ?_
      obtain ⟨us', rfl⟩ := List.head?_eq_some_iff.1 hrest
      exact hread us'

lemma follows_expect (kind : TokenKind) (e : Expectation) :
    Follows (expect kind e) (ofKind kind) := by
  intro us
  refine outcome_of_head ⟨⟨kind, default, ""⟩, _, rfl, rfl⟩ rfl fun t _ => ?_
  by_cases ht : t.kind = kind
  · exact .inl ⟨t, ⟨t, rfl, ht⟩, fun ts => if_pos ht⟩
  · exact .inr fun ts => if_neg ht

lemma follows_relation : Follows relation relations := by
  intro us
  refine outcome_of_head ⟨⟨.equal, default, ""⟩, _, .equal, rfl, .equal rfl⟩ rfl fun t _ => ?_
  by_cases ht : ∃ r, IsRelation r t
  · obtain ⟨r, ht⟩ := ht
    exact .inl ⟨r, ⟨t, r, rfl, ht⟩, fun ts => relation_eq_ok.2 ⟨t, rfl, ht⟩⟩
  · refine .inr fun ts => ?_
    rw [relation]
    split
    · exact absurd ⟨_, .atMost ‹_›⟩ ht
    · exact absurd ⟨_, .atLeast ‹_›⟩ ht
    · exact absurd ⟨_, .equal ‹_›⟩ ht
    · rfl

lemma follows_signs : Follows (fun ts => .ok (signs ts)) signRuns := by
  intro us
  obtain ⟨ts, hus, hsigns⟩ := exists_signs us
  have hstop := head?_dropWhile_any Token.isSign us
  rw [hus]
  refine .takes ts (signs us).1 ⟨_, hsigns⟩ fun rest' hhead => ?_
  rw [signs_append hsigns (by rw [hhead]; exact hstop)]

lemma follows_factor : Follows (fun ts => .ok (factor ts)) factors := by
  rintro (_ | ⟨t, us⟩)
  · refine .takes [] .one ⟨_, .absent⟩ fun rest' hhead => ?_
    rw [List.head?_eq_none_iff.1 hhead]
    rfl
  by_cases ht : t.kind = .number
  · cases hstar : us.head?.any (·.kind = .star) with
    | true =>
      obtain ⟨star, hhead, hkind⟩ := (Option.any_eq_true _ _).1 hstar
      obtain ⟨vs, rfl⟩ := List.head?_eq_some_iff.1 hhead
      refine .takes [t, star] (Decimal.ofLiteral t.text.toList)
        ⟨_, .starred ht (by simpa using hkind)⟩ fun rest' _ => ?_
      simp only [List.cons_append, factor, if_pos ht, List.head?_cons, Option.any_some, hkind]
      rfl
    | false =>
      refine .takes [t] (Decimal.ofLiteral t.text.toList) ⟨_, .number ht⟩ fun rest' hhead => ?_
      simp only [List.singleton_append, factor, if_pos ht, hhead, hstar]
      rfl
  · refine .takes [] .one ⟨_, .absent⟩ fun rest' hhead => ?_
    obtain ⟨us', rfl⟩ := List.head?_eq_some_iff.1 hhead
    simp only [List.nil_append, factor, if_neg ht]

lemma exists_mem_ofKind (kind : TokenKind) : ∃ ts, ts ∈ ofKind kind :=
  ⟨[⟨kind, default, ""⟩], _, rfl, rfl⟩

lemma mem_singleTerms : ∀ ts ∈ signRuns * (factors * ofKind .name), ts ∈ singleTerms := by
  rintro ts hts
  obtain ⟨signTokens, ⟨negative, hsigns⟩, us, hus, rfl⟩ := Language.mem_mul.1 hts
  obtain ⟨factorTokens, ⟨m, hfactor⟩, vs, ⟨name, rfl, hname⟩, rfl⟩ := Language.mem_mul.1 hus
  rw [← List.append_assoc]
  exact ⟨_, .mk hsigns hfactor hname⟩

lemma follows_expect_name : Follows
    (fun ts => expect .name .variableName (factor (signs ts).2).2) singleTerms := by
  have hname := exists_mem_ofKind .name
  have hread : Follows (fun ts => expect .name .variableName (factor (signs ts).2).2)
      (signRuns * (factors * ofKind .name)) := by
    refine follows_signs.bind (k := fun r => expect .name .variableName (factor r.2).2)
      (fun _ => ?_) (exists_mem_mul (follows_factor []).exists_mem hname)
    exact follows_factor.bind (k := fun r => expect .name .variableName r.2)
      (fun _ => follows_expect .name .variableName) hname
  exact fun us => (hread us).mono mem_singleTerms

lemma term_of_error {error : LineError}
    (h : expect .name .variableName (factor (signs us).2).2 = .error error) :
    term us = .error error := by
  simp only [term, h]
  rfl

theorem follows_term : Follows term singleTerms := by
  intro us
  cases follows_expect_name us with
  | takes ts name hts _ =>
    -- The span of the term is joined from its tokens alone, whatever stands behind them.
    obtain ⟨a, ha⟩ := hts
    exact .takes ts _ ⟨a, ha⟩ fun rest' _ => term_append ha rest'
  | stuck before e hbefore hne hread =>
    exact .stuck before e hbefore hne fun rest' hhead => term_of_error (hread rest' hhead)

lemma isTerm_sign {t : Token} (ht : t.isSign = true) :
    ∃ a, IsTerm a [t, ⟨.name, default, ""⟩] := by
  have hsigns : Signs (decide (t.kind = .minus)) [t] :=
    ⟨by simpa using ht, by by_cases hk : t.kind = .minus <;> simp [hk]⟩
  exact ⟨_, .mk hsigns .absent rfl⟩

lemma before_ne_nil (hs : rest.head?.any Token.isSign = true) {e : Expectation}
    (hread : ∀ rest', rest'.head? = rest.head? →
      term (before ++ rest') = .error (refuse e rest')) : before ≠ [] := by
  rintro rfl
  obtain ⟨t, hhead, ht⟩ := (Option.any_eq_true _ _).1 hs
  obtain ⟨a, ha⟩ := isTerm_sign ht
  have hok := term_append ha []
  have herror := hread [t, ⟨.name, default, ""⟩] (by simp [hhead])
  rw [List.append_nil] at hok
  rw [List.nil_append, hok] at herror
  cases herror

lemma head?_any_append (hne : ts ≠ []) (us : List Token) (p : Token → Bool) :
    (ts ++ us).head?.any p = ts.head?.any p := by
  obtain ⟨t, ts, rfl⟩ := List.exists_cons_of_ne_nil hne
  rfl

lemma Outcome.furtherTerms {a : SignedDecimal × String} {t : Term} (ha : IsTerm a ts)
    (hs : ts.head?.any Token.isSign = true)
    (hread : ∀ rest', rest'.head? = rest.head? → term (ts ++ rest') = .ok (t, rest'))
    (h : Outcome furtherTerms laterTerms rest) :
    Outcome furtherTerms laterTerms (ts ++ rest) := by
  have hstep (rest' : List Token) (hhead : rest'.head? = rest.head?) :
      Reading.furtherTerms (ts ++ rest') =
        (Reading.furtherTerms rest').map fun r => (t :: r.1, r.2) :=
    furtherTerms_of_term ((head?_any_append ha.ne_nil _ _).trans hs) (hread rest' hhead)
  cases h with
  | @takes us rest more hus hnext =>
    obtain ⟨as, has⟩ := hus
    rw [← List.append_assoc]
    refine .takes _ (t :: more) ⟨_, .cons ha hs has⟩ fun rest' hhead => ?_
    rw [List.append_assoc, hstep _ (head?_append_congr hhead us), hnext rest' hhead]
    rfl
  | @stuck before rest more e hbefore hne hnext =>
    obtain ⟨as, has⟩ := hbefore
    have hmem : ts ++ before ++ more ∈ laterTerms := by
      rw [List.append_assoc]
      exact ⟨_, .cons ha hs has⟩
    rw [← List.append_assoc]
    refine .stuck _ e hmem hne fun rest' hhead => ?_
    rw [List.append_assoc, hstep _ (head?_append_congr hhead before), hnext rest' hhead]
    rfl

theorem follows_furtherTerms : Follows furtherTerms laterTerms := by
  intro us
  -- A term takes at least its name, so that fewer tokens are left for the terms behind it.
  induction hn : us.length using Nat.strong_induction_on generalizing us with
  | _ n ih =>
    subst hn
    by_cases hs : us.head?.any Token.isSign = true
    · cases follows_term us with
      | @takes ts rest t hts hread =>
        obtain ⟨a, ha⟩ := hts
        rw [head?_any_append ha.ne_nil] at hs
        have hlt := length_of_term (hread rest rfl)
        exact .furtherTerms ha hs hread (ih _ hlt rest rfl)
      | @stuck before rest more e hbefore hne hread =>
        have hbeforeNe : before ≠ [] := by
          rintro rfl
          exact before_ne_nil hs hread rfl
        rw [head?_any_append hbeforeNe] at hs
        obtain ⟨a, ha⟩ := hbefore
        have hmem : before ++ more ∈ laterTerms := by
          have hlater := FurtherTerms.cons ha (by rw [head?_any_append hbeforeNe, hs]) .nil
          exact ⟨[a], by simpa using hlater⟩
        refine .stuck _ e hmem hne fun rest' hhead => ?_
        exact furtherTerms_of_error (by rw [head?_any_append hbeforeNe, hs]) (hread rest' hhead)
    · refine .takes [] [] ⟨[], .nil⟩ fun rest' hhead => ?_
      rw [List.nil_append, Reading.furtherTerms, hhead, if_neg hs]

theorem follows_terms : Follows terms expressions := by
  have hread : Follows terms (singleTerms * laterTerms) := by
    refine follows_term.bind (fun first => ?_) (follows_furtherTerms []).exists_mem
    exact follows_furtherTerms.map fun more => first :: more
  refine fun us => (hread us).mono ?_
  rintro ts hts
  obtain ⟨us, ⟨a, ha⟩, vs, ⟨as, has⟩, rfl⟩ := Language.mem_mul.1 hts
  exact ⟨_, .mk ha has⟩

lemma follows_signedNumber : Follows signedNumber (signRuns * ofKind .number) := by
  have hnumber : Follows number (ofKind .number) :=
    (follows_expect .number .number).map fun t => Decimal.ofLiteral t.text.toList
  refine follows_signs.bind
    (k := fun r => number r.2 >>= fun q => .ok ((⟨r.1, q.1⟩ : SignedDecimal), q.2))
    (fun negative => ?_) (exists_mem_ofKind .number)
  exact hnumber.map fun m => (⟨negative, m⟩ : SignedDecimal)

theorem follows_constraint : Follows constraint constraints := by
  have hread : Follows constraint (expressions * (relations * (signRuns * ofKind .number))) := by
    refine follows_terms.bind (fun found => ?_) (exists_mem_mul
      (follows_relation []).exists_mem (follows_signedNumber []).exists_mem)
    refine follows_relation.bind (fun r => ?_) (follows_signedNumber []).exists_mem
    exact follows_signedNumber.map fun bound => (found, r, bound)
  refine fun us => (hread us).mono ?_
  rintro ts hts
  obtain ⟨us, ⟨as, has⟩, vs, hvs, rfl⟩ := Language.mem_mul.1 hts
  obtain ⟨rs, ⟨rel, r, rfl, hrel⟩, bs, hbs, rfl⟩ := Language.mem_mul.1 hvs
  obtain ⟨signTokens, ⟨negative, hsigns⟩, ns, ⟨number, rfl, hnumber⟩, rfl⟩ :=
    Language.mem_mul.1 hbs
  exact ⟨_, _, _, .mk has hrel hsigns hnumber⟩

lemma outcome_direction (h : ∀ t ∈ us.head?, t.kind = .name → ∃ d, IsDirection d t) :
    Outcome direction directions us := by
  have hmax : IsDirection .maximize ⟨.name, default, "max"⟩ := .maximize rfl (by decide)
  refine outcome_of_head (e := .direction) ⟨_, _, _, rfl, hmax⟩ rfl fun t ht => ?_
  by_cases hk : t.kind = .name
  · obtain ⟨d, hd⟩ := h t ht hk
    exact .inl ⟨d, ⟨t, d, rfl, hd⟩, fun ts => direction_eq_ok.2 ⟨t, rfl, hd⟩⟩
  · refine .inr fun ts => ?_
    have hexpect : expect .name .direction (t :: ts) = .error (refuse .direction (t :: ts)) :=
      if_neg hk
    rw [direction, hexpect]
    rfl

theorem outcome_objective (h : ∀ t ∈ us.head?, t.kind = .name → ∃ d, IsDirection d t) :
    Outcome objective objectives us := by
  have hterms := (follows_terms []).exists_mem
  have hequal := exists_mem_mul (exists_mem_ofKind .equal) hterms
  have hname := exists_mem_mul (exists_mem_ofKind .name) hequal
  have hread : Outcome objective
      (directions * (ofKind .colon * (ofKind .name * (ofKind .equal * expressions)))) us := by
    refine (outcome_direction h).bind (fun d => ?_)
      (exists_mem_mul (exists_mem_ofKind .colon) hname)
    refine (follows_expect .colon .colon).bind (fun _ => ?_) hname
    refine (follows_expect .name .objectiveName).bind (fun name => ?_) hequal
    refine (follows_expect .equal .equal).bind (fun _ => ?_) hterms
    exact follows_terms.map fun found => (d, name.text, found)
  refine hread.mono ?_
  rintro ts hts
  obtain ⟨ds, ⟨word, d, rfl, hword⟩, ts₁, hts₁, rfl⟩ := Language.mem_mul.1 hts
  obtain ⟨cs, ⟨colon, rfl, hcolon⟩, ts₂, hts₂, rfl⟩ := Language.mem_mul.1 hts₁
  obtain ⟨ns, ⟨name, rfl, hname⟩, ts₃, hts₃, rfl⟩ := Language.mem_mul.1 hts₂
  obtain ⟨es, ⟨eq, rfl, heq⟩, ts₄, ⟨as, has⟩, rfl⟩ := Language.mem_mul.1 hts₃
  exact ⟨_, _, _, .mk hword hcolon hname heq has⟩

end Reading

end LinearProgram
