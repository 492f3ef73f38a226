import Mathlib.Algebra.Ring.Parity
import LinearProgram.Proofs.Descent
import LinearProgram.Proofs.Words

namespace LinearProgram

open Grammar

namespace Grammar

def termKinds : List TokenKind := [.plus, .minus, .number, .star, .name]

lemma Signs.kind {negative : Bool} {ts : List Token} (h : Signs negative ts) :
    ∀ t ∈ ts, t.kind ∈ termKinds := by
  intro t ht
  have := h.isSign t ht
  simp only [Token.isSign, Bool.or_eq_true, decide_eq_true_eq] at this
  rcases this with hk | hk <;> simp [termKinds, hk]

lemma Factor.kind {m : Decimal} {ts : List Token} (h : Factor m ts) :
    ∀ t ∈ ts, t.kind ∈ termKinds := by
  cases h <;> simp_all [termKinds]

lemma IsTerm.kind {a : SignedDecimal × String} {ts : List Token} (h : IsTerm a ts) :
    ∀ t ∈ ts, t.kind ∈ termKinds := by
  cases h with
  | mk hs hf hn =>
    refine List.forall_mem_append.2 ⟨List.forall_mem_append.2 ⟨hs.kind, hf.kind⟩, ?_⟩
    simp [termKinds, hn]

lemma FurtherTerms.kind {as : List (SignedDecimal × String)} {ts : List Token}
    (h : FurtherTerms as ts) : ∀ t ∈ ts, t.kind ∈ termKinds := by
  induction h with
  | nil => exact nofun
  | cons ha _ _ ih => exact List.forall_mem_append.2 ⟨ha.kind, ih⟩

lemma Terms.kind {as : List (SignedDecimal × String)} {ts : List Token} (h : Terms as ts) :
    ∀ t ∈ ts, t.kind ∈ termKinds := by
  cases h with
  | mk ha has => exact List.forall_mem_append.2 ⟨ha.kind, has.kind⟩

lemma kind_ne_finish {ts : List Token} (h : ∀ t ∈ ts, t.kind ∈ termKinds) :
    ∀ t ∈ ts, t.kind ≠ .finish := by
  intro t ht hk
  have := h t ht
  simp [termKinds, hk] at this

lemma countP_isRelation {ts : List Token} (h : ∀ t ∈ ts, t.kind ∈ termKinds) :
    ts.countP Token.isRelation = 0 := by
  rw [List.countP_eq_zero]
  intro t ht
  have := h t ht
  simp only [termKinds, List.mem_cons, List.not_mem_nil, or_false] at this
  rcases this with hk | hk | hk | hk | hk <;> simp [Token.isRelation, hk]

lemma IsRelation.isRelation {r : Relation} {t : Token} (h : IsRelation r t) :
    t.isRelation = true := by
  cases h <;> simp [Token.isRelation, *]

lemma IsConstraint.kind_ne_finish {as : List (SignedDecimal × String)} {r : Relation}
    {bound : SignedDecimal} {ts : List Token} (h : IsConstraint as r bound ts) :
    ∀ t ∈ ts, t.kind ≠ .finish := by
  cases h with
  | @mk negative rel number ts signs hterms hrel hsigns hnumber =>
    have hr : rel.kind ≠ .finish := by cases hrel <;> simp [*]
    have hn : number.kind ≠ .finish := by simp [hnumber]
    refine List.forall_mem_append.2 ⟨Grammar.kind_ne_finish hterms.kind, ?_⟩
    refine List.forall_mem_cons.2 ⟨hr, List.forall_mem_append.2 ⟨?_, by simpa using hn⟩⟩
    exact Grammar.kind_ne_finish hsigns.kind

lemma IsObjective.kind_ne_finish {d : Direction} {name : String}
    {as : List (SignedDecimal × String)} {ts : List Token} (h : IsObjective d name as ts) :
    ∀ t ∈ ts, t.kind ≠ .finish := by
  cases h with
  | mk hword hcolon hname heq hterms =>
    simp only [List.forall_mem_cons, (Reading.isDirection_iff.1 hword).1, hcolon, hname, heq]
    exact ⟨nofun, nofun, nofun, nofun, Grammar.kind_ne_finish hterms.kind⟩

lemma IsConstraint.countP_isRelation {as : List (SignedDecimal × String)} {r : Relation}
    {bound : SignedDecimal} {ts : List Token} (h : IsConstraint as r bound ts) :
    ts.countP Token.isRelation = 1 := by
  cases h with
  | @mk negative rel number ts signs hterms hrel hsigns hnumber =>
    have hbound : ∀ t ∈ signs ++ [number], t.kind ∈ termKinds :=
      List.forall_mem_append.2 ⟨hsigns.kind, by simp [termKinds, hnumber]⟩
    rw [List.countP_append, List.countP_cons, Grammar.countP_isRelation hterms.kind,
      Grammar.countP_isRelation hbound, hrel.isRelation]
    rfl

end Grammar

namespace Reading

def whole {β : Type} (e : Expectation) (read : List Token → Except LineError (β × List Token))
    (ts : List Token) : Except LineError β := do
  let (b, rest) ← read ts
  finish e rest
  return b

def objective (ts : List Token) :
    Except LineError ((Direction × String × List Term) × List Token) := do
  let (d, rest) ← direction ts
  let (_, rest) ← expect .colon .colon rest
  let (name, rest) ← expect .name .objectiveName rest
  let (_, rest) ← expect .equal .equal rest
  let (found, rest) ← terms rest
  return ((d, name.text, found), rest)

def constraint (ts : List Token) :
    Except LineError ((List Term × Relation × SignedDecimal) × List Token) := do
  let (found, rest) ← terms ts
  let (r, rest) ← relation rest
  let (bound, rest) ← signedNumber rest
  return ((found, r, bound), rest)

lemma whole_eq_ok {β : Type} {e : Expectation}
    {read : List Token → Except LineError (β × List Token)} {ts : List Token} {b : β} :
    whole e read ts = .ok b ↔ ∃ rest, read ts = .ok (b, rest) ∧ finish e rest = .ok () := by
  constructor
  · intro h
    obtain ⟨⟨b, rest⟩, hread, h⟩ := bind_eq_ok.1 h
    obtain ⟨⟨⟩, hend, h⟩ := bind_eq_ok.1 h
    cases h
    exact ⟨rest, hread, hend⟩
  · rintro ⟨rest, hread, hend⟩
    exact bind_eq_ok.2 ⟨_, hread, bind_eq_ok.2 ⟨_, hend, rfl⟩⟩

variable {us rest : List Token} {found : List Term}

lemma objective_eq_ok {d : Direction} {text : String} :
    objective us = .ok ((d, text, found), rest) ↔ ∃ word colon name eq ts,
      us = word :: colon :: name :: eq :: ts ∧ IsDirection d word ∧ colon.kind = .colon ∧
      name.kind = .name ∧ text = name.text ∧ eq.kind = .equal ∧
      terms ts = .ok (found, rest) := by
  constructor
  · intro h
    obtain ⟨⟨d, rest₁⟩, hd, h⟩ := bind_eq_ok.1 h
    obtain ⟨⟨colon, rest₂⟩, hc, h⟩ := bind_eq_ok.1 h
    obtain ⟨⟨name, rest₃⟩, hn, h⟩ := bind_eq_ok.1 h
    obtain ⟨⟨eq, rest₄⟩, he, h⟩ := bind_eq_ok.1 h
    obtain ⟨⟨found, rest₅⟩, hterms, h⟩ := bind_eq_ok.1 h
    cases h
    obtain ⟨word, rfl, hword⟩ := direction_eq_ok.1 hd
    obtain ⟨rfl, hcolon⟩ := expect_eq_ok.1 hc
    obtain ⟨rfl, hname⟩ := expect_eq_ok.1 hn
    obtain ⟨rfl, heq⟩ := expect_eq_ok.1 he
    exact ⟨word, colon, name, eq, rest₄, rfl, hword, hcolon, hname, rfl, heq, hterms⟩
  · rintro ⟨word, colon, name, eq, ts, rfl, hword, hcolon, hname, rfl, heq, hterms⟩
    refine bind_eq_ok.2 ⟨_, direction_eq_ok.2 ⟨word, rfl, hword⟩, ?_⟩
    refine bind_eq_ok.2 ⟨_, expect_eq_ok.2 ⟨rfl, hcolon⟩, ?_⟩
    refine bind_eq_ok.2 ⟨_, expect_eq_ok.2 ⟨rfl, hname⟩, ?_⟩
    refine bind_eq_ok.2 ⟨_, expect_eq_ok.2 ⟨rfl, heq⟩, ?_⟩
    exact bind_eq_ok.2 ⟨_, hterms, rfl⟩

theorem objective_of_eq_ok {d : Direction} {text : String}
    (h : objective us = .ok ((d, text, found), rest)) :
    ∃ ts, us = ts ++ rest ∧ IsObjective d text (found.map Term.written) ts := by
  obtain ⟨word, colon, name, eq, us, rfl, hword, hcolon, hname, rfl, heq, hterms⟩ :=
    objective_eq_ok.1 h
  obtain ⟨ts, rfl, hgrammar⟩ := terms_of_eq_ok hterms
  exact ⟨word :: colon :: name :: eq :: ts, rfl, .mk hword hcolon hname heq hgrammar⟩

theorem constraint_of_eq_ok {r : Relation} {bound : SignedDecimal}
    (h : constraint us = .ok ((found, r, bound), rest)) :
    ∃ ts, us = ts ++ rest ∧ IsConstraint (found.map Term.written) r bound ts := by
  obtain ⟨⟨found, rest₁⟩, hterms, h⟩ := bind_eq_ok.1 h
  obtain ⟨⟨r, rest₂⟩, hr, h⟩ := bind_eq_ok.1 h
  obtain ⟨⟨bound, rest₃⟩, hb, h⟩ := bind_eq_ok.1 h
  cases h
  obtain ⟨ts, rfl, hgrammar⟩ := terms_of_eq_ok hterms
  obtain ⟨rel, rfl, hrel⟩ := relation_eq_ok.1 hr
  obtain ⟨signTokens, number, rfl, hsigns, hnumber, hm⟩ := signedNumber_eq_ok.1 hb
  have hconstraint := IsConstraint.mk hgrammar hrel hsigns hnumber
  rw [← hm] at hconstraint
  exact ⟨_, by simp, hconstraint⟩

end Reading

section Whole

variable {as : List (SignedDecimal × String)} {ts : List Token} {fin : Token}

lemma Grammar.Terms.exists_whole (h : Terms as ts) (hfin : fin.kind = .finish) : ∃ found,
    Reading.whole .endOfExpression Reading.terms (ts ++ [fin]) = .ok found ∧
      found.map Term.written = as := by
  have hsign : [fin].head?.any Token.isSign = false := by simp [Token.isSign, hfin]
  obtain ⟨found, hfound, has⟩ := Reading.terms_append h hsign
  exact ⟨found, Reading.whole_eq_ok.2 ⟨[fin], hfound, Reading.finish_eq_ok hfin⟩, has⟩

lemma Grammar.IsObjective.exists_whole {d : Direction} {name : String}
    (h : IsObjective d name as ts) (hfin : fin.kind = .finish) : ∃ found,
    Reading.whole .endOfObjective Reading.objective (ts ++ [fin]) = .ok (d, name, found) ∧
      found.map Term.written = as := by
  cases h with
  | @mk _ word colon name eq ts hword hcolon hname heq hterms =>
    have hsign : [fin].head?.any Token.isSign = false := by simp [Token.isSign, hfin]
    obtain ⟨found, hfound, has⟩ := Reading.terms_append hterms hsign
    have hread : Reading.objective (word :: colon :: name :: eq :: ts ++ [fin]) =
        .ok ((d, name.text, found), [fin]) :=
      Reading.objective_eq_ok.2 ⟨word, colon, name, eq, ts ++ [fin], rfl, hword, hcolon, hname, rfl,
        heq, hfound⟩
    exact ⟨found, Reading.whole_eq_ok.2 ⟨[fin], hread, Reading.finish_eq_ok hfin⟩, has⟩

lemma Grammar.IsConstraint.exists_whole {r : Relation} {bound : SignedDecimal}
    (h : IsConstraint as r bound ts) (hfin : fin.kind = .finish) : ∃ found,
    Reading.whole .endOfConstraint Reading.constraint (ts ++ [fin]) = .ok (found, r, bound) ∧
      found.map Term.written = as := by
  cases h with
  | @mk negative rel number ts signTokens hterms hrel hsigns hnumber =>
    have hsign : (rel :: (signTokens ++ [number]) ++ [fin]).head?.any Token.isSign = false := by
      cases hrel <;> simp [Token.isSign, *]
    obtain ⟨found, hfound, has⟩ := Reading.terms_append hterms hsign
    have hbound : Reading.signedNumber (signTokens ++ [number] ++ [fin]) =
        .ok (⟨negative, Decimal.ofLiteral number.text.toList⟩, [fin]) :=
      Reading.signedNumber_eq_ok.2 ⟨signTokens, number, by simp, hsigns, hnumber, rfl⟩
    have hread : Reading.constraint (ts ++ rel :: (signTokens ++ [number]) ++ [fin]) =
        .ok ((found, r, ⟨negative, Decimal.ofLiteral number.text.toList⟩), [fin]) := by
      refine bind_eq_ok.2 ⟨_, by rw [List.append_assoc, hfound], ?_⟩
      refine bind_eq_ok.2 ⟨_, Reading.relation_eq_ok.2 ⟨rel, rfl, hrel⟩, ?_⟩
      exact bind_eq_ok.2 ⟨_, hbound, rfl⟩
    exact ⟨found, Reading.whole_eq_ok.2 ⟨[fin], hread, Reading.finish_eq_ok hfin⟩, has⟩

end Whole

lemma Term.readAll_eq (source : String) :
    Term.readAll source = Reading.whole .endOfExpression Reading.terms (Token.significant source) :=
  rfl

lemma Objective.read_eq (source : String) : Objective.read source =
    (fun p => ⟨Token.coverage (Token.significant source).dropLast, p.1, p.2.1, p.2.2⟩) <$>
      Reading.whole .endOfObjective Reading.objective (Token.significant source) := by
  simp only [Objective.read, Reading.whole, Reading.objective, bind_assoc, map_bind, pure_bind,
    map_pure]

theorem Term.exists_readAll_iff {source : String} {as : List (SignedDecimal × String)} :
    (∃ ts, Term.readAll source = .ok ts ∧ ts.map Term.written = as) ↔
      Terms as (Token.words source) := by
  obtain ⟨fin, hsource, hfin⟩ := Token.significant_eq source
  rw [Term.readAll_eq, hsource]
  constructor
  · rintro ⟨found, h, rfl⟩
    obtain ⟨rest, hterms, hend⟩ := Reading.whole_eq_ok.1 h
    obtain ⟨ts, hts, hgrammar⟩ := Reading.terms_of_eq_ok hterms
    have hwords := Reading.eq_of_finish (fun t ht => (Token.kind_of_mem_words ht).2)
      (kind_ne_finish hgrammar.kind) hts hfin hend
    exact hwords ▸ hgrammar
  · exact fun h => h.exists_whole hfin

theorem Objective.exists_read_iff {source : String} {d : Direction} {name : String}
    {as : List (SignedDecimal × String)} :
    (∃ o, Objective.read source = .ok o ∧ o.direction = d ∧ o.name = name ∧
      o.terms.map Term.written = as) ↔ IsObjective d name as (Token.words source) := by
  obtain ⟨fin, hsource, hfin⟩ := Token.significant_eq source
  rw [Objective.read_eq, hsource]
  constructor
  · rintro ⟨o, h, rfl, rfl, rfl⟩
    obtain ⟨b, hb, rfl⟩ := map_eq_ok.1 h
    obtain ⟨rest, hread, hend⟩ := Reading.whole_eq_ok.1 hb
    obtain ⟨ts, hts, hgrammar⟩ := Reading.objective_of_eq_ok hread
    have hwords := Reading.eq_of_finish (fun t ht => (Token.kind_of_mem_words ht).2)
      hgrammar.kind_ne_finish hts hfin hend
    exact hwords ▸ hgrammar
  · intro h
    obtain ⟨found, hfound, has⟩ := h.exists_whole hfin
    exact ⟨_, by rw [hfound]; rfl, rfl, rfl, has⟩

namespace Constraint

def readParts (source : String) : Except LineError Constraint := do
  let tokens := Token.significant source
  let (ts, rest) ← Reading.terms tokens
  let (relation, rest) ← Reading.relation rest
  let (bound, rest) ← Reading.signedNumber rest
  Reading.finish .endOfConstraint rest
  return ⟨Token.coverage tokens.dropLast, String.ofList (Unicode.trim source.toList), ts, relation, bound⟩

lemma readParts_eq (source : String) : readParts source =
    (fun p => ⟨Token.coverage (Token.significant source).dropLast,
      String.ofList (Unicode.trim source.toList), p.1, p.2.1, p.2.2⟩) <$>
      Reading.whole .endOfConstraint Reading.constraint (Token.significant source) := by
  simp only [readParts, Reading.whole, Reading.constraint, bind_assoc, map_bind, pure_bind, map_pure]

lemma read_eq (source : String) : Constraint.read source =
    match (Token.words source).countP Token.isRelation with
    | 0 => .error (.missingRelation (String.ofList (Unicode.trim source.toList)))
    | 1 => readParts source
    | _ => .error (.severalRelations (String.ofList (Unicode.trim source.toList))) := by
  obtain ⟨fin, hsource, hfin⟩ := Token.significant_eq source
  have hcount : (Token.significant source).countP Token.isRelation =
      (Token.words source).countP Token.isRelation := by
    rw [hsource, List.countP_append]
    simp [Token.isRelation, hfin]
  rw [← hcount]
  rfl

lemma isRefusal_readParts {source : String} {error : LineError} (h : readParts source = .error error) :
    Reading.IsRefusal error := by
  rcases bind_eq_error.1 h with h | ⟨r, -, h⟩
  · exact Reading.isRefusal_terms h
  rcases bind_eq_error.1 h with h | ⟨r, -, h⟩
  · exact Reading.isRefusal_relation h
  rcases bind_eq_error.1 h with h | ⟨r, -, h⟩
  · exact Reading.isRefusal_signedNumber h
  rcases bind_eq_error.1 h with h | ⟨r, -, h⟩
  · exact Reading.isRefusal_finish h
  · cases h

theorem read_eq_missingRelation_iff {source text : String} :
    Constraint.read source = .error (.missingRelation text) ↔
      text = String.ofList (Unicode.trim source.toList) ∧
        (Token.words source).countP Token.isRelation = 0 := by
  rw [read_eq]
  rcases (Token.words source).countP Token.isRelation with _ | _ | n
  · simp [eq_comm]
  · simp only [zero_add, one_ne_zero, and_false, iff_false]
    exact fun h => (isRefusal_readParts h).ne_missingRelation text rfl
  · simp

theorem read_eq_severalRelations_iff {source text : String} :
    Constraint.read source = .error (.severalRelations text) ↔
      text = String.ofList (Unicode.trim source.toList) ∧
        2 ≤ (Token.words source).countP Token.isRelation := by
  rw [read_eq]
  rcases (Token.words source).countP Token.isRelation with _ | _ | n
  · simp
  · simp only [zero_add, Nat.not_succ_le_self, and_false, iff_false]
    exact fun h => (isRefusal_readParts h).ne_severalRelations text rfl
  · simp [eq_comm]

theorem exists_read_iff {source : String} {as : List (SignedDecimal × String)} {r : Relation}
    {bound : SignedDecimal} :
    (∃ c, Constraint.read source = .ok c ∧ c.terms.map Term.written = as ∧ c.relation = r ∧
      c.bound = bound) ↔ IsConstraint as r bound (Token.words source) := by
  obtain ⟨fin, hsource, hfin⟩ := Token.significant_eq source
  constructor
  · rintro ⟨c, h, rfl, rfl, rfl⟩
    have hparts : readParts source = .ok c := by
      rw [read_eq] at h
      split at h
      · cases h
      · exact h
      · cases h
    rw [readParts_eq, hsource] at hparts
    obtain ⟨b, hb, rfl⟩ := map_eq_ok.1 hparts
    obtain ⟨rest, hread, hend⟩ := Reading.whole_eq_ok.1 hb
    obtain ⟨ts, hts, hgrammar⟩ := Reading.constraint_of_eq_ok hread
    have hwords := Reading.eq_of_finish (fun t ht => (Token.kind_of_mem_words ht).2)
      hgrammar.kind_ne_finish hts hfin hend
    exact hwords ▸ hgrammar
  · intro h
    obtain ⟨found, hfound, has⟩ := h.exists_whole hfin
    refine ⟨⟨Token.coverage (Token.significant source).dropLast,
      String.ofList (Unicode.trim source.toList), found, r, bound⟩, ?_, has, rfl, rfl⟩
    simp only [read_eq, h.countP_isRelation, readParts_eq]
    rw [hsource, hfound]
    rfl

end Constraint

namespace Grammar

lemma Signs.value_eq {negative : Bool} {ts : List Token} (h : Signs negative ts) (m : Decimal)
    (α : Type) [Scalar α] : (⟨negative, m⟩ : SignedDecimal).value α =
      if Even (ts.countP fun t => t.kind = .minus) then Scalar.ofDecimal m
      else -Scalar.ofDecimal m := by
  have hodd := h.negative_iff
  rw [← Nat.odd_iff, ← Nat.not_even_iff_odd] at hodd
  rw [SignedDecimal.value]
  split_ifs <;> simp_all

theorem read_iff_derives (source : String) :
    (∀ as, (∃ ts, Term.readAll source = .ok ts ∧ ts.map Term.written = as) ↔
      Terms as (Token.words source)) ∧
    (∀ d name as, (∃ o, Objective.read source = .ok o ∧ o.direction = d ∧ o.name = name ∧
      o.terms.map Term.written = as) ↔ IsObjective d name as (Token.words source)) ∧
    (∀ as r bound, (∃ c, Constraint.read source = .ok c ∧ c.terms.map Term.written = as ∧
      c.relation = r ∧ c.bound = bound) ↔ IsConstraint as r bound (Token.words source)) ∧
    (∀ (α : Type) [Scalar α] negative ts m, Signs negative ts →
      (⟨negative, m⟩ : SignedDecimal).value α =
        if Even (ts.countP fun t => t.kind = .minus) then Scalar.ofDecimal m
        else -Scalar.ofDecimal m) ∧
    (∀ text, Constraint.read source = .error (.missingRelation text) ↔
      text = String.ofList (Unicode.trim source.toList) ∧
        (Token.words source).countP Token.isRelation = 0) ∧
    (∀ text, Constraint.read source = .error (.severalRelations text) ↔
      text = String.ofList (Unicode.trim source.toList) ∧
        2 ≤ (Token.words source).countP Token.isRelation) := by
  refine ⟨fun as => ?_, fun d name as => ?_, fun as r bound => ?_, ?_, fun text => ?_,
    fun text => ?_⟩
  · exact Term.exists_readAll_iff
  · exact Objective.exists_read_iff
  · exact Constraint.exists_read_iff
  · exact fun α _ negative ts m h => h.value_eq m α
  · exact Constraint.read_eq_missingRelation_iff
  · exact Constraint.read_eq_severalRelations_iff

end Grammar

end LinearProgram
