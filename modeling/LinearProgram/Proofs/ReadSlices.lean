import LinearProgram.Proofs.Slices

namespace LinearProgram

open Grammar

structure Term.StandsFor (t : Term) (ts : List Token) : Prop where
  isTerm : IsTerm t.written ts
  span_eq : t.span = Token.coverage ts

lemma Grammar.IsObjective.ne_nil {d : Direction} {name : String}
    {as : List (SignedDecimal × String)} {ts : List Token} (h : IsObjective d name as ts) :
    ts ≠ [] := by
  cases h
  exact List.cons_ne_nil _ _

namespace Reading

variable {β : Type} {us rest : List Token}

lemma exists_standsFor_of_term {t : Term} (h : term us = .ok (t, rest)) :
    ∃ ts, us = ts ++ rest ∧ t.StandsFor ts := by
  obtain ⟨ts, rfl, hterm⟩ := isTerm_of_term h
  rw [term_append hterm rest] at h
  obtain ⟨hcovers, -⟩ := Prod.mk.inj (Except.ok.inj h)
  exact ⟨ts, rfl, hterm, congrArg Term.span hcovers.symm⟩

lemma exists_pieces_of_furtherTerms {more : List Term} (h : furtherTerms us = .ok (more, rest)) :
    ∃ pieces : List (Term × List Token), more = pieces.map Prod.fst ∧
      us = (pieces.map Prod.snd).flatten ++ rest ∧ ∀ p ∈ pieces, p.1.StandsFor p.2 := by
  fun_induction furtherTerms us generalizing more with
  | case1 us hs e ht => cases h
  | case2 us hs t rest' ht hlt e hr ih => cases h
  | case3 us hs t rest' ht hlt more' rest'' hr ih =>
    cases h
    obtain ⟨ts, rfl, hts⟩ := exists_standsFor_of_term ht
    obtain ⟨pieces, rfl, rfl, hpieces⟩ := ih hr
    exact ⟨(t, ts) :: pieces, rfl, by simp, List.forall_mem_cons.2 ⟨hts, hpieces⟩⟩
  | case4 us hs =>
    cases h
    exact ⟨[], rfl, rfl, List.forall_mem_nil _⟩

theorem exists_pieces {found : List Term} (h : terms us = .ok (found, rest)) :
    ∃ pieces : List (Term × List Token), found = pieces.map Prod.fst ∧
      us = (pieces.map Prod.snd).flatten ++ rest ∧ ∀ p ∈ pieces, p.1.StandsFor p.2 := by
  obtain ⟨⟨t, us'⟩, ht, h⟩ := bind_eq_ok.1 h
  obtain ⟨⟨more, rest'⟩, hmore, h⟩ := bind_eq_ok.1 h
  cases h
  obtain ⟨ts, rfl, hts⟩ := exists_standsFor_of_term ht
  obtain ⟨pieces, rfl, rfl, hpieces⟩ := exists_pieces_of_furtherTerms hmore
  exact ⟨(t, ts) :: pieces, rfl, by simp, List.forall_mem_cons.2 ⟨hts, hpieces⟩⟩

lemma kind_of_mem_pieces {pieces : List (Term × List Token)}
    (h : ∀ p ∈ pieces, p.1.StandsFor p.2) :
    ∀ t ∈ (pieces.map Prod.snd).flatten, t.kind ∈ termKinds := by
  intro t ht
  obtain ⟨ts, hts, ht⟩ := List.mem_flatten.1 ht
  obtain ⟨p, hp, rfl⟩ := List.mem_map.1 hts
  exact (h p hp).isTerm.kind t ht

lemma whole_terms_of_standsFor {t : Term} {ts : List Token} {fin : Token} (h : t.StandsFor ts)
    (hfin : fin.kind = .finish) : whole .endOfExpression terms (ts ++ [fin]) = .ok [t] := by
  have hterm : term (ts ++ [fin]) = .ok (t, [fin]) := by
    rw [term_append h.isTerm, ← h.span_eq]
    rfl
  have hfurther : furtherTerms [fin] = .ok ([], [fin]) := by
    rw [furtherTerms, if_neg (by simp [Token.isSign, hfin])]
  have hterms : terms (ts ++ [fin]) = .ok ([t], [fin]) :=
    bind_eq_ok.2 ⟨_, hterm, bind_eq_ok.2 ⟨_, hfurther, rfl⟩⟩
  exact bind_eq_ok.2 ⟨_, hterms, bind_eq_ok.2 ⟨_, finish_eq_ok hfin, rfl⟩⟩

section Whole

variable {read : List Token → Except LineError (β × List Token)} {e : Expectation} {b : β}
  {source slice : String} {k : Nat} {f : β → β} {segment : List Token}

lemma exists_whole_slice (hread : Commutes (Span.shift k) f read)
    (hslice : (Token.words slice).map (Token.move (Span.shift k)) = segment)
    (h : whole e read (segment ++ [Token.endAt 0]) = .ok b) :
    ∃ b', whole e read (Token.significant slice) = .ok b' ∧ f b' = b := by
  have hmove := hread.whole e (Token.significant slice)
  rw [Token.map_move_significant, hslice, h] at hmove
  cases hb : whole e read (Token.significant slice) with
  | error error =>
    rw [hb] at hmove
    cases hmove
  | ok b' =>
    rw [hb] at hmove
    exact ⟨b', rfl, (Except.ok.inj hmove).symm⟩

lemma exists_whole_line {f₀ : β → β} (hid : Commutes id f₀ read) (hf₀ : ∀ b, f₀ b = b)
    (hread : Commutes (Span.shift (Token.coverage (Token.words source)).start) f read)
    (hne : Token.words source ≠ []) (h : whole e read (Token.significant source) = .ok b) :
    ∃ slice b', (Token.coverage (Token.words source)).slice? source = some slice ∧
      (Token.words slice).map
        (Token.move (Span.shift (Token.coverage (Token.words source)).start)) =
          Token.words source ∧
      whole e read (Token.significant slice) = .ok b' ∧ f b' = b := by
  have hsplit : Token.words source = [] ++ Token.words source ++ [] := by simp
  obtain ⟨slice, hslice, hmoved⟩ := Token.exists_slice hsplit hne
  obtain ⟨b', hb', hf⟩ := exists_whole_slice hread hmoved
    (whole_significant hid hf₀ e source ▸ h)
  exact ⟨slice, b', hslice, hmoved, hb', hf⟩

lemma exists_terms_of_objective {b : Direction × String × List Term} {ts : List Token}
    (h : whole e objective ts = .ok b) :
    ∃ us rest, us <:+ ts ∧ terms us = .ok (b.2.2, rest) := by
  obtain ⟨rest, h, -⟩ := whole_eq_ok.1 h
  obtain ⟨word, colon, name, eq, us, rfl, -, -, -, -, -, hterms⟩ := objective_eq_ok.1 h
  exact ⟨us, rest, List.suffix_append [word, colon, name, eq] us, hterms⟩

lemma exists_terms_of_constraint {b : List Term × Relation × SignedDecimal} {ts : List Token}
    (h : whole e constraint ts = .ok b) : ∃ rest, terms ts = .ok (b.1, rest) := by
  obtain ⟨rest, h, -⟩ := whole_eq_ok.1 h
  obtain ⟨⟨found, rest⟩, hterms, h⟩ := bind_eq_ok.1 h
  obtain ⟨⟨r, rest⟩, -, h⟩ := bind_eq_ok.1 h
  obtain ⟨⟨bound, rest⟩, -, h⟩ := bind_eq_ok.1 h
  cases h
  exact ⟨_, hterms⟩

lemma span_subset_words {found : List Term} (h : terms us = .ok (found, rest))
    (hus : us <:+ Token.significant source) {t : Term} (ht : t ∈ found) :
    t.span ⊆ Token.coverage (Token.words source) := by
  obtain ⟨pieces, rfl, rfl, hpieces⟩ := exists_pieces h
  obtain ⟨p, hp, rfl⟩ := List.mem_map.1 ht
  rw [(hpieces p hp).span_eq]
  refine Token.coverage_subset (Token.ordered_words source) (hpieces p hp).isTerm.ne_nil ?_
  intro t ht
  obtain ⟨fin, hsource, hfin⟩ := Token.significant_eq source
  have hmem : t ∈ Token.significant source := by
    refine hus.subset (List.mem_append_left rest ?_)
    exact List.mem_flatten.2 ⟨p.2, List.mem_map_of_mem hp, ht⟩
  rw [hsource, List.mem_append, List.mem_singleton] at hmem
  rcases hmem with hmem | rfl
  · exact hmem
  · exact absurd hfin (kind_ne_finish (hpieces p hp).isTerm.kind t ht)

end Whole

end Reading

def Objective.move (g : Span → Span) (o : Objective) : Objective :=
  { o with span := g o.span, terms := o.terms.map (Term.move g) }

def Constraint.move (g : Span → Span) (c : Constraint) : Constraint :=
  { c with span := g c.span, terms := c.terms.map (Term.move g) }

namespace Span

open LinearProgram.Reading

variable {source : String}

theorem ordered_readAll {ts : List Term} (h : Term.readAll source = .ok ts) :
    Ordered (ts.map Term.span) ∧ ∀ t ∈ ts, ∃ slice t', t.span.slice? source = some slice ∧
      Term.readAll slice = .ok [t'] ∧ t'.move (shift t.span.start) = t := by
  obtain ⟨fin, hsource, hfin⟩ := Token.significant_eq source
  obtain ⟨rest, hterms, hend⟩ := whole_eq_ok.1 h
  obtain ⟨pieces, rfl, hpieces, hstands⟩ := exists_pieces hterms
  rw [hsource] at hpieces
  have hwords := eq_of_finish (fun t ht => (Token.kind_of_mem_words ht).2)
    (kind_ne_finish (kind_of_mem_pieces hstands)) hpieces hfin hend
  have hspans : (pieces.map Prod.fst).map Term.span =
      (pieces.map Prod.snd).map Token.coverage := by
    rw [List.map_map, List.map_map]
    exact List.map_congr_left fun p hp => (hstands p hp).span_eq
  constructor
  · rw [hspans]
    refine Token.ordered_coverage (hwords ▸ Token.ordered_words source) ?_
    rw [List.forall_mem_map]
    exact fun p hp => (hstands p hp).isTerm.ne_nil
  · rw [List.forall_mem_map]
    intro p hp
    obtain ⟨before, after, rfl⟩ := List.append_of_mem hp
    have hstandsFor := hstands p hp
    have hsplit : Token.words source =
        (before.map Prod.snd).flatten ++ p.2 ++ (after.map Prod.snd).flatten := by
      simp [← hwords]
    obtain ⟨slice, hslice, hmoved⟩ := Token.exists_slice hsplit hstandsFor.isTerm.ne_nil
    rw [← hstandsFor.span_eq] at hslice hmoved
    obtain ⟨b, hb, hmap⟩ := exists_whole_slice (commutes_terms (shift_join _)) hmoved
      (whole_terms_of_standsFor hstandsFor rfl)
    obtain ⟨t', rfl, ht'⟩ := List.map_eq_singleton_iff.1 hmap
    exact ⟨slice, t', hslice, hb, ht'⟩

lemma shift_coverage_words {slice : String} {k : Nat} (hne : Token.words source ≠ [])
    (h : (Token.words slice).map (Token.move (shift k)) = Token.words source) :
    (Token.coverage (Token.words slice)).shift k = Token.coverage (Token.words source) := by
  have hslice : Token.words slice ≠ [] := by
    rintro hnil
    simp [hnil, hne.symm] at h
  rw [← h]
  exact (Token.coverage_map_move (shift_join k) hslice
    fun t ht => (Token.kind_of_mem_words ht).2).symm

theorem objective_of_slice {o : Objective} (h : Objective.read source = .ok o) :
    (∀ t ∈ o.terms, t.span ⊆ o.span) ∧ ∃ slice o', o.span.slice? source = some slice ∧
      Objective.read slice = .ok o' ∧ o'.move (shift o.span.start) = o := by
  have hne := (Objective.exists_read_iff.1 ⟨o, h, rfl, rfl, rfl⟩).ne_nil
  rw [Objective.read_eq, Token.dropLast_significant] at h
  obtain ⟨b, hb, rfl⟩ := map_eq_ok.1 h
  constructor
  · obtain ⟨us, rest, hus, hterms⟩ := exists_terms_of_objective hb
    exact fun t ht => span_subset_words hterms hus ht
  · obtain ⟨slice, b', hslice, hwords, hread, rfl⟩ := exists_whole_line
      (commutes_objective fun _ _ => rfl)
      (fun b => congrArg (fun ts => (b.1, b.2.1, ts)) (Term.map_move_id b.2.2))
      (commutes_objective (shift_join _)) hne hb
    refine ⟨slice, _, hslice, by rw [Objective.read_eq, hread]; rfl, ?_⟩
    rw [Token.dropLast_significant, Objective.move, shift_coverage_words hne hwords]
    rfl

theorem constraint_of_slice {c : Constraint} (h : Constraint.read source = .ok c) :
    (∀ t ∈ c.terms, t.span ⊆ c.span) ∧ ∃ slice c', c.span.slice? source = some slice ∧
      Constraint.read slice = .ok c' ∧
        { c'.move (shift c.span.start) with text := c.text } = c := by
  have hconstraint := Constraint.exists_read_iff.1 ⟨c, h, rfl, rfl, rfl⟩
  have hne : Token.words source ≠ [] := by
    intro hnil
    have hcount := hconstraint.countP_isRelation
    simp [hnil] at hcount
  rw [Constraint.read_eq, hconstraint.countP_isRelation] at h
  obtain ⟨b, hb, rfl⟩ := map_eq_ok.1 (Constraint.readParts_eq source ▸ h)
  constructor
  · obtain ⟨rest, hterms⟩ := exists_terms_of_constraint hb
    rw [Token.dropLast_significant]
    exact fun t ht => span_subset_words hterms List.suffix_rfl ht
  · obtain ⟨slice, b', hslice, hwords, hread, rfl⟩ := exists_whole_line
      (commutes_constraint fun _ _ => rfl)
      (fun b => congrArg (fun ts => (ts, b.2)) (Term.map_move_id b.1))
      (commutes_constraint (shift_join _)) hne hb
    have hcount : (Token.words slice).countP Token.isRelation = 1 := by
      rw [← hconstraint.countP_isRelation, ← hwords, Token.countP_isRelation_move]
    have hparts : Constraint.readParts slice =
        .ok ⟨Token.coverage (Token.words slice), String.ofList (Unicode.trim slice.toList),
          b'.1, b'.2.1, b'.2.2⟩ := by
      rw [Constraint.readParts_eq, hread, Token.dropLast_significant]
      rfl
    rw [Token.dropLast_significant]
    refine ⟨slice, _, hslice, by rw [Constraint.read_eq, hcount]; exact hparts, ?_⟩
    rw [Constraint.move, shift_coverage_words hne hwords]
    rfl

theorem delimits (source : String) :
    (∀ ts, Term.readAll source = .ok ts → Ordered (ts.map Term.span) ∧
      ∀ t ∈ ts, ∃ slice t', t.span.slice? source = some slice ∧
        Term.readAll slice = .ok [t'] ∧ t'.move (shift t.span.start) = t) ∧
    (∀ o, Objective.read source = .ok o → (∀ t ∈ o.terms, t.span ⊆ o.span) ∧
      ∃ slice o', o.span.slice? source = some slice ∧ Objective.read slice = .ok o' ∧
        o'.move (shift o.span.start) = o) ∧
    ∀ c, Constraint.read source = .ok c → (∀ t ∈ c.terms, t.span ⊆ c.span) ∧
      ∃ slice c', c.span.slice? source = some slice ∧ Constraint.read slice = .ok c' ∧
        { c'.move (shift c.span.start) with text := c.text } = c :=
  ⟨fun _ => ordered_readAll, fun _ => objective_of_slice, fun _ => constraint_of_slice⟩

theorem delimits_of_accent :
    (∃ slice t', (⟨4, 9⟩ : Span).slice? " é - 2*y #é" = some slice ∧
      Term.readAll slice = .ok [t'] ∧ t'.move (shift 4) = ⟨⟨4, 9⟩, ⟨true, 2, 0⟩, "y"⟩) ∧
    (∃ slice o', (⟨1, 14⟩ : Span).slice? " max: é = 2*y #" = some slice ∧
      Objective.read slice = .ok o' ∧
      o'.move (shift 1) = ⟨⟨1, 14⟩, .maximize, "é", [⟨⟨11, 14⟩, ⟨false, 2, 0⟩, "y"⟩]⟩) ∧
    ∃ slice c', (⟨2, 11⟩ : Span).slice? "  é >= -.5 # é" = some slice ∧
      Constraint.read slice = .ok c' ∧
      { c'.move (shift 2) with text := "é >= -.5 # é" } =
        ⟨⟨2, 11⟩, "é >= -.5 # é", [⟨⟨2, 4⟩, ⟨false, 1, 0⟩, "é"⟩], .atLeast, ⟨true, 5, 1⟩⟩ := by
  have hterms : Term.readAll " é - 2*y #é" =
      .ok [⟨⟨1, 3⟩, ⟨false, 1, 0⟩, "é"⟩, ⟨⟨4, 9⟩, ⟨true, 2, 0⟩, "y"⟩] := by decide +kernel
  have hobjective : Objective.read " max: é = 2*y #" =
      .ok ⟨⟨1, 14⟩, .maximize, "é", [⟨⟨11, 14⟩, ⟨false, 2, 0⟩, "y"⟩]⟩ := by decide +kernel
  have hconstraint : Constraint.read "  é >= -.5 # é" =
      .ok ⟨⟨2, 11⟩, "é >= -.5 # é", [⟨⟨2, 4⟩, ⟨false, 1, 0⟩, "é"⟩], .atLeast, ⟨true, 5, 1⟩⟩ := by
    decide +kernel
  refine ⟨?_, ?_, ?_⟩
  · exact ((delimits _).1 _ hterms).2 ⟨⟨4, 9⟩, ⟨true, 2, 0⟩, "y"⟩ (by simp)
  · exact ((delimits _).2.1 _ hobjective).2
  · exact ((delimits _).2.2 _ hconstraint).2

end Span

end LinearProgram
