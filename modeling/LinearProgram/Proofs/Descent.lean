import Mathlib.Data.List.TakeWhile
import Mathlib.Tactic.SplitIfs
import LinearProgram.Line.Grammar
import LinearProgram.Line.Read

/-!
Readers of tokens take what the grammar derives. A term ends at its name whatever follows it, so that
a reader which takes as much as it can never takes too much.
-/

namespace LinearProgram

open Grammar

lemma bind_eq_ok {ε β γ : Type} {x : Except ε β} {f : β → Except ε γ} {c : γ} :
    x >>= f = .ok c ↔ ∃ b, x = .ok b ∧ f b = .ok c := by
  cases x <;> simp [bind, Except.bind]

lemma bind_eq_error {ε β γ : Type} {x : Except ε β} {f : β → Except ε γ} {e : ε} :
    x >>= f = .error e ↔ x = .error e ∨ ∃ b, x = .ok b ∧ f b = .error e := by
  cases x <;> simp [bind, Except.bind]

lemma map_eq_ok {ε β γ : Type} {x : Except ε β} {f : β → γ} {c : γ} :
    f <$> x = .ok c ↔ ∃ b, x = .ok b ∧ f b = c := by
  cases x <;> simp [Functor.map, Except.map]

lemma map_eq_error {ε β γ : Type} {x : Except ε β} {f : β → γ} {e : ε} :
    f <$> x = .error e ↔ x = .error e := by
  cases x <;> simp [Functor.map, Except.map]

lemma mapError_eq_ok {ε ε' β : Type} {f : ε → ε'} {x : Except ε β} {b : β} :
    x.mapError f = .ok b ↔ x = .ok b := by
  cases x <;> simp [Except.mapError]

section Runs

variable {β : Type} {p : β → Bool} {xs ys : List β}

lemma takeWhile_append_of_stop (hxs : ∀ x ∈ xs, p x = true) (hys : ys.head?.any p = false) :
    (xs ++ ys).takeWhile p = xs := by
  rw [List.takeWhile_append_of_pos hxs]
  cases ys <;> simp_all

lemma dropWhile_append_of_stop (hxs : ∀ x ∈ xs, p x = true) (hys : ys.head?.any p = false) :
    (xs ++ ys).dropWhile p = ys := by
  rw [List.dropWhile_append_of_pos hxs]
  cases ys <;> simp_all

lemma head?_dropWhile_any (p : β → Bool) (xs : List β) : (xs.dropWhile p).head?.any p = false := by
  have h := List.head?_dropWhile_not p xs
  cases hd : xs.dropWhile p with
  | nil => rfl
  | cons y ys => simpa [hd] using h

end Runs

lemma Grammar.IsTerm.ne_nil {a : SignedDecimal × String} {ts : List Token} (h : IsTerm a ts) :
    ts ≠ [] := by
  cases h
  simp

namespace Reading

variable {ts us rest : List Token}

lemma signs_append {negative : Bool} (h : Signs negative ts)
    (hr : rest.head?.any Token.isSign = false) : signs (ts ++ rest) = (negative, rest) := by
  rw [signs, takeWhile_append_of_stop h.isSign hr, dropWhile_append_of_stop h.isSign hr]
  simp [← h.negative_iff]

lemma exists_signs (us : List Token) : ∃ ts, us = ts ++ (signs us).2 ∧ Signs (signs us).1 ts := by
  refine ⟨us.takeWhile Token.isSign, List.takeWhile_append_dropWhile.symm, ?_, ?_⟩
  · exact fun t ht => List.mem_takeWhile_imp ht
  · simp [signs]

lemma factor_append {m : Decimal} {name : Token} (h : Factor m ts) (hn : name.kind = .name)
    (rest : List Token) : factor (ts ++ name :: rest) = (m, name :: rest) := by
  cases h with
  | absent => simp [factor, hn]
  | number ht => simp [factor, ht, hn]
  | starred ht hs => simp [factor, ht, hs]

lemma exists_factor (us : List Token) : ∃ ts, us = ts ++ (factor us).2 ∧ Factor (factor us).1 ts := by
  cases us with
  | nil => exact ⟨[], rfl, .absent⟩
  | cons t us =>
    by_cases ht : t.kind = .number
    · cases us with
      | nil => exact ⟨[t], by simp [factor, ht], by simpa [factor, ht] using Factor.number ht⟩
      | cons s us =>
        by_cases hs : s.kind = .star
        · exact ⟨[t, s], by simp [factor, ht, hs], by simpa [factor, ht] using Factor.starred ht hs⟩
        · exact ⟨[t], by simp [factor, ht, hs], by simpa [factor, ht] using Factor.number ht⟩
    · exact ⟨[], by simp [factor, ht], by simpa [factor, ht] using Factor.absent⟩

lemma expect_eq_ok {kind : TokenKind} {e : Expectation} {t : Token} :
    expect kind e us = .ok (t, rest) ↔ us = t :: rest ∧ t.kind = kind := by
  cases us with
  | nil => simp [expect]
  | cons u us =>
    rw [expect]
    split
    · simp only [Except.ok.injEq, Prod.mk.injEq, List.cons.injEq]
      exact ⟨fun h => ⟨h, h.1 ▸ ‹_›⟩, And.left⟩
    · simp only [reduceCtorEq, List.cons.injEq, false_iff]
      rintro ⟨⟨rfl, -⟩, h⟩
      contradiction

lemma head?_isSign_of_factor {m : Decimal} {name : Token} (h : Factor m ts)
    (hn : name.kind = .name) (rest : List Token) :
    (ts ++ name :: rest).head?.any Token.isSign = false := by
  cases h <;> simp_all [Token.isSign]

lemma coverage_concat (ts : List Token) (name : Token) (rest : List Token) :
    (((ts ++ [name] ++ rest).head?.map Token.span).getD name.span).join name.span =
      Token.coverage (ts ++ [name]) := by
  rw [Token.coverage, List.getLast?_concat]
  cases ts <;> rfl

theorem term_append {a : SignedDecimal × String} (h : IsTerm a ts) (rest : List Token) :
    term (ts ++ rest) = .ok (⟨Token.coverage ts, a.1, a.2⟩, rest) := by
  cases h with
  | @mk negative magnitude signTokens factorTokens name hs hf hn =>
    have hsigns := signs_append hs (head?_isSign_of_factor hf hn rest)
    have hfactor := factor_append hf hn rest
    have hname : expect .name .variableName (name :: rest) = .ok (name, rest) :=
      expect_eq_ok.2 ⟨rfl, hn⟩
    rw [← coverage_concat _ _ rest]
    simp only [List.append_assoc, List.singleton_append, term, hsigns, hfactor, hname, bind,
      Except.bind, pure, Except.pure]

theorem isTerm_of_term {t : Term} (h : term us = .ok (t, rest)) :
    ∃ ts, us = ts ++ rest ∧ IsTerm t.written ts := by
  obtain ⟨signTokens, hsigns, hs⟩ := exists_signs us
  obtain ⟨factorTokens, hfactor, hf⟩ := exists_factor (signs us).2
  simp only [term, bind, Except.bind, pure, Except.pure] at h
  split at h
  · cases h
  · rename_i v hv
    cases h
    obtain ⟨hname, hkind⟩ := expect_eq_ok.1 hv
    refine ⟨signTokens ++ factorTokens ++ [v.1], ?_, .mk hs hf hkind⟩
    rw [hname] at hfactor
    rw [hfactor] at hsigns
    simpa using hsigns

lemma furtherTerms_of_term {t : Term} (hs : us.head?.any Token.isSign = true)
    (ht : term us = .ok (t, rest)) :
    furtherTerms us = (furtherTerms rest).map fun r => (t :: r.1, r.2) := by
  rw [furtherTerms, if_pos hs]
  split
  · simp_all
  · rename_i t' rest' h'
    obtain ⟨rfl, rfl⟩ : t' = t ∧ rest' = rest := by simpa [ht] using h'.symm
    cases furtherTerms rest' <;> rfl

lemma furtherTerms_of_error {error : LineError} (hs : us.head?.any Token.isSign = true)
    (ht : term us = .error error) : furtherTerms us = .error error := by
  rw [furtherTerms, if_pos hs]
  split <;> simp_all

theorem furtherTerms_append {as : List (SignedDecimal × String)} (h : FurtherTerms as ts)
    (hr : rest.head?.any Token.isSign = false) :
    ∃ more, furtherTerms (ts ++ rest) = .ok (more, rest) ∧ more.map Term.written = as := by
  induction h with
  | nil =>
    refine ⟨[], ?_, rfl⟩
    rw [List.nil_append, furtherTerms, if_neg (by simp [hr])]
  | @cons a as ts us ha hs _ ih =>
    obtain ⟨more, hmore, has⟩ := ih
    have hsign : (ts ++ (us ++ rest)).head?.any Token.isSign = true := by
      cases ts with
      | nil => cases hs
      | cons t ts => exact hs
    refine ⟨⟨Token.coverage ts, a.1, a.2⟩ :: more, ?_, by rw [List.map_cons, has]; rfl⟩
    rw [List.append_assoc, furtherTerms_of_term hsign (term_append ha _), hmore]
    rfl

theorem furtherTerms_of_eq_ok {more : List Term} (h : furtherTerms us = .ok (more, rest)) :
    ∃ ts, us = ts ++ rest ∧ FurtherTerms (more.map Term.written) ts := by
  fun_induction furtherTerms us generalizing more with
  | case1 us hs e ht => cases h
  | case2 us hs t rest' ht hlt e hr ih => cases h
  | case3 us hs t rest' ht hlt more' rest'' hr ih =>
    cases h
    obtain ⟨ts, rfl, hterm⟩ := isTerm_of_term ht
    obtain ⟨us, rfl, hfurther⟩ := ih hr
    have hsign : ts.head?.any Token.isSign = true := by
      obtain ⟨t, ts, rfl⟩ := List.exists_cons_of_ne_nil hterm.ne_nil
      exact hs
    exact ⟨ts ++ us, by simp, .cons hterm hsign hfurther⟩
  | case4 us hs =>
    cases h
    exact ⟨[], rfl, .nil⟩

theorem terms_append {as : List (SignedDecimal × String)} (h : Grammar.Terms as ts)
    (hr : rest.head?.any Token.isSign = false) :
    ∃ found, terms (ts ++ rest) = .ok (found, rest) ∧ found.map Term.written = as := by
  cases h with
  | @mk a as ts us ha hs =>
    obtain ⟨more, hmore, has⟩ := furtherTerms_append hs hr
    refine ⟨⟨Token.coverage ts, a.1, a.2⟩ :: more, ?_, by rw [List.map_cons, has]; rfl⟩
    rw [List.append_assoc, terms, term_append ha]
    simp only [hmore, bind, Except.bind, pure, Except.pure]

theorem terms_of_eq_ok {found : List Term} (h : terms us = .ok (found, rest)) :
    ∃ ts, us = ts ++ rest ∧ Grammar.Terms (found.map Term.written) ts := by
  simp only [terms, bind, Except.bind, pure, Except.pure] at h
  split at h
  · cases h
  · rename_i first hfirst
    split at h
    · cases h
    · rename_i more hmore
      cases h
      obtain ⟨ts, rfl, hterm⟩ := isTerm_of_term hfirst
      obtain ⟨us, hus, hfurther⟩ := furtherTerms_of_eq_ok hmore
      exact ⟨ts ++ us, by rw [hus, List.append_assoc], .mk hterm hfurther⟩

lemma finish_eq_ok {e : Expectation} {t : Token} (ht : t.kind = .finish) :
    finish e [t] = .ok () := by
  simp [finish, ht]

lemma eq_of_finish {e : Expectation} {ws : List Token} {fin : Token}
    (hws : ∀ t ∈ ws, t.kind ≠ .finish) (hts : ∀ t ∈ ts, t.kind ≠ .finish)
    (h : ws ++ [fin] = ts ++ rest) (hfin : fin.kind = .finish) (hrest : finish e rest = .ok ()) :
    ts = ws := by
  rcases List.append_eq_append_iff.1 h with ⟨us, rfl, hus⟩ | ⟨us, rfl, hus⟩
  · cases us with
    | nil => simp
    | cons u us =>
      obtain ⟨rfl, hnil⟩ := List.cons_eq_cons.1 hus
      exact absurd hfin (hts fin (by simp))
  · cases us with
    | nil => simp
    | cons u us =>
      rw [hus, List.cons_append, finish] at hrest
      have hu := hws u (by simp)
      rw [if_neg hu] at hrest
      cases hrest

lemma isDirection_iff {d : Direction} {t : Token} :
    IsDirection d t ↔ t.kind = .name ∧ direction? t.text = some d := by
  constructor
  · intro h
    cases h with
    | maximize hk hw =>
      simp only [List.mem_cons, List.not_mem_nil, or_false] at hw
      refine ⟨hk, ?_⟩
      rcases hw with hw | hw <;> simp [direction?, hw]
    | minimize hk hw =>
      simp only [List.mem_cons, List.not_mem_nil, or_false] at hw
      refine ⟨hk, ?_⟩
      rcases hw with hw | hw <;> simp [direction?, hw]
  · rintro ⟨hk, hd⟩
    simp only [direction?] at hd
    split_ifs at hd with hmax hmin
    · cases hd
      apply IsDirection.maximize hk
      rcases hmax with h | h <;> rw [h] <;> simp
    · cases hd
      apply IsDirection.minimize hk
      rcases hmin with h | h <;> rw [h] <;> simp

lemma relation_eq_ok {r : Relation} :
    relation us = .ok (r, rest) ↔ ∃ t, us = t :: rest ∧ IsRelation r t := by
  cases us with
  | nil => simp [relation]
  | cons t us =>
    constructor
    · intro h
      rw [relation] at h
      split at h <;> cases h
      · exact ⟨t, rfl, .atMost ‹_›⟩
      · exact ⟨t, rfl, .atLeast ‹_›⟩
      · exact ⟨t, rfl, .equal ‹_›⟩
    · rintro ⟨t', h, hr⟩
      obtain ⟨rfl, rfl⟩ := List.cons_eq_cons.1 h
      cases hr <;> simp [relation, *]

lemma signedNumber_eq_ok {d : SignedDecimal} :
    signedNumber us = .ok (d, rest) ↔ ∃ signTokens number, us = signTokens ++ number :: rest ∧
      Signs d.negative signTokens ∧ number.kind = .number ∧
        d.magnitude = Decimal.ofLiteral number.text.toList := by
  constructor
  · intro h
    obtain ⟨signTokens, hsigns, hs⟩ := exists_signs us
    obtain ⟨⟨m, rest'⟩, hnumber, hd⟩ := bind_eq_ok.1 h
    obtain ⟨⟨number, rest''⟩, hexpect, hm⟩ := bind_eq_ok.1 hnumber
    cases hd
    cases hm
    obtain ⟨hus, hk⟩ := expect_eq_ok.1 hexpect
    exact ⟨signTokens, number, hus ▸ hsigns, hs, hk, rfl⟩
  · rintro ⟨signTokens, number, rfl, hs, hk, hm⟩
    have hsign : (number :: rest).head?.any Token.isSign = false := by simp [Token.isSign, hk]
    have hnumber : expect .number .number (number :: rest) = .ok (number, rest) :=
      expect_eq_ok.2 ⟨rfl, hk⟩
    rw [signedNumber, signs_append hs hsign]
    simp only [Reading.number, hnumber, bind, Except.bind, pure, Except.pure, ← hm]

lemma direction_eq_ok {d : Direction} :
    direction us = .ok (d, rest) ↔ ∃ word, us = word :: rest ∧ IsDirection d word := by
  constructor
  · intro h
    obtain ⟨⟨word, us⟩, hword, hd⟩ := bind_eq_ok.1 h
    obtain ⟨rfl, hk⟩ := expect_eq_ok.1 hword
    dsimp only at hd
    split at hd
    · cases hd
      exact ⟨word, rfl, isDirection_iff.2 ⟨hk, ‹_›⟩⟩
    · cases hd
  · rintro ⟨word, rfl, hword⟩
    obtain ⟨hk, hd⟩ := isDirection_iff.1 hword
    have : expect .name .direction (word :: rest) = .ok (word, rest) := expect_eq_ok.2 ⟨rfl, hk⟩
    simp only [direction, this, hd, bind, Except.bind, pure, Except.pure]

def IsRefusal (error : LineError) : Prop :=
  ∃ e us, error = refuse e us

variable {error : LineError}

lemma IsRefusal.ne_missingRelation (h : IsRefusal error) (text : String) :
    error ≠ .missingRelation text := by
  obtain ⟨e, us, rfl⟩ := h
  cases us with
  | nil => simp [refuse]
  | cons t us =>
    rw [refuse]
    split <;> simp

lemma IsRefusal.ne_severalRelations (h : IsRefusal error) (text : String) :
    error ≠ .severalRelations text := by
  obtain ⟨e, us, rfl⟩ := h
  cases us with
  | nil => simp [refuse]
  | cons t us =>
    rw [refuse]
    split <;> simp

lemma isRefusal_expect {kind : TokenKind} {e : Expectation} (h : expect kind e us = .error error) :
    IsRefusal error := by
  cases us with
  | nil =>
    cases h
    exact ⟨e, [], rfl⟩
  | cons t us =>
    rw [expect] at h
    split at h <;> cases h
    exact ⟨e, t :: us, rfl⟩

lemma isRefusal_finish {e : Expectation} (h : finish e us = .error error) : IsRefusal error := by
  cases us with
  | nil => cases h
  | cons t us =>
    rw [finish] at h
    split at h <;> cases h
    exact ⟨e, t :: us, rfl⟩

lemma isRefusal_relation (h : relation us = .error error) : IsRefusal error := by
  cases us with
  | nil =>
    cases h
    exact ⟨.relation, [], rfl⟩
  | cons t us =>
    rw [relation] at h
    split at h <;> cases h
    exact ⟨.relation, t :: us, rfl⟩

lemma isRefusal_signedNumber (h : signedNumber us = .error error) : IsRefusal error := by
  rcases bind_eq_error.1 h with h | ⟨r, -, h⟩
  · rcases bind_eq_error.1 h with h | ⟨r, -, h⟩
    · exact isRefusal_expect h
    · cases h
  · cases h

lemma isRefusal_term (h : term us = .error error) : IsRefusal error := by
  rcases bind_eq_error.1 h with h | ⟨r, -, h⟩
  · exact isRefusal_expect h
  · cases h

lemma isRefusal_furtherTerms (h : furtherTerms us = .error error) : IsRefusal error := by
  fun_induction furtherTerms us with
  | case1 us hs e ht =>
    cases h
    exact isRefusal_term ht
  | case2 us hs t rest ht hlt e hr ih =>
    cases h
    exact ih hr
  | case3 us hs t rest ht hlt more rest' hr ih => cases h
  | case4 us hs => cases h

lemma isRefusal_terms (h : terms us = .error error) : IsRefusal error := by
  rcases bind_eq_error.1 h with h | ⟨r, -, h⟩
  · exact isRefusal_term h
  · rcases bind_eq_error.1 h with h | ⟨r, -, h⟩
    · exact isRefusal_furtherTerms h
    · cases h

end Reading

end LinearProgram
