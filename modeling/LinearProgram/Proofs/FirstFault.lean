import LinearProgram.Proofs.Outcomes
import LinearProgram.Proofs.Slices

/-!
A line is refused at the first token that no line of its kind can have there.
-/

namespace LinearProgram

open Grammar Reading

namespace Token

variable {before after : List Token} {t : Token}

def inFront (s : Span) (ts : List Token) : List Token :=
  ts.filter fun t => t.span.stop ≤ s.start

lemma inFront_eq (h : Span.Ordered ((before ++ t :: after).map span)) :
    inFront t.span (before ++ t :: after) = before := by
  have hlt (u : Token) (hu : u ∈ before ++ t :: after) : u.span.start < u.span.stop :=
    h.start_lt_stop _ (List.mem_map_of_mem hu)
  have hpairwise := List.pairwise_append.1 (List.pairwise_map.1 h.pairwise)
  have hbefore : before.filter (fun u => u.span.stop ≤ t.span.start) = before :=
    List.filter_eq_self.2 fun u hu => by simpa using hpairwise.2.2 u hu t List.mem_cons_self
  have hafter : (t :: after).filter (fun u => u.span.stop ≤ t.span.start) = [] := by
    refine List.filter_eq_nil_iff.2 fun u hu => ?_
    have hstop := hlt u (List.mem_append_right _ hu)
    have hstart : t.span.start ≤ u.span.start := by
      rcases List.mem_cons.1 hu with rfl | hu
      · exact le_rfl
      · have ht := hlt t (by simp)
        exact ht.le.trans ((List.pairwise_cons.1 hpairwise.2.1).1 u hu)
    simpa using hstart.trans_lt hstop
  rw [inFront, List.filter_append, hbefore, hafter, List.append_nil]

end Token

namespace Grammar

def Begins (L : Language Token) (ts : List Token) : Prop :=
  ∃ more, ts ++ more ∈ L

/-- The error says where the words leave all sentences, or that they end inside of one. -/
inductive Pinpoints (L : Language Token) (ws : List Token) : LineError → Prop
  | token {t : Token} (e : Expectation) : t ∈ ws → Begins L (Token.inFront t.span ws) →
      ¬ Begins L (Token.inFront t.span ws ++ [t]) →
      Pinpoints L ws (.unexpectedToken e t.text t.span)
  | finish {more : List Token} (e : Expectation) : more ≠ [] → ws ++ more ∈ L →
      Pinpoints L ws (.unexpectedEnd e)

def Judges {β : Type} (L : Language Token) (ws : List Token) : Except LineError β → Prop
  | .ok _ => ws ∈ L
  | .error error => ws ∉ L ∧ Pinpoints L ws error

end Grammar

namespace Reading

variable {β : Type} {read : List Token → Except LineError (β × List Token)} {L : Language Token}
  {e : Expectation} {error : LineError} {ws ts before after : List Token} {t fin : Token}

def Accepts (e : Expectation) (read : List Token → Except LineError (β × List Token))
    (L : Language Token) : Prop :=
  ∀ ts ∈ L, (∀ t ∈ ts, t.kind ≠ .finish) ∧
    ∀ fin : Token, fin.kind = .finish → ∃ b, whole e read (ts ++ [fin]) = .ok b

lemma not_begins (hL : Accepts e read L)
    (hread : ∀ rest, rest.head? = some t → ∃ error, whole e read (before ++ rest) = .error error) :
    ¬ Begins L (before ++ [t]) := by
  rintro ⟨more, hmem⟩
  obtain ⟨b, hok⟩ := (hL _ hmem).2 (Token.endAt 0) rfl
  obtain ⟨error, herror⟩ := hread (t :: more ++ [Token.endAt 0]) rfl
  have hsame : before ++ [t] ++ more ++ [Token.endAt 0] =
      before ++ (t :: more ++ [Token.endAt 0]) := by simp
  rw [hsame, herror] at hok
  cases hok

lemma exists_eq_of_concat (h : ws ++ [fin] = before ++ t :: after) (hfin : fin.kind = .finish)
    (ht : t.kind ≠ .finish) : ∃ after', ws = before ++ t :: after' := by
  rcases List.eq_nil_or_concat after with rfl | ⟨vs, v, rfl⟩
  · obtain ⟨-, hlast⟩ := List.append_inj' h rfl
    cases hlast
    contradiction
  · have hassoc : ws ++ [fin] = before ++ t :: vs ++ [v] := by simp [h]
    exact ⟨vs, (List.append_inj' hassoc rfl).1⟩

lemma eq_of_concat (h : ws ++ [fin] = before ++ t :: after) (hws : ∀ t ∈ ws, t.kind ≠ .finish)
    (ht : t.kind = .finish) : before = ws := by
  rcases List.eq_nil_or_concat after with rfl | ⟨vs, v, rfl⟩
  · exact (List.append_inj' h rfl).1.symm
  · have hassoc : ws ++ [fin] = before ++ t :: vs ++ [v] := by simp [h]
    obtain ⟨rfl, -⟩ := List.append_inj' hassoc rfl
    exact absurd ht (hws t (by simp))

lemma whole_of_ok {b : β} {rest : List Token} (h : read ts = .ok (b, rest)) :
    whole e read ts = finish e rest >>= fun _ => .ok b := by
  rw [whole, h]
  rfl

lemma whole_of_error (h : read ts = .error error) : whole e read ts = .error error := by
  rw [whole, h]
  rfl

lemma refuse_eq_unexpectedToken (ht : t.kind ≠ .finish) (ts : List Token) :
    refuse e (t :: ts) = .unexpectedToken e t.text t.span :=
  if_neg ht

lemma refuse_eq_unexpectedEnd (ht : t.kind = .finish) (ts : List Token) :
    refuse e (t :: ts) = .unexpectedEnd e :=
  if_pos ht

lemma pinpoints_token (hL : Accepts e read L) (hordered : Span.Ordered (ws.map Token.span))
    (hws : ws ++ [fin] = before ++ t :: after) (hfin : fin.kind = .finish)
    (ht : t.kind ≠ .finish) (hbefore : Begins L before)
    (hread : ∀ rest, rest.head? = some t → ∃ error, whole e read (before ++ rest) = .error error)
    (e' : Expectation) : Pinpoints L ws (.unexpectedToken e' t.text t.span) := by
  obtain ⟨after', rfl⟩ := exists_eq_of_concat hws hfin ht
  refine .token e' (by simp) ?_ ?_ <;> rw [Token.inFront_eq hordered]
  · exact hbefore
  · exact not_begins hL hread

theorem Outcome.pinpoints (h : Outcome read L (ws ++ [fin])) (hL : Accepts e read L)
    (hws : ∀ t ∈ ws, t.kind ≠ .finish) (hfin : fin.kind = .finish)
    (hordered : Span.Ordered (ws.map Token.span))
    (herror : whole e read (ws ++ [fin]) = .error error) : Pinpoints L ws error := by
  generalize hus : ws ++ [fin] = us at h herror
  cases h with
  | @takes ts rest b hts hread =>
    -- A whole sentence was taken, and the token behind it is refused where the line should end.
    have hbegins : Begins L ts := ⟨[], by simpa using hts⟩
    rw [whole_of_ok (hread rest rfl)] at herror
    cases rest with
    | nil => cases herror
    | cons t rest =>
      by_cases ht : t.kind = .finish
      · rw [finish, if_pos ht] at herror
        cases herror
      rw [finish, if_neg ht, refuse_eq_unexpectedToken ht] at herror
      cases herror
      refine pinpoints_token hL hordered hus hfin ht hbegins (fun rest' hhead => ?_) e
      obtain ⟨vs, rfl⟩ := List.head?_eq_some_iff.1 hhead
      rw [whole_of_ok (hread (t :: vs) rfl), finish, if_neg ht]
      exact ⟨_, rfl⟩
  | @stuck before rest more e' hbefore hne hread =>
    rw [whole_of_error (hread rest rfl)] at herror
    cases herror
    cases rest with
    | nil =>
      have hmem : fin ∈ before ++ more := by
        rw [List.append_nil] at hus
        simp [← hus]
      exact absurd hfin ((hL _ hbefore).1 fin hmem)
    | cons t rest =>
      by_cases ht : t.kind = .finish
      · rw [refuse_eq_unexpectedEnd ht]
        rw [eq_of_concat hus hws ht] at hbefore
        exact .finish e' hne hbefore
      · rw [refuse_eq_unexpectedToken ht]
        refine pinpoints_token hL hordered hus hfin ht ⟨more, hbefore⟩ (fun rest' hhead => ?_) e'
        exact ⟨_, whole_of_error (hread rest' hhead)⟩

lemma accepts_terms : Accepts .endOfExpression terms expressions := by
  rintro ts ⟨as, has⟩
  refine ⟨kind_ne_finish has.kind, fun fin hfin => ?_⟩
  obtain ⟨found, hfound, -⟩ := has.exists_whole hfin
  exact ⟨found, hfound⟩

lemma accepts_objective : Accepts .endOfObjective objective objectives := by
  rintro ts ⟨d, name, as, h⟩
  refine ⟨h.kind_ne_finish, fun fin hfin => ?_⟩
  obtain ⟨found, hfound, -⟩ := h.exists_whole hfin
  exact ⟨_, hfound⟩

lemma accepts_constraint : Accepts .endOfConstraint constraint constraints := by
  rintro ts ⟨as, r, bound, h⟩
  refine ⟨h.kind_ne_finish, fun fin hfin => ?_⟩
  obtain ⟨found, hfound, -⟩ := h.exists_whole hfin
  exact ⟨_, hfound⟩

lemma pinpoints_of_whole {source : String} (h : Outcome read L (Token.significant source))
    (hL : Accepts e read L) (herror : whole e read (Token.significant source) = .error error) :
    Token.words source ∉ L ∧ Pinpoints L (Token.words source) error := by
  obtain ⟨fin, hsource, hfin⟩ := Token.significant_eq source
  rw [hsource] at h herror
  constructor
  · intro hmem
    obtain ⟨b, hok⟩ := (hL _ hmem).2 fin hfin
    rw [hok] at herror
    cases herror
  · exact h.pinpoints hL (fun t ht => (Token.kind_of_mem_words ht).2) hfin
      (Token.ordered_words source) herror

end Reading

section Judges

variable {source : String}

lemma Term.judges_readAll (source : String) :
    Judges expressions (Token.words source) (Term.readAll source) := by
  cases h : Term.readAll source with
  | ok ts => exact ⟨_, Term.exists_readAll_iff.1 ⟨ts, h, rfl⟩⟩
  | error error => exact pinpoints_of_whole (follows_terms _) accepts_terms h

lemma Objective.judges_read
    (hword : ∀ t ∈ (Token.words source).head?, t.kind = .name → ∃ d, IsDirection d t) :
    Judges objectives (Token.words source) (Objective.read source) := by
  cases h : Objective.read source with
  | ok o => exact ⟨_, _, _, Objective.exists_read_iff.1 ⟨o, h, rfl, rfl, rfl⟩⟩
  | error error =>
    rw [Objective.read_eq, map_eq_error] at h
    refine pinpoints_of_whole (outcome_objective ?_) accepts_objective h
    obtain ⟨fin, hsource, hfin⟩ := Token.significant_eq source
    rw [hsource]
    cases hws : Token.words source with
    | nil => simp [hfin]
    | cons t ts =>
      rw [hws] at hword
      exact hword

lemma Constraint.judges_read (hcount : (Token.words source).countP Token.isRelation = 1) :
    Judges constraints (Token.words source) (Constraint.read source) := by
  cases h : Constraint.read source with
  | ok c => exact ⟨_, _, _, Constraint.exists_read_iff.1 ⟨c, h, rfl, rfl, rfl⟩⟩
  | error error =>
    rw [Constraint.read_eq, hcount] at h
    exact pinpoints_of_whole (follows_constraint _) accepts_constraint
      (map_eq_error.1 (Constraint.readParts_eq source ▸ h))

end Judges

namespace LineError

/-- Of objectives this is said unless their first word is a name and no direction, and of
constraints if they have one relation. -/
theorem points_at_first_fault (source : String) :
    Judges expressions (Token.words source) (Term.readAll source) ∧
    ((∀ t ∈ (Token.words source).head?, t.kind = .name → ∃ d, IsDirection d t) →
      Judges objectives (Token.words source) (Objective.read source)) ∧
    ((Token.words source).countP Token.isRelation = 1 →
      Judges constraints (Token.words source) (Constraint.read source)) :=
  ⟨Term.judges_readAll source, Objective.judges_read, Constraint.judges_read⟩

theorem points_at_first_fault_of_missing_tokens :
    Pinpoints expressions (Token.words "5x1 6x2")
      (.unexpectedToken .endOfExpression "6" ⟨4, 5⟩) ∧
    Pinpoints expressions (Token.words "x1 + 3") (.unexpectedEnd .variableName) ∧
    Pinpoints objectives (Token.words "Max: z x1") (.unexpectedToken .equal "x1" ⟨7, 9⟩) ∧
    Pinpoints constraints (Token.words "x <= -- # 2") (.unexpectedEnd .number) := by
  have hterms : Term.readAll "5x1 6x2" =
      .error (.unexpectedToken .endOfExpression "6" ⟨4, 5⟩) := by decide +kernel
  have hend : Term.readAll "x1 + 3" = .error (.unexpectedEnd .variableName) := by decide +kernel
  have hobjective : Objective.read "Max: z x1" =
      .error (.unexpectedToken .equal "x1" ⟨7, 9⟩) := by decide +kernel
  have hconstraint : Constraint.read "x <= -- # 2" = .error (.unexpectedEnd .number) := by
    decide +kernel
  have hhead : (Token.words "Max: z x1").head? = some ⟨.name, ⟨0, 3⟩, "Max"⟩ := by decide +kernel
  have hword : ∀ t ∈ (Token.words "Max: z x1").head?, t.kind = .name → ∃ d, IsDirection d t := by
    rw [hhead]
    rintro t ⟨⟩ -
    exact ⟨.maximize, .maximize rfl (by decide)⟩
  refine ⟨?_, ?_, ?_, ?_⟩
  · exact (hterms ▸ (points_at_first_fault "5x1 6x2").1).2
  · exact (hend ▸ (points_at_first_fault "x1 + 3").1).2
  · exact (hobjective ▸ (points_at_first_fault "Max: z x1").2.1 hword).2
  · exact (hconstraint ▸ (points_at_first_fault "x <= -- # 2").2.2 (by decide +kernel)).2

end LineError

end LinearProgram
