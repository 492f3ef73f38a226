import LinearProgram.Proofs.StandardForm
import LinearProgram.Proofs.WrittenObjective

/-!
Terms and constraints that are written out read as what they were written from. A coefficient
without digits is written in letters that run into the name behind it, and the name that is read in
its place is written the same.
-/

namespace LinearProgram

open Token Grammar Double

namespace Term

variable {t u : Term} {ts us : List Term} {source : String}

def SameValue (t u : Term) : Prop :=
  u.name = t.name ∧ EqUpToZeroSign (u.coefficient.value Float) (t.coefficient.value Float)

lemma forall₂_of_written (h : us.map written = ts.map restated) :
    List.Forall₂ (fun t u => u.written = t.restated) ts us := by
  have heq : List.Forall₂ (fun a b => b = a) (ts.map restated) (us.map written) := by
    rw [h, List.forall₂_same]
    exact fun a _ => rfl
  rwa [List.forall₂_map_left_iff, List.forall₂_map_right_iff] at heq

lemma sameValue_of_written (h : t.Writable) (hu : u.written = t.restated) : t.SameValue u := by
  obtain ⟨hcoefficient, hname⟩ := Prod.ext_iff.1 hu
  refine ⟨hname, ?_⟩
  rw [show u.coefficient = t.restated.1 from hcoefficient]
  exact value_restated h

lemma forall₂_sameValue (h : ∀ t ∈ ts, t.Writable) (hus : us.map written = ts.map restated) :
    List.Forall₂ SameValue ts us :=
  ((List.forall₂_and_left _ _).2 ⟨h, forall₂_of_written hus⟩).imp fun _ _ htu =>
    sameValue_of_written htu.1 htu.2

lemma exists_readAll_writeAll (hne : ts ≠ []) (h : ∀ t ∈ ts, t.Writable) :
    ∃ us, readAll (writeAll ts) = .ok us ∧ us.map written = ts.map restated :=
  exists_readAll_iff.2 (scans_writeAll hne h rfl).words

lemma isName_of_readAll (h : readAll source = .ok ts) :
    ts ≠ [] ∧ ∀ t ∈ ts, IsName t.name.toList := by
  obtain ⟨hne, hnames⟩ := (exists_readAll_iff.1 ⟨ts, h, rfl⟩).isName fun t => isName_of_mem_words
  exact ⟨by simpa using hne, fun t ht => hnames t.written (List.mem_map_of_mem ht)⟩

structure SameText (t u : Term) : Prop where
  body : u.body = t.body
  isWrittenNegative : u.isWrittenNegative = t.isWrittenNegative

lemma SameText.writeFirst (h : SameText t u) : u.writeFirst = t.writeFirst := by
  rw [Term.writeFirst, Term.writeFirst, h.body, h.isWrittenNegative]

lemma SameText.writeFurther (h : SameText t u) : u.writeFurther = t.writeFurther := by
  rw [Term.writeFurther, Term.writeFurther, h.body, h.isWrittenNegative]

lemma writeAll_congr (h : List.Forall₂ SameText ts us) : writeAll us = writeAll ts := by
  cases h with
  | nil => rfl
  | @cons t u ts us htu hmore =>
    have hfurther : us.map Term.writeFurther = ts.map Term.writeFurther := by
      induction hmore with
      | nil => rfl
      | cons htu _ ih => rw [List.map_cons, List.map_cons, ih, htu.writeFurther]
    rw [writeAll, writeAll, hfurther, htu.writeFirst]

lemma sameText_of_written (h : t.Writable) (hu : u.written = t.restated) : SameText t u := by
  obtain ⟨hcoefficient, hname⟩ := Prod.ext_iff.1 hu
  have hname : u.name = t.name := hname
  have hsign : u.coefficient.negative = t.isWrittenNegative := congrArg _ hcoefficient
  have hmagnitude : u.coefficient.magnitude.toFloat = t.coefficient.magnitude.toFloat :=
    (congrArg (fun d => d.magnitude.toFloat) hcoefficient).trans (toFloat_restated h)
  refine ⟨by rw [body, body, hmagnitude, hname], ?_⟩
  rw [isWrittenNegative, hsign, hmagnitude, isWrittenNegative, Bool.and_assoc, Bool.and_self]

lemma body_of_not_isFinite (h : ¬ t.coefficient.magnitude.toFloat.isFinite = true) :
    t.body = "inf" ++ t.name := by
  have hone : ¬ (t.coefficient.magnitude.toFloat == 1) = true := fun hone => by
    rw [eq_one_of_beq hone] at h
    exact h (by decide +kernel)
  rw [body, if_neg hone, Layout.write_of_not_isFinite (unsigned_toFloat _) h]

def absorbed (t : Term) : Term :=
  if t.coefficient.magnitude.toFloat.isFinite then t
  else ⟨t.span, ⟨t.coefficient.negative, .one⟩, "inf" ++ t.name⟩

lemma sameText_absorbed (t : Term) : SameText t t.absorbed := by
  by_cases h : t.coefficient.magnitude.toFloat.isFinite = true
  · rw [absorbed, if_pos h]
    exact ⟨rfl, rfl⟩
  -- the sign is written for a positive number only, which this is, and so is one
  have hpos : 0 < t.coefficient.magnitude.toFloat := by
    by_contra hpos
    obtain ⟨s, hs⟩ := exists_eq_zero_of_not_pos (unsigned_toFloat _) hpos
    have hinfinite : ¬ t.coefficient.magnitude.toFloat.toModel.unpack.isFinite = true := h
    exact hinfinite (hs ▸ rfl)
  have hunit : (Decimal.one.toFloat == 1) = true ∧ 0 < Decimal.one.toFloat := by decide +kernel
  rw [absorbed, if_neg h]
  constructor
  · rw [body_of_not_isFinite h, body, if_pos hunit.1, String.empty_append]
  · simp only [isWrittenNegative, hpos, hunit.2]

lemma writable_absorbed (h : IsName t.name.toList) : t.absorbed.Writable := by
  by_cases hfinite : t.coefficient.magnitude.toFloat.isFinite = true
  · rw [absorbed, if_pos hfinite]
    exact ⟨hfinite, h⟩
  · rw [absorbed, if_neg hfinite]
    have hone : Decimal.one.toFloat.isFinite = true := by decide +kernel
    refine ⟨hone, ?_⟩
    rw [String.toList_append]
    refine .mk rfl rfl (List.forall_mem_append.2 ⟨?_, h.isNamePart⟩)
    exact fun c hc => Lexeme.isNamePart_of_isAlpha (by simp at hc; rcases hc with rfl | rfl <;> rfl)

theorem exists_readAll_and_writeAll_eq (h : readAll source = .ok ts) :
    ∃ us, readAll (writeAll ts) = .ok us ∧ writeAll us = writeAll ts := by
  obtain ⟨hne, hnames⟩ := isName_of_readAll h
  -- the text is also that of terms with numbers only, and those can be read again
  have hwritable : ∀ t ∈ ts.map absorbed, t.Writable :=
    List.forall_mem_map.2 fun t ht => writable_absorbed (hnames t ht)
  have habsorbed : writeAll (ts.map absorbed) = writeAll ts := by
    refine writeAll_congr ?_
    rw [List.forall₂_map_right_iff, List.forall₂_same]
    exact fun t _ => sameText_absorbed t
  obtain ⟨us, hus, hwritten⟩ := exists_readAll_writeAll (by simpa using hne) hwritable
  rw [habsorbed] at hus
  refine ⟨us, hus, (writeAll_congr ?_).trans habsorbed⟩
  exact ((List.forall₂_and_left _ _).2 ⟨hwritable, forall₂_of_written hwritten⟩).imp fun _ _ htu =>
    sameText_of_written htu.1 htu.2

lemma exists_readAll_of_not_isFinite {cs name : List Char} (hcs : IsPlainNumeral cs)
    (hinfinite : ¬ (Decimal.ofLiteral cs).toFloat.isFinite = true) (hname : IsName name) :
    ∃ ts, readAll (String.ofList (cs ++ name)) = .ok ts ∧
      writeAll ts = "inf" ++ String.ofList name := by
  have hscan : Scans (Terms [(⟨false, Decimal.ofLiteral cs⟩, String.ofList name)])
      (cs ++ name) [] := by
    obtain ⟨hdigit, hpoint⟩ := hname.ne_stop []
    refine (scans_numeral hcs hdigit hpoint).cons fun number hk hdigits => ?_
    refine (scans_name hname rfl).mono ?_
    rintro _ ⟨word, rfl, hword, htext⟩
    rw [← hdigits, ← htext, String.ofList_toList]
    exact .mk (.mk .nil (.number hk) hword) .nil
  rw [← String.toList_ofList (l := cs ++ name)] at hscan
  obtain ⟨ts, hts, hwritten⟩ := exists_readAll_iff.2 hscan.words
  refine ⟨ts, hts, ?_⟩
  obtain ⟨t, rfl, ht⟩ := List.map_eq_singleton_iff.1 hwritten
  obtain ⟨hcoefficient, htext⟩ := Prod.mk.inj ht
  have hplus : t.isWrittenNegative = false := by rw [isWrittenNegative, hcoefficient]; rfl
  rw [writeAll, writeFirst, hplus, body_of_not_isFinite (by rwa [hcoefficient]), htext]
  simp

end Term

namespace Constraint

variable {c : Constraint} {rest : List Char} {source : String}

structure Writable (c : Constraint) : Prop where
  ne_nil : c.terms ≠ []
  terms : ∀ t ∈ c.terms, t.Writable
  bound : c.bound.magnitude.toFloat.isFinite = true

def restatedBound (c : Constraint) : SignedDecimal :=
  ⟨c.bound.negative, Decimal.ofLiteral (Layout.plain.write c.bound.magnitude.toFloat).toList⟩

lemma scans_relation (r : Relation) (rest : List Char) :
    Scans (fun ts => ∃ t, ts = [t] ∧ IsRelation r t) r.text.toList (' ' :: rest) := by
  cases r with
  | atMost =>
    have h : Scans (IsLexeme .atMost ['<', '=']) ['<', '='] (' ' :: rest) :=
      scans_lexeme rfl rfl nofun
    exact h.mono fun ⟨t, ht, hk, _⟩ => ⟨t, ht, .atMost hk⟩
  | atLeast =>
    have h : Scans (IsLexeme .atLeast ['>', '=']) ['>', '='] (' ' :: rest) :=
      scans_lexeme rfl rfl nofun
    exact h.mono fun ⟨t, ht, hk, _⟩ => ⟨t, ht, .atLeast hk⟩
  | equal =>
    have h : Scans (IsLexeme .equal ['=']) ['='] (' ' :: rest) := scans_equal rfl
    exact h.mono fun ⟨t, ht, hk, _⟩ => ⟨t, ht, .equal hk⟩

lemma scans_bound (h : c.bound.magnitude.toFloat.isFinite = true) :
    Scans (fun ts => ∃ signs number, ts = signs ++ [number] ∧ Signs c.bound.negative signs ∧
        number.kind = .number ∧ c.restatedBound.magnitude = Decimal.ofLiteral number.text.toList)
      (Layout.plain.write (c.bound.value Float)).toList [] := by
  obtain ⟨hplain, -⟩ := Layout.read_write h (unsigned_toFloat _)
  have hnumeral : Scans (IsLexeme .number _) _ [] := scans_numeral hplain rfl nofun
  rw [Layout.write_value, String.toList_append]
  cases c.bound.negative with
  | true =>
    refine (scans_minus _).cons fun s hs _ => hnumeral.mono ?_
    rintro _ ⟨number, rfl, hk, htext⟩
    exact ⟨[s], number, rfl, .minus hs, hk, congrArg Decimal.ofLiteral htext.symm⟩
  | false =>
    refine hnumeral.mono ?_
    rintro _ ⟨number, rfl, hk, htext⟩
    exact ⟨[], number, rfl, .nil, hk, congrArg Decimal.ofLiteral htext.symm⟩

theorem scans_write (h : c.Writable) :
    Scans (IsConstraint (c.terms.map Term.restated) c.relation c.restatedBound)
      c.write.toList [] := by
  have hwrite : c.write.toList = (Term.writeAll c.terms).toList ++ ' ' :: (c.relation.text.toList ++
      ' ' :: (Layout.plain.write (c.bound.value Float)).toList) := by
    simp [write]
  rw [hwrite]
  refine (Term.scans_writeAll h.ne_nil h.terms rfl).bind fun ts hts => .blank rfl ?_
  refine (scans_relation c.relation _).bind ?_
  rintro _ ⟨rel, rfl, hrel⟩
  refine .blank rfl ((scans_bound h.bound).mono ?_)
  rintro _ ⟨signs, number, rfl, hsigns, hk, hmagnitude⟩
  have hbound : c.restatedBound = ⟨c.bound.negative, Decimal.ofLiteral number.text.toList⟩ :=
    congrArg (SignedDecimal.mk _) hmagnitude
  exact hbound ▸ .mk hts hrel hsigns hk

lemma isName_of_read (h : Constraint.read source = .ok c) :
    c.terms ≠ [] ∧ ∀ t ∈ c.terms, IsName t.name.toList := by
  have hname : ∀ t ∈ words source, t.kind = .name → IsName t.text.toList :=
    fun t ht => isName_of_mem_words ht
  have hgrammar := exists_read_iff.1 ⟨c, h, rfl, rfl, rfl⟩
  generalize has : c.terms.map Term.written = as, hb : c.bound = b, words source = ws
    at hgrammar hname
  cases hgrammar with
  | mk hts hrel hsigns hnumber =>
    obtain ⟨hne, hnames⟩ := hts.isName fun t ht => hname t (List.mem_append_left _ ht)
    subst has
    exact ⟨by simpa using hne, fun t ht => hnames t.written (List.mem_map_of_mem ht)⟩

lemma writable_of_read (h : Constraint.read source = .ok c)
    (hterms : ∀ t ∈ c.terms, Scalar.isFinite (t.coefficient.value Float) = true)
    (hbound : Scalar.isFinite (c.bound.value Float) = true) : c.Writable := by
  obtain ⟨hne, hnames⟩ := isName_of_read h
  exact
    { ne_nil := hne
      terms := fun t ht => ⟨isFinite_magnitude (hterms t ht), hnames t ht⟩
      bound := isFinite_magnitude hbound }

lemma value_restatedBound (h : c.Writable) :
    c.restatedBound.value Float = c.bound.value Float := by
  obtain ⟨-, hread⟩ := Layout.read_write h.bound (unsigned_toFloat _)
  have hmagnitude : Scalar.ofDecimal c.restatedBound.magnitude =
      (Scalar.ofDecimal c.bound.magnitude : Float) := hread
  rw [SignedDecimal.value, SignedDecimal.value, hmagnitude]
  rfl

theorem exists_read_write (h : c.Writable) : ∃ d, Constraint.read c.write = .ok d ∧
    List.Forall₂ Term.SameValue c.terms d.terms ∧ d.relation = c.relation ∧
      d.bound.value Float = c.bound.value Float := by
  obtain ⟨d, hd, hterms, hrelation, hbound⟩ := exists_read_iff.2 (scans_write h).words
  refine ⟨d, hd, Term.forall₂_sameValue h.terms hterms, hrelation, ?_⟩
  rw [hbound, value_restatedBound h]

end Constraint

theorem rereads_written (source : String) :
    (∀ ts, Term.readAll source = .ok ts →
      (∀ t ∈ ts, Scalar.isFinite (t.coefficient.value Float) = true) →
      ∃ us, Term.readAll (Term.writeAll ts) = .ok us ∧ List.Forall₂ Term.SameValue ts us) ∧
    (∀ c, Constraint.read source = .ok c →
      (∀ t ∈ c.terms, Scalar.isFinite (t.coefficient.value Float) = true) →
      Scalar.isFinite (c.bound.value Float) = true →
      ∃ d, Constraint.read c.write = .ok d ∧ List.Forall₂ Term.SameValue c.terms d.terms ∧
        d.relation = c.relation ∧ d.bound.value Float = c.bound.value Float) ∧
    ∀ ts, Term.readAll source = .ok ts →
      ∃ us, Term.readAll (Term.writeAll ts) = .ok us ∧ Term.writeAll us = Term.writeAll ts := by
  refine ⟨fun ts hts hfinite => ?_, fun c hc hterms hbound => ?_, fun ts hts => ?_⟩
  · obtain ⟨hne, hnames⟩ := Term.isName_of_readAll hts
    have hwritable : ∀ t ∈ ts, t.Writable :=
      fun t ht => ⟨isFinite_magnitude (hfinite t ht), hnames t ht⟩
    obtain ⟨us, hus, hwritten⟩ := Term.exists_readAll_writeAll hne hwritable
    exact ⟨us, hus, Term.forall₂_sameValue hwritable hwritten⟩
  · exact Constraint.exists_read_write (Constraint.writable_of_read hc hterms hbound)
  · exact Term.exists_readAll_and_writeAll_eq hts

theorem rereads_written_of_infinite :
    (∃ ts us, Term.readAll " - 0 x + .50*e5 -- 1 y" = .ok ts ∧
      Term.readAll "0x + 0.5e5 + y" = .ok us ∧ List.Forall₂ Term.SameValue ts us) ∧
    (∃ c d, Constraint.read "2.5 e5 - 0x == -+ 0.10 # late" = .ok c ∧
      Constraint.read "2.5e5 + 0x = -0.1" = .ok d ∧ d.relation = c.relation ∧
      d.bound.value Float = c.bound.value Float) ∧
    ∃ ts us, Term.readAll (String.ofList (List.replicate 309 '9' ++ ['x'])) = .ok ts ∧
      Term.writeAll ts = "infx" ∧ Term.readAll "infx" = .ok us ∧ Term.writeAll us = "infx" := by
  have hts : ((Term.readAll " - 0 x + .50*e5 -- 1 y").toOption.map fun ts => (Term.writeAll ts,
      ts.all fun t => Scalar.isFinite (t.coefficient.value Float))) =
      some ("0x + 0.5e5 + y", true) := by decide +kernel
  have hc : ((Constraint.read "2.5 e5 - 0x == -+ 0.10 # late").toOption.map fun c => (c.write,
      c.terms.all fun t => Scalar.isFinite (t.coefficient.value Float),
      Scalar.isFinite (c.bound.value Float))) = some ("2.5e5 + 0x = -0.1", true, true) := by
    decide +kernel
  have hnines : IsPlainNumeral (List.replicate 309 '9') :=
    .whole (List.cons_ne_nil _ _) fun c hc => by rw [List.eq_of_mem_replicate hc]; rfl
  have hinfinite := Term.exists_readAll_of_not_isFinite hnines (by decide +kernel)
    (.mk rfl rfl (by simp) : IsName ['x'])
  have hletters : "inf" ++ String.ofList ['x'] = "infx" := rfl
  rw [hletters] at hinfinite
  refine ⟨?_, ?_, ?_⟩
  · obtain ⟨ts, hok, hall⟩ := exists_eq_ok_of_map hts
    obtain ⟨htext, hfinite⟩ := Prod.mk.inj hall
    obtain ⟨us, hus, hsame⟩ := (rereads_written _).1 ts hok (List.all_eq_true.1 hfinite)
    exact ⟨ts, us, hok, htext ▸ hus, hsame⟩
  · obtain ⟨c, hok, hall⟩ := exists_eq_ok_of_map hc
    obtain ⟨htext, hfinite⟩ := Prod.mk.inj hall
    obtain ⟨hterms, hbound⟩ := Prod.mk.inj hfinite
    obtain ⟨d, hd, -, hsame⟩ := (rereads_written _).2.1 c hok (List.all_eq_true.1 hterms) hbound
    exact ⟨c, d, hok, htext ▸ hd, hsame⟩
  · obtain ⟨ts, hts, htext⟩ := hinfinite
    obtain ⟨us, hus, hagain⟩ := (rereads_written _).2.2 ts hts
    exact ⟨ts, us, hts, htext, htext ▸ hus, hagain.trans htext⟩

end LinearProgram
