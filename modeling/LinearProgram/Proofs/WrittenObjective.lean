import LinearProgram.Line.Write
import LinearProgram.Proofs.Lines
import LinearProgram.Proofs.ReadBack
import LinearProgram.Proofs.Scanning
import LinearProgram.Proofs.Sentences
import LinearProgram.Proofs.Sums

/-!
An objective that is written out reads as an objective with the same terms. A coefficient that is
zero may lose its sign on the way; otherwise the numbers are the same doubles.
-/

namespace LinearProgram

open Token Grammar Double

namespace Double

lemma eq_one_of_beq {x : Float} (h : (x == 1) = true) : x = 1 := by
  obtain ⟨-, -, h⟩ := Float.beq_iff_ne_nan_and_eq.1 h
  have hzero : (1 : Float) ≠ -0 ∧ (1 : Float) ≠ 0 := by decide +kernel
  rcases h with h | h | h
  · exact h
  · exact absurd h.2 hzero.1
  · exact absurd h.2 hzero.2

lemma toFloat_one : Decimal.one.toFloat = 1 := by
  decide +kernel

lemma exists_eq_zero_of_not_pos {x : Float} (hx : Unsigned x.toModel.unpack) (h : ¬ 0 < x) :
    ∃ s, x.toModel.unpack = .zero s := by
  have hlt : ¬ Float.Model.UnpackedFloat.lt (.zero .positive) x.toModel.unpack = true :=
    mt pos_iff.2 h
  cases hu : x.toModel.unpack with
  | notANumber => exact absurd hu hx.ne_notANumber
  | zero s => exact ⟨s, rfl⟩
  | infinity s =>
    rw [hu] at hx hlt
    obtain rfl : s = .positive := hx
    exact absurd rfl hlt
  | finite s m e hm =>
    rw [hu] at hx hlt
    obtain rfl : s = .positive := hx
    exact absurd rfl hlt

lemma isFinite_magnitude {d : SignedDecimal} (h : Scalar.isFinite (d.value Float) = true) :
    d.magnitude.toFloat.isFinite = true := by
  rw [SignedDecimal.value] at h
  split at h
  · have hneg : (-d.magnitude.toFloat).toModel.unpack = d.magnitude.toFloat.toModel.unpack.neg :=
      unpack_neg _
    change (-d.magnitude.toFloat).toModel.unpack.isFinite = true at h
    change d.magnitude.toFloat.toModel.unpack.isFinite = true
    rw [hneg] at h
    cases hu : d.magnitude.toFloat.toModel.unpack <;> rw [hu] at h <;> exact h
  · exact h

end Double

namespace Grammar

variable {t : Token}

lemma Signs.nil : Signs false [] :=
  ⟨nofun, by simp⟩

lemma Signs.plus (h : t.kind = .plus) : Signs false [t] :=
  ⟨by simp [Token.isSign, h], by simp [h]⟩

lemma Signs.minus (h : t.kind = .minus) : Signs true [t] :=
  ⟨by simp [Token.isSign, h], by simp [h]⟩

variable {a : SignedDecimal × String} {as : List (SignedDecimal × String)} {ts : List Token}

lemma IsTerm.exists_name (h : IsTerm a ts) : ∃ t ∈ ts, t.kind = .name ∧ t.text = a.2 := by
  cases h with
  | @mk negative magnitude signTokens factor name hs hf hname =>
    exact ⟨name, by simp, hname, rfl⟩

lemma FurtherTerms.exists_name (h : FurtherTerms as ts) :
    ∀ a ∈ as, ∃ t ∈ ts, t.kind = .name ∧ t.text = a.2 := by
  induction h with
  | nil => exact nofun
  | cons ha _ _ ih =>
    refine List.forall_mem_cons.2 ⟨?_, fun a hmem => ?_⟩
    · obtain ⟨t, ht, hname⟩ := ha.exists_name
      exact ⟨t, List.mem_append_left _ ht, hname⟩
    · obtain ⟨t, ht, hname⟩ := ih a hmem
      exact ⟨t, List.mem_append_right _ ht, hname⟩

lemma Terms.exists_name (h : Terms as ts) :
    as ≠ [] ∧ ∀ a ∈ as, ∃ t ∈ ts, t.kind = .name ∧ t.text = a.2 := by
  cases h with
  | mk ha has =>
    refine ⟨List.cons_ne_nil _ _, List.forall_mem_cons.2 ⟨?_, fun a hmem => ?_⟩⟩
    · obtain ⟨t, ht, hname⟩ := ha.exists_name
      exact ⟨t, List.mem_append_left _ ht, hname⟩
    · obtain ⟨t, ht, hname⟩ := has.exists_name a hmem
      exact ⟨t, List.mem_append_right _ ht, hname⟩

lemma Terms.isName (h : Terms as ts) (hts : ∀ t ∈ ts, t.kind = .name → IsName t.text.toList) :
    as ≠ [] ∧ ∀ a ∈ as, IsName a.2.toList := by
  obtain ⟨hne, hnames⟩ := h.exists_name
  refine ⟨hne, fun a ha => ?_⟩
  obtain ⟨t, ht, hk, htext⟩ := hnames a ha
  exact htext ▸ hts t ht hk

end Grammar

namespace Term

variable {t : Term} {ts : List Term} {signs : List Token} {rest : List Char}

def restated (t : Term) : SignedDecimal × String :=
  let m := t.coefficient.magnitude.toFloat
  (⟨t.isWrittenNegative,
    if m == 1 then .one else Decimal.ofLiteral (Layout.plain.write m).toList⟩, t.name)

structure Writable (t : Term) : Prop where
  finite : t.coefficient.magnitude.toFloat.isFinite = true
  name : IsName t.name.toList

lemma isTerm_of_body {factor : List Token} {name : Token}
    (hs : Signs t.isWrittenNegative signs) (hf : Factor t.restated.1.magnitude factor)
    (hk : name.kind = .name) (htext : name.text.toList = t.name.toList) :
    IsTerm t.restated (signs ++ (factor ++ [name])) := by
  have hterm := IsTerm.mk hs hf hk
  rw [String.toList_inj.1 htext] at hterm
  rwa [← List.append_assoc]

lemma scans_body (h : t.Writable) (hs : Signs t.isWrittenNegative signs)
    (hrest : rest.head?.any Lexeme.isNamePart = false) :
    Scans (fun ts => IsTerm t.restated (signs ++ ts)) t.body.toList rest := by
  have hname := scans_name h.name hrest
  by_cases hone : (t.coefficient.magnitude.toFloat == 1) = true
  · rw [body, if_pos hone, String.empty_append]
    refine hname.mono ?_
    rintro _ ⟨name, rfl, hk, htext⟩
    refine isTerm_of_body hs (?_ : Factor _ []) hk htext
    simp only [restated, if_pos hone]
    exact .absent
  · obtain ⟨hplain, -⟩ := Layout.read_write h.finite (unsigned_toFloat _)
    obtain ⟨hdigit, hpoint⟩ := h.name.ne_stop rest
    rw [body, if_neg hone, String.toList_append]
    refine (scans_numeral hplain hdigit hpoint).cons fun number hnumber hdigits => ?_
    refine hname.mono ?_
    rintro _ ⟨name, rfl, hk, htext⟩
    refine isTerm_of_body hs (?_ : Factor _ [number]) hk htext
    simp only [restated, if_neg hone]
    exact hdigits ▸ .number hnumber

lemma scans_writeFirst (h : t.Writable) (hrest : rest.head?.any Lexeme.isNamePart = false) :
    Scans (IsTerm t.restated) t.writeFirst.toList rest := by
  rw [writeFirst, String.toList_append]
  by_cases hn : t.isWrittenNegative = true
  · rw [if_pos hn]
    refine (scans_minus _).cons fun s hs _ => ?_
    have hsigns : Signs t.isWrittenNegative [s] := hn ▸ .minus hs
    exact scans_body h hsigns hrest
  · rw [if_neg hn]
    rw [Bool.not_eq_true] at hn
    have hsigns : Signs t.isWrittenNegative [] := hn ▸ .nil
    exact scans_body h hsigns hrest

lemma scans_writeFurther (h : t.Writable) (hrest : rest.head?.any Lexeme.isNamePart = false) :
    Scans (fun ts => IsTerm t.restated ts ∧ ts.head?.any Token.isSign = true)
      t.writeFurther.toList rest := by
  have hbody : ∀ {s : Token}, Signs t.isWrittenNegative [s] → s.isSign = true →
      Scans (fun ts => IsTerm t.restated (s :: ts) ∧ (s :: ts).head?.any Token.isSign = true)
        (' ' :: t.body.toList) rest := fun hsigns hs =>
    .blank rfl ((scans_body h hsigns hrest).mono fun hts => ⟨hts, hs⟩)
  rw [writeFurther, String.toList_append]
  by_cases hn : t.isWrittenNegative = true
  · rw [if_pos hn]
    refine .blank rfl ((scans_minus _).cons fun s hs _ => hbody (hn ▸ .minus hs) ?_)
    simp [Token.isSign, hs]
  · rw [if_neg hn]
    rw [Bool.not_eq_true] at hn
    refine .blank rfl ((scans_plus _).cons fun s hs _ => hbody (hn ▸ .plus hs) ?_)
    simp [Token.isSign, hs]

lemma head?_join_writeFurther (ts : List Term)
    (hrest : rest.head?.any Lexeme.isNamePart = false) :
    ((String.join (ts.map writeFurther)).toList ++ rest).head?.any Lexeme.isNamePart = false := by
  cases ts with
  | nil => simpa using hrest
  | cons t ts =>
    have hblank : Lexeme.isNamePart ' ' = false := rfl
    rw [List.map_cons, String.join_cons, writeFurther]
    split <;> simp [hblank]

lemma scans_join_writeFurther (h : ∀ t ∈ ts, t.Writable)
    (hrest : rest.head?.any Lexeme.isNamePart = false) :
    Scans (FurtherTerms (ts.map restated)) (String.join (ts.map writeFurther)).toList rest := by
  induction ts with
  | nil => exact scans_nil .nil
  | cons t ts ih =>
    obtain ⟨ht, hts⟩ := List.forall_mem_cons.1 h
    rw [List.map_cons, List.map_cons, String.join_cons, String.toList_append]
    refine (scans_writeFurther ht (head?_join_writeFurther ts hrest)).bind fun us hus => ?_
    exact (ih hts).mono fun hmore => .cons hus.1 hus.2 hmore

theorem scans_writeAll (hne : ts ≠ []) (h : ∀ t ∈ ts, t.Writable)
    (hrest : rest.head?.any Lexeme.isNamePart = false) :
    Scans (Terms (ts.map restated)) (writeAll ts).toList rest := by
  obtain ⟨t, ts, rfl⟩ := List.exists_cons_of_ne_nil hne
  obtain ⟨ht, hts⟩ := List.forall_mem_cons.1 h
  rw [writeAll, String.toList_append]
  refine (scans_writeFirst ht (head?_join_writeFurther ts hrest)).bind fun us hus => ?_
  exact (scans_join_writeFurther hts hrest).mono fun hmore => .mk hus hmore

lemma toFloat_restated (h : t.Writable) :
    t.restated.1.magnitude.toFloat = t.coefficient.magnitude.toFloat := by
  simp only [restated]
  split
  · rename_i hone
    rw [eq_one_of_beq hone, toFloat_one]
  · exact (Layout.read_write h.finite (unsigned_toFloat _)).2

theorem value_restated (h : t.Writable) :
    EqUpToZeroSign (t.restated.1.value Float) (t.coefficient.value Float) := by
  have hvalue : t.restated.1.value Float =
      if t.isWrittenNegative then -t.coefficient.magnitude.toFloat
        else t.coefficient.magnitude.toFloat := by
    rw [← toFloat_restated h]
    rfl
  rw [hvalue, SignedDecimal.value, isWrittenNegative]
  by_cases hpos : 0 < t.coefficient.magnitude.toFloat
  · left
    simp [hpos, Scalar.ofDecimal]
  · cases hn : t.coefficient.negative with
    | false => exact .inl rfl
    | true =>
      obtain ⟨s, hs⟩ := exists_eq_zero_of_not_pos (unsigned_toFloat _) hpos
      refine .inr ⟨s, -s, by simpa [hpos] using hs, ?_⟩
      exact (unpack_neg _).trans (congrArg _ hs)

lemma newline_notMem_body (h : t.Writable) : '\n' ∉ t.body.toList := by
  have hname := newline_notMem h.name.isBlank_eq_false
  rw [body]
  split
  · simpa using hname
  · have hnumeral := newline_notMem
      (Layout.read_write h.finite (unsigned_toFloat _)).1.isBlank_eq_false
    simp [hname, hnumeral]

lemma newline_notMem_writeFirst (h : t.Writable) : '\n' ∉ t.writeFirst.toList := by
  have := newline_notMem_body h
  rw [writeFirst]
  split <;> simpa using this

lemma newline_notMem_writeFurther (h : t.Writable) : '\n' ∉ t.writeFurther.toList := by
  have := newline_notMem_body h
  rw [writeFurther]
  split <;> simpa using this

lemma newline_notMem_writeAll (h : ∀ t ∈ ts, t.Writable) : '\n' ∉ (writeAll ts).toList := by
  cases ts with
  | nil => simp [writeAll]
  | cons t ts =>
    obtain ⟨ht, hts⟩ := List.forall_mem_cons.1 h
    simp only [writeAll, String.toList_append, String.toList_join, List.mem_append,
      List.mem_flatMap, List.mem_map, not_or]
    refine ⟨newline_notMem_writeFirst ht, ?_⟩
    rintro ⟨_, ⟨u, hu, rfl⟩, hmem⟩
    exact newline_notMem_writeFurther (hts u hu) hmem

lemma exists_body_eq (t : Term) : ∃ s, t.body = s ++ t.name := ⟨_, rfl⟩

lemma exists_append_join_eq {s : String} (hs : ∃ s', s = s' ++ t.name) (ts : List Term) :
    ∃ s', ∃ u ∈ t :: ts, s ++ String.join (ts.map writeFurther) = s' ++ u.name := by
  induction ts generalizing s t with
  | nil =>
    obtain ⟨s', rfl⟩ := hs
    exact ⟨s', t, List.mem_cons_self, by simp⟩
  | cons u ts ih =>
    obtain ⟨s', hbody⟩ := exists_body_eq u
    have hlast : ∃ s'', s ++ u.writeFurther = s'' ++ u.name :=
      ⟨_, by rw [writeFurther, hbody, ← String.append_assoc, ← String.append_assoc]⟩
    obtain ⟨s'', v, hv, heq⟩ := ih hlast
    refine ⟨s'', v, List.mem_cons_of_mem _ hv, ?_⟩
    rw [List.map_cons, String.join_cons, ← String.append_assoc, heq]

lemma exists_writeAll_eq (hne : ts ≠ []) : ∃ s, ∃ t ∈ ts, writeAll ts = s ++ t.name := by
  obtain ⟨t, ts, rfl⟩ := List.exists_cons_of_ne_nil hne
  obtain ⟨s, hbody⟩ := exists_body_eq t
  exact exists_append_join_eq ⟨_, by rw [writeFirst, hbody, ← String.append_assoc]⟩ ts

end Term

namespace Objective

variable {o : Objective} {source : String}

structure Writable (o : Objective) : Prop where
  name : IsName o.name.toList
  ne_nil : o.terms ≠ []
  terms : ∀ t ∈ o.terms, t.Writable

lemma isName_direction (d : Direction) : IsName d.text.toList := by
  have hletters : ∀ cs : List Char, cs.all Char.isAlpha = true → IsName ('M' :: cs) :=
    fun cs hcs => .mk rfl rfl fun c hc => Lexeme.isNamePart_of_isAlpha (List.all_eq_true.1 hcs c hc)
  cases d <;> exact hletters _ rfl

lemma isDirection_of_text {d : Direction} {t : Token} (hk : t.kind = .name)
    (h : t.text.toList = d.text.toList) : IsDirection d t := by
  rw [Reading.isDirection_iff, String.toList_inj.1 h]
  cases d <;> exact ⟨hk, rfl⟩

theorem scans_write (h : o.Writable) :
    Scans (IsObjective o.direction o.name (o.terms.map Term.restated)) o.write.toList [] := by
  have hstop : ∀ {c : Char} {cs : List Char}, Lexeme.isNamePart c = false →
      (c :: cs).head?.any Lexeme.isNamePart = false := id
  have hwrite : o.write.toList = o.direction.text.toList ++ ([':'] ++ ' ' :: (o.name.toList ++
      ' ' :: (['='] ++ ' ' :: (Term.writeAll o.terms).toList))) := by
    simp [write]
  rw [hwrite]
  refine (scans_name (isName_direction _) (hstop rfl)).cons fun word hword hd => ?_
  refine (scans_colon _).cons fun colon hcolon _ => .blank rfl ?_
  refine (scans_name h.name (hstop rfl)).cons fun name hname htext => .blank rfl ?_
  refine (scans_equal rfl).cons fun eq heq _ => .blank rfl ?_
  refine (Term.scans_writeAll h.ne_nil h.terms rfl).mono fun hts => ?_
  rw [← String.toList_inj.1 htext]
  exact .mk (isDirection_of_text hword hd) hcolon hname heq hts

theorem exists_read_write (h : o.Writable) : ∃ o', Objective.read o.write = .ok o' ∧
    o'.direction = o.direction ∧ o'.name = o.name ∧
      o'.terms.map Term.written = o.terms.map Term.restated :=
  exists_read_iff.2 (scans_write h).words

lemma isLine_write (h : o.Writable) : Block.IsLine o.write.toList := by
  obtain ⟨s, t, ht, hlast⟩ := Term.exists_writeAll_eq h.ne_nil
  have hstart := newline_notMem (isName_direction o.direction).isBlank_eq_false
  have hname := newline_notMem h.name.isBlank_eq_false
  have hterms := Term.newline_notMem_writeAll h.terms
  obtain ⟨cs, hfirst⟩ : ∃ cs, o.write.toList = 'M' :: cs := by
    obtain ⟨cs, hd⟩ : ∃ cs, o.direction.text.toList = 'M' :: cs := by
      cases o.direction <;> exact ⟨_, rfl⟩
    exact ⟨cs ++ (": " ++ o.name ++ " = " ++ Term.writeAll o.terms).toList, by simp [write, hd]⟩
  refine ⟨by simp [hfirst], Unicode.trim_eq_self ?_ ?_, ?_, ?_⟩
  · rw [hfirst]
    rfl
  · rw [write, hlast, ← String.append_assoc, String.toList_append]
    exact (h.terms t ht).name.getLast?_append _
  · simp [write, hstart, hname, hterms]
  · rw [hfirst]
    rfl

lemma isName_of_read (h : Objective.read source = .ok o) :
    IsName o.name.toList ∧ o.terms ≠ [] ∧ ∀ t ∈ o.terms, IsName t.name.toList := by
  have hname : ∀ t ∈ words source, t.kind = .name → IsName t.text.toList :=
    fun t ht => isName_of_mem_words ht
  have hgrammar := exists_read_iff.1 ⟨o, h, rfl, rfl, rfl⟩
  generalize hd : o.direction = d, hn : o.name = n, has : o.terms.map Term.written = as,
    words source = ws at hgrammar hname
  cases hgrammar with
  | @mk _ word colon name eq ts hword hcolon hk heq hterms =>
    obtain ⟨hne, hnames⟩ := hterms.isName fun t ht => hname t (by simp [ht])
    subst has
    exact ⟨hname name (by simp) hk, by simpa using hne, fun t ht =>
      hnames t.written (List.mem_map_of_mem ht)⟩

lemma writable_of_read (h : Objective.read source = .ok o)
    (hfinite : ∀ t ∈ o.terms, Scalar.isFinite (t.coefficient.value Float) = true) :
    o.Writable := by
  obtain ⟨hname, hne, hnames⟩ := isName_of_read h
  exact
    { name := hname
      ne_nil := hne
      terms := fun t ht => ⟨isFinite_magnitude (hfinite t ht), hnames t ht⟩ }

end Objective

end LinearProgram
