import LinearProgram.Proofs.Descent
import LinearProgram.Proofs.Numerals
import LinearProgram.Proofs.Words

namespace LinearProgram

open Unicode

namespace Lexeme

variable {c : Char} {r s : List Char}

lemma continuation_of_name (h : (continuation c s).1 = .name) (r : List Char) :
    continuation c r = (.name, r.takeWhile isNamePart) := by
  fun_cases continuation c s <;> simp_all [continuation]

lemma continuation_of_isDigit (h : c.isDigit = true) (r : List Char) :
    continuation c r = (.number, number r) := by
  have hne : ∀ d : Char, d.isDigit = false → (c == d) = false := by
    rintro d hd
    rw [beq_eq_false_iff_ne]
    rintro rfl
    simp_all
  simp [continuation, hne, h]

lemma isDigit_of_name (h : (continuation c s).1 = .name) : c.isDigit = false := by
  by_contra hc
  rw [continuation_of_isDigit (by simpa using hc)] at h
  cases h

lemma ne_point_of_name (h : (continuation c s).1 = .name) : c ≠ '.' := by
  rintro rfl
  have := continuation_of_name h []
  cases this

lemma isNamePart_of_name (h : (continuation c s).1 = .name) : isNamePart c = true := by
  have hstart : isNameStart c = true := by
    fun_cases continuation c s <;> simp_all [continuation]
  rw [isNameStart, Bool.or_eq_true] at hstart
  rcases hstart with hletter | hunderscore
  · simp [isNamePart, isAlphanumeric, hletter]
  · simp [isNamePart, hunderscore]

lemma isNamePart_of_isAlpha (h : c.isAlpha = true) : isNamePart c = true := by
  simp [isNamePart, isAlphanumeric, isAlphabetic, h]

lemma fraction_eq_nil (h : r.head? ≠ some '.') : fraction r = [] := by
  unfold fraction
  split
  · simp at h
  · rfl

lemma number_whole (hr : ∀ x ∈ r, x.isDigit = true) (hs : s.head?.any Char.isDigit = false)
    (hfraction : fraction s = []) : number (r ++ s) = r := by
  rw [number, takeWhile_append_of_stop hr hs, dropWhile_append_of_stop hr hs, hfraction,
    List.append_nil]

lemma number_fraction {fs : List Char} (hr : ∀ x ∈ r, x.isDigit = true) (hfs : fs ≠ [])
    (hdigits : ∀ x ∈ fs, x.isDigit = true) (hs : s.head?.any Char.isDigit = false) :
    number (r ++ '.' :: fs ++ s) = r ++ '.' :: fs := by
  have hstop : ('.' :: (fs ++ s)).head?.any Char.isDigit = false := rfl
  have hfirst : (fs ++ s).head?.any Char.isDigit = true := by
    cases fs <;> simp_all
  rw [List.append_assoc, List.cons_append, number, takeWhile_append_of_stop hr hstop,
    dropWhile_append_of_stop hr hstop, fraction, if_pos hfirst, takeWhile_append_of_stop hdigits hs]

lemma isBlank_of_isNamePart (h : isNamePart c = true) : isBlank c = false := by
  rw [← Bool.not_eq_true, isBlank, Ranges.contains_iff]
  rintro ⟨r, hr, hlow, hhigh⟩
  have hblanks : ∀ r ∈ blankRanges, ∀ k < r.2 + 1 - r.1,
      isNamePart (Char.ofNat (r.1 + k)) = false := by decide +kernel
  have hc := hblanks r hr (c.toNat - r.1) (by omega)
  rw [Nat.add_sub_cancel' hlow, Char.ofNat_toNat, h] at hc
  cases hc

lemma isNamePart_of_isDigit (h : c.isDigit = true) : isNamePart c = true := by
  simp [isNamePart, isAlphanumeric, isNumeric, h]

lemma isBlank_of_isDigit (h : c.isDigit = true) : isBlank c = false :=
  isBlank_of_isNamePart (isNamePart_of_isDigit h)

end Lexeme

inductive IsName : List Char → Prop
  | mk {c : Char} {r : List Char} : isBlank c = false → (Lexeme.continuation c r).1 = .name →
      (∀ x ∈ r, Lexeme.isNamePart x = true) → IsName (c :: r)

variable {cs : List Char}

lemma IsName.ne_stop (h : IsName cs) (rest : List Char) :
    (cs ++ rest).head?.any Char.isDigit = false ∧ (cs ++ rest).head? ≠ some '.' := by
  cases h with
  | mk hc hkind hr => simp [Lexeme.isDigit_of_name hkind, Lexeme.ne_point_of_name hkind]

lemma IsName.isNamePart (h : IsName cs) : ∀ c ∈ cs, Lexeme.isNamePart c = true := by
  cases h with
  | mk hc hkind hr => exact List.forall_mem_cons.2 ⟨Lexeme.isNamePart_of_name hkind, hr⟩

lemma IsName.isBlank_eq_false (h : IsName cs) : ∀ c ∈ cs, isBlank c = false :=
  fun c hc => Lexeme.isBlank_of_isNamePart (h.isNamePart c hc)

lemma IsPlainNumeral.isBlank_eq_false (h : IsPlainNumeral cs) : ∀ c ∈ cs, isBlank c = false := by
  cases h with
  | whole hds hdigits => exact fun c hc => Lexeme.isBlank_of_isDigit (hdigits c hc)
  | fraction hds hdigits hfs hfraction =>
    intro c hc
    rcases List.mem_append.1 hc with hc | hc
    · exact Lexeme.isBlank_of_isDigit (hdigits c hc)
    · rcases List.mem_cons.1 hc with rfl | hc
      · rfl
      · exact Lexeme.isBlank_of_isDigit (hfraction c hc)

lemma newline_notMem (h : ∀ c ∈ cs, isBlank c = false) : '\n' ∉ cs :=
  fun hmem => nomatch h _ hmem

lemma IsName.getLast?_append (h : IsName cs) (before : List Char) :
    (before ++ cs).getLast?.any isBlank = false := by
  have hne : cs ≠ [] := by
    cases h
    exact List.cons_ne_nil _ _
  rw [List.getLast?_append, List.getLast?_eq_some_getLast hne]
  exact h.isBlank_eq_false _ (List.getLast_mem hne)

namespace Token

variable {P Q : List Token → Prop} {ds rest : List Char}

lemma isName_of_mem_scanFrom {pos : Nat} {t : Token} (h : t ∈ scanFrom pos cs)
    (hk : t.kind = .name) : IsName t.text.toList := by
  fun_induction scanFrom pos cs with
  | case1 pos =>
    obtain rfl := List.mem_singleton.1 h
    cases hk
  | case2 pos c r hc ih => exact ih h
  | case3 pos c r hc text stop ih =>
    rcases List.mem_cons.1 h with rfl | h
    · rw [String.toList_ofList]
      refine .mk (by simpa using hc) ?_ fun x hx => ?_
      · rw [Lexeme.continuation_of_name hk]
      · rw [Lexeme.continuation_of_name hk] at hx
        exact List.mem_takeWhile_imp hx
    · exact ih h

lemma isName_of_mem_words {source : String} {t : Token} (h : t ∈ words source)
    (hk : t.kind = .name) : IsName t.text.toList :=
  isName_of_mem_scanFrom (List.mem_of_mem_filter h) hk

def wordsFrom (pos : Nat) (cs : List Char) : List Token :=
  (scanFrom pos cs).filter isWord

def Scans (P : List Token → Prop) (cs rest : List Char) : Prop :=
  ∀ pos, ∃ ts stop, P ts ∧ wordsFrom pos (cs ++ rest) = ts ++ wordsFrom stop rest

lemma Scans.bind (hcs : Scans P cs (ds ++ rest))
    (hds : ∀ ts, P ts → Scans (fun us => Q (ts ++ us)) ds rest) : Scans Q (cs ++ ds) rest := by
  intro pos
  obtain ⟨ts, middle, hts, hscan⟩ := hcs pos
  obtain ⟨us, stop, hus, hscan'⟩ := hds ts hts middle
  exact ⟨ts ++ us, stop, hus, by rw [List.append_assoc, hscan, hscan', List.append_assoc]⟩

lemma Scans.mono (h : Scans P cs rest) (hPQ : ∀ {ts}, P ts → Q ts) : Scans Q cs rest := by
  intro pos
  obtain ⟨ts, stop, hts, hscan⟩ := h pos
  exact ⟨ts, stop, hPQ hts, hscan⟩

lemma Scans.words {source : String} (h : Scans P source.toList []) : P (words source) := by
  obtain ⟨ts, stop, hts, hscan⟩ := h 0
  have hend : wordsFrom stop [] = [] := by
    rw [wordsFrom, scanFrom]
    rfl
  rw [hend, List.append_nil, List.append_nil] at hscan
  have hwords : Token.words source = ts := hscan
  exact hwords ▸ hts

lemma scans_nil (h : P []) : Scans P [] rest :=
  fun pos => ⟨[], pos, h, rfl⟩

lemma Scans.blank {c : Char} (hc : isBlank c = true) (h : Scans P cs rest) :
    Scans P (c :: cs) rest := by
  intro pos
  obtain ⟨ts, stop, hts, hscan⟩ := h (pos + c.utf8Size)
  refine ⟨ts, stop, hts, ?_⟩
  rw [List.cons_append, wordsFrom, scanFrom, if_pos hc]
  exact hscan

def IsLexeme (kind : TokenKind) (cs : List Char) (ts : List Token) : Prop :=
  ∃ t, ts = [t] ∧ t.kind = kind ∧ t.text.toList = cs

variable {c : Char} {r : List Char} {kind : TokenKind}

lemma Scans.cons (hcs : Scans (IsLexeme kind cs) cs (ds ++ rest))
    (hds : ∀ t, t.kind = kind → t.text.toList = cs → Scans (fun us => P (t :: us)) ds rest) :
    Scans P (cs ++ ds) rest := by
  refine hcs.bind ?_
  rintro _ ⟨t, rfl, hkind, htext⟩
  exact hds t hkind htext

lemma scans_lexeme (hc : isBlank c = false)
    (h : Lexeme.continuation c (r ++ rest) = (kind, r)) (hkind : kind ≠ .comment) :
    Scans (IsLexeme kind (c :: r)) (c :: r) rest := by
  intro pos
  have hfinish : kind ≠ .finish := by
    simpa [h] using Lexeme.kind_ne_finish c (r ++ rest)
  refine ⟨_, pos + byteLength (c :: r), ⟨⟨kind, ⟨pos, pos + byteLength (c :: r)⟩,
    String.ofList (c :: r)⟩, rfl, rfl, String.toList_ofList⟩, ?_⟩
  have hword : isWord ⟨kind, ⟨pos, pos + byteLength (c :: r)⟩, String.ofList (c :: r)⟩ = true := by
    simp [isWord, hkind, hfinish]
  rw [List.cons_append, wordsFrom, scanFrom, if_neg (by simp [hc])]
  simp only [h, List.drop_left, List.filter_cons_of_pos hword]
  rfl

lemma scans_symbol (hc : isBlank c = false)
    (h : Lexeme.continuation c rest = (kind, [])) (hkind : kind ≠ .comment) :
    Scans (IsLexeme kind [c]) [c] rest :=
  scans_lexeme hc h hkind

lemma scans_plus (rest : List Char) : Scans (IsLexeme .plus ['+']) ['+'] rest :=
  scans_symbol rfl rfl nofun

lemma scans_minus (rest : List Char) : Scans (IsLexeme .minus ['-']) ['-'] rest :=
  scans_symbol rfl rfl nofun

lemma scans_colon (rest : List Char) : Scans (IsLexeme .colon [':']) [':'] rest :=
  scans_symbol rfl rfl nofun

lemma scans_equal (h : Lexeme.equals rest = []) : Scans (IsLexeme .equal ['=']) ['='] rest :=
  scans_symbol rfl (congrArg (TokenKind.equal, ·) h) nofun

lemma scans_name (h : IsName cs) (hrest : rest.head?.any Lexeme.isNamePart = false) :
    Scans (IsLexeme .name cs) cs rest := by
  cases h with
  | mk hc hkind hr =>
    refine scans_lexeme hc ?_ nofun
    rw [Lexeme.continuation_of_name hkind, takeWhile_append_of_stop hr hrest]

lemma scans_numeral (h : IsPlainNumeral cs) (hrest : rest.head?.any Char.isDigit = false)
    (hpoint : rest.head? ≠ some '.') : Scans (IsLexeme .number cs) cs rest := by
  cases h with
  | @whole _ hds hdigits =>
    obtain ⟨d, ds, rfl⟩ := List.exists_cons_of_ne_nil hds
    obtain ⟨hd, hdigits⟩ := List.forall_mem_cons.1 hdigits
    refine scans_lexeme (Lexeme.isBlank_of_isDigit hd) ?_ nofun
    rw [Lexeme.continuation_of_isDigit hd, Lexeme.number_whole hdigits hrest
      (Lexeme.fraction_eq_nil hpoint)]
  | @fraction ds fs hds hdigits hfs hfraction =>
    obtain ⟨d, ds, rfl⟩ := List.exists_cons_of_ne_nil hds
    obtain ⟨hd, hdigits⟩ := List.forall_mem_cons.1 hdigits
    refine scans_lexeme (Lexeme.isBlank_of_isDigit hd) ?_ nofun
    have hnumber := Lexeme.number_fraction hdigits hfs hfraction hrest
    rw [Lexeme.continuation_of_isDigit hd]
    exact congrArg _ hnumber

end Token

end LinearProgram
