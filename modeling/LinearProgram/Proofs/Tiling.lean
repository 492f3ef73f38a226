import Mathlib.Data.String.Basic
import LinearProgram.Proofs.Lexemes

namespace LinearProgram

open Unicode

variable {cs ds : List Char}

lemma byteLength_append (cs ds : List Char) :
    byteLength (cs ++ ds) = byteLength cs + byteLength ds := by
  induction cs with
  | nil => simp [byteLength]
  | cons c cs ih => simp [byteLength, ih, Nat.add_assoc]

lemma byteLength_eq_utf8Len (cs : List Char) : byteLength cs = String.utf8Len cs := by
  induction cs with
  | nil => rfl
  | cons c cs ih => rw [byteLength, ih, Nat.add_comm, String.utf8Len_cons]

lemma byteLength_toList (s : String) : byteLength s.toList = s.utf8ByteSize := by
  rw [byteLength_eq_utf8Len, String.utf8Len_toList]

namespace Span

instance : Membership Nat Span := ⟨fun s i => s.start ≤ i ∧ i < s.stop⟩

def slice? (s : Span) (source : String) : Option String :=
  if String.Pos.Raw.isValid source ⟨s.start⟩ ∧ String.Pos.Raw.isValid source ⟨s.stop⟩ ∧
      s.start ≤ s.stop then
    some (String.Pos.Raw.extract source ⟨s.start⟩ ⟨s.stop⟩)
  else none

lemma isValid_byteLength {source : String} {l r : List Char} (h : source.toList = l ++ r) :
    String.Pos.Raw.isValid source ⟨byteLength l⟩ = true := by
  rw [String.Pos.Raw.isValid_eq_true_iff, String.Pos.Raw.isValid_iff_exists_append]
  refine ⟨String.ofList l, String.ofList r, ?_, ?_⟩
  · rw [← String.ofList_append, ← h, String.ofList_toList]
  · rw [String.rawEndPos_ofList, byteLength_eq_utf8Len]

lemma slice?_eq_some {source : String} {l text r : List Char}
    (h : source.toList = l ++ text ++ r) :
    (⟨byteLength l, byteLength l + byteLength text⟩ : Span).slice? source =
      some (String.ofList text) := by
  have hstart := isValid_byteLength (by simpa using h : source.toList = l ++ (text ++ r))
  have hstop := isValid_byteLength h
  rw [byteLength_append] at hstop
  rw [slice?, if_pos ⟨hstart, hstop, Nat.le_add_right _ _⟩, ← String.ofList_toList (s := source), h]
  simp only [byteLength_eq_utf8Len, String.extract_of_valid]

end Span

namespace Token

variable {pos : Nat} {c : Char} {k s : List Char} {kind : TokenKind} {t : Token}
  {before after : List Token}

def endAt (pos : Nat) : Token :=
  ⟨.finish, ⟨pos, pos⟩, ""⟩

lemma scanFrom_lexeme (hc : isBlank c = false) (h : Lexeme.continuation c (k ++ s) = (kind, k))
    (pos : Nat) : scanFrom pos (c :: k ++ s) =
      ⟨kind, ⟨pos, pos + byteLength (c :: k)⟩, String.ofList (c :: k)⟩ ::
        scanFrom (pos + byteLength (c :: k)) s := by
  rw [List.cons_append, scanFrom, if_neg (by simp [hc]), h, List.drop_left]

lemma scanFrom_nil (pos : Nat) : scanFrom pos [] = [endAt pos] := by
  rw [scanFrom, endAt]

lemma scanFrom_blank (hc : isBlank c = true) (pos : Nat) (r : List Char) :
    scanFrom pos (c :: r) = scanFrom (pos + c.utf8Size) r := by
  rw [scanFrom, if_pos hc]

@[elab_as_elim]
lemma scanFrom_induction {motive : Nat → List Char → Prop} (nil : ∀ pos, motive pos [])
    (blank : ∀ pos c r, isBlank c = true → motive (pos + c.utf8Size) r → motive pos (c :: r))
    (lexeme : ∀ pos c k s kind, isBlank c = false → Lexeme.continuation c (k ++ s) = (kind, k) →
      motive (pos + byteLength (c :: k)) s → motive pos (c :: k ++ s))
    (pos : Nat) (cs : List Char) : motive pos cs := by
  fun_induction scanFrom pos cs with
  | case1 pos => exact nil pos
  | case2 pos c r hc ih => exact blank pos c r hc ih
  | case3 pos c r hc text stop ih =>
    have hr := Lexeme.continuation_append c r
    have h := lexeme pos c _ (r.drop (Lexeme.continuation c r).2.length)
      (Lexeme.continuation c r).1 (by simpa using hc) (by rw [hr]) ih
    rwa [List.cons_append, hr] at h

lemma exists_scanFrom_eq (h : scanFrom pos cs = before ++ t :: after) : ∃ l r,
    cs = l ++ t.text.toList ++ r ∧
      t.span = ⟨pos + byteLength l, pos + byteLength l + byteLength t.text.toList⟩ ∧
      scanFrom (pos + byteLength l) (t.text.toList ++ r) = t :: after := by
  induction pos, cs using scanFrom_induction generalizing before with
  | nil pos =>
    cases before with
    | nil =>
      rw [scanFrom_nil] at h
      cases h
      exact ⟨[], [], rfl, rfl, scanFrom_nil pos⟩
    | cons b before => simp [scanFrom_nil] at h
  | blank pos c r hc ih =>
    rw [scanFrom_blank hc] at h
    obtain ⟨l, r, rfl, hspan, hscan⟩ := ih h
    have hpos : pos + byteLength (c :: l) = pos + c.utf8Size + byteLength l := by
      rw [byteLength, Nat.add_assoc]
    exact ⟨c :: l, r, rfl, hpos ▸ hspan, hpos ▸ hscan⟩
  | lexeme pos c k s kind hc hk ih =>
    have hfirst := scanFrom_lexeme hc hk pos
    cases before with
    | nil =>
      rw [h] at hfirst
      obtain ⟨rfl, rfl⟩ := List.cons_eq_cons.1 hfirst
      refine ⟨[], s, ?_, ?_, ?_⟩
      · rw [String.toList_ofList]
        rfl
      · rw [String.toList_ofList]
        rfl
      · rw [String.toList_ofList]
        exact scanFrom_lexeme hc hk pos
    | cons b before =>
      rw [hfirst, List.cons_append] at h
      obtain ⟨l, r, rfl, hspan, hscan⟩ := ih (List.cons_eq_cons.1 h).2
      have hpos : pos + byteLength (c :: k ++ l) = pos + byteLength (c :: k) + byteLength l := by
        rw [byteLength_append, Nat.add_assoc]
      exact ⟨c :: k ++ l, r, by simp, hpos ▸ hspan, hpos ▸ hscan⟩

theorem slice?_of_mem_scan {source : String} (h : t ∈ scan source) :
    t.span.slice? source = some t.text := by
  obtain ⟨before, after, h⟩ := List.append_of_mem h
  obtain ⟨l, r, hsource, hspan, -⟩ := exists_scanFrom_eq h
  rw [hspan, Nat.zero_add, Span.slice?_eq_some hsource, String.ofList_toList]

lemma exists_scanFrom_eq_concat (pos : Nat) (cs : List Char) : ∃ ts,
    scanFrom pos cs = ts ++ [endAt (pos + byteLength cs)] ∧
      ∀ t ∈ ts, t.kind ≠ .finish ∧ t.span.start < t.span.stop := by
  induction pos, cs using scanFrom_induction with
  | nil pos => exact ⟨[], scanFrom_nil pos, nofun⟩
  | blank pos c r hc ih =>
    obtain ⟨ts, h, hts⟩ := ih
    exact ⟨ts, by rw [scanFrom_blank hc, h, byteLength, Nat.add_assoc], hts⟩
  | lexeme pos c k s kind hc hk ih =>
    obtain ⟨ts, h, hts⟩ := ih
    rw [scanFrom_lexeme hc hk, h, byteLength_append, ← Nat.add_assoc]
    refine ⟨_ :: ts, rfl, List.forall_mem_cons.2 ⟨⟨?_, ?_⟩, hts⟩⟩
    · simpa [hk] using Lexeme.kind_ne_finish c (k ++ s)
    · have := c.utf8Size_pos
      simp only [byteLength]
      omega

lemma pairwise_scanFrom (pos : Nat) (cs : List Char) :
    (∀ t ∈ scanFrom pos cs, pos ≤ t.span.start) ∧
      (scanFrom pos cs).Pairwise fun t u => t.span.stop ≤ u.span.start := by
  induction pos, cs using scanFrom_induction with
  | nil pos => simp [scanFrom_nil, endAt]
  | blank pos c r hc ih =>
    rw [scanFrom_blank hc]
    exact ⟨fun t ht => (Nat.le_add_right _ _).trans (ih.1 t ht), ih.2⟩
  | lexeme pos c k s kind hc hk ih =>
    rw [scanFrom_lexeme hc hk]
    refine ⟨List.forall_mem_cons.2 ⟨le_rfl, fun t ht => ?_⟩, List.pairwise_cons.2 ⟨ih.1, ih.2⟩⟩
    exact (Nat.le_add_right _ _).trans (ih.1 t ht)

lemma exists_of_comment (h : t ∈ scanFrom pos cs) (hk : t.kind = .comment) :
    ∃ before, scanFrom pos cs = before ++ [t, endAt t.span.stop] := by
  induction pos, cs using scanFrom_induction with
  | nil pos =>
    rw [scanFrom_nil, List.mem_singleton] at h
    subst h
    cases hk
  | blank pos c r hc ih =>
    rw [scanFrom_blank hc] at h ⊢
    exact ih h
  | lexeme pos c k s kind hc hcontinuation ih =>
    rw [scanFrom_lexeme hc hcontinuation] at h ⊢
    rcases List.mem_cons.1 h with rfl | h
    · obtain rfl : kind = .comment := hk
      obtain rfl := Lexeme.eq_nil_of_comment hcontinuation
      exact ⟨[], by rw [scanFrom_nil]; rfl⟩
    · obtain ⟨before, hbefore⟩ := ih h
      exact ⟨_ :: before, by rw [hbefore]; rfl⟩

lemma exists_blank {i : Nat} (hi : pos ≤ i) (hi' : i < pos + byteLength cs)
    (h : ∀ t ∈ scanFrom pos cs, i ∉ t.span) : ∃ l c r, cs = l ++ [c] ++ r ∧ isBlank c = true ∧
      pos + byteLength l ≤ i ∧ i < pos + byteLength l + c.utf8Size := by
  induction pos, cs using scanFrom_induction with
  | nil pos => exact absurd hi' (by simp [byteLength, hi])
  | blank pos c r hc ih =>
    by_cases hfirst : i < pos + c.utf8Size
    · exact ⟨[], c, r, rfl, hc, hi, hfirst⟩
    · rw [scanFrom_blank hc] at h
      rw [byteLength, ← Nat.add_assoc] at hi'
      obtain ⟨l, c', r, rfl, hc', hstart, hstop⟩ := ih (by omega) hi' h
      exact ⟨c :: l, c', r, by simp, hc', by rw [byteLength]; omega, by rw [byteLength]; omega⟩
  | lexeme pos c k s kind hc hk ih =>
    rw [scanFrom_lexeme hc hk] at h
    obtain ⟨hfirst, h⟩ := List.forall_mem_cons.1 h
    have hlater : pos + byteLength (c :: k) ≤ i := by
      by_contra hlt
      exact hfirst ⟨hi, by simpa using hlt⟩
    rw [byteLength_append, ← Nat.add_assoc] at hi'
    obtain ⟨l, c', r, rfl, hc', hstart, hstop⟩ := ih hlater hi' h
    refine ⟨c :: k ++ l, c', r, by simp, hc', ?_, ?_⟩ <;> rw [byteLength_append] <;> omega

theorem scan_tiles (source : String) : ∃ ts : List Token,
    scan source = ts ++ [⟨.finish, ⟨source.utf8ByteSize, source.utf8ByteSize⟩, ""⟩] ∧
      (∀ t ∈ ts, t.kind ≠ .finish ∧ t.span.start < t.span.stop ∧
        t.span.slice? source = some t.text) ∧
      (ts.Pairwise fun t u => t.span.stop ≤ u.span.start) ∧
      (∀ i < source.utf8ByteSize, (∀ t ∈ ts, i ∉ t.span) → ∃ (s : Span) (c : Char),
        i ∈ s ∧ s.slice? source = some (String.ofList [c]) ∧ isBlank c = true) ∧
      ∀ t ∈ ts, t.kind = .comment →
        ts.getLast? = some t ∧ t.span.stop = source.utf8ByteSize := by
  obtain ⟨ts, hscan, hts⟩ := exists_scanFrom_eq_concat 0 source.toList
  have hmem : ∀ t ∈ ts, t ∈ scan source := fun t ht => by
    rw [scan, hscan]
    exact List.mem_append_left _ ht
  have hpairwise := (pairwise_scanFrom 0 source.toList).2
  rw [byteLength_toList, Nat.zero_add] at hscan
  refine ⟨ts, hscan, fun t ht => ⟨(hts t ht).1, (hts t ht).2, slice?_of_mem_scan (hmem t ht)⟩,
    ?_, fun i hi hout => ?_, fun t ht hk => ?_⟩
  · rw [hscan] at hpairwise
    exact (List.pairwise_append.1 hpairwise).1
  · have hall : ∀ t ∈ scanFrom 0 source.toList, i ∉ t.span := by
      rw [hscan, List.forall_mem_append, List.forall_mem_singleton]
      exact ⟨hout, fun h => absurd h.1 (by simpa [endAt] using hi)⟩
    obtain ⟨l, c, r, hsource, hc, hstart, hstop⟩ := exists_blank (Nat.zero_le i)
      (by rwa [byteLength_toList, Nat.zero_add]) hall
    rw [Nat.zero_add] at hstart hstop
    exact ⟨_, c, ⟨hstart, hstop⟩, Span.slice?_eq_some hsource, hc⟩
  · obtain ⟨before, hbefore⟩ := exists_of_comment (hmem t ht) hk
    have hboth : ts ++ [endAt source.utf8ByteSize] = before ++ [t] ++ [endAt t.span.stop] := by
      rw [← hscan, hbefore, List.append_assoc]
      rfl
    obtain ⟨rfl, hfin⟩ := List.append_inj' hboth rfl
    refine ⟨by simp, ?_⟩
    simpa [endAt] using hfin.symm

end Token

end LinearProgram
