import LinearProgram.Proofs.Placement
import LinearProgram.Proofs.Tiling

namespace LinearProgram

open Unicode

namespace Span

variable {s t u : Span}

def shift (k : Nat) (s : Span) : Span :=
  ⟨k + s.start, k + s.stop⟩

lemma shift_join (k : Nat) (s t : Span) : (s.join t).shift k = (s.shift k).join (t.shift k) := by
  simp [shift, join]

instance : HasSubset Span := ⟨fun s t => t.start ≤ s.start ∧ s.stop ≤ t.stop⟩

lemma join_subset (hs : s ⊆ u) (ht : t ⊆ u) : s.join t ⊆ u :=
  ⟨le_min hs.1 ht.1, max_le hs.2 ht.2⟩

structure Ordered (ss : List Span) : Prop where
  start_lt_stop : ∀ s ∈ ss, s.start < s.stop
  pairwise : ss.Pairwise fun s t => s.stop ≤ t.start

lemma Ordered.sublist {ss ts : List Span} (h : Ordered ts) (hs : ss.Sublist ts) : Ordered ss :=
  ⟨fun s hmem => h.start_lt_stop s (hs.subset hmem), h.pairwise.sublist hs⟩

end Span

namespace Token

open LinearProgram.Span (Ordered)

variable {ts us : List Token} {t u v : Token}

lemma start_head_le (h : Ordered (ts.map span)) (ht : ts.head? = some t) (hv : v ∈ ts) :
    t.span.start ≤ v.span.start := by
  obtain ⟨vs, rfl⟩ := List.head?_eq_some_iff.1 ht
  rcases List.mem_cons.1 hv with rfl | hv
  · exact le_rfl
  · have hstart := h.start_lt_stop t.span (by simp)
    have hstop := (List.pairwise_cons.1 h.pairwise).1 v.span (List.mem_map_of_mem hv)
    exact hstart.le.trans hstop

lemma stop_le_getLast (h : Ordered (ts.map span)) (hu : ts.getLast? = some u) (hv : v ∈ ts) :
    v.span.stop ≤ u.span.stop := by
  obtain ⟨vs, rfl⟩ := List.getLast?_eq_some_iff.1 hu
  rcases List.mem_append.1 hv with hv | hv
  · have hstart := h.start_lt_stop u.span (by simp)
    have hpairwise := h.pairwise
    rw [List.map_append, List.pairwise_append] at hpairwise
    exact (hpairwise.2.2 v.span (List.mem_map_of_mem hv) u.span (by simp)).trans hstart.le
  · rw [List.mem_singleton.1 hv]

lemma coverage_eq (h : Ordered (ts.map span)) (ht : ts.head? = some t)
    (hu : ts.getLast? = some u) : coverage ts = ⟨t.span.start, u.span.stop⟩ := by
  have hstart := start_head_le h ht (List.mem_of_getLast? hu)
  have hstop := stop_le_getLast h hu (List.mem_of_head? ht)
  simp only [coverage, ht, hu, Option.map_some, Option.getD_some, Span.join, min_eq_left hstart,
    max_eq_right hstop]

lemma exists_head_getLast (h : ts ≠ []) : ∃ t u, ts.head? = some t ∧ ts.getLast? = some u :=
  ⟨ts.head h, ts.getLast h, List.head?_eq_some_head h, List.getLast?_eq_some_getLast h⟩

lemma span_subset_coverage (h : Ordered (ts.map span)) (hv : v ∈ ts) : v.span ⊆ coverage ts := by
  obtain ⟨t, u, ht, hu⟩ := exists_head_getLast (List.ne_nil_of_mem hv)
  rw [coverage_eq h ht hu]
  exact ⟨start_head_le h ht hv, stop_le_getLast h hu hv⟩

lemma coverage_subset (h : Ordered (us.map span)) (hne : ts ≠ []) (hts : ts ⊆ us) :
    coverage ts ⊆ coverage us := by
  obtain ⟨t, u, ht, hu⟩ := exists_head_getLast hne
  simp only [coverage.eq_def ts, ht, hu, Option.map_some, Option.getD_some]
  exact Span.join_subset (span_subset_coverage h (hts (List.mem_of_head? ht)))
    (span_subset_coverage h (hts (List.mem_of_getLast? hu)))

lemma ordered_coverage {segments : List (List Token)} (h : Ordered (segments.flatten.map span))
    (hne : ∀ ts ∈ segments, ts ≠ []) : Ordered (segments.map coverage) := by
  have hordered (ts : List Token) (hts : ts ∈ segments) : Ordered (ts.map span) :=
    h.sublist ((List.sublist_flatten_of_mem hts).map span)
  constructor
  · rw [List.forall_mem_map]
    intro ts hts
    obtain ⟨t, u, ht, hu⟩ := exists_head_getLast (hne ts hts)
    have hstop := stop_le_getLast (hordered ts hts) hu (List.mem_of_head? ht)
    have hlt := (hordered ts hts).start_lt_stop t.span (List.mem_map_of_mem (List.mem_of_head? ht))
    rw [coverage_eq (hordered ts hts) ht hu]
    exact hlt.trans_le hstop
  · have hpairwise := List.pairwise_map.1 h.pairwise
    rw [List.pairwise_flatten] at hpairwise
    rw [List.pairwise_map]
    refine hpairwise.2.imp_of_mem fun {ts us} hts hus hdisjoint => ?_
    obtain ⟨t, u, ht, hu⟩ := exists_head_getLast (hne ts hts)
    obtain ⟨t', u', ht', hu'⟩ := exists_head_getLast (hne us hus)
    rw [coverage_eq (hordered ts hts) ht hu, coverage_eq (hordered us hus) ht' hu']
    exact hdisjoint u (List.mem_of_getLast? hu) t' (List.mem_of_head? ht')

lemma coverage_map_move {g : Span → Span} (hg : ∀ a b : Span, g (a.join b) = (g a).join (g b))
    (hne : ts ≠ []) (hts : ∀ t ∈ ts, t.kind ≠ .finish) :
    coverage (ts.map (move g)) = g (coverage ts) := by
  obtain ⟨t, u, ht, hu⟩ := exists_head_getLast hne
  simp only [coverage, List.head?_map, List.getLast?_map, ht, hu, Option.map_some, Option.getD_some,
    hg, span_move (hts t (List.mem_of_head? ht)), span_move (hts u (List.mem_of_getLast? hu))]

section Scan

variable {pos : Nat} {cs : List Char} {source : String} {before segment after : List Token}

lemma map_move_scanFrom (k pos : Nat) (cs : List Char) :
    (scanFrom (k + pos) cs).map (move id) = (scanFrom pos cs).map (move (Span.shift k)) := by
  induction pos, cs using scanFrom_induction with
  | nil pos =>
    rw [scanFrom_nil, scanFrom_nil]
    rfl
  | blank pos c r hc ih => rw [scanFrom_blank hc, scanFrom_blank hc, Nat.add_assoc, ih]
  | lexeme pos c r s kind hc hr ih =>
    rw [scanFrom_lexeme hc hr, scanFrom_lexeme hc hr, List.map_cons, List.map_cons, Nat.add_assoc,
      ih]
    rfl

lemma exists_scanFrom_up_to (h : scanFrom pos cs = before ++ t :: after)
    (ht : t.kind ≠ .finish) : ∃ l r, cs = l ++ r ∧ t.span.stop = pos + byteLength l ∧
      scanFrom pos l = before ++ [t, endAt t.span.stop] := by
  induction pos, cs using scanFrom_induction generalizing before with
  | nil pos =>
    rw [scanFrom_nil] at h
    cases before with
    | nil =>
      cases h
      contradiction
    | cons b before => simp at h
  | blank pos c r hc ih =>
    rw [scanFrom_blank hc] at h
    obtain ⟨l, r, rfl, hstop, hscan⟩ := ih h
    refine ⟨c :: l, r, rfl, by rw [hstop, byteLength, Nat.add_assoc], ?_⟩
    rw [scanFrom_blank hc, hscan]
  | lexeme pos c k s kind hc hk ih =>
    rw [scanFrom_lexeme hc hk] at h
    -- A comment takes all that is left of the line, so that nothing is cut off behind one.
    have hkeep {s' : List Char} (hs : s' <+: s) :
        Lexeme.continuation c (k ++ s') = (kind, k) := by
      refine Lexeme.continuation_of_noMore hk (Lexeme.noMore_of_prefix hs) ?_
      rintro rfl
      rwa [Lexeme.eq_nil_of_comment hk, List.prefix_nil] at hs
    cases before with
    | nil =>
      obtain ⟨rfl, -⟩ := List.cons_eq_cons.1 h
      refine ⟨c :: k, s, rfl, rfl, ?_⟩
      rw [← List.append_nil (c :: k), scanFrom_lexeme hc (hkeep List.nil_prefix), scanFrom_nil]
      simp
    | cons b before =>
      obtain ⟨rfl, hafter⟩ := List.cons_eq_cons.1 h
      obtain ⟨l, r, rfl, hstop, hscan⟩ := ih hafter
      refine ⟨c :: k ++ l, r, by simp, by rw [hstop, byteLength_append, Nat.add_assoc], ?_⟩
      rw [scanFrom_lexeme hc (hkeep (List.prefix_append l r)), hscan]
      rfl

lemma exists_scanFrom_eq_filter (pos : Nat) (cs : List Char) :
    ∃ after, scanFrom pos cs = (scanFrom pos cs).filter isWord ++ after := by
  induction pos, cs using scanFrom_induction with
  | nil pos => exact ⟨[endAt pos], by rw [scanFrom_nil]; rfl⟩
  | blank pos c r hc ih =>
    rw [scanFrom_blank hc]
    exact ih
  | lexeme pos c k s kind hc hk ih =>
    have hfinish : kind ≠ .finish := by simpa [hk] using Lexeme.kind_ne_finish c (k ++ s)
    rw [scanFrom_lexeme hc hk]
    by_cases hcomment : kind = .comment
    · subst hcomment
      rw [Lexeme.eq_nil_of_comment hk, scanFrom_nil]
      exact ⟨_, rfl⟩
    · obtain ⟨after, h⟩ := ih
      rw [List.filter_cons_of_pos (by simp [isWord, hfinish, hcomment])]
      exact ⟨after, by rw [List.cons_append, ← h]⟩

lemma map_move_significant (g : Span → Span) (source : String) :
    (significant source).map (move g) = (words source).map (move g) ++ [endAt 0] := by
  obtain ⟨fin, hsource, hfin⟩ := significant_eq source
  obtain ⟨ts, hscan, hts⟩ := exists_scanFrom_eq_concat 0 source.toList
  have hmem : fin ∈ scanFrom 0 source.toList := by
    have h : fin ∈ significant source := by simp [hsource]
    exact (List.mem_filter.1 h).1
  rw [hscan, List.mem_append, List.mem_singleton] at hmem
  rcases hmem with hmem | rfl
  · exact absurd hfin (hts fin hmem).1
  · rw [hsource, List.map_append]
    rfl

lemma dropLast_significant (source : String) : (significant source).dropLast = words source := by
  obtain ⟨fin, hsource, -⟩ := significant_eq source
  rw [hsource, List.dropLast_concat]

lemma ordered_words (source : String) : Ordered ((words source).map span) := by
  obtain ⟨ts, hscan, hts⟩ := exists_scanFrom_eq_concat 0 source.toList
  constructor
  · rw [List.forall_mem_map]
    intro t ht
    have hmem : t ∈ scanFrom 0 source.toList := (List.mem_filter.1 ht).1
    rw [hscan, List.mem_append, List.mem_singleton] at hmem
    rcases hmem with hmem | rfl
    · exact (hts t hmem).2
    · exact absurd rfl (kind_of_mem_words ht).2
  · exact List.pairwise_map.2 ((pairwise_scanFrom 0 source.toList).2.sublist List.filter_sublist)

lemma exists_scanFrom_segment (h : scanFrom pos cs = before ++ segment ++ after)
    (ht : segment.head? = some t) (hu : segment.getLast? = some u) (hfinish : u.kind ≠ .finish) :
    ∃ l m r, cs = l ++ m ++ r ∧ t.span.start = pos + byteLength l ∧
      u.span.stop = pos + byteLength l + byteLength m ∧
      scanFrom (pos + byteLength l) m = segment ++ [endAt u.span.stop] := by
  obtain ⟨ts, hts⟩ := List.head?_eq_some_iff.1 ht
  obtain ⟨us, hus⟩ := List.getLast?_eq_some_iff.1 hu
  have hfirst : scanFrom pos cs = before ++ t :: (ts ++ after) := by
    rw [h, hts, List.append_assoc, List.cons_append]
  obtain ⟨l, r, rfl, hspan, hscan⟩ := exists_scanFrom_eq hfirst
  have hlast : scanFrom (pos + byteLength l) (t.text.toList ++ r) = us ++ u :: after := by
    rw [hscan, ← List.cons_append, ← hts, hus, List.append_assoc, List.singleton_append]
  obtain ⟨m, r', hm, hstop, hslice⟩ := exists_scanFrom_up_to hlast hfinish
  refine ⟨l, m, r', by rw [List.append_assoc, hm, List.append_assoc], by rw [hspan], hstop, ?_⟩
  rw [hslice, hus, List.append_assoc, List.singleton_append]

theorem exists_slice (h : words source = before ++ segment ++ after) (hne : segment ≠ []) :
    ∃ slice, (coverage segment).slice? source = some slice ∧
      (words slice).map (move (Span.shift (coverage segment).start)) = segment := by
  have hword (t : Token) (ht : t ∈ segment) : t ∈ words source := by
    rw [h]
    exact List.mem_append_left _ (List.mem_append_right _ ht)
  have hordered : Ordered (segment.map span) := by
    refine (ordered_words source).sublist (List.Sublist.map span ?_)
    rw [h, List.append_assoc]
    exact (List.sublist_append_left _ _).trans (List.sublist_append_right _ _)
  obtain ⟨t, u, ht, hu⟩ := exists_head_getLast hne
  obtain ⟨rest, hrest⟩ := exists_scanFrom_eq_filter 0 source.toList
  have hscan : scanFrom 0 source.toList = before ++ segment ++ (after ++ rest) := by
    rw [hrest, ← List.append_assoc, ← h]
    rfl
  obtain ⟨l, m, r, hsource, hstart, hstop, hslice⟩ := exists_scanFrom_segment hscan ht hu
    (kind_of_mem_words (hword u (List.mem_of_getLast? hu))).2
  rw [Nat.zero_add] at hstart hstop hslice
  have hcoverage : coverage segment = ⟨byteLength l, byteLength l + byteLength m⟩ := by
    rw [coverage_eq hordered ht hu, hstart, hstop]
  refine ⟨String.ofList m, by rw [hcoverage, Span.slice?_eq_some hsource], ?_⟩
  have hmove := map_move_scanFrom (byteLength l) 0 m
  rw [Nat.add_zero, hslice] at hmove
  have hfilter : (segment ++ [endAt u.span.stop]).filter isWord = segment := by
    rw [List.filter_append, List.filter_eq_self.2 fun v hv => (List.mem_filter.1 (hword v hv)).2]
    simp [endAt, isWord]
  rw [words, scan, String.toList_ofList, map_move_filter (fun _ => rfl), hcoverage, ← hmove,
    ← map_move_filter fun _ => rfl, hfilter]
  exact map_move_id fun v hv => (kind_of_mem_words (hword v hv)).2

end Scan

end Token

lemma Reading.whole_significant {β : Type} {read : List Token → Except LineError (β × List Token)}
    {f : β → β} (hread : Commutes id f read) (hf : ∀ b, f b = b) (e : Expectation)
    (source : String) : whole e read (Token.significant source) =
      whole e read (Token.words source ++ [Token.endAt 0]) := by
  have hmove := hread.whole e (Token.significant source)
  rw [Token.map_move_significant, Token.map_move_id fun t ht => (Token.kind_of_mem_words ht).2]
    at hmove
  rw [hmove]
  cases whole e read (Token.significant source) with
  | ok b => exact congrArg Except.ok (hf b).symm
  | error error => cases error <;> rfl

end LinearProgram
