import LinearProgram.Proofs.Blocks
import LinearProgram.Proofs.Lines

/-!
A text is cut into blocks at its blank lines and nowhere else. Blocks that are written out with a
blank line between them are read as the same blocks.
-/

namespace LinearProgram

section SplitOnP

variable {β : Type} {p : β → Bool} {ys : List β}

lemma flatten_splitOnP (p : β → Bool) (xs : List β) :
    (xs.splitOnP p).flatten = xs.filter fun x => !p x := by
  induction xs with
  | nil => simp
  | cons x xs ih =>
    obtain ⟨g, gs, hgs⟩ := List.exists_cons_of_ne_nil (List.splitOnP_ne_nil p xs)
    by_cases hx : p x = true
    · simp [List.splitOnP_cons_eq_if_modifyHead, hx, ih]
    · simp [List.splitOnP_cons_eq_if_modifyHead, hx, hgs, ← ih]

lemma exists_splitOnP_append_eq (hys : ∀ y ∈ ys, p y = false) (zs : List β) :
    ∃ g gs, (ys ++ zs).splitOnP p = (ys ++ g) :: gs := by
  induction ys with
  | nil => exact List.exists_cons_of_ne_nil (List.splitOnP_ne_nil p zs)
  | cons y ys ih =>
    obtain ⟨hy, hys⟩ := List.forall_mem_cons.1 hys
    obtain ⟨g, gs, hgs⟩ := ih hys
    exact ⟨g, gs, by simp [List.splitOnP_cons_eq_if_modifyHead, hy, hgs]⟩

lemma exists_mem_splitOnP (hys : ∀ y ∈ ys, p y = false) (xs zs : List β) :
    ∃ g ∈ (xs ++ (ys ++ zs)).splitOnP p, ys ⊆ g := by
  induction xs with
  | nil =>
    obtain ⟨g, gs, hgs⟩ := exists_splitOnP_append_eq hys zs
    exact ⟨ys ++ g, by simp [hgs], List.subset_append_left ys g⟩
  | cons x xs ih =>
    obtain ⟨g, hg, hsub⟩ := ih
    rw [List.cons_append, List.splitOnP_cons_eq_if_modifyHead]
    split
    · exact ⟨g, List.mem_cons_of_mem _ hg, hsub⟩
    · obtain ⟨g', gs, hgs⟩ := List.exists_cons_of_ne_nil
        (List.splitOnP_ne_nil p (xs ++ (ys ++ zs)))
      rw [hgs] at hg
      rw [hgs, List.modifyHead_cons]
      rcases List.mem_cons.1 hg with rfl | hg
      · exact ⟨x :: g, List.mem_cons_self, fun y hy => List.mem_cons_of_mem x (hsub hy)⟩
      · exact ⟨g, List.mem_cons_of_mem _ hg, hsub⟩

end SplitOnP

namespace Block

namespace Row

def isKept (r : Row) : Bool :=
  !r.isBlank && !r.isSkipped

def text (r : Row) : String :=
  String.ofList r.content

end Row

def keptRows (source : String) : List Row :=
  (rows source).filter Row.isKept

lemma getElem?_rows (source : String) (k : Nat) : (rows source)[k]? =
    ((source.toList.splitOn '\n')[k]?).map fun cs => ⟨k + 1, Unicode.trim cs⟩ := by
  simp [rows, List.getElem?_zipIdx, Function.comp_def, Nat.add_comm]

lemma pairwise_number_rows (source : String) :
    (rows source).Pairwise fun r s => r.number < s.number := by
  have hnumbers : (rows source).map Row.number =
      List.range' 1 (source.toList.splitOn '\n').length := by
    rw [rows, List.map_map, ← List.zipIdx_map_snd]
    rfl
  rw [← List.pairwise_map, hnumbers]
  exact List.pairwise_lt_range'

section Groups

variable {rs : List Row} {r s : Row}

lemma flatten_groups (rs : List Row) : (groups rs).flatten = rs.filter Row.isKept := by
  rw [groups, List.flatten_filter_not_isEmpty, flatten_splitOnP, List.filter_filter]
  rfl

lemma mem_of_mem_groups {g : List Row} (hg : g ∈ groups rs) (hr : r ∈ g) : r ∈ rs := by
  have h : r ∈ (groups rs).flatten := List.mem_flatten.2 ⟨g, hg, hr⟩
  rw [flatten_groups] at h
  exact List.mem_of_mem_filter h

lemma exists_between (hrs : rs.Pairwise fun r s => r.number < s.number) (hr : r ∈ rs) (hs : s ∈ rs)
    (hlt : r.number < s.number) : ∃ before between after,
      rs = before ++ ((r :: between ++ [s]) ++ after) ∧
        ∀ b ∈ between, r.number < b.number ∧ b.number < s.number := by
  obtain ⟨before, rest, rfl⟩ := List.append_of_mem hr
  obtain ⟨-, hrest, hbefore⟩ := List.pairwise_append.1 hrs
  obtain ⟨hfirst, hrest⟩ := List.pairwise_cons.1 hrest
  have hmem : s ∈ rest := by
    rcases List.mem_append.1 hs with hs | hs
    · have := hbefore s hs r List.mem_cons_self
      omega
    · rcases List.mem_cons.1 hs with rfl | hs
      · omega
      · exact hs
  obtain ⟨between, after, rfl⟩ := List.append_of_mem hmem
  obtain ⟨-, -, hlast⟩ := List.pairwise_append.1 hrest
  refine ⟨before, between, after, by simp, fun b hb => ⟨?_, ?_⟩⟩
  · exact hfirst b (List.mem_append_left _ hb)
  · exact hlast b hb s List.mem_cons_self

lemma exists_mem_groups {ys : List Row} (hys : ∀ b ∈ ys, b.isBlank = false)
    (hne : ∃ r ∈ ys, r.isSkipped = false) (xs zs : List Row) :
    ∃ g ∈ groups (xs ++ (ys ++ zs)), ∀ r ∈ ys, r.isSkipped = false → r ∈ g := by
  -- what is skipped goes first, and what is left has no separator
  have hkept : ∀ b ∈ ys.filter fun r => !r.isSkipped, b.isBlank = false := fun b hb =>
    hys b (List.mem_of_mem_filter hb)
  obtain ⟨g, hg, hsub⟩ := exists_mem_splitOnP hkept (xs.filter fun r => !r.isSkipped)
    (zs.filter fun r => !r.isSkipped)
  have hmem : ∀ r ∈ ys, r.isSkipped = false → r ∈ g := fun r hr hs =>
    hsub (List.mem_filter.2 ⟨hr, by simp [hs]⟩)
  refine ⟨g, List.mem_filter.2 ⟨?_, ?_⟩, hmem⟩
  · rwa [List.filter_append, List.filter_append]
  · obtain ⟨r, hr, hs⟩ := hne
    simpa using List.ne_nil_of_mem (hmem r hr hs)

theorem together_iff (hrs : rs.Pairwise fun r s => r.number < s.number)
    (hr : r ∈ rs.filter Row.isKept) (hs : s ∈ rs.filter Row.isKept) (hlt : r.number < s.number) :
    (∃ g ∈ groups rs, r ∈ g ∧ s ∈ g) ↔
      ∀ b ∈ rs, r.number < b.number → b.number < s.number → b.isBlank = false := by
  obtain ⟨hr, hkr⟩ := List.mem_filter.1 hr
  obtain ⟨hs, hks⟩ := List.mem_filter.1 hs
  simp only [Row.isKept, Bool.and_eq_true, Bool.not_eq_true'] at hkr hks
  constructor
  · rintro ⟨g, hg, hrg, hsg⟩ b hb hrb hbs
    -- groups do not reach across a blank row, so `r` and `s` would be on the same side of it
    by_contra hblank
    obtain ⟨before, after, rfl⟩ := List.append_of_mem hb
    obtain ⟨-, hrest, hbefore⟩ := List.pairwise_append.1 hrs
    rw [groups_append (by simpa using hblank)] at hg
    rcases List.mem_append.1 hg with hg | hg
    · have := hbefore s (mem_of_mem_groups hg hsg) b List.mem_cons_self
      omega
    · have := (List.pairwise_cons.1 hrest).1 r (mem_of_mem_groups hg hrg)
      omega
  · intro h
    obtain ⟨before, between, after, hsplit, hbetween⟩ := exists_between hrs hr hs hlt
    have hnone : ∀ b ∈ r :: between ++ [s], b.isBlank = false := by
      simp only [List.cons_append, List.forall_mem_cons, List.forall_mem_append,
        List.not_mem_nil, false_implies, implies_true, and_true]
      refine ⟨hkr.1, fun b hb => ?_, hks.1⟩
      exact h b (by simp [hsplit, hb]) (hbetween b hb).1 (hbetween b hb).2
    obtain ⟨g, hg, hmem⟩ := exists_mem_groups hnone ⟨r, by simp, hkr.2⟩ before after
    exact ⟨g, hsplit ▸ hg, hmem r (by simp) hkr.2, hmem s (by simp) hks.2⟩

end Groups

structure IsCut (source : String) (gs : List (List Row)) : Prop where
  flatten_eq : gs.flatten = keptRows source
  ne_nil : ∀ g ∈ gs, g ≠ []
  together_iff : ∀ r ∈ keptRows source, ∀ s ∈ keptRows source, r.number < s.number →
    ((∃ g ∈ gs, r ∈ g ∧ s ∈ g) ↔
      ∀ b ∈ rows source, r.number < b.number → b.number < s.number → b.isBlank = false)

lemma isCut_groups (source : String) : IsCut source (groups (rows source)) where
  flatten_eq := flatten_groups _
  ne_nil _ hg := ne_nil_of_mem_groups hg
  together_iff _ hr _ hs hlt := together_iff (pairwise_number_rows source) hr hs hlt

lemma map_ofText {β : Type} (f : Block → β) (f' : List Row → β)
    (h : ∀ g i, f (ofGroup g i) = f' g) (source : String) :
    (ofText source).map f = (groups (rows source)).map f' := by
  have hcomp : (f ∘ fun x : List Row × Nat => ofGroup x.1 x.2) = f' ∘ Prod.fst :=
    funext fun x => h x.1 x.2
  rw [ofText, List.map_map]
  exact (congrArg (List.map · _) hcomp).trans (by rw [← List.map_map, List.zipIdx_map_fst])

lemma map_lines_ofText (source : String) :
    (ofText source).map lines = (groups (rows source)).map (List.map Row.text) :=
  map_ofText _ _ (fun _ _ => rfl) source

lemma map_line_ofText (source : String) : (ofText source).map (fun b => some b.line) =
    (groups (rows source)).map fun g => g.head?.map Row.number := by
  rw [map_ofText _ (fun g => some ((g.head?.map Row.number).getD 0)) fun _ _ => rfl]
  refine List.map_congr_left fun g hg => ?_
  obtain ⟨r, g, rfl⟩ := List.exists_cons_of_ne_nil (ne_nil_of_mem_groups hg)
  rfl

lemma map_index_ofText (source : String) :
    (ofText source).map index = List.range' 1 (ofText source).length := by
  simp only [ofText, List.length_map, List.length_zipIdx, ← List.zipIdx_map_snd, List.map_map]
  rfl

section Joined

def joined (bs : List Block) : String :=
  "\n\n".intercalate (bs.map fun b => "\n".intercalate b.lines)

lemma map_lines_ofText_intercalate {lines : List String} (hne : lines ≠ [])
    (hlines : ∀ line ∈ lines, IsLine line.toList) :
    (ofText ("\n".intercalate lines)).map Block.lines = [lines] := by
  have hsplit : ("\n".intercalate lines).toList.splitOn '\n' = lines.map String.toList := by
    rw [String.toList_intercalate]
    refine List.splitOn_intercalate '\n' ?_ (by simpa using hne)
    simpa using fun line hline => (hlines line hline).newline_notMem
  have hcontent : (rows ("\n".intercalate lines)).map Row.content = lines.map String.toList := by
    rw [rows, hsplit, map_content_number, List.map_map]
    exact List.map_congr_left fun line hline => (hlines line hline).trim_eq
  have hkept : ∀ r ∈ rows ("\n".intercalate lines), IsLine r.content := by
    intro r hr
    obtain ⟨line, hline, htext⟩ := List.mem_map.1 (hcontent ▸ List.mem_map_of_mem hr)
    exact htext ▸ hlines line hline
  have htexts : (rows ("\n".intercalate lines)).map Row.text = lines := by
    have hofList := congrArg (List.map String.ofList) hcontent
    simp only [List.map_map, Function.comp_def, String.ofList_toList, List.map_id'] at hofList
    exact hofList
  rw [map_lines_ofText, groups_eq_singleton (List.filter_eq_self.2 fun r hr => ?_) ?_
    fun r hr => (hkept r hr).isBlank_eq_false, List.map_singleton, htexts]
  · rintro hnil
    simp [hnil, hne.symm] at htexts
  · simp [(hkept r hr).isSkipped_eq_false]

theorem map_lines_ofText_joined {bs : List Block}
    (h : ∀ b ∈ bs, b.lines ≠ [] ∧ ∀ line ∈ b.lines, IsLine line.toList) :
    (ofText (joined bs)).map lines = bs.map lines := by
  induction bs with
  | nil => rfl
  | cons b bs ih =>
    obtain ⟨⟨hne, hb⟩, hbs⟩ := List.forall_mem_cons.1 h
    have hfirst := map_lines_ofText_intercalate hne hb
    cases bs with
    | nil => simpa [joined] using hfirst
    | cons b' bs =>
      have htext : joined (b :: b' :: bs) =
          "\n".intercalate b.lines ++ "\n\n" ++ joined (b' :: bs) := by
        simp [joined]
      rw [htext, ofText_append, List.map_append, List.map_map, hfirst, List.map_cons, ← ih hbs]
      rfl

end Joined

theorem ofText_segments (source : String) :
    (∀ k, (rows source)[k]? =
      ((source.toList.splitOn '\n')[k]?).map fun cs => (⟨k + 1, Unicode.trim cs⟩ : Row)) ∧
    (∃ gs, IsCut source gs ∧ (ofText source).map lines = gs.map (List.map Row.text) ∧
      (ofText source).map (fun b => some b.line) = gs.map fun g => g.head?.map Row.number) ∧
    (ofText source).flatMap lines = (keptRows source).map Row.text ∧
    (∀ b ∈ ofText source, b.lines ≠ []) ∧
    (ofText source).map index = List.range' 1 (ofText source).length ∧
    (ofText (joined (ofText source))).map (fun b => (b.index, b.lines)) =
      (ofText source).map fun b => (b.index, b.lines) := by
  have hlines := map_lines_ofText source
  have hne : ∀ b ∈ ofText source, b.lines ≠ [] := by
    intro b hb
    obtain ⟨g, hg, hmap⟩ := List.mem_map.1 (hlines ▸ List.mem_map_of_mem hb)
    simpa [← hmap] using ne_nil_of_mem_groups hg
  refine ⟨getElem?_rows source, ⟨groups (rows source), isCut_groups source, hlines,
    map_line_ofText source⟩, ?_, hne, map_index_ofText source, ?_⟩
  · rw [List.flatMap_def, hlines, ← List.map_flatten, flatten_groups, keptRows]
  · have hwritable : ∀ b ∈ ofText source, b.lines ≠ [] ∧ ∀ line ∈ b.lines, IsLine line.toList :=
      fun b hb => ⟨hne b hb, fun line hline => isLine_of_mem_ofText hb hline⟩
    have hagain := map_lines_ofText_joined hwritable
    have hlength : (ofText (joined (ofText source))).length = (ofText source).length := by
      simpa using congrArg List.length hagain
    simp only [← List.zip_map', hagain, map_index_ofText, hlength]

-- Rows that are skipped neither end a block nor count as its first line.
example : ofText "# plan\n a \r\nSubject to\n b\n \t\n\n#\n c" =
    [⟨1, 2, ["a", "b"]⟩, ⟨2, 8, ["c"]⟩] := by decide +kernel

end Block

end LinearProgram
