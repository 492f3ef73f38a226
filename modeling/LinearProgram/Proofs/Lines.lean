import Mathlib.Data.List.DropRight
import Mathlib.Data.List.TakeWhile
import LinearProgram.Block

namespace LinearProgram

namespace Unicode

variable {cs : List Char}

lemma trim_eq_self (hfirst : cs.head?.any isBlank = false) (hlast : cs.getLast?.any isBlank = false) :
    trim cs = cs := by
  have hdrop : cs.dropWhile isBlank = cs := by
    cases cs <;> simp_all
  have hright : cs.rdropWhile isBlank = cs := by
    rw [List.rdropWhile_eq_self_iff]
    intro hne
    rw [List.getLast?_eq_some_getLast hne] at hlast
    simpa using hlast
  rw [trim, hdrop]
  exact hright

lemma head?_trim (cs : List Char) : (trim cs).head?.any isBlank = false := by
  have hright : trim cs <+: cs.dropWhile isBlank := List.rdropWhile_prefix isBlank _
  have hhead := List.head?_dropWhile_not isBlank cs
  cases ht : trim cs with
  | nil => rfl
  | cons c ds =>
    obtain ⟨es, hes⟩ := ht ▸ hright
    rw [← hes] at hhead
    simpa using hhead

lemma getLast?_trim (cs : List Char) : (trim cs).getLast?.any isBlank = false := by
  by_cases hne : trim cs = []
  · rw [hne]
    rfl
  · have hlast := List.rdropWhile_last_not isBlank _ hne
    rw [List.getLast?_eq_some_getLast hne]
    exact Bool.eq_false_iff.2 hlast

lemma trim_trim (cs : List Char) : trim (trim cs) = trim cs :=
  trim_eq_self (head?_trim cs) (getLast?_trim cs)

lemma mem_of_mem_trim {c : Char} (h : c ∈ trim cs) : c ∈ cs := by
  have hright : trim cs <+: cs.dropWhile isBlank := List.rdropWhile_prefix isBlank _
  exact (List.dropWhile_sublist _).subset (hright.subset h)

end Unicode

lemma mem_of_mem_splitOnP {β : Type} {p : β → Bool} {xs ys : List β} {y : β}
    (hys : ys ∈ xs.splitOnP p) (hy : y ∈ ys) : y ∈ xs ∧ p y = false := by
  induction xs generalizing ys with
  | nil =>
    obtain rfl := List.mem_singleton.1 (List.splitOnP_nil ▸ hys)
    cases hy
  | cons x xs ih =>
    rw [List.splitOnP_cons_eq_if_modifyHead] at hys
    split at hys
    · rcases List.mem_cons.1 hys with rfl | hys
      · cases hy
      · exact ⟨List.mem_cons_of_mem _ (ih hys hy).1, (ih hys hy).2⟩
    · rename_i hx
      obtain ⟨zs, zss, hzs⟩ := List.exists_cons_of_ne_nil (List.splitOnP_ne_nil p xs)
      rw [hzs, List.modifyHead_cons] at hys
      rw [hzs] at ih
      rcases List.mem_cons.1 hys with rfl | hys
      · rcases List.mem_cons.1 hy with rfl | hy
        · exact ⟨List.mem_cons_self, by simpa using hx⟩
        · have := ih List.mem_cons_self hy
          exact ⟨List.mem_cons_of_mem _ this.1, this.2⟩
      · have := ih (List.mem_cons_of_mem _ hys) hy
        exact ⟨List.mem_cons_of_mem _ this.1, this.2⟩

namespace Block

structure IsLine (cs : List Char) : Prop where
  ne_nil : cs ≠ []
  trim_eq : Unicode.trim cs = cs
  newline_notMem : '\n' ∉ cs
  not_skipped : (⟨0, cs⟩ : Row).isSkipped = false

lemma isLine_of_mem_groups {source : String} {g : List Row} {r : Row}
    (hg : g ∈ groups (rows source)) (hr : r ∈ g) : IsLine r.content := by
  obtain ⟨hmem, hblank⟩ := mem_of_mem_splitOnP (List.mem_of_mem_filter hg) hr
  obtain ⟨hmem, hskipped⟩ := List.mem_filter.1 hmem
  obtain ⟨⟨cs, n⟩, hcs, rfl⟩ := List.mem_map.1 hmem
  refine ⟨?_, Unicode.trim_trim cs, fun h => ?_, ?_⟩
  · simpa [Row.isBlank] using hblank
  · have hline := List.fst_mem_of_mem_zipIdx hcs
    have := (mem_of_mem_splitOnP hline (Unicode.mem_of_mem_trim h)).2
    simp at this
  · have : (⟨n, Unicode.trim cs⟩ : Row).isSkipped = false := by simpa using hskipped
    exact this

theorem isLine_of_mem_ofText {source : String} {b : Block} {line : String}
    (hb : b ∈ ofText source) (hline : line ∈ b.lines) : IsLine line.toList := by
  obtain ⟨⟨g, i⟩, hg, rfl⟩ := List.mem_map.1 hb
  obtain ⟨r, hr, rfl⟩ := List.mem_map.1 hline
  rw [String.toList_ofList]
  exact isLine_of_mem_groups (List.fst_mem_of_mem_zipIdx hg) hr

lemma IsLine.isBlank_eq_false {r : Row} (h : IsLine r.content) : r.isBlank = false := by
  simpa [Row.isBlank] using h.ne_nil

lemma IsLine.isSkipped_eq_false {r : Row} (h : IsLine r.content) : r.isSkipped = false :=
  h.not_skipped

lemma groups_eq_singleton {rs kept : List Row} (hkept : rs.filter (fun r => !r.isSkipped) = kept)
    (hne : kept ≠ []) (hblank : ∀ r ∈ kept, r.isBlank = false) : groups rs = [kept] := by
  rw [groups, hkept, List.splitOnP_eq_singleton hblank]
  simpa using hne

variable {lines : List String}

def indented (lines : List String) : String :=
  String.join (lines.map fun line => "\n\t" ++ line)

lemma splitOn_append_indented {cs : List Char} (hcs : '\n' ∉ cs)
    (hlines : ∀ line ∈ lines, '\n' ∉ line.toList) :
    (cs ++ (indented lines).toList).splitOn '\n' =
      cs :: lines.map fun line => '\t' :: line.toList := by
  induction lines generalizing cs with
  | nil =>
    have hnil : (indented []).toList = [] := rfl
    rw [hnil, List.append_nil, List.splitOn_eq_singleton hcs]
    rfl
  | cons line lines ih =>
    obtain ⟨hline, hlines⟩ := List.forall_mem_cons.1 hlines
    have htext : (indented (line :: lines)).toList =
        '\n' :: ('\t' :: line.toList ++ (indented lines).toList) := by
      simp [indented]
    rw [htext, List.splitOn_append_cons_self_of_not_mem hcs, ih (by simpa using hline) hlines]
    rfl

lemma map_content_number (css : List (List Char)) (k : Nat) :
    ((css.zipIdx k).map fun (cs, n) => (⟨n, Unicode.trim cs⟩ : Row)).map Row.content =
      css.map Unicode.trim := by
  have hcontent : (Row.content ∘ fun (cs, n) => (⟨n, Unicode.trim cs⟩ : Row)) =
      Unicode.trim ∘ Prod.fst := rfl
  rw [List.map_map, hcontent, ← List.map_map, List.zipIdx_map_fst]

lemma exists_rows_eq {first : String} (hfirst : IsLine first.toList)
    (hlines : ∀ line ∈ lines, IsLine line.toList) :
    ∃ rs, rows (first ++ "\nSubject to:" ++ indented lines) =
        ⟨1, first.toList⟩ :: ⟨2, "Subject to:".toList⟩ :: rs ∧
      rs.map Row.content = lines.map String.toList := by
  have htext : (first ++ "\nSubject to:" ++ indented lines).toList =
      first.toList ++ '\n' :: ("Subject to:".toList ++ (indented lines).toList) := by
    simp
  have hheading : '\n' ∉ "Subject to:".toList := by simp
  rw [rows, htext, List.splitOn_append_cons_self_of_not_mem hfirst.newline_notMem,
    splitOn_append_indented hheading fun line hline => (hlines line hline).newline_notMem,
    List.zipIdx_cons, List.zipIdx_cons, List.map_cons, List.map_cons]
  refine ⟨_, congrArg (fun cs => (⟨1, cs⟩ : Row) :: _) hfirst.trim_eq, ?_⟩
  rw [map_content_number, List.map_map]
  exact List.map_congr_left fun line hline => (hlines line hline).trim_eq

theorem ofText_headed {first : String} (hfirst : IsLine first.toList)
    (hlines : ∀ line ∈ lines, IsLine line.toList) :
    ofText (first ++ "\nSubject to:" ++ indented lines) = [⟨1, 1, first :: lines⟩] := by
  obtain ⟨rs, hrows, hcontent⟩ := exists_rows_eq hfirst hlines
  have hkept : ∀ r ∈ (⟨1, first.toList⟩ : Row) :: rs, IsLine r.content := by
    refine List.forall_mem_cons.2 ⟨hfirst, fun r hr => ?_⟩
    obtain ⟨line, hline, htext⟩ := List.mem_map.1 (hcontent ▸ List.mem_map_of_mem hr)
    exact htext ▸ hlines line hline
  have hfilter : (rows (first ++ "\nSubject to:" ++ indented lines)).filter
      (fun r => !r.isSkipped) = ⟨1, first.toList⟩ :: rs := by
    have hheading : (!(⟨2, "Subject to:".toList⟩ : Row).isSkipped) = false := rfl
    obtain ⟨hhead, htail⟩ := List.forall_mem_cons.1 hkept
    rw [hrows, List.filter_cons_of_pos (by simp [hhead.isSkipped_eq_false]),
      List.filter_cons_of_neg (p := fun r : Row => !r.isSkipped) (Bool.eq_false_iff.1 hheading),
      List.filter_eq_self.2]
    exact fun r hr => by simp [(htail r hr).isSkipped_eq_false]
  rw [ofText, groups_eq_singleton hfilter (List.cons_ne_nil _ _)
    fun r hr => (hkept r hr).isBlank_eq_false]
  have hrest : rs.map (fun r => String.ofList r.content) = lines := by
    have := congrArg (List.map String.ofList) hcontent
    simpa [Function.comp_def] using this
  simp [ofGroup, hrest]

end Block

end LinearProgram
