import Mathlib.Data.List.Basic
import LinearProgram.Block

namespace LinearProgram

lemma splitOnP_map {β γ : Type} (f : β → γ) (p : γ → Bool) (xs : List β) :
    (xs.map f).splitOnP p = (xs.splitOnP (p ∘ f)).map (List.map f) := by
  induction xs with
  | nil => simp
  | cons x xs ih =>
    rw [List.map_cons, List.splitOnP_cons_eq_if_modifyHead, List.splitOnP_cons_eq_if_modifyHead, ih]
    obtain ⟨y, ys, hy⟩ := List.exists_cons_of_ne_nil (List.splitOnP_ne_nil (p ∘ f) xs)
    rw [hy, Function.comp_apply]
    split <;> simp

lemma length_splitOn {β : Type} [BEq β] (a : β) (xs : List β) :
    (xs.splitOn a).length = xs.count a + 1 := by
  induction xs with
  | nil => simp
  | cons x xs ih =>
    rw [List.splitOn_cons_eq_if_modifyHead, List.count_cons]
    split <;> simp [ih]

namespace Block

def later (blocks lines : Nat) (b : Block) : Block :=
  ⟨b.index + blocks, b.line + lines, b.lines⟩

namespace Row

def later (lines : Nat) (r : Row) : Row :=
  ⟨r.number + lines, r.content⟩

@[simp] lemma isBlank_later (lines : Nat) (r : Row) : (r.later lines).isBlank = r.isBlank := rfl

@[simp] lemma isSkipped_later (lines : Nat) (r : Row) :
    (r.later lines).isSkipped = r.isSkipped := rfl

end Row

lemma number_later (css : List (List Char)) (k lines : Nat) :
    (css.zipIdx (k + lines)).map (fun (cs, n) => (⟨n, Unicode.trim cs⟩ : Row)) =
      ((css.zipIdx k).map fun (cs, n) => (⟨n, Unicode.trim cs⟩ : Row)).map (Row.later lines) := by
  induction css generalizing k with
  | nil => simp
  | cons cs css ih =>
    have := ih (k + 1)
    rw [Nat.add_right_comm] at this
    simp [Row.later, this]

lemma rows_append (a b : String) :
    rows (a ++ "\n\n" ++ b) = rows a ++ ⟨a.toList.count '\n' + 2, []⟩ ::
      (rows b).map (Row.later (a.toList.count '\n' + 2)) := by
  have hsource : (a ++ "\n\n" ++ b).toList = a.toList ++ '\n' :: ([] ++ '\n' :: b.toList) := by
    simp
  have hnumbers := number_later (b.toList.splitOn '\n') 1 (a.toList.count '\n' + 2)
  rw [rows, hsource, List.splitOn_append_cons_self, List.splitOn_append_cons_self,
    List.zipIdx_append, List.map_append, length_splitOn]
  have hstart : 1 + (a.toList.count '\n' + 1) + 1 = 1 + (a.toList.count '\n' + 2) := by omega
  rw [List.splitOn_nil, List.singleton_append, List.zipIdx_cons, List.map_cons, hstart, hnumbers]
  have hblank : 1 + (a.toList.count '\n' + 1) = a.toList.count '\n' + 2 := by omega
  rw [hblank]
  rfl

lemma groups_append {xs ys : List Row} {r : Row} (h : r.isBlank = true) :
    groups (xs ++ r :: ys) = groups xs ++ groups ys := by
  have hkeep : r.isSkipped = false := by
    obtain ⟨n, cs⟩ := r
    obtain rfl : cs = [] := List.isEmpty_iff.1 h
    rfl
  have hfilter : (xs ++ r :: ys).filter (fun r => !r.isSkipped) =
      xs.filter (fun r => !r.isSkipped) ++ r :: ys.filter fun r => !r.isSkipped := by
    simp [hkeep]
  rw [groups, hfilter, List.splitOnP_append_cons _ _ h, List.filter_append]
  rfl

lemma groups_later (lines : Nat) (rs : List Row) :
    groups (rs.map (Row.later lines)) = (groups rs).map (List.map (Row.later lines)) := by
  rw [groups, List.filter_map, splitOnP_map, List.filter_map]
  simp only [groups, Function.comp_def, Row.isSkipped_later, Row.isBlank_later, List.isEmpty_map]

lemma ofGroup_later {g : List Row} (h : g ≠ []) (index blocks lines : Nat) :
    ofGroup (g.map (Row.later lines)) (index + blocks) = (ofGroup g index).later blocks lines := by
  obtain ⟨r, rs, rfl⟩ := List.exists_cons_of_ne_nil h
  simp [ofGroup, later, Row.later]

lemma ne_nil_of_mem_groups {g : List Row} {rs : List Row} (h : g ∈ groups rs) : g ≠ [] := by
  simpa using (List.mem_filter.1 h).2

lemma number_groups_later {gs : List (List Row)} (h : ∀ g ∈ gs, g ≠ []) (k blocks lines : Nat) :
    ((gs.map (List.map (Row.later lines))).zipIdx (k + blocks)).map (fun (g, i) => ofGroup g i) =
      ((gs.zipIdx k).map fun (g, i) => ofGroup g i).map (later blocks lines) := by
  induction gs generalizing k with
  | nil => simp
  | cons g gs ih =>
    obtain ⟨hg, hgs⟩ := List.forall_mem_cons.1 h
    have := ih hgs (k + 1)
    rw [Nat.add_right_comm] at this
    rw [List.map_cons, List.zipIdx_cons, List.map_cons, this]
    exact congrArg (· :: _) (ofGroup_later hg k blocks lines)

theorem ofText_append (a b : String) :
    ofText (a ++ "\n\n" ++ b) =
      ofText a ++ (ofText b).map (later (ofText a).length (a.toList.count '\n' + 2)) := by
  have hlength : (ofText a).length = (groups (rows a)).length := by simp [ofText]
  rw [ofText, rows_append, groups_append rfl, groups_later, List.zipIdx_append, List.map_append,
    number_groups_later fun g => ne_nil_of_mem_groups, hlength]
  rfl

end Block

end LinearProgram
