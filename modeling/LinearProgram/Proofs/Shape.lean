import LinearProgram.Proofs.Selection
import LinearProgram.Proofs.Start
import LinearProgram.Proofs.Turn

namespace LinearProgram

variable {α : Type}

lemma mapM_eq_some_iff {β γ : Type} {f : β → Option γ} {xs : List β} {ys : List γ} :
    xs.mapM f = some ys ↔ xs.map f = ys.map some := by
  induction xs generalizing ys with
  | nil => cases ys <;> simp
  | cons x xs ih =>
    rw [List.mapM_cons]
    constructor
    · intro h
      obtain ⟨y, hy, h⟩ := Option.bind_eq_some_iff.1 h
      obtain ⟨zs, hzs, h⟩ := Option.bind_eq_some_iff.1 h
      cases h
      rw [List.map_cons, hy, ih.1 hzs, List.map_cons]
    · intro h
      cases ys with
      | nil => cases h
      | cons y ys =>
        obtain ⟨hy, hys⟩ := List.cons.inj h
        rw [hy, ih.2 hys]
        rfl

lemma getD_mem {names : List String} {j : Nat} (hj : j < names.length) : names.getD j "" ∈ names := by
  rw [List.getD_eq_getElem?_getD, List.getElem?_eq_getElem hj]
  exact List.getElem_mem hj

lemma Tableau.entryAt?_of_getElem? {t : Tableau α} {k : Nat} {r : Row α}
    (hr : t.allRows[k]? = some r) (col : Nat) : t.entryAt? k col = r.toList[col]? := by
  simp [entryAt?, rowAt?, hr]

variable [Scalar α]

lemma Row.getElem?_toList_succ {r : Row α} {j : Nat} (hj : j < r.entries.length) :
    r.toList[j + 1]? = some (r.entry j) := by
  simp [toList, entry, List.getElem?_append_left hj, hj]

namespace Tableau

variable {t t' : Tableau α} {d : Direction} {tolerance : α} {seen : Bool} {i j : Nat}

lemma pivot?_eq_some_iff {row col : Nat} : t.pivot? row col = some t' ↔ ∃ i j,
    row = i + 1 ∧ col = j + 1 ∧ i < t.rows.length ∧ j < t.names.length ∧ t' = t.pivot i j := by
  rw [pivot?]
  constructor
  · intro h
    split at h
    · rename_i hin
      cases h
      exact ⟨row - 1, col - 1, by omega, by omega, by omega, by omega, rfl⟩
    · cases h
  · rintro ⟨i, j, rfl, rfl, hi, hj, rfl⟩
    exact if_pos (by omega)

lemma Shaped.entryAt?_succ {m n : Nat} {r : Row α} (h : t.Shaped m n) (hr : t.rows[i]? = some r)
    (hj : j < t.names.length) : t.entryAt? (i + 1) (j + 1) = some (r.entry j) := by
  have hw : j < r.entries.length := by
    rwa [h.width r (List.mem_cons_of_mem _ (List.mem_of_getElem? hr)), ← h.length_names]
  rw [entryAt?_of_getElem? (by simpa [allRows] using hr), Row.getElem?_toList_succ hw]

omit [Scalar α] in
lemma Shaped.lt_names {m n : Nat} (h : t.Shaped m n) (hj : j < t.objective.entries.length) :
    j < t.names.length := by
  rwa [h.length_names, ← h.width _ List.mem_cons_self]

lemma lt_of_entering
    (h : t.entering d tolerance seen = .improving j ∨ t.entering d tolerance seen = .level j) :
    j < t.objective.entries.length := by
  rw [entering] at h
  split at h
  · rcases h with h | h <;> cases h
  · rename_i x k hb
    have hk : k < t.objective.entries.length :=
      (List.getElem?_eq_some_iff.1 (getElem?_of_firstBest hb)).1
    -- whatever reason there is to enter, the variable is the one with the best entry
    split at h
    · rcases h with h | h
      · cases h
        exact hk
      · cases h
    · split at h
      · rcases h with h | h
        · cases h
        · cases h
          exact hk
      · rcases h with h | h <;> cases h

lemma lt_of_mem_limits {ratios : List (Option α)} {q : α × Nat} (h : q ∈ limits tolerance ratios) :
    q.2 < ratios.length := by
  obtain ⟨⟨ratio, k⟩, hmem, he⟩ := List.mem_filterMap.1 h
  obtain ⟨x, -, rfl⟩ := Option.map_eq_some_iff.1 he
  exact (List.getElem?_eq_some_iff.1 (List.mk_mem_zipIdx_iff_getElem?.1 hmem)).1

lemma lt_of_leaving {ratios : List (Option α)} (h : leaving tolerance ratios = some i) :
    i < ratios.length := by
  obtain ⟨best, hb, rfl⟩ := Option.map_eq_some_iff.1 h
  exact lt_of_mem_limits (List.mem_of_getElem? (getElem?_of_firstBest hb))

theorem shaped_of_start {p : StandardForm α} (h : start p = .ok t) :
    t.Shaped p.rows.length p.names.length := by
  have hs := started_of_start h
  have hobjective : p.objective.length ≤ p.names.length := by
    rw [start] at h
    split at h
    · cases h
    · omega
  refine ⟨by rw [hs.rows_eq, List.length_map], by rw [hs.names_eq], ?_, ?_⟩
  · have := congrArg List.length hs.basis_eq
    simpa [StandardForm.initialBasis] using this
  · intro r hr
    rcases List.mem_cons.1 hr with rfl | hr
    · simp [hs.objective_eq, objectiveRow]
      omega
    · rw [hs.rows_eq] at hr
      obtain ⟨q, hq, rfl⟩ := List.mem_map.1 hr
      exact hs.width_eq q hq

end Tableau

namespace Problem

def start? (lines : List String) : Option (Problem α × Tableau α) :=
  (ofLines lines).toOption.bind fun p =>
    (Tableau.start p.standard).toOption.map fun t => (p, t)

lemma start?_eq_some {lines : List String} {p : Problem α} {t : Tableau α}
    (h : start? lines = some (p, t)) :
    ofLines lines = .ok p ∧ Tableau.start p.standard = .ok t := by
  obtain ⟨p, hp, h⟩ := Option.bind_eq_some_iff.1 h
  obtain ⟨t, ht, h⟩ := Option.map_eq_some_iff.1 h
  cases h
  exact ⟨eq_ok_of_toOption hp, eq_ok_of_toOption ht⟩

end Problem

namespace Run

open Tableau

variable {d : Direction} {tolerance : α} {s₀ s s' : Run α} {m n : Nat}

theorem Goes.exists_next (hg : Goes d tolerance s s') :
    ∃ i j alternate, i < s.tableau.rows.length ∧ j < s.tableau.objective.entries.length ∧
      s' = s.next tolerance i j alternate := by
  have hrow {i j : Nat} (h : leaving tolerance (s.tableau.ratios j tolerance) = some i) :
      i < s.tableau.rows.length := by
    have hi := lt_of_leaving h
    rwa [ratios, List.length_map] at hi
  cases hg with
  | improving _ he hl => exact ⟨_, _, _, hrow hl, lt_of_entering (.inl he), rfl⟩
  | level _ he hl => exact ⟨_, _, _, hrow hl, lt_of_entering (.inr he), rfl⟩

lemma Goes.shaped (hg : Goes d tolerance s s') (h : s.tableau.Shaped m n) :
    s'.tableau.Shaped m n := by
  obtain ⟨i, j, alternate, hi, -, rfl⟩ := hg.exists_next
  rw [h.length_rows] at hi
  exact h.pivot hi j

theorem Reaches.shaped (hr : Reaches d tolerance s₀ s) (h : s₀.tableau.Shaped m n) :
    s.tableau.Shaped m n := by
  induction hr with
  | refl => exact h
  | tail _ hg ih => exact hg.shaped ih

end Run

end LinearProgram
