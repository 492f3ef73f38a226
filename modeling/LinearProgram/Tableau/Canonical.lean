import LinearProgram.Semantics
import LinearProgram.Tableau

/-!
The equations of a tableau, and its canonical form: the columns of the basic variables are those of
a unit matrix, so that the equations give the basic variables in terms of the others.
-/

namespace LinearProgram

variable {α : Type} [Scalar α]

def Row.Holds (r : Row α) (z : α) (xs : List α) : Prop :=
  r.z * z + dot r.entries xs = r.rhs

namespace Tableau

def Holds (t : Tableau α) (z : α) (xs : List α) : Prop :=
  ∀ r ∈ t.allRows, r.Holds z xs

structure Shaped (t : Tableau α) (m n : Nat) : Prop where
  length_rows : t.rows.length = m
  length_names : t.names.length = n
  length_basis : t.basis.length = m
  width : ∀ r ∈ t.allRows, r.entries.length = n

/-- The basic variables are different variables of the tableau, the column of the objective value is
the first unit vector, and the column of each basic variable is the unit vector of its row. -/
structure Canonical (t : Tableau α) : Prop where
  basis_nodup : t.basis.Nodup
  basis_subset : t.basis ⊆ t.names
  objective_z : t.objective.z = 1
  rows_z : ∀ r ∈ t.rows, r.z = 0
  objective_entry : ∀ name ∈ t.basis, t.objective.entry (t.names.idxOf name) = 0
  entry : ∀ (i k : Nat) (name : String) (r : Row α), t.basis[i]? = some name → t.rows[k]? = some r →
    r.entry (t.names.idxOf name) = if k = i then 1 else 0

def Feasible (t : Tableau α) : Prop :=
  ∀ r ∈ t.rows, 0 ≤ r.rhs

theorem names_pivot (t : Tableau α) (i j : Nat) : (t.pivot i j).names = t.names := rfl

theorem length_basis_pivot (t : Tableau α) (i j : Nat) :
    (t.pivot i j).basis.length = t.basis.length := by
  simp [pivot]

theorem length_rows_pivot (t : Tableau α) (i j : Nat) :
    (t.pivot i j).rows.length = t.rows.length := by
  simp [pivot]

end Tableau

namespace Row

theorem length_divide (r : Row α) (a : α) : (r.divide a).entries.length = r.entries.length := by
  simp [divide]

theorem length_clear {r p : Row α} (j : Nat) (h : p.entries.length = r.entries.length) :
    (r.clear p j).entries.length = r.entries.length := by
  unfold clear eliminate
  split
  · rfl
  · simp [h]

end Row

namespace Tableau

theorem Shaped.pivot {t : Tableau α} {m n i : Nat} (h : t.Shaped m n) (hi : i < m) (j : Nat) :
    (t.pivot i j).Shaped m n := by
  obtain ⟨hr, hn, hb, hw⟩ := h
  have hi' : i < t.rows.length := hr ▸ hi
  have hp : (t.rows.getD i Row.zero).entries.length = n := by
    rw [List.getD_eq_getElem?_getD, List.getElem?_eq_getElem hi', Option.getD_some]
    exact hw _ (List.mem_cons_of_mem _ (List.getElem_mem hi'))
  have hc (r : Row α) (hm : r ∈ t.allRows) :
      (r.clear ((t.rows.getD i Row.zero).divide ((t.rows.getD i Row.zero).entry j)) j).entries.length
        = n := by
    have hl := hw r hm
    rw [Row.length_clear, hl]
    rw [Row.length_divide, hp, hl]
  refine ⟨by rw [length_rows_pivot, hr], hn, by rw [length_basis_pivot, hb], fun r hm => ?_⟩
  rcases List.mem_cons.1 hm with rfl | hm
  · exact hc _ List.mem_cons_self
  · rcases List.mem_or_eq_of_mem_set hm with hm | rfl
    · obtain ⟨s, hs, rfl⟩ := List.mem_map.1 hm
      exact hc s (List.mem_cons_of_mem _ hs)
    · rw [Row.length_divide, hp]

end Tableau

end LinearProgram
