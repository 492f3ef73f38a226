import LinearProgram.Proofs.BasicSolution
import LinearProgram.Proofs.Selection
import LinearProgram.Proofs.Turn

/-!
What every state of a run over the rationals keeps: a tableau in canonical form with the solutions
of the first one. At tolerance zero the search for a second optimum starts from a settled objective
row and leaves it settled.
-/

namespace LinearProgram

/-- A tableau in canonical form over the variables of `t₀`, with the same solutions. -/
structure Tableau.Represents (t₀ t : Tableau Rat) (m n : Nat) : Prop extends t.Proper m n where
  names_eq : t.names = t₀.names
  satisfies_iff : ∀ (z : Rat) (x : String → Rat), t.Satisfies z x ↔ t₀.Satisfies z x

namespace Tableau.Proper

variable {t : Tableau Rat} {m n j : Nat}

lemma represents_self (h : t.Proper m n) : t.Represents t m n :=
  ⟨h, rfl, fun _ _ => Iff.rfl⟩

lemma notMem_basis_of_improves (h : t.Proper m n) {d : Direction} {tolerance : Rat}
    (ht : 0 ≤ tolerance) {e : String} (he : t.names[j]? = some e)
    (hi : d.improves tolerance (t.objective.entry j)) : e ∉ t.basis := by
  intro hb
  have h0 := h.objective_entry e hb
  rw [h.idxOf_eq he] at h0
  rw [h0] at hi
  cases d
  · simp only [Direction.improves, decide_eq_true_eq] at hi
    linarith
  · simp only [Direction.improves, decide_eq_true_eq] at hi
    linarith

end Tableau.Proper

lemma Tableau.Represents.pivot {t₀ t : Tableau Rat} {m n i j : Nat} {e : String} {r : Row Rat}
    (h : t₀.Represents t m n) (hx : t.Exchange i j e r) : t₀.Represents (t.pivot i j) m n :=
  ⟨hx.proper_pivot h.toProper, h.names_eq,
    fun z x => (hx.satisfies_pivot_iff h.toProper z x).trans (h.satisfies_iff z x)⟩

namespace Run

open Tableau

variable {d : Direction} {tolerance : Rat} {s₀ s s' : Run Rat} {t₀ : Tableau Rat} {m n : Nat}

inductive Enters (d : Direction) (tolerance : Rat) (s : Run Rat) (j : Nat) :
    Option (List Rat) → Prop
  | improving : d.improves tolerance (s.tableau.objective.entry j) →
      Enters d tolerance s j s.alternate
  | level : s.alternate = none → s.tableau.Settled d tolerance →
      Scalar.isNegligible tolerance (s.tableau.objective.entry j) →
      Enters d tolerance s j (some s.tableau.basicValues)

structure Pivots (d : Direction) (tolerance : Rat) (s s' : Run Rat) (i j : Nat) (e : String)
    (r : Row Rat) : Prop extends s.tableau.Exchange i j e r where
  tableau_eq : s'.tableau = s.tableau.pivot i j
  past_eq : s'.past = s.pivotStep tolerance i j :: s.past
  enters : Enters d tolerance s j s'.alternate
  entry_gt : tolerance < r.entry j
  ratio_gt : tolerance < r.rhs / r.entry j
  ratio_le : ∀ q ∈ s.tableau.rows, tolerance < q.entry j → tolerance < q.rhs / q.entry j →
    r.rhs / r.entry j ≤ q.rhs / q.entry j

theorem Goes.pivots (hg : Goes d tolerance s s') (ht : 0 ≤ tolerance) (h : s.tableau.Proper m n) :
    ∃ i j e r, Pivots d tolerance s s' i j e r := by
  cases hg with
  | @improving i j _ he hl =>
    obtain ⟨x, hx, hi, -⟩ := entering_eq_improving he
    obtain ⟨e, hname⟩ := h.exists_name hx
    obtain ⟨r, hr, hpos, hlt, hmin⟩ := exists_row_of_leaving hl
    rw [← Row.entry_of_getElem? hx] at hi
    have hb := h.notMem_basis_of_improves ht hname hi
    exact ⟨i, j, e, r, ⟨⟨hr, hname, hb, (ht.trans_lt hpos).ne'⟩, rfl, rfl,
      .improving hi, hpos, hlt, hmin⟩⟩
  | @level i j _ he hl =>
    obtain ⟨hseen, hset, hb, x, hx, hzero⟩ := entering_eq_level he
    obtain ⟨e, hname⟩ := h.exists_name hx
    obtain ⟨r, hr, hpos, hlt, hmin⟩ := exists_row_of_leaving hl
    rw [← Row.entry_of_getElem? hx] at hzero
    rw [List.getD_eq_getElem?_getD, hname, Option.getD_some] at hb
    exact ⟨i, j, e, r, ⟨⟨hr, hname, hb, (ht.trans_lt hpos).ne'⟩, rfl, rfl,
      .level (by simpa using hseen) hset hzero, hpos, hlt, hmin⟩⟩

lemma Pivots.represents {i j : Nat} {e : String} {r : Row Rat}
    (hp : Pivots d tolerance s s' i j e r) (h : t₀.Represents s.tableau m n) :
    t₀.Represents s'.tableau m n := by
  rw [hp.tableau_eq]
  exact h.pivot hp.toExchange

theorem Reaches.represents (hr : Reaches d tolerance s₀ s) (ht : 0 ≤ tolerance)
    (h : t₀.Represents s₀.tableau m n) : t₀.Represents s.tableau m n := by
  induction hr with
  | refl => exact h
  | tail _ hg ih =>
    obtain ⟨i, j, e, r, hp⟩ := hg.pivots ht ih.toProper
    exact hp.represents ih

lemma Reaches.represents_start {t : Tableau Rat} (hr : Reaches d tolerance (start t) s)
    (ht : 0 ≤ tolerance) (h : t.Proper m n) : t.Represents s.tableau m n :=
  hr.represents ht h.represents_self

lemma Halts.of_not_settled {s : Run Rat} {status : Status} {last : Step Rat}
    (hh : Halts d tolerance s status last)
    (hs : status = .optimal ∨ status = .alternateOptima)
    (hn : ¬ s.tableau.Settled d tolerance) :
    status = .optimal ∧ s.alternate.isSome ∧ ∀ q, some q ∈ last.ratios → q ≤ tolerance := by
  cases hh with
  | degenerate => simp at hs
  | settled _ he => exact absurd (settled_of_entering_eq_optimal he) hn
  | level _ he => exact absurd (entering_eq_level he).2.1 hn
  | improving _ _ hl =>
    cases ha : s.alternate.isSome with
    | false => simp [ha] at hs
    | true => exact ⟨by simp, rfl, leaving_eq_none_iff.1 hl⟩

section ToleranceZero

structure Levels (d : Direction) (s s' : Run Rat) (i j : Nat) (e : String) (r : Row Rat) : Prop
    extends Pivots d 0 s s' i j e r where
  alternate_eq_none : s.alternate = none
  alternate_eq : s'.alternate = some s.tableau.basicValues
  settled : s.tableau.Settled d 0
  entry_eq_zero : s.tableau.objective.entry j = 0

lemma Levels.objective_eq {i j : Nat} {e : String} {r : Row Rat} (h : Levels d s s' i j e r) :
    s'.tableau.objective = s.tableau.objective := by
  rw [h.tableau_eq, h.toExchange.objective_pivot_of_level h.entry_eq_zero]

lemma Levels.settled_next {i j : Nat} {e : String} {r : Row Rat} (h : Levels d s s' i j e r) :
    s'.tableau.Settled d 0 := by
  rw [Settled, h.objective_eq]
  exact h.settled

lemma Pivots.improves_or_levels {i j : Nat} {e : String} {r : Row Rat}
    (hp : Pivots d 0 s s' i j e r) :
    (d.improves 0 (s.tableau.objective.entry j) ∧ s'.alternate = s.alternate) ∨
      Levels d s s' i j e r := by
  have he := hp.enters
  generalize ha : s'.alternate = a at he
  cases he with
  | improving hi => exact .inl ⟨hi, rfl⟩
  | level hn hs hz => exact .inr ⟨hp, hn, ha, hs, isNegligible_zero.1 hz⟩

theorem Reaches.alternate_cases (hr : Reaches d 0 s₀ s) (h : t₀.Represents s₀.tableau m n)
    (h₀ : s₀.alternate = none) :
    s.alternate = none ∨
      ∃ s₁ i j e r, Reaches d 0 s₀ s₁ ∧ Levels d s₁ s i j e r := by
  induction hr with
  | refl => exact .inl h₀
  | @tail s s' hr hg ih =>
    have hrep := Reaches.represents hr le_rfl h
    obtain ⟨i, j, e, r, hp⟩ := hg.pivots le_rfl hrep.toProper
    rcases hp.improves_or_levels with ⟨hi, ha⟩ | hl
    · rcases ih with ih | ⟨s₁, i₁, j₁, e₁, r₁, -, hl⟩
      · exact .inl (ha.trans ih)
      · exact absurd hi (hl.settled_next _ (hrep.toProper.entry_mem_entries hp.column))
    · exact .inr ⟨s, i, j, e, r, hr, hl⟩

lemma Reaches.settled_of_alternate (hr : Reaches d 0 s₀ s) (h : t₀.Represents s₀.tableau m n)
    (h₀ : s₀.alternate = none) (ha : s.alternate.isSome) : s.tableau.Settled d 0 := by
  rcases hr.alternate_cases h h₀ with hn | ⟨s₁, i, j, e, r, -, hl⟩
  · rw [hn] at ha
    cases ha
  · exact hl.settled_next

theorem Halts.settled_tableau {status : Status} {last : Step Rat} (hh : Halts d 0 s status last)
    (hr : Reaches d 0 s₀ s) (h : t₀.Represents s₀.tableau m n) (h₀ : s₀.alternate = none)
    (hs : status = .optimal ∨ status = .alternateOptima) : s.tableau.Settled d 0 := by
  by_contra hn
  obtain ⟨-, ha, -⟩ := hh.of_not_settled hs hn
  exact hn (hr.settled_of_alternate h h₀ ha)

end ToleranceZero

end Run

end LinearProgram
