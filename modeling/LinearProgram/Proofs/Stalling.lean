import LinearProgram.Proofs.Shape
import LinearProgram.Proofs.Trace

/-!
A run is degenerate exactly if a basic variable was zero at the start of two iterations in a row.
The first such pair ends the run, before a pivot is chosen.
-/

namespace LinearProgram

variable {α : Type} [Scalar α]

def Tableau.ReadsZero (tolerance : α) (t : Tableau α) : Prop :=
  ∃ r ∈ t.rows, -tolerance ≤ r.rhs ∧ r.rhs ≤ tolerance

lemma Tableau.hasZeroBasic_iff {t : Tableau α} {tolerance : α} :
    t.hasZeroBasic tolerance = true ↔ t.ReadsZero tolerance := by
  simp [hasZeroBasic, ReadsZero, Scalar.isNegligible]

def Step.StallsAt (tolerance : α) (steps : List (Step α)) : Nat → Prop
  | 0 => False
  | k + 1 => ∃ a b, steps[k]? = some a ∧ steps[k + 1]? = some b ∧
      a.tableau.ReadsZero tolerance ∧ b.tableau.ReadsZero tolerance

structure Solution.StopsAt (s : Solution α) (steps : List (Step α)) (k : Nat) : Prop where
  iterations_eq : s.iterations = k
  length_steps : steps.length = k + 1
  reading : ∃ step, steps[k]? = some step ∧ step.entering = none ∧ step.leaving = none ∧
    step.pivot = none ∧ s.tableau = step.tableau ∧ s.values = step.values

namespace Step

variable {tolerance : α} {steps : List (Step α)} {b : Step α} {k : Nat}

lemma stallsAt_concat :
    StallsAt tolerance (steps ++ [b]) k ↔ StallsAt tolerance steps k ∨
      k = steps.length ∧ (∃ a ∈ steps.getLast?, a.tableau.ReadsZero tolerance) ∧
        b.tableau.ReadsZero tolerance := by
  cases k with
  | zero =>
    refine ⟨False.elim, ?_⟩
    rintro (h | ⟨h, ⟨a, ha, -⟩, -⟩)
    · exact h
    · rw [List.length_eq_zero_iff.1 h.symm] at ha
      cases ha
  | succ k =>
    have hlast (h : k + 1 = steps.length) : steps.getLast? = steps[k]? := by
      rw [List.getLast?_eq_getElem?, ← h, Nat.add_sub_cancel]
    constructor
    · rintro ⟨a, c, ha, hc, hza, hzc⟩
      rcases getElem?_concat_eq_some.1 hc with hc | ⟨hk, rfl⟩
      · obtain ⟨hlt, -⟩ := List.getElem?_eq_some_iff.1 hc
        rw [List.getElem?_append_left (Nat.lt_of_succ_lt hlt)] at ha
        exact .inl ⟨a, c, ha, hc, hza, hzc⟩
      · rw [List.getElem?_append_left (by omega), ← hlast hk] at ha
        exact .inr ⟨hk, ⟨a, ha, hza⟩, hzc⟩
    · rintro (⟨a, c, ha, hc, hza, hzc⟩ | ⟨hk, ⟨a, ha, hza⟩, hzb⟩)
      · exact ⟨a, c, getElem?_concat_eq_some.2 (.inl ha), getElem?_concat_eq_some.2 (.inl hc),
          hza, hzc⟩
      · rw [hlast hk] at ha
        exact ⟨a, b, getElem?_concat_eq_some.2 (.inl ha),
          getElem?_concat_eq_some.2 (.inr ⟨hk, rfl⟩), hza, hzb⟩

end Step

namespace Run

open Step

variable {d : Direction} {tolerance : α} {s s' : Run α} {t : Tableau α} {status : Status}
  {lasts : List (Step α)}

structure Unstalled (tolerance : α) (s : Run α) : Prop where
  stalled_iff : s.stalled = true ↔ ∃ step ∈ s.past.head?, step.tableau.ReadsZero tolerance
  not_stallsAt : ∀ k, ¬ StallsAt tolerance s.past.reverse k

lemma Unstalled.stallsAt_concat_iff (h : s.Unstalled tolerance) {step : Step α}
    (hstep : step.tableau = s.tableau) {k : Nat} :
    StallsAt tolerance (s.past.reverse ++ [step]) k ↔
      k = s.past.length ∧ (s.tableau.hasZeroBasic tolerance && s.stalled) = true := by
  rw [stallsAt_concat, List.getLast?_reverse, List.length_reverse, ← h.stalled_iff, hstep,
    ← Tableau.hasZeroBasic_iff, Bool.and_eq_true, and_comm (a := s.stalled = true)]
  exact or_iff_right (h.not_stallsAt k)

lemma Goes.not_stalling (hg : Goes d tolerance s s') :
    (s.tableau.hasZeroBasic tolerance && s.stalled) = false := by
  cases hg <;> assumption

lemma Goes.unstalled (hg : Goes d tolerance s s') (h : s.Unstalled tolerance) :
    s'.Unstalled tolerance := by
  have hz := hg.not_stalling
  obtain ⟨i, j, alternate, -, -, rfl⟩ := hg.exists_next
  have hpast : (s.next tolerance i j alternate).past = s.pivotStep tolerance i j :: s.past := rfl
  constructor
  · rw [hpast, List.head?_cons]
    simp only [Option.mem_some_iff, exists_eq_left']
    exact Tableau.hasZeroBasic_iff
  · intro k
    rw [hpast, List.reverse_cons, h.stallsAt_concat_iff rfl, hz]
    simp

theorem Reaches.unstalled (hr : Reaches d tolerance (start t) s) : s.Unstalled tolerance := by
  induction hr with
  | refl =>
    refine ⟨⟨nofun, ?_⟩, ?_⟩
    · rintro ⟨step, hstep, -⟩
      cases hstep
    · rintro (_ | k)
      · exact id
      · rintro ⟨a, b, ha, -⟩
        cases ha
  | tail _ hg ih => exact hg.unstalled ih

lemma Halts.degenerate_iff {last : Step α} (hh : Halts d tolerance s status last) :
    status = .degenerate ↔ (s.tableau.hasZeroBasic tolerance && s.stalled) = true := by
  cases hh with
  | degenerate hz => exact iff_of_true rfl hz
  | settled hz =>
    rw [hz]
    split <;> exact iff_of_false nofun nofun
  | improving hz =>
    rw [hz]
    split <;> exact iff_of_false nofun nofun
  | level hz =>
    rw [hz]
    exact iff_of_false nofun nofun

lemma Halts.eq_reading {last : Step α} (hh : Halts d tolerance s .degenerate last) :
    last = s.reading := by
  generalize hs : Status.degenerate = status at hh
  cases hh with
  | degenerate => rfl
  | settled => split at hs <;> cases hs
  | improving => split at hs <;> cases hs
  | level => cases hs

theorem Ends.stallsAt_iff {cap : Nat} (he : Ends d tolerance cap (start t) s status lasts)
    {k : Nat} :
    StallsAt tolerance (s.past.reverse ++ lasts) k ↔ status = .degenerate ∧ k = s.past.length := by
  have h := he.reaches.unstalled
  cases he with
  | capped =>
    rw [List.append_nil]
    exact iff_of_false (h.not_stallsAt k) nofun
  | halted _ _ hh =>
    rw [h.stallsAt_concat_iff hh.readOff.tableau_eq, hh.degenerate_iff, and_comm]

lemma Ends.stopsAt {cap : Nat} (he : Ends d tolerance cap (start t) s .degenerate lasts)
    (count : Nat) (trace : Bool) :
    (s.finish d count trace .degenerate lasts).StopsAt (s.past.reverse ++ lasts) s.past.length := by
  generalize hs : Status.degenerate = status at he
  cases he with
  | capped => cases hs
  | halted _ _ hh =>
    subst hs
    obtain rfl := hh.eq_reading
    refine ⟨rfl, by simp, s.reading, ?_, rfl, rfl, rfl, rfl, rfl⟩
    exact getElem?_concat_eq_some.2 (.inr ⟨by simp, rfl⟩)

end Run

namespace Tableau

/-- A run is degenerate if and only if two of its iterations in a row read a zero, whatever else
could end it there. It stops at the second of the first two, and makes no further pivot. -/
theorem status_eq_degenerate_iff (t : Tableau α) (d : Direction) (tolerance : α) (cap count : Nat)
    (trace : Bool) :
    ((t.solve ⟨cap, tolerance, trace⟩ d count).status = .degenerate ↔
        ∃ k, Step.StallsAt tolerance (t.solve ⟨cap, tolerance, true⟩ d count).steps k) ∧
      ∀ k, Step.StallsAt tolerance (t.solve ⟨cap, tolerance, true⟩ d count).steps k →
        (t.solve ⟨cap, tolerance, trace⟩ d count).StopsAt
            (t.solve ⟨cap, tolerance, true⟩ d count).steps k ∧
          ∀ j < k, ¬ Step.StallsAt tolerance (t.solve ⟨cap, tolerance, true⟩ d count).steps j := by
  obtain ⟨s, status, lasts, he, hsolve⟩ := t.solve_eq_finish d tolerance cap
  have hsteps : (t.solve ⟨cap, tolerance, true⟩ d count).steps = s.past.reverse ++ lasts := by
    rw [hsolve]
    rfl
  rw [hsteps, hsolve]
  simp only [he.stallsAt_iff]
  constructor
  · constructor
    · intro hstatus
      exact ⟨s.past.length, hstatus, rfl⟩
    · rintro ⟨k, hstatus, -⟩
      exact hstatus
  · rintro k ⟨rfl, rfl⟩
    refine ⟨he.stopsAt count trace, fun j hj => ?_⟩
    rintro ⟨-, rfl⟩
    exact Nat.lt_irrefl _ hj

-- the slack variable of `x2 <= 0` stays at zero when `x1` enters
example : ((Problem.start? ["Maximize: z = x1 + x2", "x2 <= 0", "x1 <= 4"]).map
    fun o : Problem Float × Tableau Float =>
      let s := o.2.solve (Settings.standard Float) .maximize 2
      (s.status, s.iterations)) = some (.degenerate, 1) := by decide +kernel

end Tableau

end LinearProgram
