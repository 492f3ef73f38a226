import LinearProgram.Proofs.Shape
import LinearProgram.Proofs.Trace

namespace LinearProgram

variable {α : Type}

structure Solution.Truncates (s full : Solution α) (cap : Nat) (trace : Bool) : Prop where
  iterations_eq : s.iterations = cap
  length_history : s.history.length = cap + 1
  history_prefix : s.history <+: full.history
  length_steps : s.steps.length = if trace then cap else 0
  steps_prefix : s.steps <+: full.steps

variable [Scalar α]

namespace Run

variable {d : Direction} {tolerance : α} {s s' : Run α} {status : Status} {lasts : List (Step α)}

lemma Goes.history_concat (hg : Goes d tolerance s s') :
    s'.history = s.history ++ [s'.tableau.objectiveValue] := by
  obtain ⟨i, j, hp⟩ := hg.past_eq
  rw [history, hp, List.reverse_cons, List.map_append]
  rfl

lemma Reaches.history_prefix (hr : Reaches d tolerance s s') : s.history <+: s'.history := by
  induction hr with
  | refl => exact List.prefix_rfl
  | tail _ hg ih =>
    rw [hg.history_concat]
    exact ih.trans (List.prefix_append _ _)

lemma Reaches.past_suffix (hr : Reaches d tolerance s s') : s.past <:+ s'.past := by
  induction hr with
  | refl => exact List.suffix_rfl
  | tail _ hg ih =>
    obtain ⟨i, j, hp⟩ := hg.past_eq
    rw [hp]
    exact ih.trans (List.suffix_cons _ _)

lemma Reaches.steps_prefix (hr : Reaches d tolerance s s') (count : Nat) (trace : Bool)
    (status : Status) (lasts : List (Step α)) :
    (s.finish d count trace .nonConvergent []).steps <+:
      (s'.finish d count trace status lasts).steps := by
  cases trace with
  | false => exact List.prefix_rfl
  | true =>
    show s.past.reverse ++ [] <+: s'.past.reverse ++ lasts
    rw [List.append_nil]
    exact (List.reverse_prefix.2 hr.past_suffix).trans (List.prefix_append _ _)

theorem complete_add (d : Direction) (count : Nat) (tolerance : α) (trace : Bool) (cap more : Nat)
    (s₀ : Run α) :
    (∃ (s : Run α) (status : Status) (last : Step α), Halts d tolerance s status last ∧
      s₀.complete d count tolerance trace cap = s.finish d count trace status [last] ∧
      s₀.complete d count tolerance trace (cap + more) = s.finish d count trace status [last]) ∨
    ∃ s : Run α, s.past.length = s₀.past.length + cap ∧
      s₀.complete d count tolerance trace cap = s.finish d count trace .nonConvergent [] ∧
      s₀.complete d count tolerance trace (cap + more) =
        s.complete d count tolerance trace more := by
  induction cap generalizing s₀ with
  | zero => exact .inr ⟨s₀, rfl, rfl, by rw [Nat.zero_add]⟩
  | succ cap ih =>
    rw [Nat.succ_add, complete, complete]
    rcases turn_cases d tolerance s₀ with ⟨s₁, ht, hg⟩ | ⟨status, last, ht, hh⟩
    · rw [ht]
      rcases ih s₁ with h | ⟨s, hlength, hcap, hmore⟩
      · exact .inl h
      · exact .inr ⟨s, by rw [hlength, hg.length_past]; omega, hcap, hmore⟩
    · rw [ht]
      exact .inl ⟨s₀, status, last, hh, rfl, rfl⟩

end Run

namespace Tableau

theorem solve_truncates {cap cap' : Nat} (h : cap ≤ cap') (t : Tableau α) (d : Direction)
    (tolerance : α) (count : Nat) (trace : Bool) :
    ((t.solve ⟨cap, tolerance, trace⟩ d count).status ≠ .nonConvergent →
        t.solve ⟨cap', tolerance, trace⟩ d count = t.solve ⟨cap, tolerance, trace⟩ d count) ∧
      ((t.solve ⟨cap, tolerance, trace⟩ d count).status = .nonConvergent →
        (t.solve ⟨cap, tolerance, trace⟩ d count).Truncates
          (t.solve ⟨cap', tolerance, trace⟩ d count) cap trace) := by
  obtain ⟨more, rfl⟩ := Nat.exists_eq_add_of_le h
  simp only [solve]
  rcases Run.complete_add d count tolerance trace cap more (Run.start t) with
    ⟨s, status, last, hh, hcap, hmore⟩ | ⟨s, hlength, hcap, hmore⟩
  · rw [hcap, hmore]
    exact ⟨fun _ => rfl, fun hn => absurd hn hh.ne_nonConvergent⟩
  · obtain ⟨s', status, lasts, he, hfull⟩ := Run.complete_eq_finish d tolerance more s
    rw [hcap, hmore, hfull]
    have hpast : s.past.length = cap := by simpa [Run.start] using hlength
    refine ⟨fun hn => absurd rfl hn, fun _ => ⟨hpast, ?_, he.reaches.history_prefix, ?_,
      he.reaches.steps_prefix count trace status lasts⟩⟩
    · simp [Run.finish, hpast]
    · cases trace with
      | false => rfl
      | true => simp [Run.finish, hpast]

theorem solve_truncates_of_two_pivots :
    ∃ (p : Problem Float) (t : Tableau Float) (s full : Solution Float),
      Problem.ofLines ["Maximize: z = 5x1 + 4x2", "6x1 + 4x2 <= 24", "x1 + 2x2 <= 6"] = .ok p ∧
      start p.standard = .ok t ∧
      t.solve ⟨1, Scalar.ofDecimal Settings.defaultTolerance, true⟩ .maximize 2 = s ∧
      t.solve ⟨2, Scalar.ofDecimal Settings.defaultTolerance, true⟩ .maximize 2 = full ∧
      1 ≤ 2 ∧ 3 ≤ 10000 ∧ s.status = .nonConvergent ∧ full.status = .nonConvergent ∧
      s.Truncates full 1 true ∧
      t.solve ⟨10000, Scalar.ofDecimal Settings.defaultTolerance, true⟩ .maximize 2 =
        t.solve ⟨3, Scalar.ofDecimal Settings.defaultTolerance, true⟩ .maximize 2 := by
  have h : ((Problem.start? ["Maximize: z = 5x1 + 4x2", "6x1 + 4x2 <= 24", "x1 + 2x2 <= 6"]).map
      fun o : Problem Float × Tableau Float => [1, 2, 3].map fun cap =>
        (o.2.solve ⟨cap, Scalar.ofDecimal Settings.defaultTolerance, true⟩ .maximize 2).status) =
      some [.nonConvergent, .nonConvergent, .optimal] := by decide +kernel
  obtain ⟨⟨p, t⟩, ho, hr⟩ := Option.map_eq_some_iff.1 h
  simp only [List.map_cons, List.map_nil, List.cons.injEq] at hr
  obtain ⟨hone, htwo, hthree, -⟩ := hr
  obtain ⟨hp, ht⟩ := Problem.start?_eq_some ho
  have hle : 1 ≤ 2 := by decide
  have hle' : 3 ≤ 10000 := by decide
  refine ⟨p, t, _, _, hp, ht, rfl, rfl, hle, hle', hone, htwo, ?_, ?_⟩
  · exact (solve_truncates hle t .maximize _ 2 true).2 hone
  · exact (solve_truncates hle' t .maximize _ 2 true).1 (by rw [hthree]; exact nofun)

end Tableau

end LinearProgram
