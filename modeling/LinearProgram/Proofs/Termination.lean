import Mathlib.Data.Finset.Powerset
import LinearProgram.Proofs.Solve
import LinearProgram.Proofs.Trace

/-!
Runs at tolerance zero end without a cap. Every pivot improves the objective, but for the one that
looks for a second optimum, and that one is the last. A set of basic variables determines the
objective value, so that no set comes back.
-/

namespace LinearProgram

open Finset

def Direction.Improvement : Direction → Rat → Rat → Prop
  | .maximize, a, b => a < b
  | .minimize, a, b => b < a

namespace Direction

lemma improvement_iff (d : Direction) (a b : Rat) :
    d.Improvement a b ↔ d.sign * a < d.sign * b := by
  cases d <;> simp [Improvement, sign]

lemma not_improvement_self (d : Direction) (a : Rat) : ¬ d.Improvement a a := by
  rw [improvement_iff]
  exact lt_irrefl _

lemma Improvement.trans {d : Direction} {a b c : Rat} (hab : d.Improvement a b)
    (hbc : d.Improvement b c) : d.Improvement a c := by
  rw [improvement_iff] at *
  exact hab.trans hbc

end Direction

namespace Tableau

variable {t t' t₀ : Tableau Rat} {m n : Nat}

theorem Represents.objectiveValue_eq (h : t₀.Represents t m n) (h' : t₀.Represents t' m n)
    (hb : t'.basis.toFinset = t.basis.toFinset) : t'.objectiveValue = t.objectiveValue := by
  have hsat : t.Satisfies t'.objectiveValue t'.reading :=
    (h.satisfies_iff _ _).2 ((h'.satisfies_iff _ _).1 h'.satisfies_reading)
  refine h.eq_objectiveValue_of_satisfies hsat fun name hname => ?_
  refine h'.reading_of_notMem_basis fun hmem => ?_
  rw [← List.mem_toFinset, hb, List.mem_toFinset] at hmem
  exact (mem_nonbasic.1 hname).2 hmem

lemma Represents.basis_mem_powersetCard (h : t₀.Represents t m n) :
    t.basis.toFinset ∈ t₀.names.toFinset.powersetCard m := by
  rw [mem_powersetCard, List.toFinset_card_of_nodup h.basis_nodup, ← h.names_eq]
  refine ⟨fun name hname => ?_, h.length_basis⟩
  rw [List.mem_toFinset] at hname ⊢
  exact h.basis_subset hname

end Tableau

namespace Run

open Tableau

variable {d : Direction} {s s' : Run Rat} {t : Tableau Rat} {m n i j : Nat} {e : String}
  {r : Row Rat}

lemma Pivots.improvement (hp : Pivots d 0 s s' i j e r)
    (hi : d.improves 0 (s.tableau.objective.entry j)) :
    d.Improvement s.tableau.objectiveValue s'.tableau.objectiveValue := by
  rw [d.improvement_iff, hp.tableau_eq, hp.toExchange.objectiveValue_pivot]
  have := mul_neg_of_neg_of_pos ((d.improves_zero_iff _).1 hi) hp.ratio_gt
  linarith

lemma Levels.objectiveValue_eq (hl : Levels d s s' i j e r) :
    s'.tableau.objectiveValue = s.tableau.objectiveValue := by
  rw [objectiveValue, hl.objective_eq, objectiveValue]

lemma Pivots.basis_ne (hp : Pivots d 0 s s' i j e r) (h : s.tableau.Proper m n) :
    s'.tableau.basis.toFinset ≠ s.tableau.basis.toFinset := by
  intro hb
  have hmem : e ∈ s'.tableau.basis.toFinset := by
    rw [hp.tableau_eq, List.mem_toFinset]
    exact hp.toExchange.entering_mem_basis h
  rw [hb, List.mem_toFinset] at hmem
  exact hp.notMem_basis hmem

theorem Reaches.pairwise_improvement (hr : Reaches d 0 (start t) s) (h : t.Proper m n)
    (hn : s.alternate = none) :
    s.visited.Pairwise fun t t' => d.Improvement t.objectiveValue t'.objectiveValue := by
  induction hr with
  | refl => exact List.pairwise_singleton _ _
  | @tail s s' hr hg ih =>
    have hrep : t.Represents s.tableau m n := Reaches.represents_start hr le_rfl h
    obtain ⟨i, j, e, r, hp⟩ := hg.pivots le_rfl hrep.toProper
    rcases hp.improves_or_levels with ⟨hi, ha⟩ | hl
    · have hpast := ih (ha.symm.trans hn)
      have hlast := hp.improvement hi
      rw [hg.visited_eq, List.pairwise_append]
      refine ⟨hpast, List.pairwise_singleton _ _, fun t₁ ht₁ t₂ ht₂ => ?_⟩
      obtain rfl := List.mem_singleton.1 ht₂
      rcases List.mem_append.1 ht₁ with ht₁ | ht₁
      · exact ((List.pairwise_append.1 hpast).2.2 _ ht₁ _ List.mem_cons_self).trans hlast
      · obtain rfl := List.mem_singleton.1 ht₁
        exact hlast
    · rw [hl.alternate_eq] at hn
      cases hn

theorem Reaches.improvement_cases (hr : Reaches d 0 (start t) s) (h : t.Proper m n) :
    (s.visited.Pairwise fun t t' => d.Improvement t.objectiveValue t'.objectiveValue) ∨
      ∃ s₁ i j e r, Reaches d 0 (start t) s₁ ∧ Levels d s₁ s i j e r ∧
        s.visited = s₁.visited ++ [s.tableau] ∧
        s₁.visited.Pairwise fun t t' => d.Improvement t.objectiveValue t'.objectiveValue := by
  rcases hr.alternate_cases h.represents_self rfl with hn | ⟨s₁, i, j, e, r, hr₁, hl⟩
  · exact .inl (hr.pairwise_improvement h hn)
  · exact .inr ⟨s₁, i, j, e, r, hr₁, hl, visited_of_past_eq hl.past_eq,
      hr₁.pairwise_improvement h hl.alternate_eq_none⟩

lemma Reaches.represents_of_mem_visited (hr : Reaches d 0 (start t) s) (h : t.Proper m n)
    {t' : Tableau Rat} (ht : t' ∈ s.visited) : t.Represents t' m n := by
  obtain ⟨s', hr', rfl⟩ := hr.exists_of_mem_visited ht
  exact hr'.represents_start le_rfl h

lemma Reaches.basis_ne (hr : Reaches d 0 (start t) s) (h : t.Proper m n) {t₁ t₂ : Tableau Rat}
    (h₁ : t₁ ∈ s.visited) (h₂ : t₂ ∈ s.visited)
    (hi : d.Improvement t₁.objectiveValue t₂.objectiveValue) :
    t₁.basis.toFinset ≠ t₂.basis.toFinset := by
  intro hb
  rw [(hr.represents_of_mem_visited h h₂).objectiveValue_eq (hr.represents_of_mem_visited h h₁) hb]
    at hi
  exact d.not_improvement_self _ hi

theorem Reaches.nodup_bases (hr : Reaches d 0 (start t) s) (h : t.Proper m n) :
    (s.visited.map fun t => t.basis.toFinset).Nodup := by
  rw [List.Nodup, List.pairwise_map]
  rcases hr.improvement_cases h with hp | ⟨s₁, i, j, e, r, hr₁, hl, hv, hp⟩
  · exact hp.imp_of_mem fun h₁ h₂ hi => hr.basis_ne h h₁ h₂ hi
  · have hlast : s.tableau ∈ s.visited := List.mem_append_right _ List.mem_cons_self
    have hmem {t' : Tableau Rat} (ht : t' ∈ s₁.visited) : t' ∈ s.visited :=
      hv ▸ List.mem_append_left _ ht
    rw [hv, List.pairwise_append]
    refine ⟨hp.imp_of_mem fun h₁ h₂ hi => hr.basis_ne h (hmem h₁) (hmem h₂) hi,
      List.pairwise_singleton _ _, fun t₁ ht₁ t₂ ht₂ => ?_⟩
    obtain rfl := List.mem_singleton.1 ht₂
    rcases List.mem_append.1 ht₁ with hpast | hs₁
    · have hi := (List.pairwise_append.1 hp).2.2 _ hpast _ List.mem_cons_self
      rw [← hl.objectiveValue_eq] at hi
      exact hr.basis_ne h (hmem ht₁) hlast hi
    · obtain rfl := List.mem_singleton.1 hs₁
      exact (hl.toPivots.basis_ne (hr₁.represents_start le_rfl h).toProper).symm

theorem Reaches.length_past_lt_choose (hr : Reaches d 0 (start t) s) (h : t.Proper m n) :
    s.past.length < n.choose m := by
  have hcard : t.names.toFinset.card = n := by
    rw [List.toFinset_card_of_nodup h.names_nodup, h.length_names]
  have hsub : (s.visited.map fun t => t.basis.toFinset).toFinset ⊆
      t.names.toFinset.powersetCard m := by
    intro b hb
    obtain ⟨t', ht', rfl⟩ := List.mem_map.1 (List.mem_toFinset.1 hb)
    exact (hr.represents_of_mem_visited h ht').basis_mem_powersetCard
  have hle := card_le_card hsub
  rw [List.toFinset_card_of_nodup (hr.nodup_bases h), card_powersetCard, hcard, List.length_map,
    length_visited] at hle
  exact hle

lemma Reaches.pairwise_dropLast (hr : Reaches d 0 (start t) s) (h : t.Proper m n) :
    (s.visited.map Tableau.objectiveValue).dropLast.Pairwise d.Improvement := by
  rcases hr.improvement_cases h with hp | ⟨s₁, i, j, e, r, -, -, hv, hp⟩
  · exact (List.pairwise_map.2 hp).sublist (List.dropLast_sublist _)
  · rw [hv, List.map_append, List.map_singleton, List.dropLast_concat]
    exact List.pairwise_map.2 hp

lemma Reaches.last_pivot (hr : Reaches d 0 (start t) s) (h : t.Proper m n) {step : Step Rat}
    (hs : s.past.head? = some step) :
    d.Improvement step.objectiveValue s.tableau.objectiveValue ∨
      step.objectiveValue = s.tableau.objectiveValue ∧ step.tableau.Settled d 0 := by
  cases hr with
  | refl => cases hs
  | @tail s₁ _ hr₁ hg =>
    have hrep : t.Represents s₁.tableau m n := Reaches.represents_start hr₁ le_rfl h
    obtain ⟨i, j, e, r, hp⟩ := hg.pivots le_rfl hrep.toProper
    rw [hp.past_eq, List.head?_cons] at hs
    obtain rfl := Option.some_inj.1 hs
    rcases hp.improves_or_levels with ⟨hi, -⟩ | hl
    · exact .inl (hp.improvement hi)
    · exact .inr ⟨hl.objectiveValue_eq.symm, hl.settled⟩

end Run

namespace Problem

variable {lines : List String} {p : Problem Rat} {t : Tableau Rat}

theorem iterations_lt_choose (hp : ofLines lines = .ok p)
    (ht : Tableau.start p.standard = .ok t) (cap : Nat) (trace : Bool) :
    ∃ s traced, p.standard.solve ⟨cap, 0, trace⟩ = .ok s ∧
      p.standard.solve ⟨cap, 0, true⟩ = .ok traced ∧
      s.history = traced.pivots.map Step.objectiveValue ++ [s.objectiveValue] ∧
      s.history.dropLast.Pairwise s.direction.Improvement ∧
      (∀ step, traced.pivots.getLast? = some step →
        s.direction.Improvement step.objectiveValue s.objectiveValue ∨
          step.objectiveValue = s.objectiveValue ∧ step.tableau.Settled s.direction 0) ∧
      (traced.visited.map fun t => t.basis.toFinset).Nodup ∧
      s.iterations < t.names.length.choose t.rows.length ∧
      (t.names.length.choose t.rows.length ≤ cap → s.status ≠ .nonConvergent) := by
  obtain ⟨e, status, lasts, h⟩ := exists_solved_of_start hp ht 0 cap
  have hr := h.ends.reaches
  have hproper := h.proper_start
  have hlt := hr.length_past_lt_choose hproper
  rw [← hproper.length_rows, ← hproper.length_names] at hlt
  refine ⟨_, _, h.solve_eq trace, h.solve_eq true, ?_, ?_, ?_, ?_, hlt, fun hcap hst => ?_⟩
  · rw [Run.pivots_finish]
    rfl
  · have hdrop := hr.pairwise_dropLast hproper
    rw [← hr.history_eq] at hdrop
    exact hdrop
  · rw [Run.pivots_finish, List.getLast?_reverse]
    exact fun step hstep => hr.last_pivot hproper hstep
  · rw [Run.visited_finish]
    exact hr.nodup_bases hproper
  · obtain rfl : status = .nonConvergent := hst
    have hlen : e.past.length = 0 + cap := h.ends.length_past_of_nonConvergent
    omega

theorem iterations_lt_choose_of_edge :
    ∃ p s, outcome? ["Maximize: z = 2x1 + 4x2", "x1 + 2x2 <= 5", "x1 + x2 <= 4"] ⟨6, 0, true⟩ =
        some (p, s) ∧ s.history = [0, 10, 10] ∧ s.iterations < Nat.choose 4 2 ∧
      s.status ≠ .nonConvergent := by
  have h : ((outcome? ["Maximize: z = 2x1 + 4x2", "x1 + 2x2 <= 5", "x1 + x2 <= 4"]
      ⟨6, 0, true⟩).map fun o =>
        (o.2.history, o.1.standard.names.length, o.1.standard.rows.length)) =
      some ([0, 10, 10], 4, 2) := by decide +kernel
  obtain ⟨⟨p, s⟩, ho, hr⟩ := Option.map_eq_some_iff.1 h
  obtain ⟨hp, hs⟩ := outcome?_eq_some ho
  obtain ⟨hhistory, hsize⟩ := Prod.mk.inj hr
  obtain ⟨hnames, hrows⟩ := Prod.mk.inj hsize
  obtain ⟨t, ht⟩ := StandardForm.exists_start hs
  have hstarted := Tableau.started_of_start ht
  have hlen : t.names.length = 4 ∧ t.rows.length = 2 := by
    rw [hstarted.names_eq, hstarted.rows_eq, List.length_map]
    exact ⟨hnames, hrows⟩
  obtain ⟨s', -, hs', -, -, -, -, -, hlt, hne⟩ := iterations_lt_choose hp ht 6 true
  obtain rfl : s = s' := Except.ok.inj (hs.symm.trans hs')
  rw [hlen.1, hlen.2] at hlt hne
  exact ⟨p, s, ho, hhistory, hlt, hne (by decide)⟩

end Problem

end LinearProgram
