import Mathlib.Logic.Relation
import LinearProgram.Run

namespace LinearProgram

variable {α : Type} [Scalar α]

namespace Run

def openStep (tolerance : α) (s : Run α) (j : Nat) : Step α :=
  { s.reading with
    entering := s.tableau.names[j]?
    ratios := s.tableau.ratios j tolerance }

def pivotStep (tolerance : α) (s : Run α) (i j : Nat) : Step α :=
  { s.openStep tolerance j with
    leaving := s.tableau.basis[i]?
    pivot := s.tableau.rows[i]?.map fun r => r.entry j }

def next (tolerance : α) (s : Run α) (i j : Nat) (alternate : Option (List α)) : Run α where
  tableau := s.tableau.pivot i j
  past := s.pivotStep tolerance i j :: s.past
  stalled := s.tableau.hasZeroBasic tolerance
  alternate := alternate

variable {d : Direction} {tolerance : α} {s s' : Run α} {status : Status} {last : Step α}

inductive Goes (d : Direction) (tolerance : α) (s : Run α) : Run α → Prop
  | improving {i j : Nat} : (s.tableau.hasZeroBasic tolerance && s.stalled) = false →
      s.tableau.entering d tolerance s.alternate.isSome = .improving j →
      Tableau.leaving tolerance (s.tableau.ratios j tolerance) = some i →
      Goes d tolerance s (s.next tolerance i j s.alternate)
  | level {i j : Nat} : (s.tableau.hasZeroBasic tolerance && s.stalled) = false →
      s.tableau.entering d tolerance s.alternate.isSome = .level j →
      Tableau.leaving tolerance (s.tableau.ratios j tolerance) = some i →
      Goes d tolerance s (s.next tolerance i j (some s.tableau.basicValues))

inductive Halts (d : Direction) (tolerance : α) (s : Run α) : Status → Step α → Prop
  | degenerate : (s.tableau.hasZeroBasic tolerance && s.stalled) = true →
      Halts d tolerance s .degenerate s.reading
  | settled : (s.tableau.hasZeroBasic tolerance && s.stalled) = false →
      s.tableau.entering d tolerance s.alternate.isSome = .optimal →
      Halts d tolerance s (if s.alternate.isSome then .alternateOptima else .optimal) s.reading
  | improving {j : Nat} : (s.tableau.hasZeroBasic tolerance && s.stalled) = false →
      s.tableau.entering d tolerance s.alternate.isSome = .improving j →
      Tableau.leaving tolerance (s.tableau.ratios j tolerance) = none →
      Halts d tolerance s (if s.alternate.isSome then .optimal else .unbounded)
        (s.openStep tolerance j)
  | level {j : Nat} : (s.tableau.hasZeroBasic tolerance && s.stalled) = false →
      s.tableau.entering d tolerance s.alternate.isSome = .level j →
      Tableau.leaving tolerance (s.tableau.ratios j tolerance) = none →
      Halts d tolerance s .optimal (s.openStep tolerance j)

lemma enter_of_none {j : Nat}
    (h : Tableau.leaving tolerance (s.tableau.ratios j tolerance) = none) :
    s.enter tolerance j =
      .halt (if s.alternate.isSome then .optimal else .unbounded) (s.openStep tolerance j) := by
  simp only [enter, h]
  rfl

lemma enter_of_some {i j : Nat}
    (h : Tableau.leaving tolerance (s.tableau.ratios j tolerance) = some i) :
    s.enter tolerance j =
      .go { s with
        tableau := s.tableau.pivot i j
        past := s.pivotStep tolerance i j :: s.past } := by
  simp only [enter, h]
  rfl

theorem turn_cases (d : Direction) (tolerance : α) (s : Run α) :
    (∃ s', s.turn d tolerance = .go s' ∧ Goes d tolerance s s') ∨
      ∃ status last, s.turn d tolerance = .halt status last ∧ Halts d tolerance s status last := by
  unfold turn
  cases hz : s.tableau.hasZeroBasic tolerance && s.stalled with
  | true => exact .inr ⟨_, _, if_pos hz, .degenerate hz⟩
  | false =>
    simp only [hz, Bool.false_eq_true, if_false]
    cases he : s.tableau.entering d tolerance s.alternate.isSome with
    | optimal => exact .inr ⟨_, _, rfl, .settled hz he⟩
    | improving j =>
      cases hl : Tableau.leaving tolerance (s.tableau.ratios j tolerance) with
      | none => exact .inr ⟨_, _, enter_of_none hl, .improving hz he hl⟩
      | some i => exact .inl ⟨_, enter_of_some hl, .improving hz he hl⟩
    | level j =>
      cases hl : Tableau.leaving tolerance (s.tableau.ratios j tolerance) with
      | none => exact .inr ⟨_, _, enter_of_none hl, .level hz he hl⟩
      | some i => exact .inl ⟨_, enter_of_some hl, .level hz he hl⟩

def Reaches (d : Direction) (tolerance : α) : Run α → Run α → Prop :=
  Relation.ReflTransGen (Goes d tolerance)

lemma Goes.length_past (h : Goes d tolerance s s') : s'.past.length = s.past.length + 1 := by
  cases h <;> rfl

lemma Halts.of_alternateOptima (h : Halts d tolerance s .alternateOptima last) :
    s.alternate.isSome := by
  generalize hs : Status.alternateOptima = status at h
  cases h with
  | degenerate => cases hs
  | settled =>
    split at hs
    · assumption
    · cases hs
  | improving => split at hs <;> cases hs
  | level => cases hs

lemma Halts.of_unbounded (h : Halts d tolerance s .unbounded last) :
    ∃ j, s.alternate = none ∧ s.tableau.entering d tolerance s.alternate.isSome = .improving j ∧
      Tableau.leaving tolerance (s.tableau.ratios j tolerance) = none ∧
      last = s.openStep tolerance j := by
  generalize hs : Status.unbounded = status at h
  cases h with
  | degenerate => cases hs
  | settled => split at hs <;> cases hs
  | @improving j _ he hl =>
    split at hs
    · cases hs
    · rename_i ha
      exact ⟨j, by simpa using ha, he, hl, rfl⟩
  | level => cases hs

lemma Halts.ne_nonConvergent (h : Halts d tolerance s status last) : status ≠ .nonConvergent := by
  cases h with
  | degenerate => exact nofun
  | settled => split <;> exact nofun
  | improving => split <;> exact nofun
  | level => exact nofun

inductive Ends (d : Direction) (tolerance : α) (cap : Nat) (s₀ : Run α) :
    Run α → Status → List (Step α) → Prop
  | capped {s : Run α} : Reaches d tolerance s₀ s → s.past.length = s₀.past.length + cap →
      Ends d tolerance cap s₀ s .nonConvergent []
  | halted {s : Run α} {status : Status} {last : Step α} : Reaches d tolerance s₀ s →
      s.past.length < s₀.past.length + cap → Halts d tolerance s status last →
      Ends d tolerance cap s₀ s status [last]

lemma Ends.reaches {cap : Nat} {s₀ : Run α} {lasts : List (Step α)}
    (h : Ends d tolerance cap s₀ s status lasts) : Reaches d tolerance s₀ s := by
  cases h <;> assumption

lemma Ends.length_past_of_nonConvergent {cap : Nat} {s₀ : Run α} {lasts : List (Step α)}
    (h : Ends d tolerance cap s₀ s .nonConvergent lasts) :
    s.past.length = s₀.past.length + cap := by
  cases h with
  | capped _ hp => exact hp
  | halted _ _ hh => exact absurd rfl hh.ne_nonConvergent

lemma Ends.head {cap : Nat} {s₀ s₁ : Run α} {lasts : List (Step α)}
    (hg : Goes d tolerance s₀ s₁) (h : Ends d tolerance cap s₁ s status lasts) :
    Ends d tolerance (cap + 1) s₀ s status lasts := by
  have hl := hg.length_past
  cases h with
  | capped hr hp => exact .capped (.head hg hr) (by omega)
  | halted hr hp hh => exact .halted (.head hg hr) (by omega) hh

theorem complete_eq_finish (d : Direction) (tolerance : α) (cap : Nat) (s₀ : Run α) :
    ∃ s status lasts, Ends d tolerance cap s₀ s status lasts ∧
      ∀ count trace, s₀.complete d count tolerance trace cap =
        s.finish d count trace status lasts := by
  induction cap generalizing s₀ with
  | zero => exact ⟨s₀, _, _, .capped .refl rfl, fun _ _ => rfl⟩
  | succ cap ih =>
    rcases turn_cases d tolerance s₀ with ⟨s₁, ht, hg⟩ | ⟨status, last, ht, hh⟩
    · obtain ⟨s, status, lasts, he, hs⟩ := ih s₁
      refine ⟨s, status, lasts, he.head hg, fun count trace => ?_⟩
      rw [complete, ht]
      exact hs count trace
    · refine ⟨s₀, status, [last], .halted .refl (by omega) hh, fun count trace => ?_⟩
      rw [complete, ht]

end Run

def Turn.map (f : Run α → Run α) (g : Step α → Step α) : Turn α → Turn α
  | .halt status last => .halt status (g last)
  | .go next => .go (f next)

/-- A change of states that goes along with every turn goes along with a whole run. -/
theorem Run.complete_comm {d d' : Direction} {tolerance : α} {P : Run α → Prop}
    {f : Run α → Run α} {g : Step α → Step α} {h : Solution α → Solution α} {count : Nat}
    {trace : Bool} (hstep : ∀ {s s' : Run α}, Goes d tolerance s s' → P s → P s')
    (hturn : ∀ {s : Run α}, P s → (f s).turn d' tolerance = (s.turn d tolerance).map f g)
    (hfinish : ∀ {s : Run α}, P s → ∀ (status : Status) (lasts : List (Step α)),
      (f s).finish d' count trace status (lasts.map g) = h (s.finish d count trace status lasts))
    {s : Run α} (hs : P s) (cap : Nat) :
    (f s).complete d' count tolerance trace cap = h (s.complete d count tolerance trace cap) := by
  induction cap generalizing s with
  | zero => exact hfinish hs .nonConvergent []
  | succ cap ih =>
    rw [complete, complete, hturn hs]
    rcases turn_cases d tolerance s with ⟨s', ht, hg⟩ | ⟨status, last, ht, -⟩
    · rw [ht]
      exact ih (hstep hg hs)
    · rw [ht]
      exact hfinish hs status [last]

theorem Tableau.solve_eq_finish (t : Tableau α) (d : Direction) (tolerance : α) (cap : Nat) :
    ∃ s status lasts, Run.Ends d tolerance cap (Run.start t) s status lasts ∧
      ∀ count trace, t.solve ⟨cap, tolerance, trace⟩ d count =
        s.finish d count trace status lasts :=
  Run.complete_eq_finish d tolerance cap (Run.start t)

end LinearProgram
