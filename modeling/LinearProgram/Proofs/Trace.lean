import LinearProgram.Proofs.Turn

namespace LinearProgram

lemma getElem?_concat_eq_some {β : Type} {xs : List β} {a x : β} {k : Nat} :
    (xs ++ [a])[k]? = some x ↔ xs[k]? = some x ∨ k = xs.length ∧ a = x := by
  rcases Nat.lt_trichotomy k xs.length with hlt | rfl | hgt
  · rw [List.getElem?_append_left hlt]
    simp [Nat.ne_of_lt hlt]
  · simp
  · have hlong : (xs ++ [a]).length ≤ k := by
      rw [List.length_append]
      exact hgt
    rw [List.getElem?_eq_none hlong, List.getElem?_eq_none (Nat.le_of_lt hgt)]
    simp [Nat.ne_of_gt hgt]

variable {α : Type}

namespace Solution

def pivots (s : Solution α) : List (Step α) :=
  s.steps.take s.iterations

def visited (s : Solution α) : List (Tableau α) :=
  s.pivots.map Step.tableau ++ [s.tableau]

inductive Shows (s : Solution α) : Tableau α → List α → α → Prop
  | last : s.Shows s.tableau s.values s.objectiveValue
  | step {step : Step α} : step ∈ s.steps →
      s.Shows step.tableau step.values step.objectiveValue

end Solution

structure Step.ReadOff [Scalar α] (step : Step α) (t : Tableau α) : Prop where
  tableau_eq : step.tableau = t
  values_eq : step.values = t.basicValues
  objectiveValue_eq : step.objectiveValue = t.objectiveValue

namespace Run

def visited (s : Run α) : List (Tableau α) :=
  s.past.reverse.map Step.tableau ++ [s.tableau]

def history (s : Run α) : List α :=
  s.past.reverse.map Step.objectiveValue ++ [s.tableau.objectiveValue]

@[simp] lemma length_visited (s : Run α) : s.visited.length = s.past.length + 1 := by
  simp [visited]

lemma getElem?_visited_of_past {s : Run α} {k : Nat} {step : Step α}
    (h : s.past.reverse[k]? = some step) : s.visited[k]? = some step.tableau := by
  obtain ⟨hlt, -⟩ := List.getElem?_eq_some_iff.1 h
  rw [visited, List.getElem?_append_left (by simpa using hlt), List.getElem?_map, h]
  rfl

lemma getElem?_visited_length (s : Run α) : s.visited[s.past.length]? = some s.tableau := by
  rw [visited, getElem?_concat_eq_some]
  exact .inr ⟨by simp, rfl⟩

variable [Scalar α] {d : Direction} {tolerance : α} {s s' : Run α} {t : Tableau α}

@[simp] lemma pivots_finish (s : Run α) (d : Direction) (count : Nat) (status : Status)
    (lasts : List (Step α)) : (s.finish d count true status lasts).pivots = s.past.reverse := by
  simp [Solution.pivots, finish]

@[simp] lemma visited_finish (s : Run α) (d : Direction) (count : Nat) (status : Status)
    (lasts : List (Step α)) : (s.finish d count true status lasts).visited = s.visited := by
  rw [Solution.visited, pivots_finish]
  rfl

lemma Goes.past_eq (h : Goes d tolerance s s') :
    ∃ i j, s'.past = s.pivotStep tolerance i j :: s.past := by
  cases h with
  | @improving i j => exact ⟨i, j, rfl⟩
  | @level i j => exact ⟨i, j, rfl⟩

lemma visited_of_past_eq {i j : Nat} (h : s'.past = s.pivotStep tolerance i j :: s.past) :
    s'.visited = s.visited ++ [s'.tableau] := by
  rw [visited, h, List.reverse_cons, List.map_append]
  rfl

lemma Goes.visited_eq (h : Goes d tolerance s s') : s'.visited = s.visited ++ [s'.tableau] := by
  obtain ⟨i, j, hp⟩ := h.past_eq
  exact visited_of_past_eq hp

lemma Reaches.exists_of_mem_visited (hr : Reaches d tolerance (start t) s) {t' : Tableau α}
    (h : t' ∈ s.visited) : ∃ s', Reaches d tolerance (start t) s' ∧ s'.tableau = t' := by
  induction hr with
  | refl => exact ⟨start t, .refl, (List.mem_singleton.1 h).symm⟩
  | @tail s s' hr hg ih =>
    rw [hg.visited_eq, List.mem_append, List.mem_singleton] at h
    rcases h with h | rfl
    · exact ih h
    · exact ⟨s', hr.tail hg, rfl⟩

lemma readOff_openStep (tolerance : α) (s : Run α) (j : Nat) :
    (s.openStep tolerance j).ReadOff s.tableau := ⟨rfl, rfl, rfl⟩

lemma readOff_pivotStep (tolerance : α) (s : Run α) (i j : Nat) :
    (s.pivotStep tolerance i j).ReadOff s.tableau := ⟨rfl, rfl, rfl⟩

lemma Halts.readOff {status : Status} {last : Step α} (hh : Halts d tolerance s status last) :
    last.ReadOff s.tableau := by
  cases hh with
  | degenerate => exact ⟨rfl, rfl, rfl⟩
  | settled => exact ⟨rfl, rfl, rfl⟩
  | improving => exact readOff_openStep _ _ _
  | level => exact readOff_openStep _ _ _

lemma Halts.iteration_eq {status : Status} {last : Step α} (hh : Halts d tolerance s status last) :
    last.iteration = s.past.length := by
  cases hh <;> rfl

lemma Reaches.exists_of_mem_past (hr : Reaches d tolerance (start t) s) {step : Step α}
    (h : step ∈ s.past) :
    ∃ s', Reaches d tolerance (start t) s' ∧ step.ReadOff s'.tableau := by
  induction hr with
  | refl => cases h
  | @tail s s' hr hg ih =>
    obtain ⟨i, j, hp⟩ := hg.past_eq
    rw [hp] at h
    rcases List.mem_cons.1 h with rfl | h
    · exact ⟨s, hr, readOff_pivotStep tolerance s i j⟩
    · exact ih h

lemma Reaches.history_eq (hr : Reaches d tolerance (start t) s) :
    s.history = s.visited.map Tableau.objectiveValue := by
  have hpast : s.past.reverse.map Step.objectiveValue =
      (s.past.reverse.map Step.tableau).map Tableau.objectiveValue := by
    rw [List.map_map]
    refine List.map_congr_left fun step hstep => ?_
    obtain ⟨s', -, hs⟩ := hr.exists_of_mem_past (List.mem_reverse.1 hstep)
    rw [hs.objectiveValue_eq, Function.comp_apply, hs.tableau_eq]
  rw [visited, List.map_append, history, hpast]
  rfl

lemma Ends.exists_of_mem_steps {cap : Nat} {status : Status} {lasts : List (Step α)}
    (he : Ends d tolerance cap (start t) s status lasts) {count : Nat} {trace : Bool}
    {step : Step α} (h : step ∈ (s.finish d count trace status lasts).steps) :
    ∃ s', Reaches d tolerance (start t) s' ∧ step.ReadOff s'.tableau := by
  cases trace with
  | false => cases h
  | true =>
    rcases List.mem_append.1 h with hpast | hlast
    · exact he.reaches.exists_of_mem_past (List.mem_reverse.1 hpast)
    · cases he with
      | capped => cases hlast
      | halted hr _ hh =>
        obtain rfl := List.mem_singleton.1 hlast
        exact ⟨s, hr, hh.readOff⟩

end Run

theorem Tableau.exists_of_shows [Scalar α] {t t' : Tableau α} {settings : Settings α}
    {d : Direction} {count : Nat} {values : List α} {z : α}
    (h : (t.solve settings d count).Shows t' values z) :
    ∃ s, Run.Reaches d settings.tolerance (Run.start t) s ∧
      s.tableau = t' ∧ t'.basicValues = values ∧ t'.objectiveValue = z := by
  obtain ⟨s, status, lasts, he, hs⟩ := t.solve_eq_finish d settings.tolerance settings.maxIterations
  rw [hs] at h
  cases h with
  | last => exact ⟨s, he.reaches, rfl, rfl, rfl⟩
  | step h =>
    obtain ⟨s', hr, hstep⟩ := he.exists_of_mem_steps h
    refine ⟨s', hr, hstep.tableau_eq.symm, ?_, ?_⟩
    · rw [hstep.tableau_eq, hstep.values_eq]
    · rw [hstep.tableau_eq, hstep.objectiveValue_eq]

end LinearProgram
