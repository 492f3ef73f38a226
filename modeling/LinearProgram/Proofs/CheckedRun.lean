import LinearProgram.Proofs.CheckedPivot

/-!
A run of the simplex method in which every cell, row and name is taken by its index. From any tableau
that pivots make of a first one, whatever its numbers and names are, no index is out of range, and the
solution is that of the plain run.
-/

namespace LinearProgram.Checked

variable {α : Type} {t : Tableau α} {m n i j k : Nat} {r : Row α}

section Readings

def rhs (t : Tableau α) (row : Nat) : Option α :=
  t.entryAt? row t.rhsColumn

lemma rhs_of_getElem? (h : t.Shaped m n) (hr : t.allRows[i]? = some r) : rhs t i = some r.rhs := by
  have hw : r.entries.length = t.names.length :=
    (h.width r (List.mem_of_getElem? hr)).trans h.length_names.symm
  rw [rhs, Tableau.entryAt?_of_getElem? hr, Row.toList, Tableau.rhsColumn, List.getElem?_cons_succ,
    ← hw, List.getElem?_concat_length]

lemma rhs_zero (h : t.Shaped m n) : rhs t 0 = some t.objectiveValue :=
  rhs_of_getElem? h rfl

def setValue (t : Tableau α) (values : List α) (name : String) (i : Nat) : Option (List α) :=
  match t.columnOf? name with
  | none => some values
  | some col => do
    let x ← rhs t (i + 1)
    let j ← col.ppred
    write? values j x

def RowsFrom (t : Tableau α) (k : Nat) (rs : List (Row α)) : Prop :=
  ∀ (i : Nat) (r : Row α), rs[i]? = some r → t.rows[k + i]? = some r

variable {bs : List String} {rs : List (Row α)} {values : List α}

lemma rowsFrom_zero (t : Tableau α) : RowsFrom t 0 t.rows := by
  intro i r hr
  rwa [Nat.zero_add]

lemma RowsFrom.head (h : RowsFrom t k (r :: rs)) : t.rows[k]? = some r :=
  h 0 r rfl

lemma RowsFrom.tail (h : RowsFrom t k (r :: rs)) : RowsFrom t (k + 1) rs := by
  intro i q hq
  rw [Nat.add_assoc, Nat.add_comm 1]
  exact h (i + 1) q hq

lemma setValue_eq (h : t.Shaped m n) (hr : t.rows[i]? = some r)
    (hv : values.length = t.names.length) (name : String) :
    setValue t values name i = some (values.set (t.names.idxOf name) r.rhs) := by
  rw [setValue, Tableau.columnOf?]
  by_cases hname : name ∈ t.names
  · have hrhs : rhs t (i + 1) = some r.rhs := rhs_of_getElem? h hr
    have hlt : t.names.idxOf name < values.length := hv ▸ List.idxOf_lt_length_iff.2 hname
    simp only [if_pos hname, hrhs, Nat.ppred, bind, Option.bind]
    exact write?_of_lt hlt _
  · rw [if_neg hname, List.set_eq_of_length_le]
    rw [hv, List.idxOf_eq_length hname]

lemma foldlM_setValue (h : t.Shaped m n) (hrs : RowsFrom t k rs) (hl : bs.length = rs.length)
    (hv : values.length = t.names.length) :
    (bs.zipIdx k).foldlM (fun values b => setValue t values b.1 b.2) values =
      some ((bs.zip rs).foldl (fun values b => values.set (t.names.idxOf b.1) b.2.rhs) values) := by
  induction bs generalizing rs k values with
  | nil => rfl
  | cons b bs ih =>
    cases rs with
    | nil => cases hl
    | cons r rs =>
      rw [List.zipIdx_cons, List.foldlM_cons, setValue_eq h hrs.head hv]
      exact ih hrs.tail (Nat.succ.inj hl) (by rw [List.length_set, hv])

lemma anyM_rhs (h : t.Shaped m n) (p : α → Bool) (hrs : RowsFrom t k rs)
    (hl : bs.length = rs.length) :
    (bs.zipIdx k).anyM (fun b => (rhs t (b.2 + 1)).map p) = some (rs.any fun r => p r.rhs) := by
  induction bs generalizing rs k with
  | nil =>
    cases rs with
    | nil => rfl
    | cons r rs => cases hl
  | cons b bs ih =>
    cases rs with
    | nil => cases hl
    | cons r rs =>
      have hrhs : rhs t (k + 1) = some r.rhs := rhs_of_getElem? h hrs.head
      rw [List.zipIdx_cons, List.anyM_cons, hrhs, Option.map_some, ih hrs.tail (Nat.succ.inj hl),
        List.any_cons]
      cases p r.rhs <;> rfl

end Readings

section Best

def slice? {β : Type} (xs : List β) (first last : Nat) : Option (List β) :=
  if first ≤ last ∧ last ≤ xs.length then some ((xs.take last).drop first) else none

lemma slice?_objective (h : t.Shaped m n) :
    slice? t.objective.toList 1 t.rhsColumn = some t.objective.entries := by
  have hw : t.objective.entries.length = t.names.length :=
    (h.width _ List.mem_cons_self).trans h.length_names.symm
  rw [slice?, if_pos (by simp [Tableau.rhsColumn, Row.toList, hw]), Tableau.rhsColumn, ← hw]
  simp [Row.toList]

def keepBest (beats : α → α → Bool) (xs : List α) (best : Nat) (x : α × Nat) : Option Nat :=
  xs[best]?.map fun y => if beats x.1 y then x.2 else best

lemma foldlM_keepBest (beats : α → α → Bool) {xs : List α} {ps : List (α × Nat)}
    (hps : ∀ p ∈ ps, xs[p.2]? = some p.1) {b : α × Nat} (hb : xs[b.2]? = some b.1) :
    ∃ b' : α × Nat, ps.foldl (pick beats) (some b) = some b' ∧ xs[b'.2]? = some b'.1 ∧
      ps.foldlM (keepBest beats xs) b.2 = some b'.2 := by
  induction ps generalizing b with
  | nil => exact ⟨b, rfl, hb, rfl⟩
  | cons p ps ih =>
    have hrest : ∀ q ∈ ps, xs[q.2]? = some q.1 := fun q hq => hps q (List.mem_cons_of_mem _ hq)
    rw [List.foldl_cons, List.foldlM_cons, keepBest, hb, pick, Option.map_some]
    split
    · exact ih hrest (hps p List.mem_cons_self)
    · exact ih hrest hb

lemma exists_firstBest (beats : α → α → Bool) (x : α) (xs : List α) :
    ∃ b : α × Nat, firstBest beats (x :: xs) = some b ∧ (x :: xs)[b.2]? = some b.1 ∧
      ((x :: xs).zipIdx.drop 1).foldlM (keepBest beats (x :: xs)) 0 = some b.2 := by
  have hps : ∀ p ∈ xs.zipIdx 1, (x :: xs)[p.2]? = some p.1 := fun p hp =>
    List.mk_mem_zipIdx_iff_getElem?.1 (List.mem_cons_of_mem (x, 0) hp)
  have hb : (x :: xs)[(x, 0).2]? = some (x, 0).1 := rfl
  exact foldlM_keepBest beats hps hb

end Best

variable [Scalar α]

def basicValues (t : Tableau α) : Option (List α) :=
  t.basis.zipIdx.foldlM (fun values b => setValue t values b.1 b.2)
    (List.replicate t.names.length 0)

def hasZeroBasic (t : Tableau α) (tolerance : α) : Option Bool :=
  t.basis.zipIdx.anyM fun b => (rhs t (b.2 + 1)).map (Scalar.isNegligible tolerance)

def entering (t : Tableau α) (d : Direction) (tolerance : α) (alternateSeen : Bool) :
    Option Entering := do
  let row ← t.rowAt? 0
  let objective ← slice? row 1 t.rhsColumn
  if objective.isEmpty then some .optimal
  else do
    let best ← (objective.zipIdx.drop 1).foldlM (keepBest d.prefers objective) 0
    let x ← objective[best]?
    if d.improves tolerance x then some (.improving best)
    else if !alternateSeen && Scalar.isNegligible tolerance x then do
      let name ← t.variableAt? (best + 1)
      some (if t.isBasic name then .optimal else .level best)
    else some .optimal

def ratio (t : Tableau α) (col : Nat) (tolerance : α) (row : Nat) : Option (Option α) := do
  let x ← t.entryAt? row col
  if tolerance < x then (rhs t row).map fun b => some (b / x) else some none

def ratios (t : Tableau α) (col : Nat) (tolerance : α) : Option (List (Option α)) :=
  (List.range' 1 (t.rowCount - 1)).mapM (ratio t col tolerance)

section Selection

variable (h : t.Shaped m n)

include h

lemma basicValues_eq : basicValues t = some t.basicValues :=
  foldlM_setValue h (rowsFrom_zero t) (h.length_basis.trans h.length_rows.symm)
    List.length_replicate

lemma hasZeroBasic_eq (tolerance : α) :
    hasZeroBasic t tolerance = some (t.hasZeroBasic tolerance) :=
  anyM_rhs h _ (rowsFrom_zero t) (h.length_basis.trans h.length_rows.symm)

lemma entering_eq (d : Direction) (tolerance : α) (seen : Bool) :
    entering t d tolerance seen = some (t.entering d tolerance seen) := by
  have hrow : t.rowAt? 0 = some t.objective.toList := rfl
  simp only [entering, hrow, slice?_objective h, bind, Option.bind, Tableau.entering]
  have hw : t.objective.entries.length = t.names.length :=
    (h.width _ List.mem_cons_self).trans h.length_names.symm
  cases hes : t.objective.entries with
  | nil => rfl
  | cons x xs =>
    obtain ⟨b, hbest, hb, hplace⟩ := exists_firstBest d.prefers x xs
    have hlt : b.2 < t.names.length := by
      rw [← hw, hes]
      exact (List.getElem?_eq_some_iff.1 hb).1
    simp only [hbest, hb, hplace, variableAt?_succ hlt, List.isEmpty_cons, Bool.false_eq_true,
      if_false]
    split
    · rfl
    · cases seen <;> cases Scalar.isNegligible tolerance b.1 <;>
        cases t.isBasic (t.names.getD b.2 "") <;> rfl

lemma ratio_eq (hr : t.rows[i]? = some r) (hj : j < t.names.length) (tolerance : α) :
    ratio t (j + 1) tolerance (i + 1) =
      some (if tolerance < r.entry j then some (r.rhs / r.entry j) else none) := by
  have hrhs : rhs t (i + 1) = some r.rhs := rhs_of_getElem? h hr
  simp only [ratio, h.entryAt?_succ hr hj, hrhs, bind, Option.bind, Option.map_some]
  split <;> rfl

lemma ratios_eq (hj : j < t.names.length) (tolerance : α) :
    ratios t (j + 1) tolerance = some (t.ratios j tolerance) := by
  rw [ratios, mapM_eq_some_iff]
  refine List.ext_getElem? fun k => ?_
  rw [List.getElem?_map, List.getElem?_map, Tableau.ratios, List.getElem?_map]
  by_cases hk : k < t.rows.length
  · have hr := List.getElem?_eq_getElem hk
    have hrange : (List.range' 1 (t.rowCount - 1))[k]? = some (k + 1) := by
      rw [List.getElem?_range' (by rwa [Tableau.rowCount, Nat.add_sub_cancel]), Nat.one_mul,
        Nat.add_comm]
    rw [hrange, hr, Option.map_some, ratio_eq h hr hj, Option.map_some, Option.map_some]
  · rw [List.getElem?_eq_none (by simpa [Tableau.rowCount] using hk),
      List.getElem?_eq_none (by simpa using hk)]
    rfl

end Selection

def reading (s : Run α) : Option (Step α) := do
  let values ← basicValues s.tableau
  let z ← rhs s.tableau 0
  some {
    iteration := s.past.length
    tableau := s.tableau
    objectiveValue := z
    values := values
    entering := none
    ratios := []
    leaving := none
    pivot := none }

def enter (tolerance : α) (s : Run α) (step : Step α) (j : Nat) : Option (Turn α) := do
  let name ← s.tableau.variableAt? (j + 1)
  let ratios ← ratios s.tableau (j + 1) tolerance
  let step := { step with entering := some name, ratios := ratios }
  match Tableau.leaving tolerance ratios with
  | none => some (.halt (if s.alternate.isSome then .optimal else .unbounded) step)
  | some i => do
    let name ← s.tableau.basis[i]?
    let x ← s.tableau.entryAt? (i + 1) (j + 1)
    let t ← pivot s.tableau (i + 1) (j + 1)
    some (.go { s with
      tableau := t
      past := { step with leaving := some name, pivot := some x } :: s.past })

def turn (d : Direction) (tolerance : α) (s : Run α) : Option (Turn α) := do
  let step ← reading s
  let zero ← hasZeroBasic s.tableau tolerance
  if zero && s.stalled then some (.halt .degenerate step)
  else do
    let s := { s with stalled := zero }
    match ← entering s.tableau d tolerance s.alternate.isSome with
    | .improving j => enter tolerance s step j
    | .level j => enter tolerance { s with alternate := some step.values } step j
    | .optimal => some (.halt (if s.alternate.isSome then .alternateOptima else .optimal) step)

def finish (d : Direction) (decisionCount : Nat) (trace : Bool) (s : Run α) (status : Status)
    (last : List (Step α)) : Option (Solution α) := do
  let values ← basicValues s.tableau
  let z ← rhs s.tableau 0
  some {
    status := status
    direction := d
    names := s.tableau.names
    decisionCount := decisionCount
    values := values
    alternateValues := if status = .alternateOptima then s.alternate else none
    objectiveValue := z
    iterations := s.past.length
    history := s.past.reverse.map Step.objectiveValue ++ [z]
    tableau := s.tableau
    steps := if trace then s.past.reverse ++ last else [] }

def complete (d : Direction) (decisionCount : Nat) (tolerance : α) (trace : Bool) :
    Nat → Run α → Option (Solution α)
  | 0, s => finish d decisionCount trace s .nonConvergent []
  | cap + 1, s => do
    match ← turn d tolerance s with
    | .halt status last => finish d decisionCount trace s status [last]
    | .go next => complete d decisionCount tolerance trace cap next

def solve (t : Tableau α) (settings : Settings α) (d : Direction) (decisionCount : Nat) :
    Option (Solution α) :=
  complete d decisionCount settings.tolerance settings.trace settings.maxIterations (Run.start t)

section Runs

variable {s : Run α} {d : Direction} {tolerance : α} (h : s.tableau.Shaped m n)

include h

lemma reading_eq : reading s = some s.reading := by
  simp only [reading, basicValues_eq h, rhs_zero h, bind, Option.bind]
  rfl

lemma enter_eq (hj : j < s.tableau.names.length) :
    enter tolerance s s.reading j = some (s.enter tolerance j) := by
  have hname : s.tableau.names[j]? = some (s.tableau.names.getD j "") := variableAt?_succ hj
  simp only [enter, Run.enter, variableAt?_succ hj, ratios_eq h hj, bind, Option.bind, hname]
  cases hl : Tableau.leaving tolerance (s.tableau.ratios j tolerance) with
  | none => rfl
  | some i =>
    have hi : i < s.tableau.rows.length := by
      have hi := Tableau.lt_of_leaving hl
      rwa [Tableau.ratios, List.length_map] at hi
    have hr := List.getElem?_eq_getElem hi
    have hbasis : i < s.tableau.basis.length := by rwa [h.length_basis, ← h.length_rows]
    simp only [List.getElem?_eq_getElem hbasis, h.entryAt?_succ hr hj, pivot_of_lt h hi hj, hr,
      Option.map_some]

lemma turn_eq : turn d tolerance s = some (s.turn d tolerance) := by
  simp only [turn, Run.turn, reading_eq h, hasZeroBasic_eq h, entering_eq h, bind, Option.bind]
  split
  · rfl
  · cases he : s.tableau.entering d tolerance s.alternate.isSome with
    | optimal => rfl
    | improving j => exact enter_eq h (h.lt_names (Tableau.lt_of_entering (.inl he)))
    | level j => exact enter_eq h (h.lt_names (Tableau.lt_of_entering (.inr he)))

lemma finish_eq (count : Nat) (trace : Bool) (status : Status) (last : List (Step α)) :
    finish d count trace s status last = some (s.finish d count trace status last) := by
  simp only [finish, basicValues_eq h, rhs_zero h, bind, Option.bind]
  rfl

lemma complete_eq (count : Nat) (trace : Bool) (cap : Nat) :
    complete d count tolerance trace cap s = some (s.complete d count tolerance trace cap) := by
  induction cap generalizing s with
  | zero => exact finish_eq h count trace _ _
  | succ cap ih =>
    rw [complete, Run.complete, turn_eq h]
    rcases Run.turn_cases d tolerance s with ⟨s', ht, hg⟩ | ⟨status, last, ht, -⟩
    · rw [ht]
      exact ih (hg.shaped h)
    · rw [ht]
      exact finish_eq h count trace _ _

end Runs

def pivots (t : Tableau α) (cells : List (Nat × Nat)) : Option (Tableau α) :=
  cells.foldlM (fun t cell => pivot t cell.1 cell.2) t

/-- What pivots keep of the tableau in which a problem starts. Of the names it says no more than where
they come from. -/
structure StandsIn (p : StandardForm α) (t : Tableau α) : Prop where
  shaped : t.Shaped p.rows.length p.names.length
  names_eq : t.names = p.names
  mem_basis : ∀ name ∈ t.basis, name ∈ p.names ∨ some name ∈ p.initialBasis

variable {p : StandardForm α} {t' : Tableau α} {row col : Nat} {cells : List (Nat × Nat)}

lemma standsIn_of_start (ht : Tableau.start p = .ok t) : StandsIn p t where
  shaped := Tableau.shaped_of_start ht
  names_eq := (Tableau.started_of_start ht).names_eq
  mem_basis := by
    intro name hname
    rw [← (Tableau.started_of_start ht).basis_eq]
    exact .inr (List.mem_map_of_mem hname)

namespace StandsIn

variable (h : StandsIn p t)

include h

lemma of_pivot (hp : pivot t row col = some t') : StandsIn p t' := by
  rw [pivot_eq_pivot? h.shaped] at hp
  obtain ⟨i, j, rfl, rfl, hi, hj, rfl⟩ := Tableau.pivot?_eq_some_iff.1 hp
  refine ⟨h.shaped.pivot (h.shaped.length_rows ▸ hi) j, h.names_eq, fun name hname => ?_⟩
  rcases List.mem_or_eq_of_mem_set hname with hname | rfl
  · exact h.mem_basis name hname
  · exact .inl (h.names_eq ▸ getD_mem hj)

lemma of_pivots (hp : pivots t cells = some t') : StandsIn p t' := by
  induction cells generalizing t with
  | nil =>
    cases hp
    exact h
  | cons cell cells ih =>
    rw [pivots, List.foldlM_cons] at hp
    obtain ⟨s, hs, hp⟩ := Option.bind_eq_some_iff.1 hp
    exact ih (h.of_pivot hs) hp

lemma pivot_eq_none_iff (row col : Nat) : pivot t row col = none ↔
    ¬ (1 ≤ row ∧ row ≤ p.rows.length ∧ 1 ≤ col ∧ col ≤ p.names.length) := by
  rw [pivot_eq_pivot? h.shaped, Tableau.pivot?, h.shaped.length_rows, h.shaped.length_names,
    ite_eq_right_iff]
  simp

omit [Scalar α] in
lemma exists_rowAt? {k : Nat} (hk : k < t.rowCount) :
    ∃ row, t.rowAt? k = some row ∧ row.length = p.names.length + 2 := by
  have hr : t.allRows[k]? = some t.allRows[k] := List.getElem?_eq_getElem hk
  refine ⟨_, congrArg (Option.map Row.toList) hr, ?_⟩
  rw [length_toList h.shaped hr, Tableau.columnCount, h.names_eq]

end StandsIn

/-- Whatever the numbers and names of a problem are: on the tableaux that pivots make of its first one
an index is out of range just where a pivot lies outside the tableau, they keep their rows and
columns, and a run from any of them meets no index that is out of range. -/
theorem indices_in_range (ht : Tableau.start p = .ok t) (hp : pivots t cells = some t') :
    (∀ row col, pivot t' row col = t'.pivot? row col ∧ (pivot t' row col = none ↔
      ¬ (1 ≤ row ∧ row ≤ p.rows.length ∧ 1 ≤ col ∧ col ≤ p.names.length))) ∧
    (t'.rowCount = 1 + p.rows.length ∧
      (∀ k < t'.rowCount, ∃ row, t'.rowAt? k = some row ∧ row.length = p.names.length + 2) ∧
      t'.basis.length = p.rows.length ∧
      ∀ name ∈ t'.basis, name ∈ p.names ∨ some name ∈ p.initialBasis) ∧
    ∀ settings d count, solve t' settings d count = some (t'.solve settings d count) := by
  have h := (standsIn_of_start ht).of_pivots hp
  refine ⟨fun row col => ⟨pivot_eq_pivot? h.shaped row col, h.pivot_eq_none_iff row col⟩,
    ⟨?_, fun k hk => h.exists_rowAt? hk, h.shaped.length_basis, h.mem_basis⟩,
    fun settings d count => complete_eq h.shaped count _ _⟩
  rw [Tableau.rowCount, h.shaped.length_rows, Nat.add_comm]

def illFormed : StandardForm Float where
  direction := .maximize
  objectiveName := "z"
  names := ["x", "x"]
  decisionCount := 7
  objective := [3]
  rows := [⟨"0x + 2x <= 4", .equal, some ⟨"w", .surplus⟩, false, ⟨[0, 2], 4⟩⟩]

theorem indices_in_range_of_zero_entry :
    ∃ t t', Tableau.start illFormed = .ok t ∧ pivots t [(1, 1), (1, 2)] = some t' ∧
      ((t'.rhsAt? 1).map fun x => x == x) = some false ∧ pivot t' 1 3 = none ∧ pivot t' 0 1 = none ∧
      t'.basis = ["x"] ∧ solve t' ⟨4, 0 / 0, true⟩ .minimize 9 =
        some (t'.solve ⟨4, 0 / 0, true⟩ .minimize 9) := by
  have h : ((Tableau.start illFormed).toOption.bind fun t =>
      (pivots t [(1, 1), (1, 2)]).map fun t' =>
        ((t'.rhsAt? 1).map fun x => x == x, t'.basis)) = some (some false, ["x"]) := by
    decide +kernel
  obtain ⟨t, ht, h⟩ := Option.bind_eq_some_iff.1 h
  obtain ⟨t', ht', h⟩ := Option.map_eq_some_iff.1 h
  obtain ⟨hnan, hbasis⟩ := Prod.mk.inj h
  obtain ⟨hpivot, -, hsolve⟩ := indices_in_range (eq_ok_of_toOption ht) ht'
  have hcol : pivot t' 1 3 = none := (hpivot 1 3).2.2 (by decide)
  have hrow : pivot t' 0 1 = none := (hpivot 0 1).2.2 (by decide)
  exact ⟨t, t', eq_ok_of_toOption ht, ht', hnan, hcol, hrow, hbasis, hsolve _ _ _⟩

end LinearProgram.Checked
