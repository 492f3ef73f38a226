import LinearProgram.Proofs.Feasibility
import LinearProgram.Proofs.Shape

/-!
What the ratio test is worth on a tableau in canonical form without negative right-hand sides. It
passes over rows whose ratio is zero. Just where there is such a row, the pivot that it chooses makes
a right-hand side negative, and a column in which it finds no row is bounded all the same.
-/

namespace LinearProgram

section SetAll

variable {ps : List (Nat × Rat)} {as xs : List Rat} {k : Nat} {x y : Rat}

def setAll (ps : List (Nat × Rat)) (xs : List Rat) : List Rat :=
  ps.foldl (fun xs p => xs.set p.1 p.2) xs

lemma length_setAll (ps : List (Nat × Rat)) (xs : List Rat) :
    (setAll ps xs).length = xs.length := by
  induction ps generalizing xs with
  | nil => rfl
  | cons p ps ih => exact (ih _).trans List.length_set

lemma getElem?_setAll_of_notMem (hk : k ∉ ps.map Prod.fst) : (setAll ps xs)[k]? = xs[k]? := by
  induction ps generalizing xs with
  | nil => rfl
  | cons p ps ih =>
    rw [List.map_cons, List.mem_cons, not_or] at hk
    exact (ih hk.2).trans (List.getElem?_set_ne (Ne.symm hk.1))

lemma getElem?_setAll_of_mem (hnd : (ps.map Prod.fst).Nodup) (hk : k < xs.length)
    (h : (k, x) ∈ ps) : (setAll ps xs)[k]? = some x := by
  induction ps generalizing xs with
  | nil => cases h
  | cons p ps ih =>
    rw [List.map_cons, List.nodup_cons] at hnd
    rcases List.mem_cons.1 h with rfl | h
    · exact (getElem?_setAll_of_notMem hnd.1).trans (List.getElem?_set_self hk)
    · exact ih hnd.2 (by rwa [List.length_set]) h

lemma dot_set (h : as.length = xs.length) (hx : xs[k]? = some x) (y : Rat) :
    dot as (xs.set k y) = dot as xs + as.getD k 0 * (y - x) := by
  induction xs generalizing as k with
  | nil => cases hx
  | cons x' xs ih =>
    cases as with
    | nil => cases h
    | cons a as =>
      cases k with
      | zero =>
        cases hx
        rw [List.set_cons_zero, dot_cons, dot_cons, List.getD_cons_zero]
        ring
      | succ k =>
        rw [List.set_cons_succ, dot_cons, dot_cons, List.getD_cons_succ,
          ih (Nat.succ.inj h) (by simpa using hx)]
        ring

lemma dot_setAll (hnd : (ps.map Prod.fst).Nodup) (h : as.length = xs.length)
    (hzero : ∀ p ∈ ps, xs[p.1]? = some 0) :
    dot as (setAll ps xs) = dot as xs + (ps.map fun p => as.getD p.1 0 * p.2).sum := by
  induction ps generalizing xs with
  | nil => simp [setAll]
  | cons p ps ih =>
    rw [List.map_cons, List.nodup_cons] at hnd
    have hrest : ∀ q ∈ ps, (xs.set p.1 p.2)[q.1]? = some 0 := by
      intro q hq
      have hne : p.1 ≠ q.1 := fun he => hnd.1 (he ▸ List.mem_map_of_mem hq)
      rw [List.getElem?_set_ne hne]
      exact hzero q (List.mem_cons_of_mem _ hq)
    have htail := ih hnd.2 (h.trans List.length_set.symm) hrest
    rw [setAll, List.foldl_cons, ← setAll, htail, dot_set h (hzero p List.mem_cons_self), sub_zero,
      List.map_cons, List.sum_cons, add_assoc]

end SetAll

lemma dot_replicate_zero_right (as : List Rat) (n : Nat) : dot as (List.replicate n 0) = 0 := by
  refine List.sum_eq_zero fun y hy => ?_
  rw [← List.map_uncurry_zip_eq_zipWith] at hy
  obtain ⟨⟨a, x⟩, hp, rfl⟩ := List.mem_map.1 hy
  rw [Function.uncurry_apply_pair, List.eq_of_mem_replicate (List.of_mem_zip hp).2, mul_zero]

lemma sum_eq_of_single {xs : List Rat} {k : Nat} {x : Rat} (hx : xs[k]? = some x)
    (h0 : ∀ (i : Nat) (y : Rat), xs[i]? = some y → i ≠ k → y = 0) : xs.sum = x := by
  induction xs generalizing k with
  | nil => cases hx
  | cons y ys ih =>
    rw [List.sum_cons]
    cases k with
    | zero =>
      cases hx
      rw [List.sum_eq_zero, add_zero]
      intro y' hy'
      obtain ⟨i, hi⟩ := List.mem_iff_getElem?.1 hy'
      exact h0 (i + 1) y' (by simpa using hi) (Nat.succ_ne_zero i)
    | succ k =>
      rw [h0 0 y rfl (Nat.succ_ne_zero k).symm, zero_add]
      exact ih (by simpa using hx) fun i y' hi hne => h0 (i + 1) y' (by simpa using hi) (by omega)

lemma Problem.feasible_of_start {p : Problem Rat} {t : Tableau Rat} {lines : List String}
    (hp : ofLines lines = .ok p) (ht : Tableau.start p.standard = .ok t) : t.Feasible := by
  have h := Tableau.started_of_start ht
  rw [standard_of_ofLines hp] at h
  exact h.feasible

namespace Tableau

variable {t : Tableau Rat} {m n i j k : Nat} {e : String} {r : Row Rat} {a : Rat}

def followers (t : Tableau Rat) (j : Nat) (a : Rat) : List (Nat × Rat) :=
  (t.basis.zip t.rows).map fun b => (t.names.idxOf b.1, b.2.rhs - a * b.2.entry j)

def raised (t : Tableau Rat) (j : Nat) (a : Rat) : List Rat :=
  setAll (t.followers j a) ((List.replicate t.names.length 0).set j a)

lemma getElem?_followers (t : Tableau Rat) (i j : Nat) (a : Rat) {p : Nat × Rat} :
    (t.followers j a)[i]? = some p ↔ ∃ name r, t.basis[i]? = some name ∧ t.rows[i]? = some r ∧
      p = (t.names.idxOf name, r.rhs - a * r.entry j) := by
  rw [followers, List.getElem?_map, Option.map_eq_some_iff]
  constructor
  · rintro ⟨⟨name, r⟩, h, rfl⟩
    obtain ⟨hname, hr⟩ := List.getElem?_zip_eq_some.1 h
    exact ⟨name, r, hname, hr, rfl⟩
  · rintro ⟨name, r, hname, hr, rfl⟩
    exact ⟨(name, r), List.getElem?_zip_eq_some.2 ⟨hname, hr⟩, rfl⟩

lemma exists_follower (h : t.Shaped m n) (hr : t.rows[i]? = some r) (j : Nat) (a : Rat) :
    ∃ name, t.basis[i]? = some name ∧
      (t.followers j a)[i]? = some (t.names.idxOf name, r.rhs - a * r.entry j) := by
  obtain ⟨hi, -⟩ := List.getElem?_eq_some_iff.1 hr
  rw [h.length_rows, ← h.length_basis] at hi
  have hname := List.getElem?_eq_getElem hi
  exact ⟨_, hname, (getElem?_followers t i j a).2 ⟨_, r, hname, hr, rfl⟩⟩

lemma map_fst_followers (h : t.Shaped m n) (j : Nat) (a : Rat) :
    (t.followers j a).map Prod.fst = t.basis.map t.names.idxOf := by
  have hl : t.basis.length ≤ t.rows.length := (h.length_basis.trans h.length_rows.symm).le
  conv_rhs => rw [← List.map_fst_zip hl]
  rw [followers, List.map_map, List.map_map]
  rfl

lemma Canonical.nodup_followers (hc : t.Canonical) (h : t.Shaped m n) (j : Nat) (a : Rat) :
    ((t.followers j a).map Prod.fst).Nodup := by
  rw [map_fst_followers h]
  exact hc.basis_nodup.map_on fun x hx y _ hxy => (List.idxOf_inj (hc.basis_subset hx)).1 hxy

lemma Canonical.ne_idxOf (hc : t.Canonical) (he : t.names[j]? = some e) (hb : e ∉ t.basis)
    {name : String} (hname : name ∈ t.basis) : j ≠ t.names.idxOf name := by
  rintro rfl
  rw [List.getElem?_idxOf (hc.basis_subset hname), Option.some_inj] at he
  exact hb (he ▸ hname)

lemma Canonical.getElem?_of_follower (hc : t.Canonical) (he : t.names[j]? = some e)
    (hb : e ∉ t.basis) {p : Nat × Rat} (hp : p ∈ t.followers j a) :
    ((List.replicate t.names.length (0 : Rat)).set j a)[p.1]? = some 0 := by
  obtain ⟨i, hi⟩ := List.mem_iff_getElem?.1 hp
  obtain ⟨name, r, hname, -, rfl⟩ := (getElem?_followers t i j a).1 hi
  have hbasic := List.mem_of_getElem? hname
  rw [List.getElem?_set_ne (hc.ne_idxOf he hb hbasic), List.getElem?_replicate,
    if_pos (List.idxOf_lt_length_iff.2 (hc.basis_subset hbasic))]

section Raised

variable (hc : t.Canonical) (h : t.Shaped m n) (he : t.names[j]? = some e) (hb : e ∉ t.basis)

include hc h he hb

lemma Canonical.dot_raised (hr : r ∈ t.allRows) :
    dot r.entries (t.raised j a) =
      a * r.entry j + ((t.followers j a).map fun p => r.entry p.1 * p.2).sum := by
  have hw : r.entries.length = t.names.length := (h.width r hr).trans h.length_names.symm
  obtain ⟨hj, -⟩ := List.getElem?_eq_some_iff.1 he
  have hzero : (List.replicate t.names.length (0 : Rat))[j]? = some 0 := by
    rw [List.getElem?_replicate, if_pos hj]
  rw [raised, dot_setAll (hc.nodup_followers h j a) (by simp [hw])
    fun p hp => hc.getElem?_of_follower he hb hp, dot_set (by simp [hw]) hzero, sub_zero,
    dot_replicate_zero_right, zero_add, mul_comm a]
  rfl

theorem Canonical.holds_raised (a : Rat) :
    t.Holds (t.objectiveValue - a * t.objective.entry j) (t.raised j a) := by
  rw [holds_iff_getElem?]
  constructor
  · have hzero : ((t.followers j a).map fun p => t.objective.entry p.1 * p.2).sum = 0 := by
      refine List.sum_eq_zero fun y hy => ?_
      obtain ⟨p, hp, rfl⟩ := List.mem_map.1 hy
      obtain ⟨i, hi⟩ := List.mem_iff_getElem?.1 hp
      obtain ⟨name, q, hname, -, rfl⟩ := (getElem?_followers t i j a).1 hi
      rw [hc.objective_entry name (List.mem_of_getElem? hname), zero_mul]
    rw [Row.Holds, hc.dot_raised h he hb objective_mem_allRows, hzero, hc.objective_z,
      objectiveValue]
    ring
  · intro k s hs
    obtain ⟨name, hname, hfollow⟩ := exists_follower h hs j a
    have hsum : ((t.followers j a).map fun p => s.entry p.1 * p.2).sum =
        s.rhs - a * s.entry j := by
      -- of the basic variables only that of this row has an entry here
      refine sum_eq_of_single (k := k) ?_ fun i y hy hne => ?_
      · rw [List.getElem?_map, hfollow, Option.map_some, hc.entry k k name s hname hs, if_pos rfl,
          one_mul]
      · rw [List.getElem?_map] at hy
        obtain ⟨p, hp, rfl⟩ := Option.map_eq_some_iff.1 hy
        obtain ⟨other, q, hother, -, rfl⟩ := (getElem?_followers t i j a).1 hp
        rw [hc.entry i k other s hother hs, if_neg (Ne.symm hne), zero_mul]
    rw [Row.Holds, hc.dot_raised h he hb (mem_allRows_of_getElem? hs), hsum,
      hc.rows_z s (List.mem_of_getElem? hs)]
    ring

lemma Canonical.getElem?_raised_self : (t.raised j a)[j]? = some a := by
  obtain ⟨hj, -⟩ := List.getElem?_eq_some_iff.1 he
  rw [raised, getElem?_setAll_of_notMem]
  · simp [hj]
  · rw [map_fst_followers h, List.mem_map]
    rintro ⟨name, hname, hj⟩
    exact hc.ne_idxOf he hb hname hj.symm

lemma Canonical.nonneg_raised_iff :
    (∀ v ∈ t.raised j a, 0 ≤ v) ↔ 0 ≤ a ∧ ∀ r ∈ t.rows, 0 ≤ r.rhs - a * r.entry j := by
  have hnd := hc.nodup_followers h j a
  constructor
  · intro hv
    refine ⟨hv a (List.mem_of_getElem? (hc.getElem?_raised_self h he hb)), fun r hr => ?_⟩
    obtain ⟨i, hi⟩ := List.mem_iff_getElem?.1 hr
    obtain ⟨name, hname, hfollow⟩ := exists_follower h hi j a
    have hlt : t.names.idxOf name < ((List.replicate t.names.length (0 : Rat)).set j a).length := by
      rw [List.length_set, List.length_replicate]
      exact List.idxOf_lt_length_iff.2 (hc.basis_subset (List.mem_of_getElem? hname))
    exact hv _ (List.mem_of_getElem?
      (getElem?_setAll_of_mem hnd hlt (List.mem_of_getElem? hfollow)))
  · rintro ⟨ha, hrows⟩ v hv
    obtain ⟨k, hk⟩ := List.mem_iff_getElem?.1 hv
    by_cases hmem : k ∈ (t.followers j a).map Prod.fst
    · obtain ⟨p, hp, rfl⟩ := List.mem_map.1 hmem
      obtain ⟨i, hi⟩ := List.mem_iff_getElem?.1 hp
      obtain ⟨name, r, hname, hr, rfl⟩ := (getElem?_followers t i j a).1 hi
      have hlt := (List.getElem?_eq_some_iff.1 hk).1
      rw [raised, length_setAll] at hlt
      rw [raised, getElem?_setAll_of_mem hnd hlt hp, Option.some_inj] at hk
      exact hk ▸ hrows r (List.mem_of_getElem? hr)
    · rw [raised, getElem?_setAll_of_notMem hmem] at hk
      rcases List.mem_or_eq_of_mem_set (List.mem_of_getElem? hk) with h0 | rfl
      · exact (List.eq_of_mem_replicate h0).ge
      · exact ha

end Raised

lemma forall_nonneg_iff_of_leaving_eq_none (hf : t.Feasible)
    (hl : leaving 0 (t.ratios j 0) = none) :
    (∀ a : Rat, 0 ≤ a → ∀ r ∈ t.rows, 0 ≤ r.rhs - a * r.entry j) ↔ ¬ t.Blocked j := by
  constructor
  · rintro ha ⟨q, hq, h0, hpos⟩
    have := ha 1 zero_le_one q hq
    linarith
  · intro hb a ha r hr
    have hle : r.entry j ≤ 0 := by
      by_contra hpos
      rw [not_le] at hpos
      have hrhs : 0 < r.rhs := (hf r hr).lt_of_ne fun h0 => hb ⟨r, hr, h0.symm, hpos⟩
      have hmem : some (r.rhs / r.entry j) ∈ t.ratios j 0 :=
        List.mem_map.2 ⟨r, hr, if_pos hpos⟩
      exact absurd (leaving_eq_none_iff.1 hl _ hmem) (not_le.2 (div_pos hrhs hpos))
    have := mul_nonpos_of_nonneg_of_nonpos ha hle
    have := hf r hr
    linarith

/-- The ratio test passes over ratios of zero. A row with such a ratio is all that can go wrong: it
is made negative by the pivot where a row is found, and limits the variable where none is. -/
theorem ratio_test_exact (h : t.Shaped m n) (hc : t.Canonical) (hf : t.Feasible)
    (he : t.names[j]? = some e) (hb : e ∉ t.basis) :
    (∀ i, leaving 0 (t.ratios j 0) = some i →
      ∃ t', t.pivot? (i + 1) (j + 1) = some t' ∧ (t'.Feasible ↔ ¬ t.Blocked j)) ∧
    (leaving 0 (t.ratios j 0) = none →
      (∀ a, (t.raised j a)[j]? = some a ∧
        t.Holds (t.objectiveValue - a * t.objective.entry j) (t.raised j a)) ∧
      ((∀ a, 0 ≤ a → ∀ v ∈ t.raised j a, 0 ≤ v) ↔ ¬ t.Blocked j)) := by
  refine ⟨fun i hl => ?_,
    fun hl => ⟨fun a => ⟨hc.getElem?_raised_self h he hb, hc.holds_raised h he hb a⟩, ?_⟩⟩
  · obtain ⟨r, hr, hpos, hratio, hmin⟩ := exists_row_of_leaving hl
    have hx : t.Exchange i j e r := ⟨hr, he, hb, hpos.ne'⟩
    have hi := (List.getElem?_eq_some_iff.1 hr).1
    have hj := (List.getElem?_eq_some_iff.1 he).1
    exact ⟨t.pivot i j, pivot?_eq_some_iff.2 ⟨i, j, rfl, rfl, hi, hj, rfl⟩,
      hx.feasible_pivot_iff hf hratio hmin⟩
  · rw [← forall_nonneg_iff_of_leaving_eq_none hf hl]
    simp only [hc.nonneg_raised_iff h he hb]
    exact ⟨fun ha a h0 => (ha a h0).2, fun ha a h0 => ⟨h0, ha a h0⟩⟩

lemma exists_blocked_of_start? (lines : List String) (found : Option Nat)
    (h : ((Problem.start? lines).map fun o : Problem Rat × Tableau Rat =>
      (leaving 0 (o.2.ratios 0 0), o.2.names[0]?, decide ("x1" ∈ o.2.basis),
        decide (∃ q ∈ o.2.rows, q.rhs = 0 ∧ 0 < q.entry 0))) =
      some (found, some "x1", false, true)) :
    ∃ p t m n, Problem.start? lines = some (p, t) ∧ t.Proper m n ∧ t.Feasible ∧
      leaving 0 (t.ratios 0 0) = found ∧ t.names[0]? = some "x1" ∧ "x1" ∉ t.basis ∧
      t.Blocked 0 := by
  obtain ⟨⟨p, t⟩, ho, hr⟩ := Option.map_eq_some_iff.1 h
  simp only [Prod.mk.injEq, decide_eq_true_eq, decide_eq_false_iff_not] at hr
  obtain ⟨hl, he, hb, hblocked⟩ := hr
  obtain ⟨hp, ht⟩ := Problem.start?_eq_some ho
  exact ⟨p, t, _, _, ho, Problem.proper_of_start hp ht, Problem.feasible_of_start hp ht, hl, he, hb,
    hblocked⟩

theorem ratio_test_exact_of_zero_bound :
    (∃ p t t', Problem.start? ["Maximize: z = x1", "x1 <= 0", "x1 <= 4"] = some (p, t) ∧
      leaving (0 : Rat) (t.ratios 0 0) = some 1 ∧ t.pivot? 2 1 = some t' ∧ ¬ t'.Feasible) ∧
    ∃ p t, Problem.start? ["Maximize: z = x1", "x1 <= 0"] = some (p, t) ∧
      leaving (0 : Rat) (t.ratios 0 0) = none ∧
      ¬ ∀ a : Rat, 0 ≤ a → ∀ v ∈ t.raised 0 a, 0 ≤ v := by
  constructor
  · obtain ⟨p, t, m, n, ho, h, hf, hl, he, hb, hblocked⟩ := exists_blocked_of_start?
      ["Maximize: z = x1", "x1 <= 0", "x1 <= 4"] (some 1) (by decide +kernel)
    obtain ⟨hfound, -⟩ := ratio_test_exact h.toShaped h.toCanonical hf he hb
    obtain ⟨t', ht', hfeasible⟩ := hfound 1 hl
    exact ⟨p, t, t', ho, hl, ht', fun hf' => hfeasible.1 hf' hblocked⟩
  · obtain ⟨p, t, m, n, ho, h, hf, hl, he, hb, hblocked⟩ := exists_blocked_of_start?
      ["Maximize: z = x1", "x1 <= 0"] none (by decide +kernel)
    obtain ⟨-, hnone⟩ := ratio_test_exact h.toShaped h.toCanonical hf he hb
    exact ⟨p, t, ho, hl, fun hnn => (hnone hl).2.1 hnn hblocked⟩

end Tableau

end LinearProgram
