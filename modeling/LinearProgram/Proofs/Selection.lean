import Mathlib.Algebra.Order.Field.Rat
import Mathlib.Data.List.Induction
import Mathlib.Tactic.Linarith
import LinearProgram.Tableau.Selection

/-!
What the two choices of a pivot guarantee: the entering variable has the best entry of the objective
row, and the leaving row has the least of the ratios that count. Both take the first one of equals, as
long as the scalars are in order, which doubles are not.
-/

namespace LinearProgram

section FirstBest

variable {β : Type} {beats : β → β → Bool}

def pick (beats : β → β → Bool) (best : Option (β × Nat)) (x : β × Nat) : Option (β × Nat) :=
  match best with
  | none => some x
  | some b => if beats x.1 b.1 then some x else some b

lemma firstBest_eq_foldl (xs : List β) :
    firstBest beats xs = xs.zipIdx.foldl (pick beats) none := rfl

lemma mem_of_foldl_pick {xs : List (β × Nat)} {best : Option (β × Nat)} {b : β × Nat}
    (h : xs.foldl (pick beats) best = some b) : best = some b ∨ b ∈ xs := by
  induction xs generalizing best with
  | nil => exact .inl h
  | cons x xs ih =>
    rcases ih h with hx | hxs
    · have hpick : pick beats best x = best ∨ pick beats best x = some x := by
        cases best with
        | none => exact .inr rfl
        | some c =>
          rw [pick]
          split
          · exact .inr rfl
          · exact .inl rfl
      rcases hpick with hp | hp
      · exact .inl (hp ▸ hx)
      · obtain rfl : x = b := Option.some_inj.1 (hp.symm.trans hx)
        exact .inr List.mem_cons_self
    · exact .inr (List.mem_cons_of_mem _ hxs)

lemma getElem?_of_firstBest {xs : List β} {x : β} {j : Nat}
    (h : firstBest beats xs = some (x, j)) : xs[j]? = some x := by
  rw [firstBest_eq_foldl] at h
  rcases mem_of_foldl_pick h with h | h
  · cases h
  · exact List.mk_mem_zipIdx_iff_getElem?.1 h

section Map

variable {γ : Type} {beats' : γ → γ → Bool} (f : β → γ)
  (hf : ∀ x y, beats' (f x) (f y) = beats x y)

include hf

lemma pick_map (best : Option (β × Nat)) (x : β × Nat) :
    pick beats' (best.map (Prod.map f id)) (Prod.map f id x) =
      (pick beats best x).map (Prod.map f id) := by
  cases best with
  | none => rfl
  | some b =>
    simp only [pick, Option.map_some, Prod.map_fst, hf]
    split <;> rfl

lemma firstBest_map (xs : List β) :
    firstBest beats' (xs.map f) = (firstBest beats xs).map (Prod.map f id) := by
  have hfold (ys : List (β × Nat)) (best : Option (β × Nat)) :
      (ys.map (Prod.map f id)).foldl (pick beats') (best.map (Prod.map f id)) =
        (ys.foldl (pick beats) best).map (Prod.map f id) := by
    induction ys generalizing best with
    | nil => rfl
    | cons y ys ih => rw [List.map_cons, List.foldl_cons, pick_map f hf, ih, List.foldl_cons]
  rw [firstBest_eq_foldl, firstBest_eq_foldl, List.zipIdx_map]
  exact hfold xs.zipIdx none

end Map

lemma firstBest_concat (xs : List β) (x : β) :
    firstBest beats (xs ++ [x]) = pick beats (firstBest beats xs) (x, xs.length) := by
  rw [firstBest_eq_foldl, firstBest_eq_foldl, List.zipIdx_append, List.foldl_append, Nat.zero_add]
  rfl

structure IsFirstBest (beats : β → β → Bool) (xs : List β) (x : β) (j : Nat) : Prop where
  getElem?_eq : xs[j]? = some x
  not_beats : ∀ (k : Nat) (y : β), xs[k]? = some y → ¬ beats y x
  beats_before : ∀ (k : Nat) (y : β), k < j → xs[k]? = some y → beats x y

variable {xs : List β} {x y : β} {j k : Nat}

lemma IsFirstBest.unique (hx : IsFirstBest beats xs x j) (hy : IsFirstBest beats xs y k) :
    x = y ∧ j = k := by
  have hplace : j = k := by
    rcases Nat.lt_trichotomy j k with hlt | heq | hlt
    · exact absurd (hy.beats_before j x hlt hx.getElem?_eq) (hx.not_beats k y hy.getElem?_eq)
    · exact heq
    · exact absurd (hx.beats_before k y hlt hy.getElem?_eq) (hy.not_beats j x hx.getElem?_eq)
  have hget := hx.getElem?_eq
  rw [hplace, hy.getElem?_eq] at hget
  exact ⟨(Option.some_inj.1 hget).symm, hplace⟩

lemma IsFirstBest.not_beats_of_mem (h : IsFirstBest beats xs x j) (hy : y ∈ xs) : ¬ beats y x := by
  obtain ⟨k, hk⟩ := List.mem_iff_getElem?.1 hy
  exact h.not_beats k y hk

lemma getElem?_or_last (h : (xs ++ [x])[k]? = some y) :
    xs[k]? = some y ∨ k = xs.length ∧ y = x := by
  rcases Nat.lt_or_ge k xs.length with hk | hk
  · exact .inl (List.getElem?_append_left hk ▸ h)
  · rw [List.getElem?_append_right hk, List.getElem?_singleton] at h
    split at h
    · exact .inr ⟨by omega, (Option.some_inj.1 h).symm⟩
    · cases h

variable (hasymm : ∀ x y, beats x y → ¬ beats y x)
  (hsplit : ∀ x y z, beats x z → beats x y ∨ beats y z)

include hasymm hsplit

lemma IsFirstBest.concat (h : IsFirstBest beats xs x j) (y : β) :
    ∃ b, pick beats (some (x, j)) (y, xs.length) = some b ∧
      IsFirstBest beats (xs ++ [y]) b.1 b.2 := by
  have hj : j < xs.length := (List.getElem?_eq_some_iff.1 h.getElem?_eq).1
  by_cases hyx : beats y x
  · have hbefore (k : Nat) (z : β) (hz : xs[k]? = some z) : beats y z :=
      (hsplit y z x hyx).resolve_right (h.not_beats k z hz)
    refine ⟨(y, xs.length), if_pos hyx, List.getElem?_concat_length, fun k z hz => ?_,
      fun k z hk hz => hbefore k z (List.getElem?_append_left hk ▸ hz)⟩
    rcases getElem?_or_last hz with hz | ⟨-, rfl⟩
    · exact hasymm _ _ (hbefore k z hz)
    · exact fun hself => hasymm _ _ hself hself
  · refine ⟨(x, j), if_neg hyx, (List.getElem?_append_left hj).trans h.getElem?_eq, fun k z hz => ?_,
      fun k z hk hz => h.beats_before k z hk (List.getElem?_append_left (hk.trans hj) ▸ hz)⟩
    rcases getElem?_or_last hz with hz | ⟨-, rfl⟩
    · exact h.not_beats k z hz
    · exact hyx

lemma exists_isFirstBest (hne : xs ≠ []) :
    ∃ b, firstBest beats xs = some b ∧ IsFirstBest beats xs b.1 b.2 := by
  induction xs using List.reverseRecOn with
  | nil => exact absurd rfl hne
  | append_singleton xs y ih =>
    rw [firstBest_concat]
    cases xs with
    | nil =>
      refine ⟨(y, 0), rfl, rfl, fun k z hz => ?_, fun k z hk _ => absurd hk (Nat.not_lt_zero k)⟩
      obtain rfl := List.mem_singleton.1 (List.mem_of_getElem? hz)
      exact fun hself => hasymm _ _ hself hself
    | cons x xs =>
      obtain ⟨b, hb, hbest⟩ := ih (List.cons_ne_nil x xs)
      rw [hb]
      exact hbest.concat hasymm hsplit y

theorem firstBest_eq_some_iff : firstBest beats xs = some (x, j) ↔ IsFirstBest beats xs x j := by
  constructor
  · intro h
    have hne : xs ≠ [] := by
      rintro rfl
      cases h
    obtain ⟨b, hb, hbest⟩ := exists_isFirstBest hasymm hsplit hne
    obtain rfl := Option.some_inj.1 (h.symm.trans hb)
    exact hbest
  · intro h
    have hne : xs ≠ [] := by
      rintro rfl
      cases h.getElem?_eq
    obtain ⟨⟨y, k⟩, hb, hbest⟩ := exists_isFirstBest hasymm hsplit hne
    obtain ⟨rfl, rfl⟩ := h.unique hbest
    exact hb

theorem firstBest_eq_none_iff : firstBest beats xs = none ↔ xs = [] := by
  refine ⟨fun h => ?_, fun h => h ▸ rfl⟩
  by_contra hne
  obtain ⟨b, hb, -⟩ := exists_isFirstBest hasymm hsplit hne
  rw [h] at hb
  cases hb

end FirstBest

class OrderedScalars (α : Type) [Scalar α] : Prop where
  isFinite_eq_true : ∀ x : α, Scalar.isFinite x = true
  lt_asymm : ∀ x y : α, x < y → ¬ y < x
  lt_or_lt : ∀ x y z : α, x < z → x < y ∨ y < z

instance : OrderedScalars Rat where
  isFinite_eq_true _ := rfl
  lt_asymm _ _ := not_lt_of_gt
  lt_or_lt x y _ h := (lt_or_ge x y).imp id fun hle => hle.trans_lt h

section Ordered

variable {α : Type} [Scalar α] [OrderedScalars α]

lemma Direction.prefers_asymm (d : Direction) (x y : α) (h : d.prefers x y) : ¬ d.prefers y x := by
  cases d
  · simp only [prefers, decide_eq_true_eq] at *
    exact OrderedScalars.lt_asymm x y h
  · simp only [prefers, decide_eq_true_eq] at *
    exact OrderedScalars.lt_asymm y x h

lemma Direction.prefers_or_prefers (d : Direction) (x y z : α) (h : d.prefers x z) :
    d.prefers x y ∨ d.prefers y z := by
  cases d
  · simp only [prefers, decide_eq_true_eq] at *
    exact OrderedScalars.lt_or_lt x y z h
  · simp only [prefers, decide_eq_true_eq] at *
    exact (OrderedScalars.lt_or_lt z y x h).symm

namespace Tableau

variable {tolerance q : α} {ratios : List (Option α)} {i k : Nat}

lemma mem_limits : (q, k) ∈ limits tolerance ratios ↔
    ratios[k]? = some (some q) ∧ tolerance < q := by
  rw [limits, List.mem_filterMap]
  constructor
  · rintro ⟨⟨ratio, k'⟩, hmem, he⟩
    rw [List.mk_mem_zipIdx_iff_getElem?] at hmem
    obtain ⟨q', hq', he⟩ := Option.map_eq_some_iff.1 he
    obtain ⟨hr, hlt⟩ := Option.filter_eq_some_iff.1 hq'
    cases he
    simp only [Bool.and_eq_true, decide_eq_true_eq] at hlt
    exact ⟨by rw [hmem, hr], hlt.1⟩
  · rintro ⟨hk, hlt⟩
    refine ⟨(some q, k), List.mk_mem_zipIdx_iff_getElem?.2 hk, ?_⟩
    simp [Option.filter_some, hlt, OrderedScalars.isFinite_eq_true q]

omit [OrderedScalars α] in
lemma pairwise_limits (tolerance : α) (ratios : List (Option α)) :
    (limits tolerance ratios).Pairwise fun x y => x.2 < y.2 := by
  have hplaces : ratios.zipIdx.Pairwise fun x y => x.2 < y.2 := by
    rw [← List.pairwise_map, List.zipIdx_map_snd]
    exact List.pairwise_lt_range'
  refine List.pairwise_filterMap.2 (hplaces.imp fun {x y} hlt a ha b hb => ?_)
  obtain ⟨_, -, rfl⟩ := Option.map_eq_some_iff.1 ha
  obtain ⟨_, -, rfl⟩ := Option.map_eq_some_iff.1 hb
  exact hlt

def smaller (x y : α × Nat) : Bool :=
  decide (x.1 < y.1)

lemma smaller_asymm (x y : α × Nat) (h : smaller x y) : ¬ smaller y x := by
  simp only [smaller, decide_eq_true_eq] at *
  exact OrderedScalars.lt_asymm _ _ h

lemma smaller_or_smaller (x y z : α × Nat) (h : smaller x z) : smaller x y ∨ smaller y z := by
  simp only [smaller, decide_eq_true_eq] at *
  exact OrderedScalars.lt_or_lt _ _ _ h

omit [OrderedScalars α] in
lemma leaving_eq (tolerance : α) (ratios : List (Option α)) : leaving tolerance ratios =
    (firstBest smaller (limits tolerance ratios)).map fun best => best.1.2 :=
  rfl

def IsFirstLeast (tolerance : α) (ratios : List (Option α)) (q : α) (i : Nat) : Prop :=
  (ratios[i]? = some (some q) ∧ tolerance < q) ∧ ∀ (k : Nat) (q' : α),
    ratios[k]? = some (some q') → tolerance < q' → ¬ q' < q ∧ (k < i → q < q')

lemma isFirstLeast_of_leaving (h : leaving tolerance ratios = some i) :
    ∃ q, IsFirstLeast tolerance ratios q i := by
  rw [leaving_eq] at h
  obtain ⟨⟨⟨q, i⟩, j⟩, hb, rfl⟩ := Option.map_eq_some_iff.1 h
  have hbest := (firstBest_eq_some_iff smaller_asymm smaller_or_smaller).1 hb
  refine ⟨q, mem_limits.1 (List.mem_of_getElem? hbest.getElem?_eq), fun k q' hk hlt => ⟨?_, ?_⟩⟩
  · simpa [smaller] using hbest.not_beats_of_mem (mem_limits.2 ⟨hk, hlt⟩)
  · -- limits stand in the order of their rows
    intro hki
    obtain ⟨l, hl⟩ := List.mem_iff_getElem?.1 (mem_limits.2 ⟨hk, hlt⟩)
    have hlj : l < j := by
      by_contra hjl
      have hrows := pairwise_limits tolerance ratios
      obtain ⟨hjlt, hj⟩ := List.getElem?_eq_some_iff.1 hbest.getElem?_eq
      obtain ⟨hllt, hl⟩ := List.getElem?_eq_some_iff.1 hl
      rcases Nat.eq_or_lt_of_not_lt hjl with rfl | hjl
      · cases hj.symm.trans hl
        exact lt_irrefl _ hki
      · have := List.pairwise_iff_getElem.1 hrows j l hjlt hllt hjl
        rw [hj, hl] at this
        exact absurd hki (Nat.lt_asymm this)
    simpa [smaller] using hbest.beats_before l _ hlj hl

theorem leaving_eq_none_iff_not_lt :
    leaving tolerance ratios = none ↔ ∀ q, some q ∈ ratios → ¬ tolerance < q := by
  rw [leaving_eq, Option.map_eq_none_iff,
    firstBest_eq_none_iff smaller_asymm smaller_or_smaller, List.eq_nil_iff_forall_not_mem]
  constructor
  · intro h q hq hlt
    obtain ⟨k, hk⟩ := List.mem_iff_getElem?.1 hq
    exact h (q, k) (mem_limits.2 ⟨hk, hlt⟩)
  · rintro h ⟨q, k⟩ hmem
    obtain ⟨hk, hlt⟩ := mem_limits.1 hmem
    exact h q (List.mem_of_getElem? hk) hlt

theorem leaving_eq_some_iff :
    leaving tolerance ratios = some i ↔ ∃ q, IsFirstLeast tolerance ratios q i := by
  refine ⟨isFirstLeast_of_leaving, ?_⟩
  rintro ⟨q, ⟨hi, hlt⟩, hleast⟩
  cases h : leaving tolerance ratios with
  | none => exact absurd hlt (leaving_eq_none_iff_not_lt.1 h q (List.mem_of_getElem? hi))
  | some k =>
    obtain ⟨q', ⟨hk, hlt'⟩, hleast'⟩ := isFirstLeast_of_leaving h
    rcases Nat.lt_trichotomy i k with hik | rfl | hki
    · exact absurd ((hleast' i q hi hlt).2 hik) (hleast k q' hk hlt').1
    · rfl
    · exact absurd ((hleast k q' hk hlt').2 hki) (hleast' i q hi hlt).1

end Tableau

end Ordered

namespace Direction

variable {d : Direction} {tolerance x y z : Rat}

def sign : Direction → Rat
  | .maximize => 1
  | .minimize => -1

lemma improves_zero_iff (d : Direction) (x : Rat) : d.improves 0 x ↔ d.sign * x < 0 := by
  cases d <;> simp [improves, sign]

lemma sign_ne_zero (d : Direction) : d.sign ≠ 0 := by
  cases d <;> simp [sign]

lemma sign_mul_le_abs (d : Direction) (x : Rat) : d.sign * x ≤ |x| := by
  cases d
  · rw [sign, one_mul]
    exact le_abs_self x
  · rw [sign, neg_one_mul]
    exact neg_le_abs x

lemma not_improves_of_not_prefers (h : ¬ d.prefers y x) (hx : ¬ d.improves tolerance x) :
    ¬ d.improves tolerance y := by
  cases d
  · simp only [prefers, improves, decide_eq_true_eq, not_lt] at *
    exact hx.trans h
  · simp only [prefers, improves, decide_eq_true_eq, not_lt] at *
    exact h.trans hx

end Direction

namespace Tableau

variable {t : Tableau Rat} {d : Direction} {tolerance : Rat} {seen : Bool} {i j : Nat}

def Settled (t : Tableau Rat) (d : Direction) (tolerance : Rat) : Prop :=
  ∀ x ∈ t.objective.entries, ¬ d.improves tolerance x

theorem entering_eq_improving (h : t.entering d tolerance seen = .improving j) :
    ∃ x, t.objective.entries[j]? = some x ∧ d.improves tolerance x ∧
      ∀ y ∈ t.objective.entries, ¬ d.prefers y x := by
  rw [entering] at h
  split at h
  · cases h
  · rename_i x k hb
    have hbest := (firstBest_eq_some_iff d.prefers_asymm d.prefers_or_prefers).1 hb
    split at h
    · rename_i hi
      cases h
      exact ⟨x, hbest.getElem?_eq, hi, fun y hy => hbest.not_beats_of_mem hy⟩
    · split at h <;> cases h

theorem entering_eq_level (h : t.entering d tolerance seen = .level j) :
    seen = false ∧ t.Settled d tolerance ∧ t.names.getD j "" ∉ t.basis ∧
      ∃ x, t.objective.entries[j]? = some x ∧ Scalar.isNegligible tolerance x := by
  rw [entering] at h
  split at h
  · cases h
  · rename_i x k hb
    have hbest := (firstBest_eq_some_iff d.prefers_asymm d.prefers_or_prefers).1 hb
    split at h
    · cases h
    · rename_i hi
      split at h
      · rename_i hl
        cases h
        simp only [Bool.and_eq_true, Bool.not_eq_true', isBasic] at hl
        obtain ⟨⟨hseen, hx⟩, hnb⟩ := hl
        refine ⟨hseen, fun y hy => Direction.not_improves_of_not_prefers
          (hbest.not_beats_of_mem hy) hi, ?_, x, hbest.getElem?_eq, hx⟩
        simpa using hnb
      · cases h

theorem settled_of_entering_eq_optimal (h : t.entering d tolerance seen = .optimal) :
    t.Settled d tolerance := by
  rw [entering] at h
  split at h
  · rename_i hb
    have := (firstBest_eq_none_iff d.prefers_asymm d.prefers_or_prefers).1 hb
    intro x hx
    rw [this] at hx
    cases hx
  · rename_i x k hb
    have hbest := (firstBest_eq_some_iff d.prefers_asymm d.prefers_or_prefers).1 hb
    split at h
    · cases h
    · rename_i hi
      exact fun y hy =>
        Direction.not_improves_of_not_prefers (hbest.not_beats_of_mem hy) hi

lemma getElem?_ratios (t : Tableau Rat) (j : Nat) (tolerance : Rat) (k : Nat) :
    (t.ratios j tolerance)[k]? =
      t.rows[k]?.map fun r => if tolerance < r.entry j then some (r.rhs / r.entry j) else none := by
  rw [ratios, List.getElem?_map]

theorem leaving_eq_some {ratios : List (Option Rat)} (h : leaving tolerance ratios = some i) :
    ∃ q, ratios[i]? = some (some q) ∧ tolerance < q ∧
      ∀ (k : Nat) (q' : Rat), ratios[k]? = some (some q') → tolerance < q' → q ≤ q' := by
  obtain ⟨q, ⟨hi, hlt⟩, hleast⟩ := leaving_eq_some_iff.1 h
  exact ⟨q, hi, hlt, fun k q' hk hlt' => not_lt.1 (hleast k q' hk hlt').1⟩

theorem exists_row_of_leaving (hl : leaving tolerance (t.ratios j tolerance) = some i) :
    ∃ r, t.rows[i]? = some r ∧ tolerance < r.entry j ∧ tolerance < r.rhs / r.entry j ∧
      ∀ q ∈ t.rows, tolerance < q.entry j → tolerance < q.rhs / q.entry j →
        r.rhs / r.entry j ≤ q.rhs / q.entry j := by
  obtain ⟨q, hq, hlt, hmin⟩ := leaving_eq_some hl
  rw [getElem?_ratios] at hq
  obtain ⟨r, hr, hrq⟩ := Option.map_eq_some_iff.1 hq
  by_cases hpos : tolerance < r.entry j
  · rw [if_pos hpos, Option.some_inj] at hrq
    subst hrq
    refine ⟨r, hr, hpos, hlt, fun q hq hqpos hqlt => ?_⟩
    obtain ⟨k, hk⟩ := List.mem_iff_getElem?.1 hq
    exact hmin k _ (by rw [getElem?_ratios, hk, Option.map_some, if_pos hqpos]) hqlt
  · rw [if_neg hpos] at hrq
    cases hrq

theorem leaving_eq_none_iff {ratios : List (Option Rat)} :
    leaving tolerance ratios = none ↔ ∀ q, some q ∈ ratios → q ≤ tolerance := by
  simp only [leaving_eq_none_iff_not_lt, not_lt]

end Tableau

end LinearProgram
