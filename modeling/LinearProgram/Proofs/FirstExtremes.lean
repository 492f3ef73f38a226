import Mathlib.Algebra.Order.Field.Basic
import Mathlib.Algebra.Order.Group.Unbundled.Abs
import Mathlib.Data.Rat.Cast.Defs
import LinearProgram.Proofs.Selection

/-!
Both choices of a pivot take the first extreme. This holds over the numbers of every linearly ordered
field: the entering variable has the leftmost of the best entries of the objective row, and the leaving
row is the first one with the least of the limits above the tolerance.
-/

namespace LinearProgram

@[reducible] def Scalar.ofField (K : Type) [Field K] [LinearOrder K] : Scalar K where
  ltDecidable := inferInstance
  leDecidable := inferInstance
  isFinite _ := true
  ofDecimal d := (d.toRat : K)

section Field

attribute [local instance] Scalar.ofField

variable {K : Type} [Field K] [LinearOrder K] {d : Direction} {tolerance x y : K} {xs : List K}
  {i j k : Nat}

instance : OrderedScalars K where
  isFinite_eq_true _ := rfl
  lt_asymm _ _ := not_lt_of_gt
  lt_or_lt x y _ h := (lt_or_ge x y).imp id fun hle => hle.trans_lt h

namespace Direction

def AsGood (d : Direction) (x y : K) : Prop :=
  match d with
  | .maximize => x ≤ y
  | .minimize => y ≤ x

def Improving (d : Direction) (tolerance x : K) : Prop :=
  match d with
  | .maximize => x < -tolerance
  | .minimize => tolerance < x

lemma not_prefers_iff : ¬ d.prefers y x ↔ d.AsGood x y := by
  cases d <;> simp [prefers, AsGood]

lemma improves_iff : d.improves tolerance x ↔ d.Improving tolerance x := by
  cases d <;> simp [improves, Improving]

end Direction

structure FirstBestEntry (d : Direction) (xs : List K) (x : K) (j : Nat) : Prop where
  getElem?_eq : xs[j]? = some x
  asGood : ∀ y ∈ xs, d.AsGood x y
  leftmost : ∀ k < j, xs[k]? ≠ some x

structure FirstLeastLimit (tolerance : K) (ratios : List (Option K)) (q : K) (i : Nat) : Prop where
  getElem?_eq : ratios[i]? = some (some q)
  above : tolerance < q
  least : ∀ q', some q' ∈ ratios → tolerance < q' → q ≤ q'
  leftmost : ∀ k < i, ratios[k]? ≠ some (some q)

lemma isFirstBest_prefers_iff : IsFirstBest d.prefers xs x j ↔ FirstBestEntry d xs x j := by
  constructor
  · intro h
    refine ⟨h.getElem?_eq, fun y hy => d.not_prefers_iff.1 (h.not_beats_of_mem hy),
      fun k hk hx => ?_⟩
    exact h.not_beats j x h.getElem?_eq (h.beats_before k x hk hx)
  · intro h
    refine ⟨h.getElem?_eq, fun k y hy => ?_, fun k y hk hy => ?_⟩
    · exact d.not_prefers_iff.2 (h.asGood y (List.mem_of_getElem? hy))
    · by_contra hnot
      have hgood := h.asGood y (List.mem_of_getElem? hy)
      have hsame : x = y := by
        have hback := d.not_prefers_iff.1 hnot
        cases d with
        | maximize => exact le_antisymm hgood hback
        | minimize => exact le_antisymm hback hgood
      exact h.leftmost k hk (hsame ▸ hy)

lemma FirstBestEntry.unique (hx : FirstBestEntry d xs x j) (hy : FirstBestEntry d xs y k) :
    x = y ∧ j = k :=
  (isFirstBest_prefers_iff.2 hx).unique (isFirstBest_prefers_iff.2 hy)

lemma exists_firstBestEntry (hne : xs ≠ []) :
    ∃ x j, firstBest d.prefers xs = some (x, j) ∧ FirstBestEntry d xs x j := by
  obtain ⟨⟨x, j⟩, hb, hbest⟩ := exists_isFirstBest d.prefers_asymm d.prefers_or_prefers hne
  exact ⟨x, j, hb, isFirstBest_prefers_iff.1 hbest⟩

namespace Tableau

variable {t : Tableau K} {seen : Bool} {ratios : List (Option K)} {q : K}

lemma isFirstLeast_iff :
    IsFirstLeast tolerance ratios q i ↔ FirstLeastLimit tolerance ratios q i := by
  constructor
  · rintro ⟨⟨hi, hlt⟩, hleast⟩
    refine ⟨hi, hlt, fun q' hq' hlt' => ?_, fun k hk hq => ?_⟩
    · obtain ⟨k, hk⟩ := List.mem_iff_getElem?.1 hq'
      exact not_lt.1 (hleast k q' hk hlt').1
    · exact lt_irrefl q ((hleast k q hq hlt).2 hk)
  · intro h
    refine ⟨⟨h.getElem?_eq, h.above⟩, fun k q' hk hlt => ?_⟩
    have hle := h.least q' (List.mem_of_getElem? hk) hlt
    refine ⟨not_lt.2 hle, fun hki => lt_of_le_of_ne hle ?_⟩
    rintro rfl
    exact h.leftmost k hki hk

variable [IsStrictOrderedRing K]

lemma isNegligible_iff : Scalar.isNegligible tolerance x ↔ |x| ≤ tolerance := by
  simp [Scalar.isNegligible, abs_le]

def IsAlternate (t : Tableau K) (seen : Bool) (tolerance x : K) (name : String) : Prop :=
  seen = false ∧ |x| ≤ tolerance ∧ name ∉ t.basis

open scoped Classical in
lemma entering_eq (hb : firstBest d.prefers t.objective.entries = some (x, j))
    {name : String} (hname : t.names[j]? = some name) : t.entering d tolerance seen =
      if d.Improving tolerance x then .improving j
      else if t.IsAlternate seen tolerance x name then .level j else .optimal := by
  have halternate : (!seen && Scalar.isNegligible tolerance x && !t.isBasic (t.names.getD j "")) ↔
      t.IsAlternate seen tolerance x name := by
    rw [List.getD_eq_getElem?_getD, hname, Option.getD_some]
    simp [IsAlternate, isNegligible_iff, isBasic, and_assoc]
  rw [entering, hb]
  exact if_congr d.improves_iff rfl (if_congr halternate rfl rfl)

/-- The entering variable is the one with the leftmost of the best entries, the leaving row the first
one with the least limit, and the outcomes without a variable or a row are those in which there is
none to take. -/
theorem selections_first_extreme (tolerance : K) :
    (∀ (t : Tableau K) (d : Direction) (seen : Bool), t.names ≠ [] →
      t.objective.entries.length = t.names.length →
      ∃ x j name, FirstBestEntry d t.objective.entries x j ∧ t.names[j]? = some name ∧
        (∀ k, t.entering d tolerance seen = .improving k ↔ k = j ∧ d.Improving tolerance x) ∧
        (∀ k, t.entering d tolerance seen = .level k ↔
          k = j ∧ ¬ d.Improving tolerance x ∧ t.IsAlternate seen tolerance x name) ∧
        (t.entering d tolerance seen = .optimal ↔
          ¬ d.Improving tolerance x ∧ ¬ t.IsAlternate seen tolerance x name)) ∧
    ∀ ratios : List (Option K),
      (∀ i, leaving tolerance ratios = some i ↔ ∃ q, FirstLeastLimit tolerance ratios q i) ∧
      (leaving tolerance ratios = none ↔ ∀ q, some q ∈ ratios → q ≤ tolerance) := by
  refine ⟨fun t d seen hne hwidth => ?_, fun ratios => ⟨fun i => ?_, ?_⟩⟩
  · have hentries : t.objective.entries ≠ [] := by
      rwa [← List.length_pos_iff, hwidth, List.length_pos_iff]
    obtain ⟨x, j, hb, hbest⟩ := exists_firstBestEntry (d := d) hentries
    have hj : j < t.names.length := hwidth ▸ (List.getElem?_eq_some_iff.1 hbest.getElem?_eq).1
    have hname := List.getElem?_eq_getElem hj
    refine ⟨x, j, _, hbest, hname, ?_⟩
    simp only [entering_eq hb hname]
    by_cases himproving : d.Improving tolerance x
    · simp [himproving, eq_comm]
    · by_cases halternate : t.IsAlternate seen tolerance x t.names[j]
      · simp [himproving, halternate, eq_comm]
      · simp [himproving, halternate]
  · rw [leaving_eq_some_iff]
    exact exists_congr fun q => isFirstLeast_iff
  · simp only [leaving_eq_none_iff_not_lt, not_lt]

end Tableau

end Field

theorem Tableau.selections_first_extreme_of_ties :
    ∃ t : Tableau ℚ, t.names = ["x", "y", "u"] ∧ t.objective.entries = [-1, -3, -3] ∧
      t.entering .maximize (1 / 10) false = .improving 1 ∧
      leaving (1 / 10) [none, some 0, some 3, some 2, some (2 : ℚ)] = some 3 ∧
      t.entering .minimize 1 false = .level 0 := by
  let t : Tableau ℚ := ⟨["x", "y", "u"], ["u"], ⟨1, [-1, -3, -3], 0⟩, [⟨0, [1, 1, 1], 2⟩]⟩
  have hne : t.names ≠ [] := List.cons_ne_nil _ _
  have hleast : FirstBestEntry .maximize t.objective.entries (-3) 1 :=
    ⟨rfl, by norm_num [t, Direction.AsGood], by decide⟩
  have hgreatest : FirstBestEntry .minimize t.objective.entries (-1) 0 :=
    ⟨rfl, by norm_num [t, Direction.AsGood], by decide⟩
  have hlimit : FirstLeastLimit (1 / 10) [none, some 0, some 3, some 2, some (2 : ℚ)] 2 3 := by
    refine ⟨rfl, by norm_num, fun q hq hlt => ?_, by decide⟩
    obtain rfl | rfl | rfl : q = 0 ∨ q = 3 ∨ q = 2 := by simpa using hq
    · exact absurd hlt (by norm_num)
    · norm_num
    · exact le_rfl
  obtain ⟨hentering, hleaving⟩ := selections_first_extreme (1 / 10 : ℚ)
  obtain ⟨x, j, name, hbest, -, himproving, -, -⟩ := hentering t .maximize false hne rfl
  obtain ⟨rfl, rfl⟩ := hbest.unique hleast
  obtain ⟨hentering, -⟩ := selections_first_extreme (1 : ℚ)
  obtain ⟨x, j, name, hbest, hname, -, hlevel, -⟩ := hentering t .minimize false hne rfl
  obtain ⟨rfl, rfl⟩ := hbest.unique hgreatest
  obtain rfl : "x" = name := Option.some_inj.1 hname
  have himproves : Direction.maximize.Improving (1 / 10 : ℚ) (-3) := by
    norm_num [Direction.Improving]
  have hflat : ¬ Direction.minimize.Improving (1 : ℚ) (-1) := by norm_num [Direction.Improving]
  exact ⟨t, rfl, rfl, (himproving 1).2 ⟨rfl, himproves⟩, ((hleaving _).1 3).2 ⟨2, hlimit⟩,
    (hlevel 0).2 ⟨rfl, hflat, rfl, by norm_num, by decide⟩⟩

end LinearProgram
