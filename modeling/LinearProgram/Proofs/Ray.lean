import Mathlib.Algebra.Module.Pi
import Mathlib.Algebra.Order.Archimedean.Basic
import Mathlib.Algebra.Order.BigOperators.Group.Finset
import LinearProgram.Proofs.BasicSolution
import LinearProgram.Proofs.Selection

/-!
Rays of the equations of a tableau. Along an improving ray the objective grows without limit, and
without one the objective is bounded: every non-negative solution is no better than one whose
support leaves the equations no freedom, and there are only finitely many supports.
-/

namespace LinearProgram

namespace Tableau

open Finset

variable {t : Tableau Rat} {m n : Nat} {d : Direction} {z z' : Rat} {x y v w : String → Rat}

lemma rest_add (t : Tableau Rat) (r : Row Rat) (x v : String → Rat) :
    t.rest r (x + v) = t.rest r x + t.rest r v := by
  simp only [rest, Pi.add_apply, mul_add, sum_add_distrib]

lemma rest_smul (t : Tableau Rat) (r : Row Rat) (a : Rat) (v : String → Rat) :
    t.rest r (a • v) = a * t.rest r v := by
  simp only [rest, Pi.smul_apply, smul_eq_mul, mul_sum]
  exact sum_congr rfl fun name _ => by ring

lemma rest_congr {r : Row Rat} (h : ∀ name ∈ t.nonbasic, y name = x name) :
    t.rest r y = t.rest r x :=
  sum_congr rfl fun name hname => by rw [h name hname]

def Follows (t : Tableau Rat) (v : String → Rat) : Prop :=
  ∀ (i : Nat) (e : String) (r : Row Rat), t.basis[i]? = some e → t.rows[i]? = some r →
    v e = -t.rest r v

lemma Follows.smul (hv : t.Follows v) (a : Rat) : t.Follows (a • v) := by
  intro i e r hb hr
  rw [Pi.smul_apply, smul_eq_mul, hv i e r hb hr, rest_smul, mul_neg]

lemma Proper.satisfies_add (h : t.Proper m n) (hx : t.Satisfies z x) (hv : t.Follows v) :
    t.Satisfies (z - t.rest t.objective v) (x + v) := by
  rw [h.satisfies_iff] at hx ⊢
  obtain ⟨hz, hb⟩ := hx
  refine ⟨by rw [hz, rest_add]; ring, fun i e r he hr => ?_⟩
  rw [Pi.add_apply, hb i e r he hr, hv i e r he hr, rest_add]
  ring

lemma Proper.follows_sub (h : t.Proper m n) (hx : t.Satisfies z x) (hy : t.Satisfies z' y) :
    t.Follows (y - x) ∧ z' = z - t.rest t.objective (y - x) := by
  rw [h.satisfies_iff] at hx hy
  have hsub (r : Row Rat) : t.rest r y = t.rest r x + t.rest r (y - x) := by
    rw [← rest_add, add_sub_cancel]
  refine ⟨fun i e r he hr => ?_, by rw [hx.1, hy.1, hsub]; ring⟩
  rw [Pi.sub_apply, hx.2 i e r he hr, hy.2 i e r he hr, hsub r]
  ring

lemma Proper.exists_follows (h : t.Proper m n) (u : String → Rat) :
    ∃ v, t.Follows v ∧ ∀ name ∈ t.nonbasic, v name = u name := by
  let v (name : String) : Rat :=
    if name ∈ t.basis then -t.rest (t.rows.getD (t.basis.idxOf name) Row.zero) u else u name
  have hv : ∀ name ∈ t.nonbasic, v name = u name := fun name hname =>
    if_neg (mem_nonbasic.1 hname).2
  refine ⟨v, fun i e r he hr => ?_, hv⟩
  obtain ⟨hi, rfl⟩ := List.getElem?_eq_some_iff.1 he
  have hrow : t.rows.getD (t.basis.idxOf t.basis[i]) Row.zero = r := by
    rw [h.basis_nodup.idxOf_getElem i hi, List.getD_eq_getElem?_getD, hr, Option.getD_some]
  rw [rest_congr hv]
  simp only [v]
  rw [if_pos (List.getElem_mem hi), hrow]

/-- A direction in which no variable falls and the objective improves. -/
structure Ray (t : Tableau Rat) (d : Direction) (v : String → Rat) : Prop where
  follows : t.Follows v
  nonneg : ∀ name ∈ t.names, 0 ≤ v name
  improves : d.improves 0 (t.rest t.objective v)

theorem Ray.exists_beyond (hv : t.Ray d v) (h : t.Proper m n) (hx : t.Satisfies z x)
    (hnn : ∀ name ∈ t.names, 0 ≤ x name) (bound : Rat) :
    ∃ z' y, t.Satisfies z' y ∧ (∀ name ∈ t.names, 0 ≤ y name) ∧ bound < d.sign * z' := by
  have hgain : 0 < -(d.sign * t.rest t.objective v) :=
    neg_pos.2 ((d.improves_zero_iff _).1 hv.improves)
  obtain ⟨k, hk⟩ := exists_nat_gt ((bound - d.sign * z) / -(d.sign * t.rest t.objective v))
  rw [div_lt_iff₀ hgain] at hk
  refine ⟨_, _, h.satisfies_add hx (hv.follows.smul k), fun name hname => ?_, ?_⟩
  · exact add_nonneg (hnn name hname) (mul_nonneg k.cast_nonneg (hv.nonneg name hname))
  · rw [rest_smul]
    linarith

def support (t : Tableau Rat) (x : String → Rat) : Finset String :=
  t.names.toFinset.filter fun name => x name ≠ 0

lemma mem_support {name : String} : name ∈ t.support x ↔ name ∈ t.names ∧ x name ≠ 0 := by
  simp [support]

def Rigid (t : Tableau Rat) (x : String → Rat) : Prop :=
  ∀ v, t.Follows v → t.support v ⊆ t.support x → t.support v = ∅

lemma exists_falling (hno : ∀ v, ¬ t.Ray d v) (hv : t.Follows v) (hne : t.support v ≠ ∅) :
    ∃ a : Rat, d.sign * t.rest t.objective (a • v) ≤ 0 ∧ ∃ name ∈ t.names, (a • v) name < 0 := by
  obtain ⟨name, hname⟩ := nonempty_iff_ne_empty.2 hne
  obtain ⟨hmem, hv0⟩ := mem_support.1 hname
  obtain ⟨a, ha0, ha⟩ : ∃ a : Rat, a ≠ 0 ∧ d.sign * t.rest t.objective (a • v) ≤ 0 := by
    rcases le_total (d.sign * t.rest t.objective v) 0 with hle | hle
    · exact ⟨1, one_ne_zero, by rwa [one_smul]⟩
    · refine ⟨-1, neg_ne_zero.2 one_ne_zero, ?_⟩
      rw [rest_smul]
      linarith
  by_cases hfall : ∃ name ∈ t.names, (a • v) name < 0
  · exact ⟨a, ha, hfall⟩
  · have hnn : ∀ name ∈ t.names, 0 ≤ (a • v) name := fun name hn =>
      not_lt.1 fun hlt => hfall ⟨name, hn, hlt⟩
    have hlevel : d.sign * t.rest t.objective (a • v) = 0 :=
      ha.eq_of_not_lt fun hlt => hno _ ⟨hv.smul a, hnn, (d.improves_zero_iff _).2 hlt⟩
    have hpos : 0 < (a • v) name :=
      (hnn name hmem).lt_of_ne' (mul_ne_zero ha0 hv0)
    refine ⟨-a, ?_, name, hmem, ?_⟩
    · rw [neg_smul, ← neg_one_smul Rat, rest_smul]
      linarith
    · rw [neg_smul]
      exact neg_neg_iff_pos.2 hpos

lemma exists_blocking (hnn : ∀ name ∈ t.names, 0 ≤ x name)
    (hfall : ∃ name ∈ t.names, w name < 0) :
    ∃ a : Rat, 0 ≤ a ∧ (∀ name ∈ t.names, 0 ≤ (x + a • w) name) ∧
      ∃ name ∈ t.names, w name < 0 ∧ (x + a • w) name = 0 := by
  obtain ⟨name₀, hname₀, hlt₀⟩ := hfall
  obtain ⟨name, hname, hmin⟩ := exists_min_image
    (t.names.toFinset.filter fun name => w name < 0) (fun name => x name / -w name)
    ⟨name₀, mem_filter.2 ⟨List.mem_toFinset.2 hname₀, hlt₀⟩⟩
  obtain ⟨hmem, hlt⟩ := mem_filter.1 hname
  rw [List.mem_toFinset] at hmem
  have ha : 0 ≤ x name / -w name := div_nonneg (hnn name hmem) (neg_pos.2 hlt).le
  refine ⟨x name / -w name, ha, fun k hk => ?_, name, hmem, hlt, ?_⟩
  · rw [Pi.add_apply, Pi.smul_apply, smul_eq_mul]
    by_cases hwk : w k < 0
    · have hle := hmin k (mem_filter.2 ⟨List.mem_toFinset.2 hk, hwk⟩)
      rw [le_div_iff₀ (neg_pos.2 hwk)] at hle
      linarith
    · exact add_nonneg (hnn k hk) (mul_nonneg ha (not_lt.1 hwk))
  · rw [Pi.add_apply, Pi.smul_apply, smul_eq_mul, div_neg, neg_mul, div_mul_cancel₀ _ hlt.ne,
      add_neg_cancel]

theorem Proper.exists_rigid (h : t.Proper m n) (hno : ∀ v, ¬ t.Ray d v) (hx : t.Satisfies z x)
    (hnn : ∀ name ∈ t.names, 0 ≤ x name) :
    ∃ z' y, t.Satisfies z' y ∧ (∀ name ∈ t.names, 0 ≤ y name) ∧ t.Rigid y ∧
      d.sign * z ≤ d.sign * z' := by
  -- a solution that is not rigid can be moved without loss until a variable of its support is zero
  induction hk : (t.support x).card using Nat.strong_induction_on generalizing x z with
  | _ k ih =>
    by_cases hrigid : t.Rigid x
    · exact ⟨z, x, hx, hnn, hrigid, le_rfl⟩
    · obtain ⟨v, hv, hsub, hne⟩ : ∃ v, t.Follows v ∧ t.support v ⊆ t.support x ∧
          t.support v ≠ ∅ := by
        simpa [Rigid] using hrigid
      obtain ⟨a, hgain, hfall⟩ := exists_falling hno hv hne
      obtain ⟨b, hb, hnn', name, hname, hlt, hzero⟩ := exists_blocking hnn hfall
      have hsat := h.satisfies_add hx ((hv.smul a).smul b)
      have hstay (l : String) (hl : x l = 0) (hmem : l ∈ t.names) : v l = 0 := by
        by_contra hvl
        exact (mem_support.1 (hsub (mem_support.2 ⟨hmem, hvl⟩))).2 hl
      have hss : t.support (x + b • a • v) ⊂ t.support x := by
        refine ssubset_iff_of_subset (fun l hl => ?_) |>.2 ⟨name, ?_, ?_⟩
        · obtain ⟨hmem, hl⟩ := mem_support.1 hl
          refine mem_support.2 ⟨hmem, fun h0 => hl ?_⟩
          simp [h0, hstay l h0 hmem]
        · refine mem_support.2 ⟨hname, fun h0 => ?_⟩
          simp [hstay name h0 hname] at hlt
        · exact fun hmem => (mem_support.1 hmem).2 hzero
      obtain ⟨z', y, hy, hynn, hyr, hle⟩ := ih _ (hk ▸ card_lt_card hss) hsat hnn' rfl
      refine ⟨z', y, hy, hynn, hyr, le_trans ?_ hle⟩
      rw [rest_smul]
      have := mul_nonpos_of_nonneg_of_nonpos hb hgain
      linarith

lemma Proper.eq_of_rigid (h : t.Proper m n) (hx : t.Satisfies z x) (hr : t.Rigid x)
    (hy : t.Satisfies z' y) (hs : t.support y = t.support x) : z' = z := by
  obtain ⟨hf, hz⟩ := h.follows_sub hx hy
  have hsub : t.support (y - x) ⊆ t.support x := by
    intro name hname
    obtain ⟨hmem, hne⟩ := mem_support.1 hname
    by_contra hnot
    have hx0 : x name = 0 := by
      by_contra h0
      exact hnot (mem_support.2 ⟨hmem, h0⟩)
    have hy0 : y name = 0 := by
      by_contra h0
      exact hnot (hs ▸ mem_support.2 ⟨hmem, h0⟩)
    exact hne (by rw [Pi.sub_apply, hx0, hy0, sub_zero])
  have hempty := hr _ hf hsub
  rw [hz, rest_eq_zero, sub_zero]
  intro name hname
  by_contra h0
  have := mem_support.2 ⟨(mem_nonbasic.1 hname).1, h0⟩
  rw [hempty] at this
  exact notMem_empty _ this

theorem Proper.exists_ray (h : t.Proper m n)
    (hbeyond : ∀ bound, ∃ z x, t.Satisfies z x ∧ (∀ name ∈ t.names, 0 ≤ x name) ∧
      bound < d.sign * z) : ∃ v, t.Ray d v := by
  by_contra hno
  push Not at hno
  have hvalue (s : Finset String) : ∃ b, ∀ z x, t.Satisfies z x → t.Rigid x → t.support x = s →
      z = b := by
    by_cases hs : ∃ z x, t.Satisfies z x ∧ t.Rigid x ∧ t.support x = s
    · obtain ⟨b, y, hy, hr, rfl⟩ := hs
      exact ⟨b, fun z x hx _ hsx => h.eq_of_rigid hy hr hx hsx⟩
    · exact ⟨0, fun z x hx hr hsx => absurd ⟨z, x, hx, hr, hsx⟩ hs⟩
  choose b hb using hvalue
  obtain ⟨z, x, hx, hnn, hlt⟩ := hbeyond (∑ s ∈ t.names.toFinset.powerset, |b s|)
  obtain ⟨z', y, hy, -, hr, hle⟩ := h.exists_rigid hno hx hnn
  have hmem : t.support y ∈ t.names.toFinset.powerset := mem_powerset.2 (filter_subset _ _)
  have hsum := single_le_sum (fun s _ => abs_nonneg (b s)) hmem
  have habs := d.sign_mul_le_abs z'
  rw [hb _ z' y hy hr rfl] at hle habs
  linarith

end Tableau

end LinearProgram
