import Mathlib
import LinearProgram.Proofs.Doubles

/-!
Rounding to the nearest double, the even one of two. A mantissa with its two residual bits stands for
a rational number that it holds the whole part of; shifting it halves that number.
-/

namespace LinearProgram

namespace Double

open Float.Model (Format UnpackedFloat totalExponent)
open Float.Model.UnpackedFloat

structure Nearest (n : Nat) (q : ℚ) : Prop where
  le : q ≤ n + 1 / 2
  ge : (n : ℚ) ≤ q + 1 / 2
  even : q = n + 1 / 2 ∨ (n : ℚ) = q + 1 / 2 → n % 2 = 0

lemma Nearest.le_of_le {m n : Nat} {q r : ℚ} (hm : Nearest m q) (hn : Nearest n r) (h : q ≤ r) :
    m ≤ n := by
  -- a number that is not below its successor lies at a tie, and one of the two is odd
  by_contra hlt
  obtain ⟨k, rfl⟩ := Nat.exists_eq_add_of_lt (not_le.1 hlt)
  have hk : (0 : ℚ) ≤ k := by positivity
  have hge := hm.ge
  have hle := hn.le
  push_cast at hge
  obtain rfl : k = 0 := Nat.le_zero.1 (by exact_mod_cast (by linarith : (k : ℚ) ≤ 0))
  have heven := hm.even (.inr (by push_cast at hge ⊢; linarith))
  have := hn.even (.inl (by push_cast at hge; linarith))
  omega

lemma Nearest.unique {m n : Nat} {q : ℚ} (hm : Nearest m q) (hn : Nearest n q) : m = n :=
  le_antisymm (hm.le_of_le hn le_rfl) (hn.le_of_le hm le_rfl)

lemma nearest_self (n : Nat) : Nearest n n := by
  refine ⟨by linarith, by linarith, ?_⟩
  rintro (h | h) <;> linarith

lemma mul_zpow_div_self (m : Nat) (e : Int) : (m * 2 ^ e / 2 ^ e : ℚ) = m :=
  mul_div_cancel_right₀ _ (zpow_ne_zero _ two_ne_zero)

def Holds : ExtendedMantissa → ℚ → Prop
  | ⟨m, false, false⟩, q => q = m
  | ⟨m, false, true⟩, q => m < q ∧ q < m + 1 / 2
  | ⟨m, true, false⟩, q => q = m + 1 / 2
  | ⟨m, true, true⟩, q => m + 1 / 2 < q ∧ q < m + 1

variable {em : ExtendedMantissa} {q : ℚ}

lemma Holds.le (h : Holds em q) : (em.mantissa : ℚ) ≤ q := by
  obtain ⟨m, round, sticky⟩ := em
  cases round <;> cases sticky <;> simp only [Holds] at h ⊢ <;> linarith

lemma Holds.lt (h : Holds em q) : q < em.mantissa + 1 := by
  obtain ⟨m, round, sticky⟩ := em
  cases round <;> cases sticky <;> simp only [Holds] at h ⊢ <;> linarith

lemma Holds.nearest (h : Holds em q) : Nearest em.roundedMantissa q := by
  obtain ⟨m, round, sticky⟩ := em
  cases round <;> cases sticky <;> simp only [Holds] at h
  case false.false =>
    rw [h]
    exact nearest_self m
  case false.true =>
    refine ⟨?_, ?_, ?_⟩
    · change q ≤ m + 1 / 2
      linarith
    · change (m : ℚ) ≤ q + 1 / 2
      linarith
    · change q = m + 1 / 2 ∨ (m : ℚ) = q + 1 / 2 → _
      rintro (hq | hq) <;> linarith
  case true.false =>
    change Nearest (m + m % 2) q
    rcases Nat.mod_two_eq_zero_or_one m with h2 | h2 <;> rw [h2]
    · refine ⟨?_, ?_, fun _ => h2⟩ <;> push_cast <;> linarith
    · refine ⟨?_, ?_, fun _ => by omega⟩ <;> push_cast <;> linarith
  case true.true =>
    refine ⟨?_, ?_, ?_⟩
    · change q ≤ (m + 1 : Nat) + 1 / 2
      push_cast
      linarith
    · change ((m + 1 : Nat) : ℚ) ≤ q + 1 / 2
      push_cast
      linarith
    · change q = (m + 1 : Nat) + 1 / 2 ∨ ((m + 1 : Nat) : ℚ) = q + 1 / 2 → _
      push_cast
      rintro (hq | hq) <;> linarith

lemma Holds.shiftRightOne (h : Holds em q) : Holds em.shiftRightOne (q / 2) := by
  obtain ⟨m, round, sticky⟩ := em
  have hm : (m : ℚ) = 2 * (m / 2 : Nat) + (m % 2 : Nat) := by
    exact_mod_cast (Nat.div_add_mod m 2).symm
  simp only [ExtendedMantissa.shiftRightOne]
  rcases Nat.mod_two_eq_zero_or_one m with h2 | h2 <;> rw [h2] at hm ⊢ <;> push_cast at hm <;>
    cases round <;> cases sticky <;> simp [Holds] at h ⊢
  · linarith
  · exact ⟨by linarith, by linarith⟩
  · exact ⟨by linarith, by linarith⟩
  · exact ⟨by linarith, by linarith⟩
  · linarith
  · exact ⟨by linarith, by linarith⟩
  · exact ⟨by linarith, by linarith⟩
  · exact ⟨by linarith, by linarith⟩

lemma Holds.shiftRight (h : Holds em q) (k : Nat) :
    Holds (em >>> k) (q / 2 ^ k) := by
  induction k with
  | zero =>
    rw [pow_zero, div_one]
    exact h
  | succ k ih =>
    rw [pow_succ, ← div_div]
    exact ih.shiftRightOne

structure Canonical (m : Nat) (e : Int) : Prop where
  pos : 0 < m
  lt : m < 2 ^ 53
  le : -1074 ≤ e
  full : 2 ^ 52 ≤ m ∨ e = -1074

/-- The double `m * 2 ^ e` is the nearest one to `q`. Below a power of two the next double is half as
far away. -/
structure RoundsTo (m : Nat) (e : Int) (q : ℚ) : Prop where
  nearest : Nearest m (q / 2 ^ e)
  low : m = 2 ^ 52 → e ≠ -1074 → (m : ℚ) ≤ q / 2 ^ e + 1 / 4

lemma targetExponent_eq (m : Nat) (e : Int) :
    Format.binary64.targetExponent (totalExponent m e) = max (m.log2 + e - 52) (-1074) := by
  simp only [Format.targetExponent, totalExponent, Format.mantissaBits, Format.minExponent]
  norm_num
  omega

lemma log2_shiftLeft {m : Nat} (hm : 0 < m) (k : Nat) : (m <<< k).log2 = m.log2 + k := by
  rw [Nat.log2_eq_iff (Nat.shiftLeft_pos_iff.2 hm).ne', Nat.shiftLeft_eq, Nat.add_right_comm,
    Nat.pow_add, Nat.pow_add]
  exact ⟨Nat.mul_le_mul_right _ (Nat.log2_self_le hm.ne'),
    Nat.mul_lt_mul_of_pos_right Nat.lt_log2_self (by positivity)⟩

lemma shiftToTargetExponent_of_lt {m : Nat} {e : Int} (hm : m < 2 ^ 53) (he : -1074 ≤ e) :
    shiftToTargetExponent Format.binary64 m e .exact = (⟨m, false, false⟩, e) := by
  have hlog : m.log2 ≤ 52 := by
    rcases Nat.eq_zero_or_pos m with rfl | hpos
    · simp
    · exact Nat.le_of_lt_succ ((Nat.log2_lt hpos.ne').2 hm)
  have hshift : (Format.binary64.targetExponent (totalExponent m e) - e).toNat = 0 := by
    rw [targetExponent_eq]
    omega
  rw [shiftToTargetExponent, shiftToExponent, hshift, Nat.cast_zero, add_zero]
  rfl

lemma shiftToTargetExponent_two_pow {e : Int} (he : -1074 ≤ e) :
    shiftToTargetExponent Format.binary64 (2 ^ 53) e .exact = (⟨2 ^ 52, false, false⟩, e + 1) := by
  have hshift : (Format.binary64.targetExponent (totalExponent (2 ^ 53) e) - e).toNat = 1 := by
    rw [targetExponent_eq, Nat.log2_two_pow]
    omega
  rw [shiftToTargetExponent, shiftToExponent, hshift]
  rfl

lemma roundWithAccuracy_of_lt {m r : Nat} {e t : Int} {a : Accuracy} (s : Sign)
    (hshift : shiftToTargetExponent Format.binary64 m e a = (em, t))
    (hr : em.roundedMantissa = r) (hpos : 0 < r) (hlt : r < 2 ^ 53) (ht : -1074 ≤ t) :
    roundWithAccuracy Format.binary64 s m e a = .finite s r t hpos := by
  simp only [roundWithAccuracy, hshift, hr, shiftToTargetExponent_of_lt hlt ht, hpos.ne', dif_neg,
    not_false_eq_true]

lemma roundWithAccuracy_carry {m : Nat} {e t : Int} {a : Accuracy} (s : Sign)
    (hshift : shiftToTargetExponent Format.binary64 m e a = (em, t))
    (hr : em.roundedMantissa = 2 ^ 53) (ht : -1074 ≤ t) :
    roundWithAccuracy Format.binary64 s m e a = .finite s (2 ^ 52) (t + 1) (by decide) := by
  simp only [roundWithAccuracy, hshift, hr, shiftToTargetExponent_two_pow ht]
  rfl

lemma shiftToTargetExponent_holds {m : Nat} {e : Int} {a : Accuracy}
    (h : Holds (.ofMantissaAndAccuracy m a) (q / 2 ^ e))
    (he : e ≤ max (m.log2 + e - 52) (-1074)) :
    ∃ em, shiftToTargetExponent Format.binary64 m e a = (em, max (m.log2 + e - 52) (-1074)) ∧
      Holds em (q / 2 ^ max (m.log2 + e - 52) (-1074)) := by
  rw [shiftToTargetExponent, targetExponent_eq, shiftToExponent]
  generalize max (m.log2 + e - 52 : Int) (-1074) = t at he ⊢
  obtain ⟨k, rfl⟩ := Int.le.dest he
  have hk : (e + k - e).toNat = k := by omega
  rw [hk]
  refine ⟨_, rfl, ?_⟩
  rw [zpow_add₀ two_ne_zero, zpow_natCast, ← div_div]
  exact h.shiftRight k

lemma lt_of_two_zpow_lt {a b : Int} {q : ℚ} (ha : 2 ^ a ≤ q) (hb : q < 2 ^ b) : a < b :=
  (zpow_lt_zpow_iff_right₀ one_lt_two).1 (ha.trans_lt hb)

lemma mantissa_ofMantissaAndAccuracy (m : Nat) (a : Accuracy) :
    (ExtendedMantissa.ofMantissaAndAccuracy m a).mantissa = m := by
  cases a with
  | exact => rfl
  | inexact o => cases o <;> rfl

section Binade

variable {m : Nat} {e : Int} {a : Accuracy}

lemma Holds.binade_le (h : Holds (.ofMantissaAndAccuracy m a) (q / 2 ^ e)) (hm : 0 < m) :
    2 ^ (m.log2 + e : Int) ≤ q := by
  have hpow : (0 : ℚ) < 2 ^ e := zpow_pos two_pos e
  have hle := h.le
  rw [mantissa_ofMantissaAndAccuracy, le_div_iff₀ hpow] at hle
  refine le_trans ?_ hle
  rw [zpow_add₀ two_ne_zero, zpow_natCast]
  exact mul_le_mul_of_nonneg_right (by exact_mod_cast Nat.log2_self_le hm.ne') hpow.le

lemma Holds.lt_binade (h : Holds (.ofMantissaAndAccuracy m a) (q / 2 ^ e)) :
    q < 2 ^ (m.log2 + e + 1 : Int) := by
  have hpow : (0 : ℚ) < 2 ^ e := zpow_pos two_pos e
  have hlt := h.lt
  rw [mantissa_ofMantissaAndAccuracy, div_lt_iff₀ hpow] at hlt
  refine hlt.trans_le ?_
  have hexponent : (m.log2 + e + 1 : Int) = (m.log2 + 1 : Nat) + e := by omega
  rw [hexponent, zpow_add₀ two_ne_zero, zpow_natCast]
  exact mul_le_mul_of_nonneg_right (by exact_mod_cast Nat.lt_log2_self) hpow.le

theorem roundWithAccuracy_eq {m₀ : Nat} {e₀ : Int} (s : Sign) (hcanonical : Canonical m₀ e₀)
    (hq : RoundsTo m₀ e₀ q) (h : Holds (.ofMantissaAndAccuracy m a) (q / 2 ^ e))
    (he : e ≤ max (m.log2 + e - 52) (-1074)) :
    roundWithAccuracy Format.binary64 s m e a = .finite s m₀ e₀ hcanonical.pos := by
  obtain ⟨em, hshift, hholds⟩ := shiftToTargetExponent_holds h he
  have hpow : (0 : ℚ) < 2 ^ e₀ := zpow_pos two_pos e₀
  have hle := hcanonical.le
  have hte : max (m.log2 + e - 52 : Int) (-1074) ≤ e₀ := by
    rcases Nat.eq_zero_or_pos m with rfl | hm
    · rw [Nat.log2_zero] at he ⊢
      omega
    · have hm₀ : (m₀ : ℚ) + 1 ≤ 2 ^ 53 := by exact_mod_cast hcanonical.lt
      have hlt : q < 2 ^ (53 + e₀) := by
        have := hq.nearest.le
        rw [zpow_add₀ two_ne_zero, ← div_lt_iff₀ hpow]
        norm_num at this hm₀ ⊢
        linarith
      have := lt_of_two_zpow_lt (h.binade_le hm) hlt
      omega
  have hlast : -1074 ≤ max (m.log2 + e - 52 : Int) (-1074) := le_max_right _ _
  rcases hte.eq_or_lt with ht | ht
  · rw [ht] at hshift hholds hlast
    exact roundWithAccuracy_of_lt s hshift (hholds.nearest.unique hq.nearest) hcanonical.pos
      hcanonical.lt hlast
  · -- the number lies below a power of two, and is rounded up to it
    have hne : e₀ ≠ -1074 := by omega
    have hfull : 2 ^ 52 ≤ m₀ := hcanonical.full.resolve_right hne
    have hlt : q / 2 ^ e₀ < 2 ^ 52 := by
      rw [div_lt_iff₀ hpow, ← zpow_natCast, ← zpow_add₀ two_ne_zero]
      refine h.lt_binade.trans_le (zpow_le_zpow_right₀ one_le_two ?_)
      push_cast
      omega
    obtain rfl : m₀ = 2 ^ 52 := by
      refine le_antisymm (Nat.lt_succ_iff.1 ?_) hfull
      have := hq.nearest.ge
      exact_mod_cast (by push_cast; linarith : (m₀ : ℚ) < (2 ^ 52 + 1 : Nat))
    have hlow := hq.low rfl hne
    have hprev : max (m.log2 + e - 52 : Int) (-1074) = e₀ - 1 := by
      have hge : 2 ^ (51 + e₀) ≤ q := by
        rw [zpow_add₀ two_ne_zero, ← le_div_iff₀ hpow]
        norm_num at hlow ⊢
        linarith
      have := lt_of_two_zpow_lt hge h.lt_binade
      omega
    rw [hprev] at hshift hholds hlast
    have hhalf : q / 2 ^ (e₀ - 1) = 2 * (q / 2 ^ e₀) := by
      rw [zpow_sub_one₀ two_ne_zero]
      field_simp
    have hround : em.roundedMantissa = 2 ^ 53 := by
      refine hholds.nearest.unique ⟨?_, ?_, fun _ => by norm_num⟩ <;> rw [hhalf] <;> push_cast at * <;>
        linarith
    have := roundWithAccuracy_carry s hshift hround hlast
    simp only [sub_add_cancel] at this
    exact this

end Binade

end Double

end LinearProgram
