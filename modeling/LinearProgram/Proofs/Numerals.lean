import Mathlib
import LinearProgram.Decimal.Layout
import LinearProgram.Proofs.Names

namespace LinearProgram

inductive IsPlainNumeral : List Char → Prop
  | whole {ds : List Char} : ds ≠ [] → (∀ c ∈ ds, c.isDigit = true) → IsPlainNumeral ds
  | fraction {ds fs : List Char} : ds ≠ [] → (∀ c ∈ ds, c.isDigit = true) → fs ≠ [] →
      (∀ c ∈ fs, c.isDigit = true) → IsPlainNumeral (ds ++ '.' :: fs)

namespace Decimal

lemma ofDigits_append (ds es : List Char) :
    ofDigits (ds ++ es) = ofDigits ds * 10 ^ es.length + ofDigits es := by
  change Nat.ofDigitChars 10 (ds ++ es) 0 =
    Nat.ofDigitChars 10 ds 0 * 10 ^ es.length + Nat.ofDigitChars 10 es 0
  rw [Nat.ofDigitChars_append, Nat.ofDigitChars_eq_ofDigitChars_zero, Nat.mul_comm]

lemma ofDigits_append_zeros (ds : List Char) (k : Nat) :
    ofDigits (ds ++ List.replicate k '0') = ofDigits ds * 10 ^ k := by
  change Nat.ofDigitChars 10 (ds ++ List.replicate k '0') 0 = Nat.ofDigitChars 10 ds 0 * 10 ^ k
  rw [Nat.ofDigitChars_append, Nat.ofDigitChars_replicate_zero, Nat.mul_comm]

lemma ofDigits_zeros_append (ds : List Char) (k : Nat) :
    ofDigits (List.replicate k '0' ++ ds) = ofDigits ds := by
  change Nat.ofDigitChars 10 (List.replicate k '0' ++ ds) 0 = Nat.ofDigitChars 10 ds 0
  rw [Nat.ofDigitChars_append, Nat.ofDigitChars_replicate_zero, Nat.mul_zero]

lemma ofLiteral_whole {ds : List Char} (h : ∀ c ∈ ds, c.isDigit = true) :
    ofLiteral ds = ⟨ofDigits ds, 0⟩ := by
  rw [ofLiteral, List.takeWhile_eq_self_iff.2 h, List.dropWhile_eq_nil_iff.2 h]
  simp

lemma ofLiteral_fraction {ds : List Char} (fs : List Char) (h : ∀ c ∈ ds, c.isDigit = true) :
    ofLiteral (ds ++ '.' :: fs) = ⟨ofDigits (ds ++ fs), fs.length⟩ := by
  have hpoint : ('.' : Char).isDigit = false := rfl
  rw [ofLiteral, List.takeWhile_append_of_pos h, List.dropWhile_append_of_pos h]
  simp [hpoint]

end Decimal

namespace Layout

lemma withoutEndZeros_value (n : Nat) (p : Int) :
    ((withoutEndZeros n p).1 : ℚ) * 10 ^ (withoutEndZeros n p).2 = n * 10 ^ p := by
  fun_induction withoutEndZeros n p with
  | case1 n p h ih =>
    rw [ih, zpow_add_one₀ (by norm_num)]
    have : (n : ℚ) = 10 * (n / 10 : Nat) := by
      exact_mod_cast (Nat.mul_div_cancel' (Nat.dvd_of_mod_eq_zero h.1)).symm
    rw [this]
    ring
  | case2 n p h => rfl

lemma isDigit_toDigits (n : Nat) : ∀ c ∈ Nat.toDigits 10 n, c.isDigit = true :=
  fun _ hc => Nat.isDigit_of_mem_toDigits (by norm_num) (by norm_num) hc

lemma isDigit_zeros (k : Nat) : ∀ c ∈ List.replicate k '0', c.isDigit = true := by
  intro c hc
  rw [List.eq_of_mem_replicate hc]
  rfl

lemma toList_pushn (s : String) (c : Char) (k : Nat) :
    (s.pushn c k).toList = s.toList ++ List.replicate k c := by
  rw [String.pushn_eq_repeat_push]
  induction k with
  | zero => simp [Nat.repeat]
  | succ k ih => rw [Nat.repeat, String.toList_push, ih, List.replicate_succ', List.append_assoc]

lemma positional_of_nonneg (n k : Nat) : (positional "" n k).toList =
    if n = 0 then ['0'] else Nat.toDigits 10 n ++ List.replicate k '0' := by
  rw [positional, if_pos (Int.natCast_nonneg k)]
  split <;> simp [toList_pushn, *]

lemma positional_of_neg (n k : Nat) : ∃ ds fs, ds ≠ [] ∧ fs.length = k + 1 ∧
    (∃ j, ds ++ fs = List.replicate j '0' ++ Nat.toDigits 10 n) ∧
    (positional "" n (-(k + 1 : Nat))).toList = ds ++ '.' :: fs := by
  rw [positional, if_neg (by omega)]
  have hplaces : (-(-((k + 1 : Nat) : Int))).toNat = k + 1 := by omega
  have hlength : n.repr.length = (Nat.toDigits 10 n).length := by
    rw [← Nat.toList_repr, String.length_toList]
  simp only [hplaces, String.toList_ofList, String.toList_append, toList_pushn,
    Nat.toString_eq_repr, Nat.toList_repr]
  refine ⟨_, _, ?_, ?_, ⟨_, List.take_append_drop _ _⟩, rfl⟩
  · rw [Ne, List.take_eq_nil_iff, not_or]
    simp [hlength]
    omega
  · simp [hlength]
    omega

theorem plain_positional (n : Nat) (p : Int) :
    IsPlainNumeral (positional "" n p).toList ∧
      (Decimal.ofLiteral (positional "" n p).toList).toRat = n * 10 ^ p := by
  rcases Int.lt_or_le p 0 with hp | hp
  · obtain ⟨k, rfl⟩ : ∃ k : Nat, p = -(k + 1 : Nat) := ⟨(-p - 1).toNat, by omega⟩
    obtain ⟨ds, fs, hds, hfs, ⟨j, hall⟩, htext⟩ := positional_of_neg n k
    have hdigit : ∀ c ∈ ds ++ fs, c.isDigit = true := by
      rw [hall]
      exact List.forall_mem_append.2 ⟨isDigit_zeros j, isDigit_toDigits n⟩
    obtain ⟨hwhole, hfraction⟩ := List.forall_mem_append.1 hdigit
    rw [htext]
    refine ⟨.fraction hds hwhole (by rintro rfl; cases hfs) hfraction, ?_⟩
    rw [Decimal.ofLiteral_fraction fs hwhole, hall, Decimal.ofDigits_zeros_append,
      Decimal.ofDigits_toDigits, Decimal.toRat, hfs, zpow_neg, zpow_natCast, div_eq_mul_inv,
      Nat.pow_eq]
    push_cast
    rfl
  · obtain ⟨k, rfl⟩ := Int.eq_ofNat_of_zero_le hp
    rw [positional_of_nonneg]
    split
    next h =>
      subst h
      refine ⟨.whole (by simp) (isDigit_zeros 1), ?_⟩
      simp [Decimal.toRat, Decimal.ofLiteral, Decimal.ofDigits]
    next h =>
      have hdigit : ∀ c ∈ Nat.toDigits 10 n ++ List.replicate k '0', c.isDigit = true :=
        List.forall_mem_append.2 ⟨isDigit_toDigits n, isDigit_zeros k⟩
      refine ⟨.whole (by simp [Nat.toDigits_ne_nil]) hdigit, ?_⟩
      rw [Decimal.ofLiteral_whole hdigit, Decimal.ofDigits_append_zeros,
        Decimal.ofDigits_toDigits, Decimal.toRat]
      simp

end Layout

end LinearProgram
