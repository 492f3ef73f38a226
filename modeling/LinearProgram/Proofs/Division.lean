import LinearProgram.Proofs.Magnitudes

/-!
A decimal is read as the double that is nearest to it: its digits are divided by a power of ten, and
the quotient is rounded once.
-/

namespace LinearProgram

namespace Double

open Float.Model (Format UnpackedFloat totalExponent)
open Float.Model.UnpackedFloat

lemma holds_accuracyOfFraction (n : Nat) {d : Nat} (hd : 0 < d) :
    Holds (.ofMantissaAndAccuracy (n / d) (accuracyOfFraction (n % d) d)) (n / d : ℚ) := by
  have hd' : (0 : ℚ) < d := by exact_mod_cast hd
  have hn : (n / d : ℚ) = (n / d : Nat) + (n % d : Nat) / d := by
    rw [add_div' _ _ _ hd'.ne', div_left_inj' hd'.ne', mul_comm]
    exact_mod_cast (Nat.div_add_mod n d).symm
  have hlt : ((n % d : Nat) : ℚ) < d := by exact_mod_cast Nat.mod_lt n hd
  rw [hn, accuracyOfFraction]
  generalize n / d = q
  generalize n % d = r at hlt ⊢
  rcases Nat.eq_zero_or_pos r with rfl | hr
  · change (q + (0 : Nat) / d : ℚ) = q
    simp
  have hr' : (0 : ℚ) < r / d := div_pos (by exact_mod_cast hr) hd'
  rw [if_neg hr.ne']
  rcases lt_trichotomy (2 * r) d with h | h | h
  · rw [Nat.compare_eq_lt.2 h]
    have h' : (2 * r : ℚ) < d := by exact_mod_cast h
    have : (r / d : ℚ) < 1 / 2 := by
      rw [div_lt_div_iff₀ hd' two_pos]
      linarith
    exact ⟨by linarith, by linarith⟩
  · rw [Nat.compare_eq_eq.2 h]
    have h' : (2 * r : ℚ) = d := by exact_mod_cast h
    have : (r / d : ℚ) = 1 / 2 := by
      rw [div_eq_div_iff hd'.ne' two_ne_zero]
      linarith
    change (q + r / d : ℚ) = q + 1 / 2
    linarith
  · rw [Nat.compare_eq_gt.2 h]
    have h' : (d : ℚ) < 2 * r := by exact_mod_cast h
    have hhalf : 1 / 2 < (r / d : ℚ) := by
      rw [div_lt_div_iff₀ two_pos hd']
      linarith
    have hone : (r / d : ℚ) < 1 := (div_lt_one hd').2 hlt
    exact ⟨by linarith, by linarith⟩

variable {m m₁ m₂ : Nat} {e e₁ e₂ : Int}

lemma le_log2_div (hm₁ : 0 < m₁) (hm₂ : 0 < m₂) {k : Nat}
    (h : 53 + m₂.log2 ≤ m₁.log2 + k) : 52 ≤ ((m₁ <<< k) / m₂).log2 := by
  have hle : 2 ^ 52 ≤ (m₁ <<< k) / m₂ := by
    rw [Nat.le_div_iff_mul_le hm₂, Nat.shiftLeft_eq]
    calc 2 ^ 52 * m₂ ≤ 2 ^ 52 * 2 ^ (m₂.log2 + 1) :=
          Nat.mul_le_mul_left _ Nat.lt_log2_self.le
      _ = 2 ^ (53 + m₂.log2) := by rw [← Nat.pow_add]; congr 1; omega
      _ ≤ 2 ^ (m₁.log2 + k) := Nat.pow_le_pow_right two_pos h
      _ = 2 ^ m₁.log2 * 2 ^ k := Nat.pow_add _ _ _
      _ ≤ m₁ * 2 ^ k := Nat.mul_le_mul_right _ (Nat.log2_self_le hm₁.ne')
  exact (Nat.le_log2 (by omega)).2 hle

theorem div_eq (hm₁ : 0 < m₁) (hm₂ : 0 < m₂) (hcanonical : Canonical m e)
    (hq : RoundsTo m e (m₁ * 2 ^ e₁ / (m₂ * 2 ^ e₂))) :
    UnpackedFloat.div Format.binary64 (.finite .positive m₁ e₁ hm₁) (.finite .positive m₂ e₂ hm₂) =
      .finite .positive m e hcanonical.pos := by
  have htarget : Format.binary64.targetExponent (totalExponent m₁ e₁ - totalExponent m₂ e₂) =
      max (m₁.log2 + e₁ - (m₂.log2 + e₂) - 53) (-1074) := by
    simp only [Format.targetExponent, totalExponent, Format.mantissaBits, Format.minExponent]
    norm_num
    omega
  simp only [UnpackedFloat.div, divCore, htarget]
  set t := min (e₁ - e₂) (max (m₁.log2 + e₁ - (m₂.log2 + e₂) - 53) (-1074)) with ht
  obtain ⟨k, hk⟩ := Int.eq_ofNat_of_zero_le (by omega : 0 ≤ e₁ - e₂ - t)
  have hm₂' : (m₂ : ℚ) ≠ 0 := by exact_mod_cast hm₂.ne'
  have hvalue : (m₁ * 2 ^ e₁ / (m₂ * 2 ^ e₂) / 2 ^ t : ℚ) = (m₁ <<< k : Nat) / m₂ := by
    have he₁ : e₁ = k + e₂ + t := by omega
    rw [he₁, zpow_add₀ two_ne_zero, zpow_add₀ two_ne_zero, Nat.shiftLeft_eq]
    push_cast
    field_simp
    exact zpow_natCast 2 k
  rw [hk, Int.toNat_natCast]
  refine roundWithAccuracy_eq .positive hcanonical hq ?_ ?_
  · rw [hvalue]
    exact holds_accuracyOfFraction _ hm₂
  · rcases le_or_gt t (-1074) with hlast | hlast
    · exact hlast.trans (le_max_right _ _)
    · have := le_log2_div hm₁ hm₂ (k := k) (by omega)
      omega

theorem mul_eq (hm₁ : 0 < m₁) (hm₂ : 0 < m₂) (hcanonical : Canonical m e)
    (hq : RoundsTo m e (m₁ * 2 ^ e₁ * (m₂ * 2 ^ e₂)))
    (he : e₁ + e₂ ≤ max ((m₁ * m₂).log2 + (e₁ + e₂) - 52) (-1074)) :
    UnpackedFloat.mul Format.binary64 (.finite .positive m₁ e₁ hm₁) (.finite .positive m₂ e₂ hm₂) =
      .finite .positive m e hcanonical.pos := by
  have hvalue : (m₁ * 2 ^ e₁ * (m₂ * 2 ^ e₂) : ℚ) / 2 ^ (e₁ + e₂) = (m₁ * m₂ : Nat) := by
    rw [zpow_add₀ two_ne_zero]
    push_cast
    field_simp
  exact roundWithAccuracy_eq .positive hcanonical hq hvalue he

lemma RoundsTo.zpow_le {q : ℚ} (hcanonical : Canonical m e) (hq : RoundsTo m e q) :
    2 ^ (-1075 : Int) ≤ q := by
  have hpow : (0 : ℚ) < 2 ^ e := zpow_pos two_pos e
  have hm : (1 : ℚ) ≤ m := by exact_mod_cast hcanonical.pos
  have hhalf : 1 / 2 ≤ q / 2 ^ e := by linarith [hq.nearest.ge]
  calc (2 : ℚ) ^ (-1075 : Int) ≤ 2 ^ (e - 1) :=
        zpow_le_zpow_right₀ one_le_two (by linarith [hcanonical.le])
    _ = 1 / 2 * 2 ^ e := by
      rw [zpow_sub_one₀ two_ne_zero]
      ring
    _ ≤ q := (le_div_iff₀ hpow).1 hhalf

lemma RoundsTo.places_le {n k : Nat} (hcanonical : Canonical m e)
    (hq : RoundsTo m e (n / 10 ^ k)) : k ≤ 2048 + n.log2 := by
  by_contra hk
  have hn : (n : ℚ) < 2 ^ (n.log2 + 1) := by exact_mod_cast Nat.lt_log2_self
  have h10 : (2 : ℚ) ^ (3 * k) ≤ 10 ^ k := by
    rw [pow_mul]
    exact pow_le_pow_left₀ (by norm_num) (by norm_num) k
  have hle := hq.zpow_le hcanonical
  rw [le_div_iff₀ (by positivity)] at hle
  have hlt : (2 : ℚ) ^ (-1075 : Int) * 2 ^ (3 * k) < 2 ^ (n.log2 + 1) :=
    (mul_le_mul_of_nonneg_left h10 (by positivity)).trans_lt (hle.trans_lt hn)
  rw [← zpow_natCast, ← zpow_natCast, ← zpow_add₀ two_ne_zero,
    zpow_lt_zpow_iff_right₀ one_lt_two] at hlt
  push_cast at hlt
  omega

lemma RoundsTo.digits_pos {n k : Nat} (hcanonical : Canonical m e)
    (hq : RoundsTo m e (n / 10 ^ k)) : 0 < n := by
  have : (0 : ℚ) < n / 10 ^ k := (zpow_pos two_pos _).trans_le (hq.zpow_le hcanonical)
  exact_mod_cast (div_pos_iff_of_pos_right (by positivity)).1 this

lemma ofScientific_eq {n k : Nat} (hcanonical : Canonical m e) (hq : RoundsTo m e (n / 10 ^ k)) :
    UnpackedFloat.ofScientific Format.binary64 n (-k) =
      .finite .positive m e hcanonical.pos := by
  have hn := hq.digits_pos hcanonical
  have hplaces := hq.places_le hcanonical
  have hbits : (2 : Int) ^ Format.binary64.exponentBits = 2048 := rfl
  rw [UnpackedFloat.ofScientific, dif_neg hn.ne', hbits, if_neg (by omega), if_neg (by omega)]
  split
  next h =>
    obtain rfl : k = 0 := by omega
    have hlog : (n <<< 53).log2 = n.log2 + 53 := log2_shiftLeft hn 53
    have hvalue : ((n <<< 53 : Nat) * 2 ^ (-53 : Int) * ((1 : Nat) * 2 ^ (0 : Int)) : ℚ) =
        n / 10 ^ 0 := by
      rw [Nat.shiftLeft_eq]
      push_cast
      field_simp
      norm_num
    change UnpackedFloat.mul Format.binary64 (.finite .positive (n <<< 53) (-53) _)
      (.finite .positive 1 0 _) = _
    refine mul_eq _ one_pos hcanonical ?_ ?_
    · rw [hvalue]
      exact hq
    · rw [Nat.mul_one, hlog]
      omega
  next h =>
    refine div_eq hn _ hcanonical ?_
    have hk : (-(-(k : Int))).toNat = k := by omega
    rw [hk]
    simpa using hq

lemma roundsTo_self (m : Nat) (e : Int) : RoundsTo m e (m * 2 ^ e) := by
  refine ⟨?_, fun _ _ => ?_⟩ <;> rw [mul_zpow_div_self]
  · exact nearest_self m
  · linarith

theorem round_eq (s : Sign) (hm₁ : 0 < m₁) (hcanonical : Canonical m e)
    (hq : RoundsTo m e (m₁ * 2 ^ e₁)) :
    UnpackedFloat.round Format.binary64 s m₁ e₁ = .finite s m e hcanonical.pos := by
  rw [UnpackedFloat.round, targetExponent_eq, decreaseExponent]
  set k := (e₁ - max (m₁.log2 + e₁ - 52 : Int) (-1074)).toNat with hk
  have hlog := log2_shiftLeft hm₁ k
  have hvalue : (m₁ * 2 ^ e₁ / 2 ^ (e₁ - k) : ℚ) = (m₁ <<< k : Nat) := by
    rw [zpow_sub₀ two_ne_zero, zpow_natCast, Nat.shiftLeft_eq]
    push_cast
    field_simp
  refine roundWithAccuracy_eq s hcanonical hq hvalue ?_
  omega

lemma exists_unpack_ofNat {n : Nat} (hn : 0 < n) (hlt : n < 2 ^ 53) :
    ∃ m e hm, (Float.Model.ofNat n).unpack = .finite .positive m e hm ∧
      (m * 2 ^ e : ℚ) = n := by
  have hlog : n.log2 < 53 := (Nat.log2_lt hn.ne').2 hlt
  obtain ⟨k, hk⟩ : ∃ k, n.log2 + k = 52 := ⟨52 - n.log2, by omega⟩
  have hpos : 0 < n <<< k := Nat.shiftLeft_pos_iff.2 hn
  have hfull : (n <<< k).log2 = 52 := (log2_shiftLeft hn k).trans hk
  have hbounds := (Nat.log2_eq_iff hpos.ne').1 hfull
  have hcanonical : Canonical (n <<< k) (-k) :=
    ⟨hpos, hbounds.2, by omega, .inl hbounds.1⟩
  have hvalue : ((n <<< k : Nat) * 2 ^ (-k : Int) : ℚ) = n := by
    rw [Nat.shiftLeft_eq, zpow_neg, zpow_natCast]
    push_cast
    field_simp
  refine ⟨_, _, hcanonical.pos, ?_, hvalue⟩
  have hround : UnpackedFloat.ofNat Format.binary64 n =
      .finite .positive (n <<< k) (-k) hcanonical.pos := by
    have hexact : RoundsTo (n <<< k) (-k) (n * 2 ^ (0 : Int)) := by
      rw [zpow_zero, mul_one, ← hvalue]
      exact roundsTo_self _ _
    have hcompare : compare (n : Int) 0 = .gt := Int.compare_eq_gt.2 (by omega)
    simp only [UnpackedFloat.ofNat, UnpackedFloat.ofInt, UnpackedFloat.normalize, hcompare]
    exact round_eq .positive hn hcanonical hexact
  change unpack Format.binary64 (pack Format.binary64 (UnpackedFloat.ofNat Format.binary64 n)) = _
  rw [hround]
  exact unpack_pack_of_canonical .positive hcanonical (by omega)

lemma pack_unpack (x : Float) : Float.ofModel (.pack x.toModel.unpack) = x :=
  Float.ofBits_toBits x

theorem toFloat_eq {d : Decimal} {x : Float} (hcanonical : Canonical m e)
    (hx : x.toModel.unpack = .finite .positive m e hcanonical.pos)
    (hq : RoundsTo m e d.toRat) : d.toFloat = x := by
  suffices h : ∃ u, d.toFloat = .ofModel (.pack u) ∧ u = .finite .positive m e hcanonical.pos by
    obtain ⟨u, hd, hu⟩ := h
    rw [hd, hu, ← hx, pack_unpack]
  rw [Decimal.toRat, Nat.pow_eq, Nat.cast_pow, Nat.cast_ofNat] at hq
  rw [Decimal.toFloat, Float.ofScientific]
  by_cases h : d.digits < 2 ^ 53 ∧ d.places ≤ 22
  · rw [dif_pos h, if_pos rfl]
    refine ⟨_, rfl, ?_⟩
    obtain ⟨m₁, e₁, hm₁, hdigits, hvalue₁⟩ := exists_unpack_ofNat (hq.digits_pos hcanonical) h.1
    obtain ⟨m₂, e₂, hm₂, hpower, hvalue₂⟩ := exists_of_isNatural
      (isNatural_powerOfTen ⟨d.places, Nat.lt_succ_of_le h.2⟩)
    rw [Fin.getElem_fin] at hpower
    have hword : d.digits.toUInt64.toNat = d.digits :=
      Nat.mod_eq_of_lt (h.1.trans (by norm_num))
    have hnumerator : d.digits.toUInt64.toFloat.toModel.unpack = .finite .positive m₁ e₁ hm₁ := by
      change (Float.Model.ofNat d.digits.toUInt64.toNat).unpack = _
      rw [hword]
      exact hdigits
    have hdenominator : (m₂ * 2 ^ e₂ : ℚ) = 10 ^ d.places := by
      have hd := Binary.denominator_pos two_pos e₂
      have hratio := Binary.numerator_div_denominator two_pos m₂ e₂
      rw [hvalue₂, Nat.cast_mul, mul_div_cancel_right₀ _ (by exact_mod_cast hd.ne')] at hratio
      exact_mod_cast hratio.symm
    rw [hnumerator, hpower]
    refine div_eq hm₁ hm₂ hcanonical ?_
    rw [hvalue₁, hdenominator]
    exact hq
  · rw [dif_neg h, if_pos rfl]
    refine ⟨_, rfl, ?_⟩
    rw [Int.negOfNat_eq]
    exact ofScientific_eq hcanonical hq

end Double

end LinearProgram
