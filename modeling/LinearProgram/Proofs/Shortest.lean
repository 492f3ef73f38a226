import LinearProgram.Decimal.Shortest
import LinearProgram.Proofs.Magnitudes

/-!
The shortest digits of a double round to that double, and seventeen of them are always enough.
-/

namespace LinearProgram

namespace Shortest

open Binary Double

lemma lt_pow_decimalLength (n : Nat) : n < 10 ^ decimalLength n := by
  fun_induction decimalLength n with
  | case1 => norm_num
  | case2 n hn ih =>
    rw [pow_succ]
    omega

lemma pow_decimalLength_le (n : Nat) (hn : 0 < n) : 10 ^ decimalLength n ≤ 10 * n := by
  fun_induction decimalLength n with
  | case1 => cases hn
  | case2 n _ ih =>
    rcases Nat.eq_zero_or_pos (n / 10) with h | h
    · rw [h, decimalLength]
      norm_num
      omega
    · have := ih h
      rw [pow_succ]
      omega

lemma zpow_leadingExponent_le {num den : Nat} (hnum : 0 < num) (hden : 0 < den) :
    (10 : ℚ) ^ leadingExponent num den ≤ num / den := by
  have hden' : (0 : ℚ) < den := by exact_mod_cast hden
  rw [leadingExponent, le_div_iff₀ hden']
  split
  next h =>
    have hq : 0 < num / den := Nat.div_pos h hden
    have hlen := pow_decimalLength_le _ hq
    have hle : 10 ^ decimalLength (num / den) * den ≤ 10 * num := by
      calc 10 ^ decimalLength (num / den) * den ≤ 10 * (num / den) * den :=
            Nat.mul_le_mul_right _ hlen
        _ = 10 * (num / den * den) := Nat.mul_assoc _ _ _
        _ ≤ 10 * num := Nat.mul_le_mul_left _ (Nat.div_mul_le_self _ _)
    have hle' : (10 : ℚ) ^ decimalLength (num / den) * den ≤ 10 * num := by exact_mod_cast hle
    rw [zpow_sub_one₀ (by norm_num), zpow_natCast]
    linarith
  next h =>
    have hlt := lt_pow_decimalLength ((den - 1) / num)
    have hle : den ≤ num * 10 ^ decimalLength ((den - 1) / num) := by
      have := (Nat.div_lt_iff_lt_mul hnum).1 hlt
      rw [Nat.mul_comm]
      omega
    have hle' : (den : ℚ) ≤ num * 10 ^ decimalLength ((den - 1) / num) := by exact_mod_cast hle
    rw [zpow_neg, zpow_natCast, inv_mul_le_iff₀ (by positivity), mul_comm]
    exact hle'

variable {m : Nat} {e p : Int} {tie : Tie}

lemma exists_scale (e' p : Int) : ∃ K : ℚ, 0 < K ∧
    ((numerator 10 1 p * denominator 2 e' : Nat) : ℚ) = 10 ^ p * K ∧
    ((numerator 2 1 e' * denominator 10 p : Nat) : ℚ) = 2 ^ e' * K := by
  have h10 := numerator_div_denominator (b := 10) (by norm_num) 1 p
  have h2 := numerator_div_denominator (b := 2) (by norm_num) 1 e'
  have hd10 : (0 : ℚ) < denominator 10 p := by exact_mod_cast denominator_pos (by norm_num) p
  have hd2 : (0 : ℚ) < denominator 2 e' := by exact_mod_cast denominator_pos (by norm_num) e'
  rw [div_eq_iff hd10.ne'] at h10
  rw [div_eq_iff hd2.ne'] at h2
  refine ⟨denominator 10 p * denominator 2 e', mul_pos hd10 hd2, ?_, ?_⟩
  · rw [Nat.cast_mul, h10]
    push_cast
    ring
  · rw [Nat.cast_mul, h2]
    push_cast
    ring

def Interval.Contains (i : Interval) (q : ℚ) : Prop :=
  if i.closed then i.low ≤ q ∧ q ≤ i.high else i.low < q ∧ q < i.high

lemma Interval.inside_iff (i : Interval) (p : Int) (c : Nat) :
    (if i.closed then
        i.low * (numerator 2 1 i.exponent * denominator 10 p) ≤
            c * (numerator 10 1 p * denominator 2 i.exponent) &&
          c * (numerator 10 1 p * denominator 2 i.exponent) ≤
            i.high * (numerator 2 1 i.exponent * denominator 10 p)
      else
        i.low * (numerator 2 1 i.exponent * denominator 10 p) <
            c * (numerator 10 1 p * denominator 2 i.exponent) &&
          c * (numerator 10 1 p * denominator 2 i.exponent) <
            i.high * (numerator 2 1 i.exponent * denominator 10 p)) = true ↔
      i.Contains (c * 10 ^ p / 2 ^ i.exponent) := by
  obtain ⟨K, hK, hunit, hscale⟩ := exists_scale i.exponent p
  have hpow : (0 : ℚ) < 2 ^ i.exponent := zpow_pos two_pos _
  generalize numerator 10 1 p * denominator 2 i.exponent = unit at hunit
  generalize numerator 2 1 i.exponent * denominator 10 p = scale at hscale
  have hle : ∀ a : Nat, a * scale ≤ c * unit ↔ (a : ℚ) ≤ c * 10 ^ p / 2 ^ i.exponent := by
    intro a
    rw [le_div_iff₀ hpow, ← Nat.cast_le (α := ℚ), Nat.cast_mul, Nat.cast_mul, hunit, hscale,
      ← mul_assoc, ← mul_assoc, mul_le_mul_iff_left₀ hK]
  have hge : ∀ a : Nat, c * unit ≤ a * scale ↔ c * 10 ^ p / 2 ^ i.exponent ≤ (a : ℚ) := by
    intro a
    rw [div_le_iff₀ hpow, ← Nat.cast_le (α := ℚ), Nat.cast_mul, Nat.cast_mul, hunit, hscale,
      ← mul_assoc, ← mul_assoc, mul_le_mul_iff_left₀ hK]
  rw [Interval.Contains]
  split
  · simp only [Bool.and_eq_true, decide_eq_true_eq, hle, hge]
  · simp only [Bool.and_eq_true, decide_eq_true_eq, ← not_le, hle, hge]

lemma Interval.contains_of_pick {i : Interval} {c : Nat} (h : i.pick tie p = some c) :
    i.Contains (c * 10 ^ p / 2 ^ i.exponent) := by
  rw [← i.inside_iff]
  simp only [Interval.pick] at h
  split at h
  next hbelow habove =>
    split at h <;> cases h
    · exact hbelow
    · exact habove
  next hbelow _ =>
    cases h
    exact hbelow
  next _ habove =>
    cases h
    exact habove
  next => cases h

lemma Interval.exists_pick {i : Interval} {c : Nat} (tie : Tie)
    (hc : c = i.mid * (numerator 2 1 i.exponent * denominator 10 p) /
        (numerator 10 1 p * denominator 2 i.exponent))
    (h : i.Contains (c * 10 ^ p / 2 ^ i.exponent) ∨
      i.Contains ((c + 1 : Nat) * 10 ^ p / 2 ^ i.exponent)) :
    ∃ c, i.pick tie p = some c := by
  rw [← i.inside_iff, ← i.inside_iff, hc] at h
  simp only [Interval.pick]
  split
  next => exact ⟨_, rfl⟩
  next => exact ⟨_, rfl⟩
  next => exact ⟨_, rfl⟩
  next hbelow habove =>
    rcases h with h | h
    · exact absurd h (by rw [hbelow]; exact nofun)
    · exact absurd h (by rw [habove]; exact nofun)

lemma cast_low (hm : 0 < m) (e : Int) : ((Interval.around m e).low : ℚ) =
    4 * m - if m = 2 ^ 52 ∧ e ≠ -1074 then 1 else 2 := by
  change ((4 * m - if m = 2 ^ 52 ∧ e ≠ -1074 then 1 else 2 : Nat) : ℚ) = _
  rw [Nat.cast_sub (by split <;> omega)]
  split <;> push_cast <;> rfl

lemma cast_high (m : Nat) (e : Int) : ((Interval.around m e).high : ℚ) = 4 * m + 2 := by
  simp [Interval.around]

lemma four_mul_div (q : ℚ) (e : Int) : q / 2 ^ (e - 2) = 4 * (q / 2 ^ e) := by
  rw [zpow_sub₀ two_ne_zero]
  field_simp
  norm_num

lemma roundsTo_of_contains {q : ℚ} (hm : 0 < m)
    (h : (Interval.around m e).Contains (q / 2 ^ (e - 2))) : RoundsTo m e q := by
  rw [Interval.Contains, cast_low hm, cast_high, four_mul_div] at h
  have hclosed : (Interval.around m e).closed = decide (m % 2 = 0) := rfl
  rw [hclosed] at h
  have hle : 4 * (m : ℚ) - (if m = 2 ^ 52 ∧ e ≠ -1074 then 1 else 2) ≤ 4 * (q / 2 ^ e) ∧
      4 * (q / 2 ^ e) ≤ 4 * m + 2 := by
    split at h
    · exact h
    · exact ⟨h.1.le, h.2.le⟩
  have heven : q / 2 ^ e = m + 1 / 2 ∨ (m : ℚ) = q / 2 ^ e + 1 / 2 → m % 2 = 0 := by
    intro htie
    by_contra hodd
    rw [decide_eq_false hodd, if_neg Bool.false_ne_true] at h
    have hnot : ¬ (m = 2 ^ 52 ∧ e ≠ -1074) := by
      rintro ⟨rfl, -⟩
      exact hodd rfl
    rw [if_neg hnot] at h
    rcases htie with htie | htie <;> linarith
  refine ⟨⟨?_, ?_, heven⟩, fun hpow he => ?_⟩
  · linarith
  · have := hle.1
    split at this <;> linarith
  · have := hle.1
    rw [if_pos ⟨hpow, he⟩] at this
    linarith

lemma contains_of_lt {q : ℚ} (hm : 0 < m) (hhigh : q / 2 ^ e < m + 1 / 2)
    (hlow : (m : ℚ) < q / 2 ^ e + 1 / 4 ∨ m ≠ 2 ^ 52 ∧ (m : ℚ) < q / 2 ^ e + 1 / 2) :
    (Interval.around m e).Contains (q / 2 ^ (e - 2)) := by
  have hlow' : ((Interval.around m e).low : ℚ) < q / 2 ^ (e - 2) := by
    rw [cast_low hm, four_mul_div]
    split
    next h =>
      have := hlow.resolve_right fun h' => h'.1 h.1
      linarith
    next => rcases hlow with hlow | ⟨-, hlow⟩ <;> linarith
  have hhigh' : q / 2 ^ (e - 2) < ((Interval.around m e).high : ℚ) := by
    rw [cast_high, four_mul_div]
    linarith
  rw [Interval.Contains]
  split
  · exact ⟨hlow'.le, hhigh'.le⟩
  · exact ⟨hlow', hhigh'⟩

lemma between_multiples (m : Nat) (e p : Int) {c : Nat}
    (hc : c = 4 * m * (numerator 2 1 (e - 2) * denominator 10 p) /
      (numerator 10 1 p * denominator 2 (e - 2))) :
    c * (10 : ℚ) ^ p / 2 ^ e ≤ m ∧ (m : ℚ) < (c + 1 : Nat) * 10 ^ p / 2 ^ e := by
  obtain ⟨K, hK, hunit, hscale⟩ := exists_scale (e - 2) p
  have hunit_pos : 0 < numerator 10 1 p * denominator 2 (e - 2) :=
    Nat.mul_pos (Nat.mul_pos one_pos (Nat.pow_pos (by norm_num))) (denominator_pos (by norm_num) _)
  generalize numerator 10 1 p * denominator 2 (e - 2) = unit at hunit hunit_pos hc
  generalize numerator 2 1 (e - 2) * denominator 10 p = scale at hscale hc
  have hpow : (0 : ℚ) < 2 ^ e := zpow_pos two_pos e
  have hmiddle : ((4 * m * scale : Nat) : ℚ) = m * 2 ^ e * K := by
    rw [Nat.cast_mul, hscale, zpow_sub₀ two_ne_zero]
    push_cast
    ring
  have hbelow : c * unit ≤ 4 * m * scale := hc ▸ Nat.div_mul_le_self _ _
  have habove : 4 * m * scale < unit * (c + 1) := hc ▸ Nat.lt_mul_div_succ _ hunit_pos
  rw [← Nat.cast_le (α := ℚ), hmiddle, Nat.cast_mul, hunit, ← mul_assoc,
    mul_le_mul_iff_left₀ hK] at hbelow
  rw [← Nat.cast_lt (α := ℚ), hmiddle, Nat.mul_comm, Nat.cast_mul, hunit, ← mul_assoc,
    mul_lt_mul_iff_left₀ hK] at habove
  exact ⟨(div_le_iff₀ hpow).2 hbelow, (lt_div_iff₀ hpow).2 habove⟩

lemma exists_pick_of_fine (hm : 0 < m) (tie : Tie) (hp : (10 : ℚ) ^ p < 2 ^ e)
    (hp' : m = 2 ^ 52 → 2 * (10 : ℚ) ^ p < 2 ^ e) :
    ∃ c, (Interval.around m e).pick tie p = some c := by
  apply Interval.exists_pick tie rfl
  change (Interval.around m e).Contains
      ((4 * m * (numerator 2 1 (e - 2) * denominator 10 p) /
        (numerator 10 1 p * denominator 2 (e - 2)) : Nat) * 10 ^ p / 2 ^ (e - 2)) ∨
    (Interval.around m e).Contains
      ((4 * m * (numerator 2 1 (e - 2) * denominator 10 p) /
        (numerator 10 1 p * denominator 2 (e - 2)) + 1 : Nat) * 10 ^ p / 2 ^ (e - 2))
  generalize hc : 4 * m * (numerator 2 1 (e - 2) * denominator 10 p) /
    (numerator 10 1 p * denominator 2 (e - 2)) = c
  obtain ⟨hbelow, habove⟩ := between_multiples m e p hc.symm
  have hpow : (0 : ℚ) < 2 ^ e := zpow_pos two_pos e
  have hstep : ((c + 1 : Nat) : ℚ) * 10 ^ p / 2 ^ e = c * 10 ^ p / 2 ^ e + 10 ^ p / 2 ^ e := by
    push_cast
    ring
  have hu : (10 : ℚ) ^ p / 2 ^ e < 1 := (div_lt_one hpow).2 hp
  have hu' : m = 2 ^ 52 → 2 * ((10 : ℚ) ^ p / 2 ^ e) < 1 := by
    intro h
    rw [← mul_div_assoc]
    exact (div_lt_one hpow).2 (hp' h)
  rcases le_total (2 * (m - c * (10 : ℚ) ^ p / 2 ^ e)) (10 ^ p / 2 ^ e) with hnear | hnear
  · refine .inl (contains_of_lt hm (by linarith) ?_)
    by_cases h : m = 2 ^ 52
    · have := hu' h
      exact .inl (by linarith)
    · exact .inr ⟨h, by linarith⟩
  · exact .inr (contains_of_lt hm (by linarith) (.inl (by linarith)))

lemma exists_digits_eq (h : Canonical m e) (tie : Tie) :
    ∃ c p, digits tie m e = (c, p) ∧ (Interval.around m e).pick tie p = some c := by
  have hnum : 0 < numerator 2 m e := Nat.mul_pos h.pos (Nat.pow_pos two_pos)
  have hvalue := zpow_leadingExponent_le hnum (denominator_pos two_pos e)
  rw [numerator_div_denominator (by norm_num)] at hvalue
  rw [digits, if_neg h.pos.ne']
  set lead := leadingExponent (numerator 2 m e) (denominator 2 e)
  have hpow : (0 : ℚ) < 2 ^ e := zpow_pos two_pos e
  have hlast : (10 : ℚ) ^ (lead - (16 : Nat)) * 10 ^ 16 ≤ m * 2 ^ e := by
    rw [zpow_sub₀ (by norm_num), zpow_natCast, div_mul_cancel₀ _ (by norm_num)]
    exact hvalue
  have hm : (m : ℚ) + 1 ≤ 2 ^ 53 := by exact_mod_cast h.lt
  -- the seventeenth digit counts in steps that are finer than the doubles
  obtain ⟨c, hc⟩ := exists_pick_of_fine (e := e) (p := lead - (16 : Nat)) h.pos tie
    (by nlinarith) (by rintro rfl; norm_num at hlast ⊢; linarith)
  have hsome : ((List.range maxDigits).findSome? fun k : Nat =>
      ((Interval.around m e).pick tie (lead - k)).map fun c => (c, lead - (k : Int))).isSome := by
    refine List.findSome?_isSome_iff.2 ⟨16, by decide, ?_⟩
    rw [hc]
    rfl
  obtain ⟨⟨c, p⟩, hfound⟩ := Option.isSome_iff_exists.1 hsome
  obtain ⟨k, -, hk⟩ := List.exists_of_findSome?_eq_some hfound
  obtain ⟨c', hpick, heq⟩ := Option.map_eq_some_iff.1 hk
  obtain ⟨rfl, rfl⟩ := Prod.ext_iff.1 heq
  exact ⟨_, _, congrArg (·.getD (0, 0)) hfound, hpick⟩

theorem roundsTo_digits (h : Canonical m e) (tie : Tie) :
    RoundsTo m e ((digits tie m e).1 * 10 ^ (digits tie m e).2) := by
  obtain ⟨c, p, hdigits, hpick⟩ := exists_digits_eq h tie
  rw [hdigits]
  exact roundsTo_of_contains h.pos (Interval.contains_of_pick hpick)

end Shortest

end LinearProgram
