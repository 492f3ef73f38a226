import LinearProgram.Decimal.Places
import LinearProgram.Proofs.Magnitudes
import LinearProgram.Proofs.Numerals

namespace LinearProgram

namespace Double

open Float.Model (UnpackedFloat)

structure NearestInteger (k : ℤ) (q : ℚ) : Prop where
  near : |q - k| ≤ 1 / 2
  even : |q - k| = 1 / 2 → Even k

lemma nearestInteger_self (k : ℤ) : NearestInteger k k := by
  refine ⟨?_, fun heq => ?_⟩
  · rw [sub_self, abs_zero]
    norm_num
  · rw [sub_self, abs_zero] at heq
    norm_num at heq

lemma NearestInteger.neg {k : ℤ} {q : ℚ} (h : NearestInteger k q) : NearestInteger (-k) (-q) := by
  have habs : |-q - (-k : ℤ)| = |q - k| := by
    rw [← abs_neg]
    congr 1
    push_cast
    ring
  exact ⟨habs ▸ h.near, fun heq => (h.even (habs ▸ heq)).neg⟩

lemma NearestInteger.unique {k l : ℤ} {q : ℚ} (hk : NearestInteger k q) (hl : NearestInteger l q) :
    k = l := by
  -- two of them are neighbours at a tie, and one of the two is odd
  by_contra hne
  obtain ⟨hk₁, hk₂⟩ := abs_le.1 hk.near
  obtain ⟨hl₁, hl₂⟩ := abs_le.1 hl.near
  have hle : k ≤ l + 1 := by exact_mod_cast (by linarith : (k : ℚ) ≤ l + 1)
  have hge : l ≤ k + 1 := by exact_mod_cast (by linarith : (l : ℚ) ≤ k + 1)
  obtain rfl | rfl : k = l + 1 ∨ l = k + 1 := by omega
  · push_cast at hk₁ hk₂ hk
    have hkeven := hk.even (by push_cast; rw [abs_eq (by norm_num)]; right; linarith)
    have hleven := hl.even (by rw [abs_eq (by norm_num)]; left; linarith)
    grind
  · push_cast at hl₁ hl₂
    have hkeven := hk.even (by rw [abs_eq (by norm_num)]; left; linarith)
    have hleven := hl.even (by push_cast; rw [abs_eq (by norm_num)]; right; linarith)
    grind

lemma Nearest.integer {n : Nat} {q : ℚ} (h : Nearest n q) : NearestInteger n q := by
  refine ⟨abs_le.2 ⟨?_, ?_⟩, fun heq => ?_⟩
  · have := h.ge
    push_cast
    linarith
  · have := h.le
    push_cast
    linarith
  · have htie : q = n + 1 / 2 ∨ (n : ℚ) = q + 1 / 2 := by
      push_cast at heq
      rcases (abs_eq (by norm_num)).1 heq with heq | heq
      · exact .inl (by linarith)
      · exact .inr (by linarith)
    exact_mod_cast Nat.even_iff.2 (h.even htie)

def exactOf : UnpackedFloat → ℚ
  | .finite .positive m e _ => m * 2 ^ e
  | .finite .negative m e _ => -(m * 2 ^ e)
  | _ => 0

/-- The exact value of a double. One that is not finite has none and counts as zero. -/
def exact (x : Float) : ℚ :=
  exactOf x.toModel.unpack

lemma exists_magnitude_eq {x : Float} (h : x.isFinite = true) : ∃ m e,
    Binary.magnitude x = .finite m e ∧
      exact x = if Binary.isNegative x then -(m * 2 ^ e : ℚ) else m * 2 ^ e := by
  have hfinite : x.toModel.unpack.isFinite = true := h
  rw [exact, magnitude_eq]
  cases hu : x.toModel.unpack with
  | notANumber =>
    rw [hu] at hfinite
    cases hfinite
  | infinity s =>
    rw [hu] at hfinite
    cases hfinite
  | zero s => exact ⟨0, _, rfl, by simp [exactOf]⟩
  | finite s m e hm =>
    have hsign : HasSign s x.toModel.unpack := by
      rw [hu]
      exact rfl
    have hnegative := isNegative_iff_of_hasSign hsign
    refine ⟨m, e, rfl, ?_⟩
    cases s with
    | positive =>
      rw [if_neg fun h => nomatch hnegative.1 h]
      rfl
    | negative =>
      rw [if_pos (hnegative.2 rfl)]
      rfl

end Double

namespace Places

lemma nearest_roundDiv (num : Nat) {den : Nat} (hden : 0 < den) :
    Double.Nearest (roundDiv num den) (num / den) := by
  have hden' : (0 : ℚ) < den := by exact_mod_cast hden
  obtain ⟨q, hq⟩ : ∃ q, q = num / den := ⟨_, rfl⟩
  obtain ⟨r, hr⟩ : ∃ r, r = num % den := ⟨_, rfl⟩
  have hvalue : (num : ℚ) / den = q + r / den := by
    have hnum : (num : ℚ) = den * q + r := by
      exact_mod_cast hq ▸ hr ▸ (Nat.div_add_mod num den).symm
    rw [hnum]
    field_simp
  have hpos : (0 : ℚ) ≤ r / den := by positivity
  have hlt : (r : ℚ) / den < 1 := by
    rw [div_lt_one hden']
    exact_mod_cast hr ▸ Nat.mod_lt num hden
  have hbelow : 2 * r < den ↔ (r : ℚ) / den < 1 / 2 := by
    rw [div_lt_div_iff₀ hden' two_pos, one_mul, mul_comm]
    exact_mod_cast Iff.rfl
  have habove : den < 2 * r ↔ (1 / 2 : ℚ) < r / den := by
    rw [div_lt_div_iff₀ two_pos hden', one_mul, mul_comm (r : ℚ)]
    exact_mod_cast Iff.rfl
  rw [hvalue]
  simp only [roundDiv, ← hq, ← hr, hbelow, habove]
  generalize (r : ℚ) / den = f at *
  split_ifs with h₁ h₂ heven
  · exact ⟨by linarith, by linarith, by rintro (h | h) <;> linarith⟩
  · refine ⟨by push_cast; linarith, by push_cast; linarith, ?_⟩
    push_cast
    rintro (h | h) <;> linarith
  · exact ⟨by linarith, by linarith, fun _ => heven⟩
  · refine ⟨by push_cast; linarith, by push_cast; linarith, fun _ => by omega⟩

variable {x : Float} {m : Nat} {e : Int} (places : Nat)

lemma nearest_scaled (m : Nat) (e : Int) :
    Double.NearestInteger (scaled places m e) (10 ^ places * (m * 2 ^ e)) := by
  have h := nearest_roundDiv (Nat.pow 10 places * Binary.numerator 2 m e)
    (Binary.denominator_pos two_pos e)
  have hvalue : ((Nat.pow 10 places * Binary.numerator 2 m e : Nat) : ℚ) / Binary.denominator 2 e =
      10 ^ places * (m * 2 ^ e) := by
    rw [Nat.pow_eq, Nat.cast_mul, mul_div_assoc, Binary.numerator_div_denominator two_pos]
    push_cast
    rfl
  rw [hvalue] at h
  exact h.integer

def fraction (n : Nat) : List Char :=
  let digits := Nat.toDigits 10 (n % 10 ^ places)
  List.replicate (places - digits.length) '0' ++ digits

variable {places}

lemma length_fraction (hplaces : 0 < places) (n : Nat) : (fraction places n).length = places := by
  have hle : (Nat.toDigits 10 (n % 10 ^ places)).length ≤ places :=
    (Nat.length_toDigits_le_iff (by norm_num) hplaces).2 (Nat.mod_lt _ (by positivity))
  rw [fraction, List.length_append, List.length_replicate]
  omega

lemma isDigit_fraction (n : Nat) : ∀ c ∈ fraction places n, c.isDigit = true :=
  List.forall_mem_append.2 ⟨Layout.isDigit_zeros _, Layout.isDigit_toDigits _⟩

lemma ofDigits_fraction (n : Nat) : Decimal.ofDigits (fraction places n) = n % 10 ^ places := by
  rw [fraction, Decimal.ofDigits_zeros_append, Decimal.ofDigits_toDigits]

lemma ofDigits_whole_fraction (hplaces : 0 < places) (n : Nat) :
    Decimal.ofDigits (Nat.toDigits 10 (n / 10 ^ places) ++ fraction places n) = n := by
  rw [Decimal.ofDigits_append, length_fraction hplaces, Decimal.ofDigits_toDigits,
    ofDigits_fraction, Nat.div_add_mod']

lemma toList_numeral (hplaces : 0 < places) (n : Nat) : (numeral places n).toList =
    Nat.toDigits 10 (n / 10 ^ places) ++ '.' :: fraction places n := by
  have hlength (k : Nat) : k.repr.length = (Nat.toDigits 10 k).length := by
    rw [← Nat.toList_repr, String.length_toList]
  simp [numeral, hplaces.ne', fraction, Layout.toList_pushn, hlength]

lemma write_of_unpack_eq_infinity {s : Float.Model.UnpackedFloat.Sign}
    (h : x.toModel.unpack = .infinity s) :
    write places x = if Binary.isNegative x then "-inf" else "inf" := by
  rw [write, Double.magnitude_eq, h]
  rfl

lemma write_of_unpack_eq_notANumber (h : x.toModel.unpack = .notANumber) :
    write places x = "NaN" := by
  rw [write, Double.magnitude_eq, h]
  rfl

theorem exists_write_eq (hplaces : 0 < places) (h : x.isFinite = true) :
    ∃ k : ℤ, Double.NearestInteger k (10 ^ places * Double.exact x) ∧
      (k < 0 → Binary.isNegative x = true) ∧ (0 < k → Binary.isNegative x = false) ∧
      (write places x).toList = (if Binary.isNegative x then ['-'] else []) ++
        (Nat.toDigits 10 (k.natAbs / 10 ^ places) ++ '.' :: fraction places k.natAbs) := by
  obtain ⟨m, e, hmagnitude, hexact⟩ := Double.exists_magnitude_eq h
  rw [write, hmagnitude, hexact]
  cases Binary.isNegative x with
  | true =>
    refine ⟨-scaled places m e, ?_, fun _ => rfl, fun hpos => by omega, ?_⟩
    · rw [if_pos rfl, mul_neg]
      exact (nearest_scaled places m e).neg
    · rw [String.toList_append, toList_numeral hplaces, Int.natAbs_neg, Int.natAbs_natCast]
      rfl
  | false =>
    refine ⟨scaled places m e, nearest_scaled places m e, fun hneg => by omega, fun _ => rfl, ?_⟩
    rw [String.toList_append, toList_numeral hplaces, Int.natAbs_natCast]
    rfl

end Places

end LinearProgram
