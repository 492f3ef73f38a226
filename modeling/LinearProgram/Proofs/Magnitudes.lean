import LinearProgram.Decimal.Binary
import LinearProgram.Proofs.Doubles
import LinearProgram.Proofs.Packing

namespace LinearProgram

namespace Binary

lemma numerator_div_denominator {b : Nat} (hb : 0 < b) (m : Nat) (e : Int) :
    (numerator b m e : ℚ) / denominator b e = m * (b : ℚ) ^ e := by
  have hb' : (b : ℚ) ≠ 0 := by exact_mod_cast hb.ne'
  simp only [numerator, denominator, Nat.pow_eq]
  rcases le_total 0 e with he | he
  · obtain ⟨k, rfl⟩ := Int.eq_ofNat_of_zero_le he
    simp
  · obtain ⟨k, hk⟩ := Int.eq_ofNat_of_zero_le (neg_nonneg.2 he)
    obtain rfl : e = -k := by omega
    simp [div_eq_mul_inv]

lemma denominator_pos {b : Nat} (hb : 0 < b) (e : Int) : 0 < denominator b e :=
  Nat.pow_pos hb

end Binary

namespace Double

open Float.Model (Format UnpackedFloat)
open Float.Model.UnpackedFloat

lemma toNat_packComponents (s : Sign) (e : BitVec 11) (m : BitVec 52) :
    (packComponents Format.binary64 s e m).toNat =
      s.toBitVec.toNat * 2 ^ 63 + e.toNat * 2 ^ 52 + m.toNat := by
  have h : packComponents Format.binary64 s e m = s.toBitVec ++ e ++ m := rfl
  rw [h, toNat_append, toNat_append]
  ring

lemma exists_bits (x : Float) : ∃ (s : Sign) (e : BitVec 11) (m : BitVec 52),
    x.toBits.toNat = s.toBitVec.toNat * 2 ^ 63 + e.toNat * 2 ^ 52 + m.toNat ∧
      x.toModel.unpack = unpack Format.binary64 (packComponents Format.binary64 s e m) := by
  obtain ⟨s, e, m, hb⟩ := exists_packComponents x.toModel.toBits.toBitVec
  refine ⟨s, e, m, ?_, congrArg (unpack Format.binary64) hb⟩
  rw [← toNat_packComponents, ← hb]
  rfl

def magnitudeOf : UnpackedFloat → Magnitude
  | .notANumber => .undefined
  | .infinity _ => .infinite
  | .zero _ => .finite 0 (-1074)
  | .finite _ m e _ => .finite m e

theorem magnitude_eq (x : Float) : Binary.magnitude x = magnitudeOf x.toModel.unpack := by
  obtain ⟨s, ev, mv, hbits, hunpack⟩ := exists_bits x
  have hev := ev.isLt
  have hmv := mv.isLt
  have hs : s.toBitVec.toNat < 2 := s.toBitVec.isLt
  have hfraction : x.toBits.toNat % Binary.hiddenBit = mv.toNat := by
    rw [hbits]
    change _ % 2 ^ 52 = _
    omega
  have hbiased : x.toBits.toNat / Binary.hiddenBit % 2048 = ev.toNat := by
    rw [hbits]
    change _ / 2 ^ 52 % 2048 = _
    omega
  rw [Binary.magnitude, hfraction, hbiased, hunpack]
  have hzero : mv.toNat = 0 ↔ mv = 0#52 := ⟨fun h => BitVec.eq_of_toNat_eq h, fun h => h ▸ rfl⟩
  by_cases hlast : ev = -1#11
  · subst hlast
    by_cases hm : mv = 0#52 <;> simp [unpack, hzero, hm, magnitudeOf]
  have hlast' : ev.toNat ≠ 2047 := fun heq => hlast (BitVec.eq_of_toNat_eq heq)
  by_cases hfirst : ev = 0#11
  · subst hfirst
    by_cases hm : mv = 0#52
    · simp [unpack, hm, magnitudeOf, Binary.leastExponent]
    · rw [unpack_of_subnormal s hm]
      rfl
  · have hfirst' : ev.toNat ≠ 0 := fun heq => hfirst (BitVec.eq_of_toNat_eq heq)
    rw [unpack_of_normal _ _ hlast hfirst, if_neg hlast', if_neg hfirst']
    have hexponent : Binary.leastExponent + (ev.toNat - 1 : Nat) = ev.toNat - 1075 := by
      rw [Binary.leastExponent]
      omega
    rw [hexponent]
    rfl

lemma isNegative_iff {x : Float} {s : Sign} {e : BitVec 11} {m : BitVec 52}
    (h : x.toBits.toNat = s.toBitVec.toNat * 2 ^ 63 + e.toNat * 2 ^ 52 + m.toNat) :
    Binary.isNegative x = true ↔ s = .negative := by
  have he := e.isLt
  have hm := m.isLt
  have hrest := Nat.testBit_lt_two_pow (show e.toNat * 2 ^ 52 + m.toNat < 2 ^ 63 by omega)
  rw [Binary.isNegative, h, Nat.add_assoc]
  cases s with
  | positive =>
    have hpositive : Sign.positive.toBitVec.toNat = 0 := rfl
    rw [hpositive, Nat.zero_mul, Nat.zero_add, hrest]
    simp
  | negative =>
    have hnegative : Sign.negative.toBitVec.toNat = 1 := rfl
    rw [hnegative, Nat.one_mul, Nat.testBit_two_pow_add_eq, hrest]
    simp

def HasSign (s : Sign) : UnpackedFloat → Prop
  | .notANumber => False
  | .infinity t | .zero t | .finite t _ _ _ => t = s

lemma Unsigned.hasSign {u : UnpackedFloat} (h : Unsigned u) : HasSign .positive u :=
  h

lemma HasSign.neg {s : Sign} {u : UnpackedFloat} (h : HasSign s u) : HasSign (-s) u.neg := by
  cases u with
  | notANumber => exact h
  | infinity t => exact congrArg (-·) h
  | zero t => exact congrArg (-·) h
  | finite t m e hm => exact congrArg (-·) h

lemma sign_eq_of_hasSign {s t : Sign} {e : BitVec 11} {m : BitVec 52}
    (h : HasSign s (unpack Format.binary64 (packComponents Format.binary64 t e m))) : t = s := by
  simp only [unpack, unpackMantissa_packComponents, unpackExponent_packComponents,
    unpackSign_packComponents, Sign.ofBitVec_toBitVec] at h
  split_ifs at h
  · exact h
  · exact h.elim
  · exact h
  · exact h
  · exact h

theorem isNegative_iff_of_hasSign {x : Float} {s : Sign} (h : HasSign s x.toModel.unpack) :
    Binary.isNegative x = true ↔ s = .negative := by
  obtain ⟨t, e, m, hbits, hunpack⟩ := exists_bits x
  obtain rfl := sign_eq_of_hasSign (hunpack ▸ h)
  exact isNegative_iff hbits

theorem isNegative_eq_false {x : Float} (h : Unsigned x.toModel.unpack) :
    Binary.isNegative x = false := by
  rw [← Bool.not_eq_true, isNegative_iff_of_hasSign h.hasSign]
  exact nofun

theorem isNegative_neg {x : Float} (h : Unsigned x.toModel.unpack) :
    Binary.isNegative (-x) = true := by
  have hneg : (-x).toModel.unpack = x.toModel.unpack.neg := unpack_neg _
  have hsign : HasSign .negative (-x).toModel.unpack := hneg ▸ h.hasSign.neg
  exact (isNegative_iff_of_hasSign hsign).2 rfl

end Double

end LinearProgram
