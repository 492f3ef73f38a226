import LinearProgram.Proofs.Decimals
import LinearProgram.Proofs.Rounding

namespace LinearProgram

namespace Double

open Float.Model (Format UnpackedFloat)
open Float.Model.UnpackedFloat

lemma toNat_append {v w : Nat} (a : BitVec v) (b : BitVec w) :
    (a ++ b).toNat = a.toNat * 2 ^ w + b.toNat := by
  rw [BitVec.toNat_append, ← Nat.shiftLeft_add_eq_or_of_lt b.isLt, Nat.shiftLeft_eq]

lemma ofNat_ne_zero {w n : Nat} (hpos : 0 < n) (hlt : n < 2 ^ w) : BitVec.ofNat w n ≠ 0#w := by
  intro h
  have := congrArg BitVec.toNat h
  rw [BitVec.toNat_ofNat, Nat.mod_eq_of_lt hlt, BitVec.toNat_zero] at this
  omega

lemma finite_congr {s : Sign} {m m' : Nat} {e e' : Int} (hm : 0 < m) (hm' : 0 < m') (h : m = m')
    (h' : e = e') : UnpackedFloat.finite s m e hm = .finite s m' e' hm' := by
  subst h h'
  rfl

lemma unpack_packedInfinity (s : Sign) :
    unpack Format.binary64 (packedInfinity Format.binary64 s) = .infinity s := by
  simp [unpack, packedInfinity]

lemma unpack_of_normal (s : Sign) {e : BitVec 11} (m : BitVec 52) (hlast : e ≠ -1#_)
    (hfirst : e ≠ 0#_) :
    unpack Format.binary64 (packComponents Format.binary64 s e m) =
      .finite s (2 ^ 52 + m.toNat) (e.toNat - 1075) (by positivity) := by
  simp only [unpack, unpackMantissa_packComponents, unpackExponent_packComponents,
    unpackSign_packComponents, Sign.ofBitVec_toBitVec, hlast, hfirst, if_false]
  exact finite_congr _ _ (toNat_append _ m) rfl

lemma unpack_of_subnormal (s : Sign) {m : BitVec 52} (hm : m ≠ 0#_) :
    unpack Format.binary64 (packComponents Format.binary64 s 0#_ m) =
      .finite s m.toNat (-1074) (Nat.pos_of_ne_zero fun h => hm (BitVec.eq_of_toNat_eq h)) := by
  have hlast : (0#11 : BitVec 11) ≠ -1#11 := by decide
  simp only [unpack, unpackMantissa_packComponents, unpackExponent_packComponents,
    unpackSign_packComponents, Sign.ofBitVec_toBitVec, hlast, hm, if_false, if_true, dif_neg,
    not_false_eq_true]
  rfl

variable {m : Nat} {e : Int}

lemma Canonical.log2_eq (h : Canonical m e) (hfull : 2 ^ 52 ≤ m) : m.log2 = 52 :=
  (Nat.log2_eq_iff h.pos.ne').2 ⟨hfull, h.lt⟩

lemma pack_finite (s : Sign) (m : Nat) (e : Int) (hm : 0 < m) :
    pack Format.binary64 (.finite s m e hm) =
      if 2 ^ 11 ≤ (e + 1075).toNat + 1 then packedInfinity Format.binary64 s
      else if m.log2 + 1 = 53 then
        packComponents Format.binary64 s (.ofNat 11 (e + 1075).toNat) (.ofNat 52 m)
      else packComponents Format.binary64 s 0#11 (.ofNat 52 m) := by
  have hbiased : e + (Format.binary64.exponentBias : Int) +
      (Format.binary64.mantissaBitsWithoutImplicit : Int) = e + 1075 := add_assoc _ _ _
  rw [pack, hbiased]
  rfl

lemma unpack_pack_of_canonical (s : Sign) (h : Canonical m e) (he : e ≤ 971) :
    unpack Format.binary64 (pack Format.binary64 (.finite s m e h.pos)) = .finite s m e h.pos := by
  have hle := h.le
  have hlt := h.lt
  rw [pack_finite, if_neg (by omega)]
  by_cases hfull : 2 ^ 52 ≤ m
  · have hexponent : (BitVec.ofNat 11 (e + 1075).toNat).toNat = (e + 1075).toNat := by
      rw [BitVec.toNat_ofNat]
      omega
    have hmantissa : (BitVec.ofNat 52 m).toNat = m - 2 ^ 52 := by
      rw [BitVec.toNat_ofNat]
      omega
    rw [if_pos (by rw [h.log2_eq hfull]), unpack_of_normal]
    · exact finite_congr _ _ (by rw [hmantissa]; omega) (by rw [hexponent]; omega)
    · exact ofNat_ne_allOnes (by omega)
    · exact ofNat_ne_zero (by omega) (by omega)
  · obtain rfl := h.full.resolve_left hfull
    have hlog : m.log2 < 52 := (Nat.log2_lt h.pos.ne').2 (not_le.1 hfull)
    rw [if_neg (by omega), unpack_of_subnormal s (ofNat_ne_zero h.pos (not_le.1 hfull))]
    refine finite_congr _ _ ?_ rfl
    rw [BitVec.toNat_ofNat, Nat.mod_eq_of_lt (not_le.1 hfull)]

lemma unpack_pack_of_large (s : Sign) (hm : 0 < m) (he : 971 < e) :
    unpack Format.binary64 (pack Format.binary64 (.finite s m e hm)) = .infinity s := by
  rw [pack_finite, if_pos (by omega)]
  exact unpack_packedInfinity s

lemma exists_packComponents (b : BitVec Format.binary64.numBits) :
    ∃ (s : Sign) (e : BitVec 11) (m : BitVec 52), b = packComponents Format.binary64 s e m :=
  ⟨_, _, _, (packComponents_unpackSign_unpackExponent_unpackMantissa b).symm⟩

lemma canonical_of_unpack {b : BitVec Format.binary64.numBits} {s : Sign} {hm : 0 < m}
    (h : unpack Format.binary64 b = .finite s m e hm) : Canonical m e ∧ e ≤ 971 := by
  obtain ⟨s', ev, mv, rfl⟩ := exists_packComponents b
  have hev := ev.isLt
  have hmv := mv.isLt
  by_cases hlast : ev = -1#11
  · subst hlast
    by_cases hzero : mv = 0#52 <;> simp [unpack, hzero] at h
  have hlast' : ev.toNat ≠ 2047 := fun heq => hlast (BitVec.eq_of_toNat_eq heq)
  by_cases hfirst : ev = 0#11
  · subst hfirst
    by_cases hzero : mv = 0#52
    · simp [unpack, hzero] at h
    · rw [unpack_of_subnormal _ hzero] at h
      cases h
      exact ⟨⟨hm, by omega, le_rfl, .inr rfl⟩, by norm_num⟩
  · have hfirst' : ev.toNat ≠ 0 := fun heq => hfirst (BitVec.eq_of_toNat_eq heq)
    rw [unpack_of_normal _ _ hlast hfirst] at h
    cases h
    exact ⟨⟨hm, by omega, by omega, .inl (by omega)⟩, by omega⟩

end Double

end LinearProgram
