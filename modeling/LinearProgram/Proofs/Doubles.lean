import Mathlib
import LinearProgram.Proofs.Columns

namespace LinearProgram

namespace Double

open Float.Model (Format UnpackedFloat)
open Float.Model.UnpackedFloat

variable {spec : Format}

lemma unpack_packComponents_neg (s : Sign) (e : BitVec spec.exponentBits)
    (m : BitVec spec.mantissaBitsWithoutImplicit) :
    unpack spec (packComponents spec (-s) e m) =
      (unpack spec (packComponents spec s e m)).neg := by
  simp only [unpack, unpackMantissa_packComponents, unpackExponent_packComponents,
    unpackSign_packComponents, Sign.ofBitVec_toBitVec]
  split
  · split <;> rfl
  · split
    · split <;> rfl
    · rfl

lemma exists_pack_neg (spec : Format) {u : UnpackedFloat} (h : u ≠ .notANumber) :
    ∃ s e m, pack spec u = packComponents spec s e m ∧
      pack spec u.neg = packComponents spec (-s) e m := by
  cases u with
  | notANumber => exact absurd rfl h
  | infinity s => exact ⟨s, _, _, rfl, rfl⟩
  | zero s => exact ⟨s, _, _, rfl, rfl⟩
  | finite s m e hm =>
    simp only [UnpackedFloat.neg, pack]
    split
    · exact ⟨s, _, _, rfl, rfl⟩
    · split <;> exact ⟨s, _, _, rfl, rfl⟩

lemma unpack_pack_neg {b : BitVec spec.numBits} (hv : spec.Valid b)
    (hspec : 2 ≤ spec.exponentBits) :
    unpack spec (pack spec (unpack spec b).neg) = (unpack spec b).neg := by
  by_cases h : unpack spec b = .notANumber
  · rw [h]
    exact unpack_packedNaN
  · obtain ⟨s, e, m, hp, hn⟩ := exists_pack_neg spec h
    rw [hn, unpack_packComponents_neg, ← hp, pack_unpack_of_valid hv hspec]

lemma unpack_neg (x : Float.Model) : (-x).unpack = x.unpack.neg :=
  unpack_pack_neg x.valid (by decide)

lemma zero_lt_neg {u : UnpackedFloat} (h : u.lt (.zero .positive) = true) :
    UnpackedFloat.lt (.zero .positive) u.neg = true := by
  cases u with
  | notANumber => cases h
  | infinity s => cases s <;> trivial
  | zero s => cases h
  | finite s m e hm => cases s <;> trivial

theorem neg_pos_of_neg {x : Float} (h : x < 0.0) : 0.0 < -x := by
  have h0 : (0.0 : Float).toModel.unpack = .zero .positive := rfl
  have hx : x.toModel.unpack.lt (0.0 : Float).toModel.unpack = true := of_decide_eq_true h
  have hneg : (0.0 : Float).toModel.unpack.lt (-x).toModel.unpack = true := by
    rw [h0] at hx ⊢
    exact (congrArg _ (unpack_neg x.toModel)).trans (zero_lt_neg hx)
  exact decide_eq_true hneg

end Double

instance : LawfulSigns Float where
  zero_beq_zero := by decide
  neg_zero_beq_zero := by decide
  zero_add_one := by decide
  neg_zero_add_neg_one := by decide
  neg_pos := Double.neg_pos_of_neg

end LinearProgram
