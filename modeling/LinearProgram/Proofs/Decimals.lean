import LinearProgram.Decimal.Binary
import LinearProgram.Proofs.Doubles
import LinearProgram.Proofs.Refusals

namespace LinearProgram

namespace Double

open Float.Model (Format UnpackedFloat)
open Float.Model.UnpackedFloat

def Unsigned : UnpackedFloat → Prop
  | .notANumber => False
  | .infinity s | .zero s | .finite s _ _ _ => s = .positive

section Packing

variable {spec : Format}

lemma unsigned_unpack_packComponents (e : BitVec spec.exponentBits)
    (m : BitVec spec.mantissaBitsWithoutImplicit) (h : e = -1#_ → m = 0#_) :
    Unsigned (unpack spec (packComponents spec .positive e m)) := by
  simp only [unpack, unpackMantissa_packComponents, unpackExponent_packComponents,
    unpackSign_packComponents, Sign.ofBitVec_toBitVec]
  split_ifs with he hm hz hm
  · rfl
  · exact hm (h he)
  · rfl
  · rfl
  · rfl

lemma ofNat_ne_allOnes {w n : Nat} (h : n + 1 < 2 ^ w) : BitVec.ofNat w n ≠ -1#w := by
  intro heq
  have := congrArg BitVec.toNat heq
  rw [BitVec.neg_one_eq_allOnes, BitVec.toNat_allOnes, BitVec.toNat_ofNat,
    Nat.mod_eq_of_lt (by omega)] at this
  omega

lemma unsigned_unpack_pack {u : UnpackedFloat} (h : Unsigned u) :
    Unsigned (unpack spec (pack spec u)) := by
  cases u with
  | notANumber => exact h.elim
  | infinity s =>
    obtain rfl : s = .positive := h
    exact unsigned_unpack_packComponents _ _ fun _ => rfl
  | zero s =>
    obtain rfl : s = .positive := h
    exact unsigned_unpack_packComponents _ _ fun _ => rfl
  | finite s m e hm =>
    obtain rfl : s = .positive := h
    simp only [pack]
    split_ifs with hlarge hnormal
    · exact unsigned_unpack_packComponents _ _ fun _ => rfl
    · exact unsigned_unpack_packComponents _ _ fun he => absurd he (ofNat_ne_allOnes (by omega))
    · refine unsigned_unpack_packComponents _ _ fun he => absurd he ?_
      have := Nat.one_lt_two_pow spec.he.ne'
      exact ofNat_ne_allOnes (by omega)

lemma unsigned_roundWithAccuracy (m : Nat) (e : Int) (a : Accuracy) :
    Unsigned (roundWithAccuracy spec .positive m e a) := by
  simp only [roundWithAccuracy]
  split_ifs <;> rfl

lemma unsigned_normalize (n : Nat) (e : Int) :
    Unsigned (UnpackedFloat.normalize spec n e .positive) := by
  rcases Nat.eq_zero_or_pos n with rfl | hn
  · rfl
  · have : compare (n : Int) 0 = .gt := Int.compare_eq_gt.2 (by omega)
    simp only [UnpackedFloat.normalize, this]
    exact unsigned_roundWithAccuracy _ _ _

lemma unsigned_div {u : UnpackedFloat} (hu : Unsigned u) (m : Nat) (e : Int) (hm : 0 < m) :
    Unsigned (UnpackedFloat.div spec u (.finite .positive m e hm)) := by
  cases u with
  | notANumber => exact hu.elim
  | infinity s =>
    obtain rfl : s = .positive := hu
    rfl
  | zero s =>
    obtain rfl : s = .positive := hu
    rfl
  | finite s m e hm =>
    obtain rfl : s = .positive := hu
    exact unsigned_roundWithAccuracy _ _ _

lemma unsigned_ofScientific (m : Nat) (e : Int) :
    Unsigned (UnpackedFloat.ofScientific spec m e) := by
  rw [UnpackedFloat.ofScientific]
  split_ifs
  · rfl
  · rfl
  · rfl
  · exact unsigned_roundWithAccuracy _ _ _
  · exact unsigned_div (u := .finite .positive _ _ _) rfl _ _ _

end Packing

def isNatural (n : Nat) : UnpackedFloat → Bool
  | .finite .positive m e _ => Binary.numerator 2 m e == n * Binary.denominator 2 e
  | _ => false

lemma exists_of_isNatural {n : Nat} {u : UnpackedFloat} (h : isNatural n u = true) :
    ∃ m e hm, u = .finite .positive m e hm ∧
      Binary.numerator 2 m e = n * Binary.denominator 2 e := by
  match u with
  | .finite .positive m e hm => exact ⟨m, e, hm, rfl, eq_of_beq h⟩

lemma isNatural_powerOfTen : ∀ i : Fin 23,
    isNatural (10 ^ i.val) Float.exactlyRepresentablePowersOfTen[i].toModel.unpack = true := by
  decide +kernel

theorem unsigned_toFloat (d : Decimal) : Unsigned d.toFloat.toModel.unpack := by
  rw [Decimal.toFloat, Float.ofScientific]
  by_cases h : d.digits < 2 ^ 53 ∧ d.places ≤ 22
  · rw [dif_pos h, if_pos rfl]
    obtain ⟨m, e, hm, hpower, -⟩ := exists_of_isNatural
      (isNatural_powerOfTen ⟨d.places, Nat.lt_succ_of_le h.2⟩)
    rw [Fin.getElem_fin] at hpower
    refine unsigned_unpack_pack ?_
    rw [hpower]
    exact unsigned_div (unsigned_unpack_pack (unsigned_normalize _ 0)) m e hm
  · rw [dif_neg h]
    exact unsigned_unpack_pack (unsigned_ofScientific _ _)

lemma pos_iff {x : Float} :
    0.0 < x ↔ UnpackedFloat.lt (.zero .positive) x.toModel.unpack = true :=
  ⟨of_decide_eq_true, decide_eq_true⟩

lemma neg_iff {x : Float} :
    x < 0.0 ↔ x.toModel.unpack.lt (.zero .positive) = true :=
  ⟨of_decide_eq_true, decide_eq_true⟩

lemma not_neg_of_pos {x : Float} (h : 0.0 < x) : ¬ x < 0.0 := by
  rw [pos_iff] at h
  rw [neg_iff]
  cases hx : x.toModel.unpack with
  | notANumber => exact nofun
  | infinity s => cases s <;> simp_all [UnpackedFloat.lt, UnpackedFloat.compare]
  | zero s => exact nofun
  | finite s m e hm => cases s <;> simp_all [UnpackedFloat.lt, UnpackedFloat.compare]

lemma nonneg_iff {x : Float} (h : x.toModel.unpack ≠ .notANumber) : 0.0 ≤ x ↔ ¬ x < 0.0 := by
  have hle : 0.0 ≤ x ↔ UnpackedFloat.le (.zero .positive) x.toModel.unpack = true :=
    ⟨of_decide_eq_true, decide_eq_true⟩
  rw [hle, neg_iff]
  cases hx : x.toModel.unpack with
  | notANumber => exact absurd hx h
  | infinity s => cases s <;> simp [UnpackedFloat.lt, UnpackedFloat.le, UnpackedFloat.compare]
  | zero s => simp [UnpackedFloat.lt, UnpackedFloat.le, UnpackedFloat.compare]
  | finite s m e hm =>
    cases s <;> simp [UnpackedFloat.lt, UnpackedFloat.le, UnpackedFloat.compare]

lemma Unsigned.ne_notANumber {u : UnpackedFloat} (h : Unsigned u) : u ≠ .notANumber := by
  rintro rfl
  exact h

lemma neg_ne_notANumber {u : UnpackedFloat} (h : u ≠ .notANumber) : u.neg ≠ .notANumber := by
  cases u <;> simp_all [UnpackedFloat.neg]

lemma value_ne_notANumber (d : SignedDecimal) :
    (d.value Float).toModel.unpack ≠ .notANumber := by
  have h := (unsigned_toFloat d.magnitude).ne_notANumber
  rw [SignedDecimal.value]
  split
  · exact ne_of_eq_of_ne (unpack_neg _) (neg_ne_notANumber h)
  · exact h

end Double

instance : OrderedSigns Float where
  not_neg_of_pos := Double.not_neg_of_pos
  nonneg_iff d := Double.nonneg_iff (Double.value_ne_notANumber d)

end LinearProgram
