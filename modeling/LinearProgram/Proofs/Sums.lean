import LinearProgram.Proofs.Packing
import LinearProgram.LinearForm

namespace LinearProgram

namespace Double

open Float.Model (Format UnpackedFloat)
open Float.Model.UnpackedFloat

variable {m : Nat} {e : Int}

lemma holds_exact (m : Nat) (e : Int) :
    Holds (.ofMantissaAndAccuracy m .exact) (m * 2 ^ e / 2 ^ e : ℚ) :=
  mul_zpow_div_self m e

lemma exists_roundWithAccuracy_eq (s : Sign) (hm : 0 < m)
    (he : e ≤ max (m.log2 + e - 52) (-1074)) (hleast : e = -1074 ∨ -1074 ≤ m.log2 + e - 52) :
    ∃ m' e', ∃ h : Canonical m' e',
      roundWithAccuracy Format.binary64 s m e .exact = .finite s m' e' h.pos := by
  have hq := holds_exact m e
  obtain ⟨em, hshift, hholds⟩ := shiftToTargetExponent_holds hq he
  have hlast : -1074 ≤ max (m.log2 + e - 52 : Int) (-1074) := le_max_right _ _
  by_cases hfull : -1074 ≤ (m.log2 : Int) + e - 52
  · -- the whole part has all bits, and rounding may carry into one more
    rw [max_eq_left hfull] at hshift hholds hlast
    have hpow : (0 : ℚ) < 2 ^ (m.log2 + e - 52 : Int) := zpow_pos two_pos _
    have hlow : ((2 ^ 52 : Nat) : ℚ) ≤ m * 2 ^ e / 2 ^ (m.log2 + e - 52 : Int) := by
      rw [le_div_iff₀ hpow, Nat.cast_pow, ← zpow_natCast, Nat.cast_ofNat, ← zpow_add₀ two_ne_zero]
      exact le_of_eq_of_le (by congr 1; push_cast; ring) (hq.binade_le hm)
    have hhigh : m * 2 ^ e / 2 ^ (m.log2 + e - 52 : Int) ≤ ((2 ^ 53 : Nat) : ℚ) := by
      rw [div_le_iff₀ hpow, Nat.cast_pow, ← zpow_natCast, Nat.cast_ofNat, ← zpow_add₀ two_ne_zero]
      exact le_of_le_of_eq hq.lt_binade.le (by congr 1; push_cast; ring)
    have hle := (nearest_self _).le_of_le hholds.nearest hlow
    rcases (hholds.nearest.le_of_le (nearest_self _) hhigh).eq_or_lt with hr | hr
    · exact ⟨2 ^ 52, _, ⟨by norm_num, by norm_num, by omega, .inl le_rfl⟩,
        roundWithAccuracy_carry s hshift hr hlast⟩
    · exact ⟨_, _, ⟨by omega, hr, hlast, .inl hle⟩,
        roundWithAccuracy_of_lt s hshift rfl (by omega) hr hlast⟩
  · -- the bits that are missing are missing already
    obtain rfl := hleast.resolve_right hfull
    rw [max_eq_right (by omega)] at hshift hholds hlast
    rw [mul_zpow_div_self] at hholds
    have hr : em.roundedMantissa = m := hholds.nearest.unique (nearest_self m)
    have hlt : m < 2 ^ 53 := (Nat.log2_lt hm.ne').1 (by omega)
    exact ⟨m, -1074, ⟨hm, hlt, le_rfl, .inr rfl⟩, roundWithAccuracy_of_lt s hshift hr hm hlt hlast⟩

lemma exists_round_eq (s : Sign) (hm : 0 < m) (he : -1074 ≤ e) :
    ∃ m' e', ∃ h : Canonical m' e',
      UnpackedFloat.round Format.binary64 s m e = .finite s m' e' h.pos := by
  rw [UnpackedFloat.round, targetExponent_eq, decreaseExponent]
  set t := max (m.log2 + e - 52 : Int) (-1074) with ht
  set k := (e - t).toNat with hk
  have hlog := log2_shiftLeft hm k
  apply exists_roundWithAccuracy_eq s (Nat.shiftLeft_pos_iff.2 hm)
  · omega
  · omega

lemma unpack_pack_ne_zero (s s' : Sign) (h : Canonical m e) :
    unpack Format.binary64 (pack Format.binary64 (.finite s m e h.pos)) ≠ .zero s' := by
  rcases le_or_gt e 971 with he | he
  · rw [unpack_pack_of_canonical s h he]
    exact nofun
  · rw [unpack_pack_of_large s h.pos he]
    exact nofun

lemma unpack_packedZero_ne :
    unpack Format.binary64 (pack Format.binary64 (.zero .positive)) ≠ .zero .negative :=
  ne_of_eq_of_ne unpack_packedZero nofun

lemma unpack_pack_normalize_ne {n : Int} (he : -1074 ≤ e) :
    unpack Format.binary64 (pack Format.binary64
      (UnpackedFloat.normalize Format.binary64 n e .positive)) ≠ .zero .negative := by
  rcases lt_trichotomy n 0 with hn | rfl | hn
  · obtain ⟨m', e', h, hround⟩ := exists_round_eq .negative (m := (-n).toNat) (by omega) he
    simp only [UnpackedFloat.normalize, Int.compare_eq_lt.2 hn, hround]
    exact unpack_pack_ne_zero _ _ h
  · exact unpack_packedZero_ne
  · obtain ⟨m', e', h, hround⟩ := exists_round_eq .positive (m := n.toNat) (by omega) he
    simp only [UnpackedFloat.normalize, Int.compare_eq_gt.2 hn, hround]
    exact unpack_pack_ne_zero _ _ h

def IsNegativeZero (x : Float) : Prop :=
  x.toModel.unpack = .zero .negative

lemma not_isNegativeZero_add {x y : Float} (hx : ¬ IsNegativeZero x) :
    ¬ IsNegativeZero (x + y) := by
  change unpack Format.binary64 (pack Format.binary64
    (UnpackedFloat.add Format.binary64 x.toModel.unpack y.toModel.unpack)) ≠ .zero .negative
  rw [IsNegativeZero] at hx
  have hnan : unpack Format.binary64 (pack Format.binary64 .notANumber) ≠ .zero .negative :=
    ne_of_eq_of_ne unpack_packedNaN nofun
  have hinf : ∀ s, unpack Format.binary64 (pack Format.binary64 (.infinity s)) ≠
      .zero .negative := fun s => ne_of_eq_of_ne (unpack_packedInfinity s) nofun
  cases hu : x.toModel.unpack with
  | notANumber => exact hnan
  | infinity s =>
    cases hv : y.toModel.unpack with
    | notANumber => exact hnan
    | infinity s' =>
      simp only [UnpackedFloat.add]
      split
      · exact hinf s
      · exact hnan
    | zero s' => exact hinf s
    | finite s' m' e' hm' => exact hinf s
  | zero s =>
    obtain rfl : s = .positive := by
      cases s with
      | positive => rfl
      | negative => exact absurd hu hx
    cases hv : y.toModel.unpack with
    | notANumber => exact hnan
    | infinity s' => exact hinf s'
    | zero s' => cases s' <;> exact unpack_packedZero_ne
    | finite s' m' e' hm' => exact unpack_pack_ne_zero _ _ (canonical_of_unpack hv).1
  | finite s m e hm =>
    cases hv : y.toModel.unpack with
    | notANumber => exact hnan
    | infinity s' => exact hinf s'
    | zero s' => exact unpack_pack_ne_zero _ _ (canonical_of_unpack hu).1
    | finite s' m' e' hm' =>
      have := (canonical_of_unpack hu).1.le
      have := (canonical_of_unpack hv).1.le
      exact unpack_pack_normalize_ne (by omega)

lemma unpackedAdd_zero {u : UnpackedFloat} (hu : u ≠ .zero .negative) (s s' : Sign) :
    UnpackedFloat.add Format.binary64 u (.zero s) =
      UnpackedFloat.add Format.binary64 u (.zero s') := by
  cases u with
  | zero s'' =>
    cases s'' with
    | positive => cases s <;> cases s' <;> rfl
    | negative => exact absurd rfl hu
  | notANumber => rfl
  | infinity s'' => rfl
  | finite s'' m e hm => rfl

lemma add_eq_add_of_zero {x y z : Float} (hx : ¬ IsNegativeZero x) {s s' : Sign}
    (hy : y.toModel.unpack = .zero s) (hz : z.toModel.unpack = .zero s') : x + y = x + z := by
  have hadd : ∀ y : Float, x + y = .ofModel (.pack
      (UnpackedFloat.add Format.binary64 x.toModel.unpack y.toModel.unpack)) := fun _ => rfl
  rw [hadd, hadd, hy, hz, unpackedAdd_zero hx s s']

def EqUpToZeroSign (x y : Float) : Prop :=
  x = y ∨ ∃ s s', x.toModel.unpack = .zero s ∧ y.toModel.unpack = .zero s'

lemma EqUpToZeroSign.add_eq {x y z : Float} (h : EqUpToZeroSign y z) (hx : ¬ IsNegativeZero x) :
    x + y = x + z := by
  obtain rfl | ⟨s, s', hy, hz⟩ := h
  · rfl
  · exact add_eq_add_of_zero hx hy hz

end Double

namespace LinearForm

open Double

variable {columns : List String} {dense : List Float}

lemma not_isNegativeZero_addTerm (h : ∀ x ∈ dense, ¬ IsNegativeZero x) (c : Float)
    (name : String) : ∀ x ∈ addTerm columns dense c name, ¬ IsNegativeZero x := by
  intro x hx
  obtain ⟨k, hk⟩ := List.getElem?_of_mem hx
  rw [addTerm, List.getElem?_modify] at hk
  obtain ⟨y, hy, rfl⟩ := Option.map_eq_some_iff.1 hk
  have := h y (List.mem_of_getElem? hy)
  split
  · exact not_isNegativeZero_add this
  · exact this

lemma addTerm_congr {c c' : Float} (h : ∀ x ∈ dense, ¬ IsNegativeZero x)
    (hc : EqUpToZeroSign c c') (name : String) :
    addTerm columns dense c name = addTerm columns dense c' name := by
  refine List.ext_getElem? fun k => ?_
  rw [addTerm, addTerm, List.getElem?_modify, List.getElem?_modify]
  cases hk : dense[k]? with
  | none => simp only [Option.map_eq_map, Option.map_none]
  | some x =>
    have := hc.add_eq (h x (List.mem_of_getElem? hk))
    simp only [Option.map_eq_map, Option.map_some]
    rw [this]

theorem densify_congr {ts us : List (Float × String)}
    (h : List.Forall₂ (fun t u => EqUpToZeroSign t.1 u.1 ∧ t.2 = u.2) ts us) :
    densify columns ts = densify columns us := by
  suffices hfold : ∀ dense : List Float, (∀ x ∈ dense, ¬ IsNegativeZero x) →
      ts.foldl (fun dense t => addTerm columns dense t.1 t.2) dense =
        us.foldl (fun dense t => addTerm columns dense t.1 t.2) dense by
    refine hfold _ fun x hx => ?_
    rw [List.eq_of_mem_replicate hx]
    exact nofun
  induction h with
  | nil => exact fun _ _ => rfl
  | cons ht _ ih =>
    intro dense hdense
    rw [List.foldl_cons, List.foldl_cons, addTerm_congr hdense ht.1, ht.2]
    exact ih _ (not_isNegativeZero_addTerm hdense _ _)

end LinearForm

end LinearProgram
