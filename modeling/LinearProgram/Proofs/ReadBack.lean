import LinearProgram.Proofs.Division
import LinearProgram.Proofs.Numerals
import LinearProgram.Proofs.Shortest

namespace LinearProgram

namespace Layout

open Double
open Float.Model.UnpackedFloat

variable {x : Float} {m : Nat} {e : Int}

lemma write_of_unsigned (hx : Unsigned x.toModel.unpack)
    (hmagnitude : magnitudeOf x.toModel.unpack = .finite m e) :
    plain.write x = plain.writeFinite m e := by
  simp only [write, magnitude_eq, hmagnitude, isNegative_eq_false hx]
  rfl

lemma write_of_not_isFinite (hx : Unsigned x.toModel.unpack) (h : ¬ x.isFinite = true) :
    plain.write x = "inf" := by
  have hinfinite : ¬ x.toModel.unpack.isFinite = true := h
  have hpositive := isNegative_eq_false hx
  cases hu : x.toModel.unpack with
  | notANumber => exact absurd hu hx.ne_notANumber
  | infinity s =>
    rw [write, magnitude_eq, hu, hpositive]
    rfl
  | zero s => exact absurd (hu ▸ rfl) hinfinite
  | finite s m e hm => exact absurd (hu ▸ rfl) hinfinite

lemma magnitudeOf_neg (u : Float.Model.UnpackedFloat) : magnitudeOf u.neg = magnitudeOf u := by
  cases u <;> rfl

theorem write_neg (hx : Unsigned x.toModel.unpack) : plain.write (-x) = "-" ++ plain.write x := by
  have hneg : (-x).toModel.unpack = x.toModel.unpack.neg := unpack_neg _
  have hmagnitude : Binary.magnitude (-x) = Binary.magnitude x := by
    rw [magnitude_eq, magnitude_eq, hneg, magnitudeOf_neg]
  rw [write, write, hmagnitude, isNegative_neg hx, isNegative_eq_false hx, magnitude_eq]
  cases hu : x.toModel.unpack with
  | notANumber => exact absurd hu hx.ne_notANumber
  | infinity s => rfl
  | zero s => simp [magnitudeOf]
  | finite s m e hm => simp [magnitudeOf]

theorem write_value (d : SignedDecimal) : plain.write (d.value Float) =
    (if d.negative then "-" else "") ++ plain.write d.magnitude.toFloat := by
  rw [SignedDecimal.value]
  split
  · exact write_neg (unsigned_toFloat _)
  · exact String.empty_append.symm

lemma writeFinite_zero (e : Int) : plain.writeFinite 0 e = "0" := by
  have hdigits : withoutEndZeros (Shortest.digits .up 0 e).1 (Shortest.digits .up 0 e).2 =
      (0, 0) := by
    rw [Shortest.digits, if_pos rfl, withoutEndZeros]
    rfl
  simp [writeFinite, plain, hdigits, positional]
  rfl

lemma exists_writeFinite_eq (m : Nat) (e : Int) :
    ∃ n p, plain.writeFinite m e = positional "" n p ∧
      (n * 10 ^ p : ℚ) = (Shortest.digits .up m e).1 * 10 ^ (Shortest.digits .up m e).2 := by
  refine ⟨_, _, ?_, withoutEndZeros_value _ _⟩
  simp [writeFinite, plain]

theorem read_write (hfinite : x.isFinite = true) (hx : Unsigned x.toModel.unpack) :
    IsPlainNumeral (plain.write x).toList ∧
      (Decimal.ofLiteral (plain.write x).toList).toFloat = x := by
  cases hu : x.toModel.unpack with
  | notANumber =>
    rw [hu] at hx
    exact hx.elim
  | infinity s =>
    have hinfinite : x.toModel.unpack.isFinite = true := hfinite
    rw [hu] at hinfinite
    cases hinfinite
  | zero s =>
    obtain rfl : s = .positive := by
      rw [hu] at hx
      exact hx
    rw [write_of_unsigned hx (by rw [hu]; rfl), writeFinite_zero]
    refine ⟨.whole (by simp) (by simp), ?_⟩
    rw [← pack_unpack x, hu]
    rfl
  | finite s m e hm =>
    obtain rfl : s = .positive := by
      rw [hu] at hx
      exact hx
    obtain ⟨hcanonical, -⟩ := canonical_of_unpack hu
    obtain ⟨n, p, hwrite, hvalue⟩ := exists_writeFinite_eq m e
    obtain ⟨hplain, hread⟩ := plain_positional n p
    rw [write_of_unsigned hx (by rw [hu]; rfl), hwrite]
    refine ⟨hplain, toFloat_eq hcanonical hu ?_⟩
    rw [hread, hvalue]
    exact Shortest.roundsTo_digits hcanonical .up

end Layout

end LinearProgram
