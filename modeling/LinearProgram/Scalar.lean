import LinearProgram.Decimal

/-!
The numbers that the simplex method runs over. Doubles are what the program computes with;
rationals are what its laws are about.
-/

namespace LinearProgram

class Scalar (α : Type) extends
    Zero α, One α, Add α, Sub α, Mul α, Div α, Neg α, LT α, LE α, BEq α where
  ltDecidable : DecidableLT α
  leDecidable : DecidableLE α
  isFinite : α → Bool
  ofDecimal : Decimal → α

namespace Scalar

instance (priority := low) {α : Type} [Scalar α] : DecidableLT α := Scalar.ltDecidable

instance (priority := low) {α : Type} [Scalar α] : DecidableLE α := Scalar.leDecidable

instance : Scalar Float where
  zero := 0.0
  one := 1.0
  ltDecidable := Float.decLt
  leDecidable := Float.decLe
  isFinite := Float.isFinite
  ofDecimal := Decimal.toFloat

instance : Scalar Rat where
  zero := 0
  one := 1
  ltDecidable := Rat.instDecidableLt
  leDecidable := Rat.instDecidableLe
  isFinite _ := true
  ofDecimal := Decimal.toRat

variable {α : Type} [Scalar α]

def isNegligible (tolerance x : α) : Bool :=
  decide (-tolerance ≤ x) && decide (x ≤ tolerance)

end Scalar

def SignedDecimal.value (α : Type) [Scalar α] (d : SignedDecimal) : α :=
  if d.negative then -Scalar.ofDecimal d.magnitude else Scalar.ofDecimal d.magnitude

end LinearProgram
