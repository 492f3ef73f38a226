/-!
Numbers as they are written in a line: digits, a point, digits. They are kept exactly.
-/

namespace LinearProgram

/-- The number `digits / 10 ^ places`. -/
structure Decimal where
  digits : Nat
  places : Nat
deriving DecidableEq, Repr

namespace Decimal

def one : Decimal := ⟨1, 0⟩

def ofDigits (cs : List Char) : Nat :=
  cs.foldl (fun n c => 10 * n + (c.toNat - '0'.toNat)) 0

/-- The first number that 64 bits do not hold. -/
def wordLimit : Nat := 0x10000000000000000

def ofLiteral (cs : List Char) : Decimal :=
  let fraction := (cs.dropWhile Char.isDigit).drop 1
  ⟨ofDigits (cs.takeWhile Char.isDigit ++ fraction), fraction.length⟩

def toRat (d : Decimal) : Rat :=
  (d.digits : Rat) / (Nat.pow 10 d.places : Rat)

def toFloat (d : Decimal) : Float :=
  Float.ofScientific d.digits true d.places

end Decimal

structure SignedDecimal where
  negative : Bool
  magnitude : Decimal
deriving DecidableEq, Repr

end LinearProgram
