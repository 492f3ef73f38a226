import LinearProgram.Decimal.Binary

/-!
Doubles written with a fixed number of decimal places: the exact value is rounded, a tie goes to the
even neighbour.
-/

namespace LinearProgram.Places

/-- The integer nearest to `num / den`, the even one of two. -/
def roundDiv (num den : Nat) : Nat :=
  let q := num / den
  let r := num % den
  if 2 * r < den then q
  else if den < 2 * r then q + 1
  else if q % 2 = 0 then q else q + 1

def scaled (places mantissa : Nat) (exponent : Int) : Nat :=
  roundDiv (Nat.pow 10 places * Binary.numerator 2 mantissa exponent) (Binary.denominator 2 exponent)

def numeral (places n : Nat) : String :=
  let whole := toString (n / Nat.pow 10 places)
  let fraction := toString (n % Nat.pow 10 places)
  if places = 0 then whole
  else whole ++ "." ++ "".pushn '0' (places - fraction.length) ++ fraction

def write (places : Nat) (x : Float) : String :=
  match Binary.magnitude x with
  | .undefined => "NaN"
  | .infinite => if Binary.isNegative x then "-inf" else "inf"
  | .finite m e =>
    (if Binary.isNegative x then "-" else "") ++ numeral places (scaled places m e)

end LinearProgram.Places
