import LinearProgram.Decimal.Shortest

namespace LinearProgram

structure Layout where
  isPositional : Int → Bool
  wholeEnd : String
  tie : Shortest.Tie

namespace Layout

def plain : Layout where
  isPositional _ := true
  wholeEnd := ""
  tie := .up

def document : Layout where
  isPositional e := -5 ≤ e && e < 16
  wholeEnd := ".0"
  tie := .even

def withoutEndZeros (n : Nat) (p : Int) : Nat × Int :=
  if n % 10 = 0 ∧ 0 < n then withoutEndZeros (n / 10) (p + 1) else (n, p)
termination_by n
decreasing_by omega

def positional (wholeEnd : String) (n : Nat) (p : Int) : String :=
  let digits := toString n
  if 0 ≤ p then (if n = 0 then digits else digits.pushn '0' p.toNat) ++ wholeEnd
  else
    let places := (-p).toNat
    let padded := ("".pushn '0' (places + 1 - digits.length) ++ digits).toList
    let whole := padded.length - places
    String.ofList (padded.take whole ++ '.' :: padded.drop whole)

def scientific (n : Nat) (e : Int) : String :=
  let digits := (toString n).toList
  let point := if digits.length ≤ 1 then [] else ['.']
  let mark := if e < 0 then "e-" else "e+"
  String.ofList (digits.take 1 ++ point ++ digits.drop 1) ++ mark ++ toString e.natAbs

def writeFinite (l : Layout) (mantissa : Nat) (exponent : Int) : String :=
  let shortest := Shortest.digits l.tie mantissa exponent
  let (n, p) := withoutEndZeros shortest.1 shortest.2
  let e := p + (Shortest.decimalLength n : Int) - 1
  if n = 0 || l.isPositional e then positional l.wholeEnd n p else scientific n e

def write (l : Layout) (x : Float) : String :=
  match Binary.magnitude x with
  | .undefined => "NaN"
  | .infinite => if Binary.isNegative x then "-inf" else "inf"
  | .finite m e => (if Binary.isNegative x then "-" else "") ++ l.writeFinite m e

end Layout

end LinearProgram
