import LinearProgram.Decimal.Binary

/-!
The fewest decimal digits that lie closer to a double than to any other, and of those the nearest.
-/

namespace LinearProgram.Shortest

open Binary

def decimalLength (n : Nat) : Nat :=
  if n = 0 then 0 else decimalLength (n / 10) + 1
termination_by n
decreasing_by omega

def leadingExponent (num den : Nat) : Int :=
  if den ≤ num then (decimalLength (num / den) : Int) - 1
  else -(decimalLength ((den - 1) / num) : Int)

inductive Tie where
  | even
  | up
deriving DecidableEq, Repr

def Tie.takesLower (tie : Tie) (below : Nat) : Bool :=
  tie = .even && below % 2 = 0

/-- The reals that round to `4 * mantissa * 2 ^ exponent`, as multiples of `2 ^ exponent`. The lower
neighbour of a power of two is half as far away as the upper one. -/
structure Interval where
  low : Nat
  mid : Nat
  high : Nat
  exponent : Int
  closed : Bool

def Interval.around (mantissa : Nat) (exponent : Int) : Interval where
  low := 4 * mantissa - if mantissa = hiddenBit ∧ exponent ≠ leastExponent then 1 else 2
  mid := 4 * mantissa
  high := 4 * mantissa + 2
  exponent := exponent - 2
  closed := mantissa % 2 = 0

def Interval.pick (i : Interval) (tie : Tie) (p : Int) : Option Nat :=
  let unit := numerator 10 1 p * denominator 2 i.exponent
  let scale := numerator 2 1 i.exponent * denominator 10 p
  let inside (c : Nat) : Bool :=
    if i.closed then i.low * scale ≤ c * unit && c * unit ≤ i.high * scale
    else i.low * scale < c * unit && c * unit < i.high * scale
  let below := i.mid * scale / unit
  let twice := 2 * (i.mid * scale)
  let between := (2 * below + 1) * unit
  match inside below, inside (below + 1) with
  | true, true =>
    some (if twice < between || twice = between && tie.takesLower below then below else below + 1)
  | true, false => some below
  | false, true => some (below + 1)
  | false, false => none

def maxDigits : Nat := 17

def digits (tie : Tie) (mantissa : Nat) (exponent : Int) : Nat × Int :=
  if mantissa = 0 then (0, 0)
  else
    let lead := leadingExponent (numerator 2 mantissa exponent) (denominator 2 exponent)
    let i := Interval.around mantissa exponent
    ((List.range maxDigits).findSome? fun (k : Nat) =>
      let p := lead - (k : Int)
      (i.pick tie p).map fun c => (c, p)).getD (0, 0)

end LinearProgram.Shortest
