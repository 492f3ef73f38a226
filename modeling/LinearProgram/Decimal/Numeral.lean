import LinearProgram.Decimal

namespace LinearProgram.Numeral

def splitSign : List Char → Bool × List Char
  | '+' :: cs => (false, cs)
  | '-' :: cs => (true, cs)
  | cs => (false, cs)

def digits? (cs : List Char) : Option Nat :=
  if cs.isEmpty || !cs.all Char.isDigit then none else some (Decimal.ofDigits cs)

def count? (s : String) : Option Nat :=
  let cs := match s.toList with
    | '+' :: cs => cs
    | cs => cs
  (digits? cs).filter (· < Decimal.wordLimit)

def named? (cs : List Char) : Option Float :=
  let word := cs.map Char.toLower
  if word = "inf".toList ∨ word = "infinity".toList then some (1.0 / 0.0)
  else if word = "nan".toList then some (0.0 / 0.0)
  else none

def exponent? : List Char → Option Int
  | [] => some 0
  | c :: cs =>
    if c = 'e' ∨ c = 'E' then
      let (negative, ds) := splitSign cs
      (digits? ds).map fun n => if negative then -(n : Int) else n
    else none

def unsigned? (cs : List Char) : Option Float :=
  let whole := cs.takeWhile Char.isDigit
  let behind := cs.dropWhile Char.isDigit
  let fraction := if behind.head? = some '.' then behind.tail.takeWhile Char.isDigit else []
  let rest := if behind.head? = some '.' then behind.tail.dropWhile Char.isDigit else behind
  if whole.isEmpty && fraction.isEmpty then none
  else (exponent? rest).map fun e =>
    let e := e - (fraction.length : Int)
    Float.ofScientific (Decimal.ofDigits (whole ++ fraction)) (e < 0) e.natAbs

def double? (s : String) : Option Float :=
  let (negative, cs) := splitSign s.toList
  ((named? cs).or (unsigned? cs)).map fun x => if negative then -x else x

end LinearProgram.Numeral
