import LinearProgram.Decimal.Places
import LinearProgram.Unicode.Blank

/-!
Amounts as reports and grids show them: at most three decimal places, no zeros at the end of them,
no sign before zero.
-/

namespace LinearProgram.Report

def cutZeros (numeral : String) : String :=
  String.ofList <| Unicode.dropTrailing (· == '.') <| Unicode.dropTrailing (· == '0') numeral.toList

def amount (x : Float) : String :=
  let cut := cutZeros (Places.write 3 x)
  if cut = "-0" ∨ cut = "" then "0" else cut

end LinearProgram.Report
