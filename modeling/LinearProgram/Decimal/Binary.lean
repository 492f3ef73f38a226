namespace LinearProgram

inductive Magnitude where
  | undefined
  | infinite
  -- the product of the mantissa and a power of two
  | finite (mantissa : Nat) (exponent : Int)
deriving DecidableEq, Repr

namespace Binary

def hiddenBit : Nat := 0x10000000000000

def leastExponent : Int := -1074

def isNegative (x : Float) : Bool :=
  x.toBits.toNat.testBit 63

def magnitude (x : Float) : Magnitude :=
  let fraction : Nat := x.toBits.toNat % hiddenBit
  let biased : Nat := x.toBits.toNat / hiddenBit % 2048
  if biased = 2047 then if fraction = 0 then .infinite else .undefined
  else if biased = 0 then .finite fraction leastExponent
  else .finite (hiddenBit + fraction) (leastExponent + (biased - 1 : Nat))

def numerator (b m : Nat) (e : Int) : Nat :=
  m * Nat.pow b e.toNat

def denominator (b : Nat) (e : Int) : Nat :=
  Nat.pow b (-e).toNat

end Binary

end LinearProgram
