import LinearProgram.Decimal

/-!
Names for the variables that standard form adds: `s` and a number that no variable is called by yet.
The number at the end of a name is only read if it fits a word; those that are counted on from it have
no bound.
-/

namespace LinearProgram.SlackName

def ofNumber (k : Nat) : String :=
  "s" ++ toString k

def trailingDigits (name : String) : List Char :=
  (name.toList.reverse.takeWhile Char.isDigit).reverse

def trailingNumber? (name : String) : Option Nat :=
  let digits := trailingDigits name
  let n := Decimal.ofDigits digits
  if digits.isEmpty || Decimal.wordLimit ≤ n then none else some n

def start (names : List String) : Nat :=
  match names.getLast?.bind trailingNumber? with
  | some n => n + 1
  | none => names.length + 1

/-- The first number from `k` on whose name is not among `taken`. A name that is met is struck off,
since it cannot be met again. -/
def search (taken : List String) (k : Nat) : Nat :=
  if ofNumber k ∈ taken then search (taken.erase (ofNumber k)) (k + 1) else k
termination_by taken.length
decreasing_by
  rename_i h
  have := List.length_pos_of_mem h
  rw [List.length_erase_of_mem h]
  omega

def next (names : List String) : String :=
  ofNumber (search names (start names))

end LinearProgram.SlackName
