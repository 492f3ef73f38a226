import LinearProgram.StandardForm

/-!
The dense simplex tableau. Row 0 is the objective row, and each further row holds one constraint.
Column 0 belongs to the value of the objective, the columns behind it to the variables in their
order, and the last one holds the right-hand sides.

Functions whose names end in a question mark take rows and columns counted in this way and refuse
those that the tableau does not have. All others count constraint rows and variables from zero.
-/

namespace LinearProgram

structure Row (α : Type) where
  z : α
  entries : List α
  rhs : α
deriving DecidableEq, Repr

namespace Row

variable {α : Type}

def toList (r : Row α) : List α :=
  r.z :: (r.entries ++ [r.rhs])

variable [Scalar α]

def zero : Row α :=
  ⟨0, [], 0⟩

def entry (r : Row α) (j : Nat) : α :=
  r.entries.getD j 0

def divide (r : Row α) (a : α) : Row α :=
  ⟨r.z / a, r.entries.map (· / a), r.rhs / a⟩

def eliminate (r p : Row α) (factor : α) : Row α :=
  if factor == 0 then r
  else ⟨r.z - factor * p.z, r.entries.zipWith (fun x y => x - factor * y) p.entries,
    r.rhs - factor * p.rhs⟩

def clear (r p : Row α) (j : Nat) : Row α :=
  r.eliminate p (r.entry j)

end Row

structure Tableau (α : Type) where
  names : List String
  basis : List String
  objective : Row α
  rows : List (Row α)
deriving DecidableEq, Repr

namespace Tableau

variable {α : Type}

def allRows (t : Tableau α) : List (Row α) :=
  t.objective :: t.rows

def rowCount (t : Tableau α) : Nat :=
  t.rows.length + 1

def columnCount (t : Tableau α) : Nat :=
  t.names.length + 2

def rhsColumn (t : Tableau α) : Nat :=
  t.names.length + 1

def objectiveValue (t : Tableau α) : α :=
  t.objective.rhs

def isBasic (t : Tableau α) (name : String) : Bool :=
  t.basis.contains name

def rowAt? (t : Tableau α) (row : Nat) : Option (List α) :=
  t.allRows[row]?.map Row.toList

def entryAt? (t : Tableau α) (row col : Nat) : Option α :=
  (t.rowAt? row).bind fun r => r[col]?

def rhsAt? (t : Tableau α) (row : Nat) : Option α :=
  t.allRows[row]?.map Row.rhs

def variableAt? (t : Tableau α) : Nat → Option String
  | 0 => none
  | j + 1 => t.names[j]?

def columnOf? (t : Tableau α) (name : String) : Option Nat :=
  if name ∈ t.names then some (t.names.idxOf name + 1) else none

variable [Scalar α]

def basicValues (t : Tableau α) : List α :=
  (t.basis.zip t.rows).foldl (fun values b => values.set (t.names.idxOf b.1) b.2.rhs)
    (List.replicate t.names.length 0)

def isUnitColumn? (t : Tableau α) (col row : Nat) (tolerance : α) : Option Bool :=
  (t.allRows.mapM fun r => r.toList[col]?).map fun column =>
    column.zipIdx.all fun (x, i) =>
      Scalar.isNegligible tolerance (x - if i = row then 1 else 0)

def pivot (t : Tableau α) (i j : Nat) : Tableau α :=
  let r := t.rows.getD i Row.zero
  let p := r.divide (r.entry j)
  { names := t.names
    basis := t.basis.set i (t.names.getD j "")
    objective := t.objective.clear p j
    rows := (t.rows.map fun r => r.clear p j).set i p }

def pivot? (t : Tableau α) (row col : Nat) : Option (Tableau α) :=
  if 1 ≤ row ∧ row ≤ t.rows.length ∧ 1 ≤ col ∧ col ≤ t.names.length then
    some (t.pivot (row - 1) (col - 1))
  else none

end Tableau

end LinearProgram
