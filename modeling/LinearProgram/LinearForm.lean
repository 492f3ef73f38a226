import LinearProgram.Scalar

namespace LinearProgram

structure LinearForm (α : Type) where
  coefficients : List α
  constant : α
deriving DecidableEq, Repr

namespace LinearForm

inductive Error where
  | lengthMismatch (expected found : Nat)
  | unknownVariable (name : String)
deriving DecidableEq, Repr

def Error.message : Error → String
  | lengthMismatch expected found =>
    "Expected " ++ toString expected ++ " coefficients, found " ++ toString found
  | unknownVariable name => "Unknown variable: " ++ name

variable {α : Type} [Scalar α]

def width (f : LinearForm α) : Nat :=
  f.coefficients.length

def negated (f : LinearForm α) : LinearForm α :=
  ⟨f.coefficients.map fun c => -c, -f.constant⟩

def addTerm (columns : List String) (dense : List α) (c : α) (name : String) : List α :=
  dense.modify (columns.idxOf name) (· + c)

def densify (columns : List String) (terms : List (α × String)) : List α :=
  terms.foldl (fun dense t => addTerm columns dense t.1 t.2) (List.replicate columns.length 0)

def ofTerms (coefficients : List α) (names : List String) (constant : α) (columns : List String) :
    Except Error (LinearForm α) :=
  if coefficients.length ≠ names.length then
    .error (.lengthMismatch names.length coefficients.length)
  else
    match names.find? (fun n => !columns.contains n) with
    | some n => .error (.unknownVariable n)
    | none => .ok ⟨densify columns (coefficients.zip names), constant⟩

end LinearForm

end LinearProgram
