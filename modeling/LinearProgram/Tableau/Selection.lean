import LinearProgram.Tableau

/-!
Which variable enters the basis and which one leaves it. Among equals the first is taken, in both
choices.
-/

namespace LinearProgram

def firstBest {β : Type} (beats : β → β → Bool) (xs : List β) : Option (β × Nat) :=
  xs.zipIdx.foldl
    (fun best x =>
      match best with
      | none => some x
      | some b => if beats x.1 b.1 then some x else some b)
    none

inductive Entering where
  | improving (j : Nat)
  | level (j : Nat)
  | optimal
deriving DecidableEq, Repr

variable {α : Type} [Scalar α]

namespace Direction

def prefers (d : Direction) (x y : α) : Bool :=
  match d with
  | .maximize => decide (x < y)
  | .minimize => decide (y < x)

def improves (d : Direction) (tolerance x : α) : Bool :=
  match d with
  | .maximize => decide (x < -tolerance)
  | .minimize => decide (tolerance < x)

end Direction

namespace Tableau

def entering (t : Tableau α) (d : Direction) (tolerance : α) (alternateSeen : Bool) : Entering :=
  match firstBest d.prefers t.objective.entries with
  | none => .optimal
  | some (x, j) =>
    if d.improves tolerance x then .improving j
    else if !alternateSeen && Scalar.isNegligible tolerance x &&
        !t.isBasic (t.names.getD j "") then .level j
    else .optimal

def ratios (t : Tableau α) (j : Nat) (tolerance : α) : List (Option α) :=
  t.rows.map fun r => if tolerance < r.entry j then some (r.rhs / r.entry j) else none

def limits (tolerance : α) (ratios : List (Option α)) : List (α × Nat) :=
  ratios.zipIdx.filterMap fun (ratio, i) =>
    (ratio.filter fun x => decide (tolerance < x) && Scalar.isFinite x).map fun x => (x, i)

def leaving (tolerance : α) (ratios : List (Option α)) : Option Nat :=
  (firstBest (fun x y => decide (x.1 < y.1)) (limits tolerance ratios)).map fun best => best.1.2

end Tableau

end LinearProgram
