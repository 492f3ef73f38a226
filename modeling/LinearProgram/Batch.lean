import LinearProgram.Block
import LinearProgram.Problem
import LinearProgram.Run

namespace LinearProgram.Block

inductive Failure where
  | malformed (cause : Problem.Error)
  | unsupported (cause : Tableau.Error)
deriving DecidableEq, Repr

def Failure.message : Failure → String
  | malformed cause => cause.message
  | unsupported cause => cause.message

variable (α : Type) [Scalar α]

def read (b : Block) : Except Failure (Problem α) :=
  (Problem.ofLines b.lines).mapError .malformed

variable {α}

def solve (settings : Settings α) (b : Block) : Except Failure (Problem α × Solution α) := do
  let p ← b.read α
  let s ← (p.standard.solve settings).mapError .unsupported
  return (p, s)

end LinearProgram.Block
