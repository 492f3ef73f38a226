import LinearProgram.Line
import LinearProgram.Decimal.Layout

namespace LinearProgram

namespace Term

/-- A zero has no sign here, whatever the line said. -/
def isWrittenNegative (t : Term) : Bool :=
  t.coefficient.negative && decide (0 < t.coefficient.magnitude.toFloat)

def body (t : Term) : String :=
  let m := t.coefficient.magnitude.toFloat
  (if m == 1 then "" else Layout.plain.write m) ++ t.name

def writeFirst (t : Term) : String :=
  (if t.isWrittenNegative then "-" else "") ++ t.body

def writeFurther (t : Term) : String :=
  (if t.isWrittenNegative then " - " else " + ") ++ t.body

def writeAll : List Term → String
  | [] => ""
  | t :: ts => t.writeFirst ++ String.join (ts.map writeFurther)

end Term

def Objective.write (o : Objective) : String :=
  o.direction.text ++ ": " ++ o.name ++ " = " ++ Term.writeAll o.terms

def Constraint.write (c : Constraint) : String :=
  Term.writeAll c.terms ++ " " ++ c.relation.text ++ " " ++
    Layout.plain.write (c.bound.value Float)

end LinearProgram
