import LinearProgram.Grid
import LinearProgram.Report.Amount
import LinearProgram.Tableau
import LinearProgram.Unicode.Width

namespace LinearProgram.Tableau

def gridHeader {α : Type} (t : Tableau α) : List String :=
  "Basic" :: "z" :: (t.names ++ ["RHS"])

def gridRow (label : String) (r : Row Float) : List String :=
  label :: r.toList.map Report.amount

def gridRows (t : Tableau Float) : List (List String) :=
  List.zipWith gridRow ("z" :: t.basis) t.allRows

def renderWith (layout : List (List String) → String) (t : Tableau Float) : String :=
  layout (t.gridHeader :: t.gridRows)

def render (t : Tableau Float) : String :=
  t.renderWith (Grid.render Unicode.width)

end LinearProgram.Tableau
