/-!
Text grids: a header, a rule below it and rows, every column as wide as its widest cell and every
cell aligned to the right. How wide a line is on a terminal is left to `width`.
-/

namespace LinearProgram.Grid

variable (width : List Char → Nat)

def textOf (n : Nat) (c : Char) : String :=
  String.ofList (List.replicate n c)

def cellLines (cell : String) : List String :=
  (cell.toList.splitOn '\n').map String.ofList

def cellWidth (cell : String) : Nat :=
  ((cellLines cell).map fun line => width line.toList).foldr max 0

def columnWidths : List (List String) → List Nat
  | [] => []
  | [row] => row.map (cellWidth width)
  | row :: rows => List.zipWith max (row.map (cellWidth width)) (columnWidths rows)

def height (row : List String) : Nat :=
  (row.map fun cell => (cellLines cell).length).foldr max 0

def cellLine (w k : Nat) (cell : String) : String :=
  let line := (cellLines cell).getD k ""
  " " ++ textOf (w - cellWidth width cell) ' ' ++ line ++
    textOf (cellWidth width cell - width line.toList) ' ' ++ " "

def rowLine (ws : List Nat) (k : Nat) (row : List String) : String :=
  "|".intercalate (List.zipWith (fun w cell => cellLine width w k cell) ws row)

def rowLines (ws : List Nat) (row : List String) : List String :=
  (List.range (height row)).map fun k => rowLine width ws k row

def ruleLine (ws : List Nat) : String :=
  "+".intercalate (ws.map fun w => textOf (w + 2) '-')

def lines (header : List String) (rows : List (List String)) : List String :=
  let ws := columnWidths width (header :: rows)
  rowLines width ws header ++ ruleLine ws :: rows.flatMap (rowLines width ws)

def render : List (List String) → String
  | [] => ""
  | header :: rows => "\n".intercalate (lines width header rows)

end LinearProgram.Grid
