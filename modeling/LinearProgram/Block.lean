import LinearProgram.Unicode.Blank

/-!
A text holds any number of linear programs. Each is a block of lines; blank lines stand between
blocks, and headings and comment lines are left out.
-/

namespace LinearProgram

structure Block where
  -- blocks and the lines of the text are counted from one
  index : Nat
  line : Nat
  lines : List String
deriving DecidableEq, Repr

namespace Block

structure Row where
  number : Nat
  content : List Char
deriving DecidableEq, Repr

def Row.isBlank (r : Row) : Bool :=
  r.content.isEmpty

def Row.isSkipped (r : Row) : Bool :=
  "#".toList.isPrefixOf r.content || "Subject".toList.isPrefixOf r.content

def rows (source : String) : List Row :=
  (source.toList.splitOn '\n').zipIdx 1 |>.map fun (cs, n) => ⟨n, Unicode.trim cs⟩

def groups (rs : List Row) : List (List Row) :=
  ((rs.filter fun r => !r.isSkipped).splitOnP Row.isBlank).filter fun g => !g.isEmpty

def ofGroup (g : List Row) (index : Nat) : Block where
  index := index
  line := (g.head?.map Row.number).getD 0
  lines := g.map fun r => String.ofList r.content

def ofText (source : String) : List Block :=
  (groups (rows source)).zipIdx 1 |>.map fun (g, i) => ofGroup g i

end Block

end LinearProgram
