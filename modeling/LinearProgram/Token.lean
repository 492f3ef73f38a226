namespace LinearProgram

/-- The bytes from `start` up to and without `stop`. -/
structure Span where
  start : Nat
  stop : Nat
deriving DecidableEq, Repr, Inhabited

def Span.join (a b : Span) : Span :=
  ⟨min a.start b.start, max a.stop b.stop⟩

inductive TokenKind where
  | name
  | number
  | plus
  | minus
  | star
  | colon
  | atMost
  | atLeast
  | equal
  | comment
  | finish
  | unknown
deriving DecidableEq, Repr, Inhabited

structure Token where
  kind : TokenKind
  span : Span
  text : String
deriving DecidableEq, Repr, Inhabited

namespace Token

def isSign (t : Token) : Bool :=
  t.kind = .plus || t.kind = .minus

def isRelation (t : Token) : Bool :=
  t.kind = .atMost || t.kind = .atLeast || t.kind = .equal

def coverage (ts : List Token) : Span :=
  (ts.head?.map Token.span).getD default |>.join ((ts.getLast?.map Token.span).getD default)

end Token

end LinearProgram
