import LinearProgram.Token
import LinearProgram.Unicode.Blank
import LinearProgram.Unicode.Letter

/-!
Scanning: a line as its longest lexemes from left to right, with the white space between them left
out and the end of the line as the last token.
-/

namespace LinearProgram

open Unicode

namespace Lexeme

def isNameStart (c : Char) : Bool :=
  isAlphabetic c || c == '_'

def isNamePart (c : Char) : Bool :=
  isAlphanumeric c || c == '_'

def fraction : List Char → List Char
  | '.' :: r => if (r.head?.any Char.isDigit) then '.' :: r.takeWhile Char.isDigit else []
  | _ => []

def number (r : List Char) : List Char :=
  r.takeWhile Char.isDigit ++ fraction (r.dropWhile Char.isDigit)

def equals : List Char → List Char
  | '=' :: _ => ['=']
  | _ => []

/-- The kind of the lexeme that starts with `c`, and the characters of `r` that belong to it. -/
def continuation (c : Char) (r : List Char) : TokenKind × List Char :=
  if c == '#' then (.comment, r)
  else if c == '+' then (.plus, [])
  else if c == '-' then (.minus, [])
  else if c == '*' then (.star, [])
  else if c == ':' then (.colon, [])
  else if c == '=' then (.equal, equals r)
  else if c == '<' then if equals r = [] then (.unknown, []) else (.atMost, equals r)
  else if c == '>' then if equals r = [] then (.unknown, []) else (.atLeast, equals r)
  else if c == '.' then if fraction (c :: r) = [] then (.unknown, []) else (.number, (fraction (c :: r)).tail)
  else if c.isDigit then (.number, number r)
  else if isNameStart c then (.name, r.takeWhile isNamePart)
  else (.unknown, [])

end Lexeme

def byteLength : List Char → Nat
  | [] => 0
  | c :: cs => c.utf8Size + byteLength cs

namespace Token

def scanFrom (pos : Nat) : List Char → List Token
  | [] => [⟨.finish, ⟨pos, pos⟩, ""⟩]
  | c :: r =>
    if isBlank c then scanFrom (pos + c.utf8Size) r
    else
      let text := c :: (Lexeme.continuation c r).2
      let stop := pos + byteLength text
      ⟨(Lexeme.continuation c r).1, ⟨pos, stop⟩, String.ofList text⟩ ::
        scanFrom stop (r.drop (Lexeme.continuation c r).2.length)
termination_by cs => cs.length

def scan (source : String) : List Token :=
  scanFrom 0 source.toList

def significant (source : String) : List Token :=
  (scan source).filter fun t => t.kind != .comment

end Token

end LinearProgram
