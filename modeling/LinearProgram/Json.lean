import LinearProgram.Decimal.Layout

namespace LinearProgram

inductive Json where
  | null
  | text (s : String)
  | count (n : Nat)
  | number (x : Float)
  | list (items : List Json)
  | object (fields : List (String × Json))

namespace Json

def ofOption {β : Type} (f : β → Json) : Option β → Json
  | none => null
  | some b => f b

def ofList {β : Type} (f : β → Json) (bs : List β) : Json :=
  list (bs.map f)

def hexDigit (n : Nat) : Char :=
  if n < 10 then Char.ofNat ('0'.toNat + n) else Char.ofNat ('a'.toNat + (n - 10))

def escapeChar (c : Char) : List Char :=
  if c = '"' then ['\\', '"']
  else if c = '\\' then ['\\', '\\']
  else if c = '\x08' then ['\\', 'b']
  else if c = '\t' then ['\\', 't']
  else if c = '\n' then ['\\', 'n']
  else if c = '\x0c' then ['\\', 'f']
  else if c = '\r' then ['\\', 'r']
  else if c.toNat < 0x20 then
    ['\\', 'u', '0', '0', hexDigit (c.toNat / 16), hexDigit (c.toNat % 16)]
  else [c]

def quote (s : String) : String :=
  String.ofList ('"' :: (s.toList.flatMap escapeChar ++ ['"']))

def numeral (x : Float) : String :=
  if x.isFinite then Layout.document.write x else "null"

def indentation (depth : Nat) : String :=
  String.ofList (List.replicate (2 * depth) ' ')

def enclose (opening closing : String) (depth : Nat) (parts : List String) : String :=
  if parts.isEmpty then opening ++ closing
  else
    let inner := indentation (depth + 1)
    opening ++ "\n" ++ ",\n".intercalate (parts.map (inner ++ ·)) ++ "\n" ++ indentation depth ++
      closing

def inKeyOrder (fields : List (String × String)) : List (String × String) :=
  fields.mergeSort fun a b => !decide (b.1 < a.1)

mutual

def writeAt (depth : Nat) : Json → String
  | null => "null"
  | text s => quote s
  | count n => toString n
  | number x => numeral x
  | list items => enclose "[" "]" depth (writeItems (depth + 1) items)
  | object fields =>
    enclose "\x7b" "\x7d" depth ((inKeyOrder (writeFields (depth + 1) fields)).map fun f =>
      quote f.1 ++ ": " ++ f.2)

def writeItems (depth : Nat) : List Json → List String
  | [] => []
  | item :: items => writeAt depth item :: writeItems depth items

def writeFields (depth : Nat) : List (String × Json) → List (String × String)
  | [] => []
  | (key, value) :: fields => (key, writeAt depth value) :: writeFields depth fields

end

def write (j : Json) : String :=
  writeAt 0 j

end Json

end LinearProgram
