import LinearProgram.Line
import LinearProgram.Line.Error
import LinearProgram.Token.Scan

/-!
Reading lines by descent over their tokens. A reader takes the tokens that are left and returns what
it read with the tokens behind it, or the reason why the first token it cannot use is out of place.
-/

namespace LinearProgram

namespace Reading

def refuse (e : Expectation) : List Token → LineError
  | [] => .unexpectedEnd e
  | t :: _ => if t.kind = .finish then .unexpectedEnd e else .unexpectedToken e t.text t.span

def expect (kind : TokenKind) (e : Expectation) : List Token → Except LineError (Token × List Token)
  | [] => .error (refuse e [])
  | t :: ts => if t.kind = kind then .ok (t, ts) else .error (refuse e (t :: ts))

def finish (e : Expectation) : List Token → Except LineError Unit
  | [] => .ok ()
  | t :: ts => if t.kind = .finish then .ok () else .error (refuse e (t :: ts))

def signs (ts : List Token) : Bool × List Token :=
  ((ts.takeWhile Token.isSign).countP (fun t => t.kind = .minus) % 2 = 1, ts.dropWhile Token.isSign)

def number (ts : List Token) : Except LineError (Decimal × List Token) := do
  let (t, ts) ← expect .number .number ts
  return (Decimal.ofLiteral t.text.toList, ts)

def signedNumber (ts : List Token) : Except LineError (SignedDecimal × List Token) := do
  let (negative, ts) := signs ts
  let (magnitude, ts) ← number ts
  return (⟨negative, magnitude⟩, ts)

def factor : List Token → Decimal × List Token
  | [] => (.one, [])
  | t :: ts =>
    if t.kind = .number then
      (Decimal.ofLiteral t.text.toList, if ts.head?.any (·.kind = .star) then ts.tail else ts)
    else (.one, t :: ts)

def term (ts : List Token) : Except LineError (Term × List Token) := do
  let (negative, afterSigns) := signs ts
  let (magnitude, afterFactor) := factor afterSigns
  let (name, rest) ← expect .name .variableName afterFactor
  return (⟨(ts.head?.map Token.span).getD name.span |>.join name.span, ⟨negative, magnitude⟩,
    name.text⟩, rest)

theorem length_of_expect {kind : TokenKind} {e : Expectation} {ts rest : List Token} {t : Token}
    (h : expect kind e ts = .ok (t, rest)) : rest.length < ts.length := by
  cases ts with
  | nil => simp [expect] at h
  | cons u us =>
    simp only [expect] at h
    split at h <;> simp_all

theorem length_signs (ts : List Token) : (signs ts).2.length ≤ ts.length :=
  (List.dropWhile_suffix _).length_le

theorem length_factor (ts : List Token) : (factor ts).2.length ≤ ts.length := by
  cases ts with
  | nil => simp [factor]
  | cons t ts =>
    simp only [factor]
    split
    · split
      · rw [List.length_tail, List.length_cons]
        omega
      · exact Nat.le_succ ts.length
    · exact Nat.le_refl _

theorem length_of_term {ts rest : List Token} {t : Term} (h : term ts = .ok (t, rest)) :
    rest.length < ts.length := by
  simp only [term, bind, Except.bind] at h
  split at h
  · cases h
  · rename_i v hv
    cases h
    have := length_of_expect hv
    have := length_factor (signs ts).2
    have := length_signs ts
    omega

def furtherTerms (ts : List Token) : Except LineError (List Term × List Token) :=
  if ts.head?.any Token.isSign then
    match h : term ts with
    | .error e => .error e
    | .ok (t, rest) =>
      have := length_of_term h
      match furtherTerms rest with
      | .error e => .error e
      | .ok (more, rest) => .ok (t :: more, rest)
  else .ok ([], ts)
termination_by ts.length

def terms (ts : List Token) : Except LineError (List Term × List Token) := do
  let (first, ts) ← term ts
  let (more, ts) ← furtherTerms ts
  return (first :: more, ts)

def direction? (word : String) : Option Direction :=
  let word := word.toList.map Char.toLower
  if word = "maximize".toList ∨ word = "max".toList then some .maximize
  else if word = "minimize".toList ∨ word = "min".toList then some .minimize
  else none

def direction (ts : List Token) : Except LineError (Direction × List Token) := do
  let (word, ts) ← expect .name .direction ts
  match direction? word.text with
  | some d => return (d, ts)
  | none => throw (.unknownDirection word.text)

def relation : List Token → Except LineError (Relation × List Token)
  | [] => .error (refuse .relation [])
  | t :: ts =>
    match t.kind with
    | .atMost => .ok (.atMost, ts)
    | .atLeast => .ok (.atLeast, ts)
    | .equal => .ok (.equal, ts)
    | _ => .error (refuse .relation (t :: ts))

end Reading

def Term.readAll (source : String) : Except LineError (List Term) := do
  let (ts, rest) ← Reading.terms (Token.significant source)
  Reading.finish .endOfExpression rest
  return ts

def Objective.read (source : String) : Except LineError Objective := do
  let tokens := Token.significant source
  let (d, rest) ← Reading.direction tokens
  let (_, rest) ← Reading.expect .colon .colon rest
  let (name, rest) ← Reading.expect .name .objectiveName rest
  let (_, rest) ← Reading.expect .equal .equal rest
  let (ts, rest) ← Reading.terms rest
  Reading.finish .endOfObjective rest
  return ⟨Token.coverage tokens.dropLast, d, name.text, ts⟩

/-- Reads terms, a relation and a number with signs. The relations are counted first: none or
several are reported whatever else is wrong with the line. -/
def Constraint.read (source : String) : Except LineError Constraint := do
  let tokens := Token.significant source
  let text := String.ofList (Unicode.trim source.toList)
  match tokens.countP Token.isRelation with
  | 0 => throw (.missingRelation text)
  | 1 =>
    let (ts, rest) ← Reading.terms tokens
    let (relation, rest) ← Reading.relation rest
    let (bound, rest) ← Reading.signedNumber rest
    Reading.finish .endOfConstraint rest
    return ⟨Token.coverage tokens.dropLast, text, ts, relation, bound⟩
  | _ => throw (.severalRelations text)

end LinearProgram
