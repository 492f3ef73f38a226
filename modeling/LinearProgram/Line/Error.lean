import LinearProgram.Token

namespace LinearProgram

inductive Expectation where
  | direction
  | colon
  | objectiveName
  | equal
  | variableName
  | number
  | relation
  | endOfExpression
  | endOfObjective
  | endOfConstraint
deriving DecidableEq, Repr

def Expectation.text : Expectation → String
  | .direction => "Maximize or Minimize"
  | .colon => ":"
  | .objectiveName => "objective variable"
  | .equal => "="
  | .variableName => "variable"
  | .number => "number"
  | .relation => "operator or relation"
  | .endOfExpression => "operator or end of expression"
  | .endOfObjective => "operator or end of objective"
  | .endOfConstraint => "end of constraint"

inductive LineError where
  | unexpectedToken (expected : Expectation) (found : String) (span : Span)
  | unexpectedEnd (expected : Expectation)
  | unknownDirection (word : String)
  | missingRelation (text : String)
  | severalRelations (text : String)
deriving DecidableEq, Repr

def Span.text (s : Span) : String :=
  "Span \x7b start: " ++ toString s.start ++ ", end: " ++ toString s.stop ++ " \x7d"

namespace LineError

def message : LineError → String
  | unexpectedToken expected found span =>
    "Unexpected token: expected " ++ expected.text ++ ", found `" ++ found ++ "` at position " ++
      span.text
  | unexpectedEnd expected => "Unexpected end of line: expected " ++ expected.text
  | unknownDirection word =>
    "Unknown direction `" ++ word ++ "`: expected Maximize or Minimize"
  | missingRelation text => "Missing relation (<=, >= or =) in `" ++ text ++ "`"
  | severalRelations text => "More than one relation in `" ++ text ++ "`"

end LineError

end LinearProgram
