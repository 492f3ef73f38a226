import LinearProgram.Decimal.Numeral
import LinearProgram.Run

namespace LinearProgram.Command

inductive Switch where
  | verbose
  | steps
  | format
  | maxIterations
  | tolerance
  | help
deriving DecidableEq, Repr

namespace Switch

def takesValue : Switch → Bool
  | verbose | steps | help => false
  | format | maxIterations | tolerance => true

def longName : Switch → String
  | verbose => "verbose"
  | steps => "steps"
  | format => "format"
  | maxIterations => "max-iterations"
  | tolerance => "tolerance"
  | help => "help"

def shortName? : Switch → Option Char
  | verbose => some 'v'
  | steps => some 's'
  | format => some 'f'
  | help => some 'h'
  | maxIterations | tolerance => none

def general : List Switch := [verbose, help]

def ofSolve : List Switch := [steps, format, maxIterations, tolerance] ++ general

end Switch

inductive UsageError where
  | missingCommand
  | unknownCommand (name : String)
  | unknownSwitch (argument : String)
  | missingValue (switch : Switch)
  | unwantedValue (switch : Switch)
  | invalidValue (switch : Switch) (value : String)
  | repeatedSwitch (switch : Switch)
  | missingFile
  | unexpectedArgument (argument : String)
deriving DecidableEq, Repr

def UsageError.message : UsageError → String
  | missingCommand => "a command is required: solve or check"
  | unknownCommand name => "unrecognized command: " ++ name
  | unknownSwitch argument => "unexpected argument: " ++ argument
  | missingValue switch => "a value is required for --" ++ switch.longName
  | unwantedValue switch => "no value is allowed for --" ++ switch.longName
  | invalidValue switch value => "invalid value for --" ++ switch.longName ++ ": " ++ value
  | repeatedSwitch switch => "given more than once: --" ++ switch.longName
  | missingFile => "a file is required"
  | unexpectedArgument argument => "unexpected argument: " ++ argument

inductive Topic where
  | program
  | solve
  | check
  | help
deriving DecidableEq, Repr

namespace Topic

def name : Topic → String
  | program => "lpp"
  | solve => "solve"
  | check => "check"
  | help => "help"

def commands : List Topic := [solve, check, help]

end Topic

inductive Stop where
  | help (topic : Topic)
  | usage (e : UsageError)
deriving DecidableEq, Repr

instance : MonadLift (Except UsageError) (Except Stop) where
  monadLift := Except.mapError .usage

inductive Item where
  | switch (s : Switch) (value : Option String)
  | operand (text : String)
deriving DecidableEq, Repr

def asksForHelp (found : List Item) : Bool :=
  found.contains (.switch .help none)

def isHyphened (argument : String) : Bool :=
  match argument.toList with
  -- a hyphen alone can be a value
  | '-' :: _ :: _ => true
  | _ => false

def longItem (allowed : List Switch) (argument : String) (body : List Char) :
    Except UsageError (List Item × Option Switch) :=
  let name := String.ofList (body.takeWhile (· != '='))
  let joined := body.dropWhile (· != '=')
  match allowed.find? fun s => s.longName = name with
  | none => .error (.unknownSwitch argument)
  | some s =>
    if s.takesValue then
      if joined.isEmpty then .ok ([], some s)
      else .ok ([.switch s (some (String.ofList joined.tail))], none)
    else if joined.isEmpty then .ok ([.switch s none], none)
    else .error (.unwantedValue s)

def shortItems (allowed : List Switch) (argument : String) :
    List Char → Except UsageError (List Item × Option Switch)
  | [] => .ok ([], none)
  | c :: cs =>
    match allowed.find? fun s => s.shortName? = some c with
    | none => .error (.unknownSwitch argument)
    | some s =>
      if s.takesValue then
        if cs.isEmpty then .ok ([], some s)
        else
          let value := if cs.head? = some '=' then cs.tail else cs
          .ok ([.switch s (some (String.ofList value))], none)
      else if s = .help then .ok ([.switch s none], none)
      else do
        let (more, pending) ← shortItems allowed argument cs
        return (.switch s none :: more, pending)

def itemsOf (allowed : List Switch) (argument : String) :
    Except UsageError (List Item × Option Switch) :=
  match argument.toList with
  | '-' :: '-' :: body => longItem allowed argument body
  | '-' :: c :: body => shortItems allowed argument (c :: body)
  | _ => .ok ([.operand argument], none)

/-- The items of the arguments up to the first that asks for help; behind two hyphens alone everything
is an operand. -/
def items (allowed : List Switch) : List String → Except UsageError (List Item)
  | [] => .ok []
  | argument :: rest =>
    if argument = "--" then .ok (rest.map .operand)
    else
      match itemsOf allowed argument with
      | .error e => .error e
      | .ok (found, none) =>
        if asksForHelp found then .ok found
        else do
          let more ← items allowed rest
          return found ++ more
      | .ok (found, some s) =>
        match rest with
        | [] => .error (.missingValue s)
        | value :: rest =>
          if isHyphened value then .error (.missingValue s)
          else do
            let more ← items allowed rest
            return found ++ .switch s (some value) :: more

def splitCommand : List String → Except Stop (String × List String)
  | [] => throw (.usage .missingCommand)
  | argument :: rest =>
    if argument = "--" then throw (.usage .missingCommand)
    else
      match itemsOf Switch.general argument with
      | .error e => throw (.usage e)
      | .ok (found, _) =>
        if asksForHelp found then throw (.help .program)
        else if found.all (fun i => i = .switch .verbose none) then splitCommand rest
        else return (argument, rest)

inductive Format where
  | words
  | document
deriving DecidableEq, Repr

def Format.ofName? (name : String) : Option Format :=
  if name = "pretty" then some .words
  else if name = "json" then some .document
  else none

inductive Request where
  | solve (file : String) (steps : Bool) (format : Format) (settings : Settings Float)
  | check (file : String)

def Request.file : Request → String
  | solve file .. => file
  | check file => file

def fileOf? (found : List Item) : Except UsageError (Option String) :=
  match found.filterMap fun
      | .operand text => some text
      | .switch .. => none with
  | [] => .ok none
  | [file] => if file.isEmpty then .error .missingFile else .ok (some file)
  | _ :: extra :: _ => .error (.unexpectedArgument extra)

def fileOr (topic : Topic) (found : List Item) : Except Stop String := do
  let file? ← fileOf? found
  if asksForHelp found then throw (.help topic)
  match file? with
  | none => throw (.usage .missingFile)
  | some file => return file

def valuesOf (s : Switch) (found : List Item) : List (Option String) :=
  found.filterMap fun
    | .switch s' value => if s' = s then some value else none
    | .operand _ => none

def flag (s : Switch) (found : List Item) : Except UsageError Bool :=
  match valuesOf s found with
  | [] => .ok false
  | [_] => .ok true
  | _ => .error (.repeatedSwitch s)

def setting {β : Type} (s : Switch) (read : String → Option β) (standard : β) (found : List Item) :
    Except UsageError β :=
  match valuesOf s found with
  | [] => .ok standard
  | [value] =>
    match value.bind read with
    | some b => .ok b
    | none => .error (.invalidValue s (value.getD ""))
  | _ => .error (.repeatedSwitch s)

def solveRequest (arguments : List String) : Except Stop Request := do
  let found ← items Switch.ofSolve arguments
  let steps ← flag .steps found
  let format ← setting .format Format.ofName? .words found
  let standard := Settings.standard Float
  let maxIterations ← setting .maxIterations Numeral.count? standard.maxIterations found
  let tolerance ← setting .tolerance Numeral.double? standard.tolerance found
  let file ← fileOr .solve found
  return .solve file steps format ⟨maxIterations, tolerance, steps⟩

def checkRequest (arguments : List String) : Except Stop Request := do
  let found ← items Switch.general arguments
  let file ← fileOr .check found
  return .check file

def helpTopic : List String → Except UsageError Topic
  | [] => .ok .program
  | name :: rest =>
    match Topic.commands.find? fun t => t.name = name, rest with
    | none, _ => .error (.unknownCommand name)
    | some topic, [] => .ok topic
    | some _, extra :: _ => .error (.unknownCommand extra)

def Request.ofArguments (arguments : List String) : Except Stop Request := do
  let (command, rest) ← splitCommand arguments
  if command = "solve" then solveRequest rest
  else if command = "check" then checkRequest rest
  else if command = "help" then throw (.help (← helpTopic rest))
  else throw (.usage (.unknownCommand command))

end LinearProgram.Command
