import Codeweave.Script.Arguments
import Codeweave.Script.Sequence

/-!
Errors made from arguments. Most classes take whatever they are given; some ask for arguments of
their own, and an error of the operating system takes its class from its number.
-/

namespace Codeweave.Script

def requireText (position : Nat) (v : Value) : Run Unit := do
  let _ ← textAt "" position v

def requirePosition (v : Value) : Run Unit := do
  match v.integer? with
  | some n =>
    if n ≥ indexBound || n < -(indexBound : Int) then
      raiseWith .overflow "Python int too large to convert to C ssize_t"
  | none =>
    raiseWith .wrongType ("'" ++ (← get).typeName v ++
      "' object cannot be interpreted as an integer")

def requireCount (title : String) (count given : Nat) : Run Unit := do
  if given != count then
    raiseWith .wrongType (title ++ " takes exactly " ++ toString count ++ " arguments" ++
      givenCount given)

/-- The place and the reason of an error about a text that cannot be converted. A single character
in front of the text has no name. -/
def checkPlace (start stop reason : Value) (position : Nat) : Run Unit := do
  requirePosition start
  requirePosition stop
  requireText position reason
  let first := start.integer?.getD 0
  if first < 0 && stop.integer? == some (first + 1) then giveUp

/-- The arguments of an error about a text that cannot be converted: its codec unless it has none,
the text, the place, and the reason. -/
def checkConversion (hasCodec : Bool) (args : List Value) : Run Unit := do
  requireCount "function" (if hasCodec then 5 else 4) args.length
  match hasCodec, args with
  | true, [codec, text, start, stop, reason] => do
    requireText 1 codec
    requireText 2 text
    checkPlace start stop reason 5
  | false, [text, start, stop, reason] => do
    requireText 1 text
    checkPlace start stop reason 4
  | _, _ => pure ()

/-- The arguments of an error about bytes that are no text. Scripts have no bytes, so something is
always wrong with them. -/
def checkDecoding (args : List Value) : Run Unit := do
  requireCount "function" 5 args.length
  match args with
  | [codec, bytes, start, stop, reason] => do
    requireText 1 codec
    requirePosition start
    requirePosition stop
    requireText 5 reason
    raiseWith .wrongType ("a bytes-like object is required, not '" ++ (← get).typeName bytes ++ "'")
  | _ => pure ()

/-- The place among the arguments of an error of the parser: a file, a line, an offset and a text,
and perhaps where it ends. -/
def parserPlace (m : Machine) (args : List Value) : Run (Option Detail) := do
  match args with
  | [_, place] => do
    let parts ← items m place
    let n := parts.length
    if n < 4 then
      raiseWith .wrongType ("function takes at least 4 arguments" ++ givenCount n)
    else if n > 6 then
      raiseWith .wrongType ("function takes at most 6 arguments" ++ givenCount n)
    else if n == 5 then
      raiseWith .wrongType "end_offset must be provided when end_lineno is provided"
    else pure (some (.place parts))
  | _ => pure none

/-- The number of characters that an error of a blocked operation may have for a third argument. -/
def checkWritten (args : List Value) : Run Unit := do
  match args[2]? with
  | some (.float _) =>
    raiseWith .wrongType "'float' object cannot be interpreted as an integer"
  | some v =>
    unless v.integer?.all fitsIndex do
      raiseWith .badValue "cannot fit 'int' into an index-sized integer"
  | none => pure ()

def Value.isGivenAsWhole : Value → Bool
  | .range _ _ _ => true
  | v => v.isSequence

def groupMembers (m : Machine) (args : List Value) : Run (List Value) := do
  let title := "BaseExceptionGroup.__new__()"
  requireCount title 2 args.length
  match args with
  | [message, members] => do
    let _ ← textAt (title ++ " ") 1 message
    unless members.isGivenAsWhole do
      raiseWith .wrongType "second argument (exceptions) must be a sequence"
    let found ← items m members
    if found.isEmpty then
      raiseWith .badValue "second argument (exceptions) must be a non-empty sequence"
    match found.findIdx? fun | .error _ => false | _ => true with
    | some i =>
      raiseWith .badValue ("Item " ++ toString i ++
        " of second argument (exceptions) is not an exception")
    | none => pure found
  | _ => pure []

def World.isOrdinary (w : World) : Value → Bool
  | .error address => (w.problemAt address).class_.isBelow .ordinary
  | _ => false

/-- A group of errors. A group of ordinary errors is an ordinary error, whatever was asked for. -/
def makeGroup (m : Machine) (c : ErrorClass) (args : Arguments) : Run Problem := do
  let errors ← groupMembers m args.positional
  let w ← get
  if errors.all w.isOrdinary then
    args.refuseNamed ErrorClass.group.name
    pure (.plain .group args.positional (some (.members errors)))
  else if c == .group then
    raiseWith .wrongType "Cannot nest BaseExceptions in an ExceptionGroup"
  else
    args.refuseNamed c.name
    pure (.plain c args.positional (some (.members errors)))

/-- The class that the number of an error of the operating system asks for. -/
def classByNumber (c : ErrorClass) (args : List Value) : ErrorClass :=
  if c == .system && 2 ≤ args.length && args.length ≤ 5 then
    ((args.head?.bind Value.integer?).bind (ErrorClass.numbers.lookup ·)).getD c
  else c

/-- What an error takes by name, with the class that takes it. -/
def namedParts (c : ErrorClass) : ErrorClass × List String :=
  if c.isBelow .undefinedName then (.undefinedName, ["name"])
  else if c.isBelow .missingMember then (.missingMember, ["name", "obj"])
  else if c.isBelow .importing then (.importing, ["name", "path"])
  else (c, [])

/-- Checks the arguments of an error and gives what it knows besides them. -/
def checkErrorArguments (m : Machine) (c : ErrorClass) (args : List Value) :
    Run (Option Detail) := do
  match c with
  | .undecodable => do
    checkDecoding args
    pure none
  | .unencodable => do
    checkConversion true args
    pure none
  | .untranslatable => do
    checkConversion false args
    pure none
  | .blocking => do
    if isSystemReport c args then checkWritten args
    pure none
  | _ => if c.isBelow .malformed then parserPlace m args else pure none

def makeProblem (m : Machine) (c : ErrorClass) (args : Arguments) : Run Problem := do
  if c.isBelow .baseGroup || c == .group then makeGroup m c args
  else
    let (taker, parts) := namedParts c
    if parts.isEmpty then args.refuseNamed c.name
    let named ← args.unpackNamed taker.name parts
    let c := classByNumber c args.positional
    let detail ← checkErrorArguments m c args.positional
    pure (.plain c args.positional ((named.head?.join.map Detail.name).or detail))

/-! ### Faults of the library -/

def raiseMissing {α : Type} (title kind : String) (names : List String) : Run α :=
  raiseWith .wrongType (title ++ "() missing " ++ toString names.length ++ " required " ++ kind ++
    " argument" ++ (if names.length == 1 then "" else "s") ++ ": " ++ quotedNames names)
where
  /-- Names in quotes, parted by commas and a final "and". -/
  quotedNames : List String → String
    | [] => ""
    | [a] => "'" ++ a ++ "'"
    | [a, b] => "'" ++ a ++ "' and '" ++ b ++ "'"
    | [a, b, c] => "'" ++ a ++ "', '" ++ b ++ "', and '" ++ c ++ "'"
    | a :: rest => "'" ++ a ++ "', " ++ quotedNames rest

/-- Refuses a call with more positional arguments than parameters; `named` counts the arguments that
were given to parameters that have to be named. -/
def raiseTooMany {α : Type} (title : String) (params defaults given named : Nat) : Run α :=
  let takes :=
    if defaults == 0 then counted params "positional argument"
    else "from " ++ toString (params - defaults) ++ " to " ++ toString params ++
      " positional arguments"
  let others :=
    if named == 0 then ""
    else " positional argument" ++ (if given == 1 then "" else "s") ++ " (and " ++
      counted named "keyword-only argument" ++ ")"
  raiseWith .wrongType (title ++ "() takes " ++ takes ++ " but " ++ toString given ++ others ++
    (if given == 1 && named == 0 then " was given" else " were given"))

/-- Checks the number of arguments of a fault of the library, of which the last may have a default.
-/
def requireParameters (title : String) (params : List String) (defaults given : Nat) :
    Run Unit := do
  let method := title ++ ".__init__"
  if given > params.length then raiseTooMany method (params.length + 1) defaults (given + 1) 0
  else if given + defaults < params.length then
    raiseMissing method "positional" (params.drop given)

/-- The faults that say what they are told, by name. -/
def toldFaults : List (String × (String → Cause)) :=
  [("LitgenError", .unspecified), ("StructuralError", .structural),
   ("UnterminatedExpression", .unterminatedExpression),
   ("UnterminatedDirective", .unterminatedDirective), ("TemplateSyntaxError", .malformedTemplate)]

def problemOf (m : Machine) (name : String) (args : List Value) : Run Problem := do
  let text : Run String := do
    match args.head? with
    | some v => do pure (String.ofList (← writtenText v))
    | none => pure ""
  let number (i : Nat) : Int := ((args[i]?).bind Value.integer?).getD 0
  let fault (cause : Cause) : Run Problem := pure (.fault { cause := cause } {})
  let require (params : List String) : Run Unit := requireParameters name params 0 args.length
  match ErrorClass.ofName? name, toldFaults.lookup name with
  | some c, _ => makeProblem m c { positional := args }
  | none, some cause => do
    requireParameters "LitgenError" ["message"] 0 args.length
    fault (cause (← text))
  | none, none => do
    if name == "UndefinedParameter" then
      require ["name"]
      pure (.fault { cause := .undefinedParameter (← text) } { name := args.head? })
    else if name == "NegativeIndent" then
      requireParameters name ["message"] 1 args.length
      if args.isEmpty then fault .levelZero else fault (.negativeIndent (← text))
    else if name == "ExecutionFault" then
      require ["error"]
      let v := args.head?.getD .none
      fault (.execution ((← get).typeName v) (some (← text)))
    else if name == "LineCountDrift" then
      require ["declared", "actual"]
      fault (.lineCountDrift (number 0) (number 1))
    else if name == "SentinelCollision" then
      require ["number"]
      fault (.sentinelCollision (number 0))
    else throw .abandoned

end Codeweave.Script
