import Codeweave.Command.Grammar
import Codeweave.Directive.Config
import Codeweave.Journal
import Codeweave.Text.Integer
import Codeweave.Text.Lines

/-!
What the command line asks for: a command with its settings and the paths it works on.
-/

namespace Codeweave.Command

inductive Verb where
  | regen
  | check
  | scan
deriving Repr, DecidableEq

namespace Verb

def all : List Verb := [regen, check, scan]

def name : Verb → String
  | regen => "regen"
  | check => "check"
  | scan => "scan"

def ofName? (s : String) : Option Verb :=
  all.find? fun v => v.name == s

end Verb

structure Invocation where
  /-- the least level of the records that are written -/
  threshold : Level := .warning
  verb : Verb
  paths : List String
  /-- only files with these suffixes are looked at, or all if there are none; a suffix that lacks
  its text is none that a file could have -/
  suffixes : List (Option String) := []
  /-- the width, unless the option lacks its value -/
  width : Option Int := some Builder.defaultWidth
  /-- the treatment of drift, unless the option lacks its value -/
  drift : Option Drift := some .ignore
  updateCounts : Bool := false
deriving Repr, DecidableEq

/-- Why a command line is not carried out. -/
inductive Refusal where
  | help
  /-- a command, named in full, does not understand its words -/
  | error (program message : String)
deriving Repr, DecidableEq

def Refusal.message : Refusal → String
  | help => ""
  | error program message => program ++ ": error: " ++ message

/-- The last line of what is told of a refusal; the words that are told may hold line ends. -/
def Refusal.lastLine (r : Refusal) : String :=
  String.ofList ((Text.bodies (r.message.toList ++ ['\n'])).getLast?.getD [])

def program : String := "litgen"

inductive GlobalKey where
  | help
  | verbose
  | quiet

inductive LocalKey where
  | help
  | suffix
  | width
  | drift
  | updateCounts

/-- The words before the command, and the command with all that follows. -/
def globalGrammar : Grammar GlobalKey :=
  { switches :=
      [⟨.help, ["-h", "--help"], false⟩, ⟨.verbose, ["-v", "--verbose"], false⟩,
       ⟨.quiet, ["-q", "--quiet"], false⟩]
    takesRest := true }

def localGrammar (verb : Verb) : Grammar LocalKey :=
  { switches :=
      [⟨.help, ["-h", "--help"], false⟩, ⟨.suffix, ["--ext"], true⟩] ++
        if verb == .scan then []
        else
          [⟨.width, ["--indent-width"], true⟩, ⟨.drift, ["--drift"], true⟩,
           ⟨.updateCounts, ["--update-counts"], false⟩] }

/-- What a choice that does not exist is told. -/
def invalidChoice (value : String) (choices : List String) : String :=
  "invalid choice: " ++ Text.quote value ++ " (choose from " ++
    String.intercalate ", " (choices.map Text.quote) ++ ")"

def required (name : String) : String :=
  "the following arguments are required: " ++ name

/-- How the choice of a command is named in messages. -/
def verbChoice : String :=
  "\x7b" ++ String.intercalate "," (Verb.all.map Verb.name) ++ "\x7d"

def applyLocal (inv : Invocation) : Request LocalKey → Except (Option String) Invocation
  | .operand words => .ok { inv with paths := words }
  | .option .help _ => .error none
  | .option .suffix value => .ok { inv with suffixes := inv.suffixes ++ [value] }
  | .option .updateCounts _ => .ok { inv with updateCounts := true }
  | .option .width none => .ok { inv with width := none }
  | .option .width (some value) =>
    match Text.readInteger value.toList with
    | .ok width => .ok { inv with width := some width }
    | .error _ => .error (some ("argument --indent-width: invalid int value: " ++ Text.quote value))
  | .option .drift none => .ok { inv with drift := none }
  | .option .drift (some value) =>
    match Drift.ofName? value with
    | some drift => .ok { inv with drift := some drift }
    | none =>
      .error (some ("argument --drift: " ++ invalidChoice value (Drift.all.map Drift.name)))

def applyAll (inv : Invocation) : List (Request LocalKey) → Except (Option String) Invocation
  | [] => .ok inv
  | r :: rest =>
    match applyLocal inv r with
    | .ok inv => applyAll inv rest
    | .error e => .error e

/-- Reads the words of a command. The result also has the words that fit nowhere. -/
def readLocal (threshold : Level) (verb : Verb) (words : List String) :
    Except Refusal (Invocation × List String) :=
  let refuse (message : String) : Except Refusal (Invocation × List String) :=
    .error (.error (program ++ " " ++ verb.name) message)
  let reading := (localGrammar verb).read words
  match applyAll { threshold := threshold, verb := verb, paths := [] } reading.requests with
  | .error none => .error .help
  | .error (some message) => refuse message
  | .ok inv =>
    match reading.ending with
    | .error message => refuse message
    | .ok extras => if inv.paths.isEmpty then refuse (required "paths") else .ok (inv, extras)

/-- The records that are written: all if details were asked for, even if quiet was too. -/
def threshold (verbose quiet : Bool) : Level :=
  if verbose then .debug else if quiet then .error else .warning

/-- Carries out the requests before a command, and then reads the command. -/
def readGlobal (verbose quiet : Bool) :
    List (Request GlobalKey) → Except Refusal (Option (Invocation × List String))
  | [] => .ok none
  | .option .help _ :: _ => .error .help
  | .option .verbose _ :: rest => readGlobal true quiet rest
  | .option .quiet _ :: rest => readGlobal verbose true rest
  | .operand words :: _ =>
    let name := words.head?.getD ""
    match Verb.ofName? name with
    | none =>
      .error (.error program
        ("argument " ++ verbChoice ++ ": " ++ invalidChoice name (Verb.all.map Verb.name)))
    | some verb => (readLocal (threshold verbose quiet) verb words.tail).map some

/-- The invocation that the words of a command line ask for. -/
def Invocation.ofWords (words : List String) : Except Refusal Invocation :=
  let reading := globalGrammar.read words
  match readGlobal false false reading.requests with
  | .error refusal => .error refusal
  | .ok found =>
    match reading.ending with
    | .error message => .error (.error program message)
    | .ok extras =>
      match found with
      | none => .error (.error program (required verbChoice))
      | some (inv, more) =>
        match extras ++ more with
        | [] => .ok inv
        | unread =>
          .error (.error program
            ("unrecognized arguments: " ++ String.intercalate " " unread))

end Codeweave.Command
