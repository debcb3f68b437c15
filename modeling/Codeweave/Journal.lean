/-!
What a run says while it works: log records and text printed by scripts, which are remarks, and the
lines of the command line, in the order in which they happen. Each use of a template is a remark of
its own; a record is made of it only when the template is not among those compiled recently.
-/

namespace Codeweave

inductive Level where
  | debug
  | info
  | warning
  | error
deriving Repr, DecidableEq

namespace Level

def rank : Level → Nat
  | debug => 0
  | info => 1
  | warning => 2
  | error => 3

def name : Level → String
  | debug => "DEBUG"
  | info => "INFO"
  | warning => "WARNING"
  | error => "ERROR"

end Level

inductive Origin where
  | builder
  | template
  | scanner
  | runtime
  | regeneration
  | commandLine
deriving Repr, DecidableEq

def Origin.name : Origin → String
  | builder => "litgen.codegen"
  | template => "litgen.template"
  | scanner => "litgen.scanner"
  | runtime => "litgen.runtime"
  | regeneration => "litgen.rewriter"
  | commandLine => "litgen.cli"

/-- What a template is made from: a text, or an empty collection of another kind. -/
inductive Pattern where
  | text (chars : List Char)
  | emptyTuple
  | emptyRange
deriving Repr, DecidableEq

inductive Remark where
  /-- a pattern was asked for that compiles to so many segments -/
  | compiled (pattern : Pattern) (segments : Nat)
  | log (level : Level) (origin : Origin) (message : String)
  /-- a script printed a text -/
  | printed (text : String)
deriving Repr, DecidableEq

/-- Something a run says. Only the command line itself writes lines. -/
inductive Event where
  | remark (remark : Remark)
  /-- the command line wrote a line to its output or to its error output -/
  | out (line : String)
  | err (line : String)
deriving Repr, DecidableEq

abbrev Journal := List Event

namespace Journal

def capacity : Nat := 512

/-- Replaces the uses of templates by log records, one for each use of a pattern that is not among
those used last. `recent` holds the kept patterns, the one used last in front. -/
def settle (recent : List Pattern) : Journal → Journal
  | [] => []
  | .remark (.compiled pattern segments) :: rest =>
    if recent.contains pattern then
      settle (pattern :: recent.erase pattern) rest
    else
      .remark (.log .debug .template
          ("compiled template with " ++ toString segments ++ " segment(s)")) ::
        settle ((pattern :: recent).take capacity) rest
  | event :: rest => event :: settle recent rest

def logLine? (threshold : Level) : Event → Option String
  | .remark (.log level origin message) =>
    if threshold.rank ≤ level.rank then some (level.name ++ " " ++ origin.name ++ ": " ++ message)
    else none
  | _ => none

def logLines (threshold : Level) (j : Journal) : List String :=
  (settle [] j).filterMap (logLine? threshold)

def printedText (j : Journal) : String :=
  String.join (j.map fun | .remark (.printed text) => text | _ => "")

/-- All that went to the output: printed text and lines. -/
def outputText (j : Journal) : String :=
  String.join (j.map fun
    | .remark (.printed text) => text
    | .out line => line ++ "\n"
    | _ => "")

/-- All that went to the error output: log lines from the given level on and lines. -/
def errorText (threshold : Level) (j : Journal) : String :=
  String.join ((settle [] j).map fun
    | .err line => line ++ "\n"
    | event => ((logLine? threshold event).map (· ++ "\n")).getD "")

end Journal

end Codeweave
