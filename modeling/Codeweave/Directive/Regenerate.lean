import Codeweave.Directive.Block
import Codeweave.Directive.Config
import Codeweave.Escape
import Codeweave.Script.Session

/-!
Regeneration of one directive: its script runs on a fresh output with fresh names. What goes wrong
is held against the directive; only what no script may handle ends the operation as a whole.
-/

namespace Codeweave.Directive

open Script

/-- What became of a directive. -/
structure Outcome where
  /-- the generated text, or what is held against the directive -/
  result : Except Fault (List Char)
  warnings : List Fault := []
  /-- levels of indentation that the script left open -/
  openIndent : Nat := 0

def Outcome.ok (o : Outcome) : Bool :=
  o.result.isOk

def Outcome.artifact? (o : Outcome) : Option (List Char) :=
  o.result.toOption

def Outcome.fault? (o : Outcome) : Option Fault :=
  match o.result with
  | .ok _ => none
  | .error fault => some fault

def logged (level : Level) (path : String) (fault : Fault) : Remark :=
  .log level .regeneration (fault.describe path)

/-- The difference between the declared and the actual number of script lines, where it matters. -/
def drift? (config : Config) (d : Directive) : Option Fault :=
  match d.declared with
  | none => none
  | some declared =>
    if declared == d.lineCount || config.drift == .ignore then none
    else
      some { cause := .lineCountDrift declared d.lineCount, line := some d.line }

/-- Is a drift held against the directive? Not when the numbers are set right anyway. -/
def driftFails (config : Config) : Bool :=
  config.drift == .error && !config.updateCounts

/-- The innermost line of the script among frames. -/
def scriptLine? (frames : List Frame) : Option Nat :=
  frames.findSome? fun
    | .script line => some line
    | _ => none

/-- The line of the source that an error is told for: the line of the script if there is one, else
that of the opener. -/
def sourceLine (d : Directive) : Option Int → Int
  | some line => d.scriptLine + line - 1
  | none => d.line

/-- Can a directive be blamed for an error of this class? An interruption is nobody's fault. -/
def isContained (c : ErrorClass) : Bool :=
  c.isBelow .ordinary || c.isBelow .exit || c.isBelow .generatorExit

def scriptFault (d : Directive) (e : ScriptError) : Fault :=
  { cause := .execution e.errorClass.name e.message?
    line := some (sourceLine d (e.line?.map Int.ofNat)) }

/-- What ends an operation when an error that should be told has no text. -/
def textEscape : TextError → Escape
  | .tooManyDigits => .raised .badValue tooManyDigitsMessage
  | .tooDeep =>
    .raised .recursion "maximum recursion depth exceeded while getting the repr of an object"
  | .unknown => .abandoned

/-- The file that the code of a script is said to come from. -/
def scriptFile (label : String) : String :=
  "<litgen " ++ label ++ ">"

/-- What an error says of its line. -/
inductive LineTold where
  /-- an error of the parser that names the file of the script says it itself -/
  | said (line : Value)
  /-- any other error says it by the innermost line of the script that it passed -/
  | passed (line? : Option Nat)

/-- Is anything said? A line zero is none. -/
def LineTold.isSaid (w : World) : LineTold → Bool
  | .said line => w.isTrue line
  | .passed line? => line?.any (0 < ·)

def LineTold.number? : LineTold → Option Int
  | .said line => line.integer?
  | .passed line? => line?.map Int.ofNat

def lineTold (file : String) (problem : Problem) (frames : List Frame) : LineTold :=
  match problem with
  | .plain _ _ (some (.place (.text named :: line :: _))) =>
    if named == file then .said line else .passed (scriptLine? frames)
  | _ => .passed (scriptLine? frames)

/-- What a raised error says of its line. What caused a fault is asked first. -/
def toldLine (file : String) (w : World) (e : Raised) : LineTold :=
  let own := lineTold file e.problem e.frames
  match e.problem with
  | .fault _ { cause := some cause, .. } =>
    let told := lineTold file (w.problemAt cause) (w.framesAt cause)
    if told.isSaid w then told else own
  | _ => own

/-- What ends an operation when an error says of its line what is no whole number. -/
def lineEscape (w : World) : Value → Escape
  | .float _ => .abandoned
  | told =>
    .raised .wrongType
      ("unsupported operand type(s) for +: 'int' and '" ++ w.typeName told ++ "'")

/-- A line whose number can be written. -/
def writableLine (line : Int) : Except Escape Int :=
  match integerText line with
  | .ok _ => .ok line
  | .error why => .error (textEscape why)

/-- The line of the source that an error itself tells. -/
def tellSaid (d : Directive) (w : World) (line : Value) : Except Escape Int :=
  match line.integer? with
  | some n => writableLine (sourceLine d (some n))
  | none => .error (lineEscape w line)

/-- The line of the source for what an error says of its line. -/
def tellLine (d : Directive) (w : World) (told : LineTold) : Except Escape Int :=
  if told.isSaid w then
    match told with
    | .passed line? => .ok (sourceLine d (line?.map Int.ofNat))
    | .said line => tellSaid d w line
  else .ok (sourceLine d none)

/-- What is held against a directive for a problem, but for the line. -/
def blame (w : World) : Problem → Except Escape Fault
  | .fault fault _ => .ok fault
  | .plain c arguments detail =>
    let text := (w.plainText c arguments detail).map String.ofList
    if isContained c then
      match text with
      | .ok message => .ok { cause := .execution c.name (some message) }
      | .error why => .error (textEscape why)
    else .error (.raised c (text.toOption.getD ""))

/-- What is held against a directive whose script stopped, unless the operation ends. -/
def stopFault (label : String) (d : Directive) (w : World) : Stop → Except Escape Fault
  | .abandoned => .error .abandoned
  | .raised e => do
    let fault ← blame w e.problem
    let line ← tellLine d w (toldLine (scriptFile label) w e)
    .ok { fault with line := some line }

/-- What ends an operation when the output of a script cannot be finished. -/
def stopEscape (w : World) : Stop → Escape
  | .abandoned => .abandoned
  | .raised { problem := .fault fault _, .. } => .fault fault
  | .raised { problem := .plain c arguments detail, .. } =>
    .raised c ((w.plainText c arguments detail).map String.ofList |>.toOption |>.getD "")

/-- The number of the first line of a text that is a sentinel. -/
def sentinelLine? (artifact : List Char) : Option Nat :=
  ((Text.bodies artifact).findIdx? fun line => isBegin line || isEnd line).map (· + 1)

/-- The code of a script that is known by a label. A label with a null character in it is none. -/
def compileLabelled (label : String) (script : List Char) : Except ScriptError (List Stmt) :=
  if label.toList.contains '\x00' then .error .nullInLabel else compileScript script

/-- Runs the script of a directive. The result is the state that it ends in, or what is held
against the directive. -/
def runScript (config : Config) (label : String) (d : Directive) :
    Except Escape (Except Fault World) × List Remark :=
  match compileLabelled label (Text.dedent d.script) with
  | .error e => (.ok (.error (scriptFault d e)), [])
  | .ok program =>
    let (ended, w) := runFrom (World.start config.width label config.memory) (runProgram program)
    let result := match ended with
      | .ok _ => .ok (.ok w)
      | .error stop => (stopFault label d w stop).map .error
    (result, w.journal.toList)

/-- What becomes of a directive whose script ended well, and what is said of it. -/
def finish (label path : String) (warnings : List Fault) (d : Directive) (w : World) :
    Except Escape Outcome × List Remark :=
  let openIndent := w.builder.level
  match runFrom { w with journal := #[] } finishOutput with
  | (.error stop, w) => (.error (stopEscape w stop), w.journal.toList)
  | (.ok artifact, w) =>
    match sentinelLine? artifact with
    | some number =>
      let fault : Fault := { cause := .sentinelCollision number, line := some d.line }
      (.ok ⟨.error fault, warnings, openIndent⟩,
        w.journal.toList ++ [logged .error path fault])
    | none =>
      (.ok ⟨.ok artifact, warnings, openIndent⟩,
        w.journal.toList ++
          [.log .debug .regeneration
            (label ++ ": generated " ++ toString (artifact.count '\n') ++ " line(s)")])

/-- Runs a directive whose number of lines is no obstacle. -/
def regenerateWith (config : Config) (path : String) (warnings : List Fault) (d : Directive) :
    Except Escape Outcome × List Remark :=
  let label := Fault.pathOrMemory path ++ ":" ++ toString d.line
  match runScript config label d with
  | (.error escape, said) => (.error escape, said)
  | (.ok (.error fault), said) =>
    (.ok ⟨.error fault, warnings, 0⟩, said ++ [logged .error path fault])
  | (.ok (.ok w), said) =>
    let (outcome, more) := finish label path warnings d w
    (outcome, said ++ more)

def regenerate (config : Config) (path : String) (d : Directive) :
    Except Escape Outcome × List Remark :=
  match drift? config d with
  | none => regenerateWith config path [] d
  | some fault =>
    if driftFails config then
      (.ok ⟨.error fault, [], 0⟩, [logged .error path fault])
    else
      let (result, said) := regenerateWith config path [fault] d
      (result, logged .warning path fault :: said)

end Codeweave.Directive
