import Codeweave.Script.Render

/-!
Sessions: scripts run in a state that starts with the operations of the runtime and nothing else.
All code of a session shares one output and the names of the script.
-/

namespace Codeweave.Script

def startNames : Names :=
  [("__name__", .text "__litgen__"), (builtinsName, builtinsValue)] ++
    Action.table.map fun (n, a) => (n, .action a)

def World.start (width : Int) (label : Option String) (memory : Memory := .usual) : World :=
  { builder := Builder.fresh width, spaces := #[startNames], label := label, memory := memory }

def runProgram (program : List Stmt) : Run Unit := do
  let env : Env := { inSegment := false, globals := (← get).home }
  makeHintTable env.globals program
  let _ ← machine.execute env program

def runFrom {α : Type} (w : World) (step : Run α) : Except Stop α × World :=
  step.run.run w

def FailureKind.errorClass : FailureKind → ErrorClass
  | .malformed => .malformed
  | .unexpectedIndent | .missingBlock | .unevenIndent | .tooDeep => .indentation
  | .tabs => .tabs

namespace ScriptError

def errorClass : ScriptError → ErrorClass
  | unreadable failure => failure.kind.errorClass
  | illegal _ => .malformed
  | nullCharacter | nullInLabel => .badValue

def line? : ScriptError → Option Nat
  | unreadable failure => some failure.line
  | illegal line => some line
  | nullCharacter | nullInLabel => none

/-- What the error says; errors of the parser say nothing but their class. -/
def message? : ScriptError → Option String
  | nullCharacter => some "source code string cannot contain null bytes"
  | nullInLabel => some "embedded null character"
  | _ => none

end ScriptError

end Codeweave.Script
