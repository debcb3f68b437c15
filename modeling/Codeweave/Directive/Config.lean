import Codeweave.Builder

/-!
Settings of a regeneration, and what it is run on.
-/

namespace Codeweave

/-- What happens when a directive declares another number of script lines than it has. -/
inductive Drift where
  | ignore
  | warn
  | error
deriving Repr, DecidableEq

namespace Drift

def all : List Drift := [ignore, warn, error]

def name : Drift → String
  | ignore => "ignore"
  | warn => "warn"
  | error => "error"

def ofName? (s : String) : Option Drift :=
  all.find? fun d => d.name == s

end Drift

structure Config where
  width : Nat := Builder.defaultWidth.toNat
  drift : Drift := .ignore
  /-- are the numbers on closers set right? -/
  updateCounts : Bool := false
  /-- the memory of the machine, for which there is no option -/
  memory : Memory := .usual
deriving Repr, DecidableEq

namespace Config

inductive Error where
  | unknownDrift (name : String)
  | negativeWidth
deriving Repr, DecidableEq

def Error.message : Error → String
  | unknownDrift name =>
    "Unknown drift severity '" ++ name ++ "'. Allowed: ('ignore', 'warn', 'error')"
  | negativeWidth => "indent_width must be non-negative"

/-- Settings from what was asked for; the treatment of drift is looked at first. -/
def make (width : Int) (drift : String) (updateCounts : Bool) : Except Error Config :=
  match Drift.ofName? drift with
  | none => .error (.unknownDrift drift)
  | some d =>
    if width < 0 then .error .negativeWidth
    else .ok { width := width.toNat, drift := d, updateCounts := updateCounts }

end Config

end Codeweave
