import Codeweave.Script.Value

/-!
How running code refers to itself: an expression has parts, a statement has blocks, a value can be
called, a value can be written to the output, an iterator can be asked for its next item, and names
can be changed through the dictionary that they make up. These are the fields of `Machine`; every
step of a run is given the machine it goes on with, so that no step is recursive by itself.
-/

namespace Codeweave.Script

inductive Flow where
  | next
  | leaveLoop
  | nextRound
  | giveBack (value : Value)

structure Arguments where
  positional : List Value := []
  named : List (String × Value) := []

/-- The ways in which running code refers to itself. -/
structure Machine where
  evaluate : Env → Expr → Run Value
  execute : Env → List Stmt → Run Flow
  call : Value → Arguments → Run Value
  emit : Value → Run Unit
  /-- the next item of the iterator at an address, `none` if there are no more -/
  advance : Nat → Run (Option Value)
  /-- changes the names of a name space through the dictionary that they make up -/
  rename : Nat → (Names → Names) → Run Unit
  rounds : Nat

/-! ### Outcomes -/

/-- Does a step and gives its outcome, whatever it is. -/
def outcome {α : Type} (step : Run α) : Run (Except Stop α) :=
  ExceptT.lift step.run

def resume {α : Type} : Except Stop α → Run α
  | .ok a => pure a
  | .error stop => throw stop

/-! ### Nesting of calls -/

/-- How deep calls may be nested below the code of a script. -/
def maxDepth : Nat := 989

/-- Refuses to go deeper; `where_` tells what was about to be done. -/
def raiseTooDeep {α : Type} (where_ : String) : Run α :=
  raiseWith .recursion ("maximum recursion depth exceeded" ++ where_)

def deeper {α : Type} (levels : Nat) (step : Run α) : Run α := do
  let depth := (← get).depth
  if depth + levels > maxDepth then raiseTooDeep ""
  else
    modify fun w => { w with depth := depth + levels }
    let result ← outcome step
    modify fun w => { w with depth := depth }
    resume result

def World.room (w : World) : Nat :=
  maxDepth - w.depth

def requireMemory (size : Nat) : Run Unit := do
  if size ≥ (← get).memory.bound then raiseProblem (.plain .memory [] none)

end Codeweave.Script
