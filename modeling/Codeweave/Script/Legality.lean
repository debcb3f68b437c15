import Codeweave.Script.Legality.Places
import Codeweave.Script.Legality.Regions

/-!
Rules that a script can break although it reads. Features of the language are named at its start;
the rules about names are checked over the whole script next, then those about places.
-/

namespace Codeweave.Script

/-- The line of a script that breaks the first rule that is broken. -/
def illegalLine? (program : List Stmt) : Option Nat :=
  match featureLines false 0 program with
  | .error line => some line
  | .ok last =>
    Legality.wrongName? (mentionsIn program) <|> misplacedIn { features := last } program

def Expr.isLegal (e : Expr) : Bool :=
  (Legality.wrongName? (e.mentions false) <|> e.misplaced .whole .load).isNone

end Codeweave.Script
