import Codeweave.Script.Token
import Codeweave.Script.Program
import Codeweave.Text.NormalForm

/-!
Reading trees from tokens: a reader takes tokens from the front of a list, or fails. Why it fails is
a matter of diagnosis.

A text that is read loosely only has to look like a script. What is noted on the way tells whether
words and expressions are kept apart as they should be: there is a blank between a word and an
expression unless the expression is one that shows where it starts, or where it ends.
-/

namespace Codeweave.Script

structure ReaderState where
  tokens : List Token
  loose : Bool := false
  /-- what is not as it should be: a word is too close to an expression, or a handler out of order
  -/
  irregular : Option String := none
  /-- does the expression that ends here not show its end? -/
  openEnd : Bool := false
  /-- how many tokens were left after each opening bracket around a condition -/
  conditions : List Nat := []

abbrev Reader := StateT ReaderState Option

namespace Reader

def remaining : Reader (List Token) := do
  pure (← get).tokens

def isLoose : Reader Bool := do
  pure (← get).loose

def peek : Reader Token := do
  match ← remaining with
  | t :: _ => pure t
  | [] => pure ⟨.finish, 1, true⟩

def line : Reader Nat := do
  pure (← peek).line

def advance : Reader Unit :=
  modify fun s => { s with tokens := s.tokens.drop 1 }

def reject {α : Type} : Reader α :=
  failure

def atMark (m : String) : Reader Bool := do
  pure ((← peek).kind == .mark m)

def atWord (w : String) : Reader Bool := do
  pure ((← peek).kind == .word w)

def acceptMark (m : String) : Reader Bool := do
  let found ← atMark m
  if found then advance
  pure found

def acceptWord (w : String) : Reader Bool := do
  let found ← atWord w
  if found then advance
  pure found

def mark (m : String) : Reader Unit := do
  unless ← acceptMark m do reject

def word (w : String) : Reader Unit := do
  unless ← acceptWord w do reject

/-- The name that a word stands for: words with one normal form are one name. -/
def nameOf (w : String) : String :=
  String.ofList (Text.normalForm w.toList)

def name? : Reader (Option String) := do
  match (← peek).kind with
  | .word w => pure (if keywords.contains w then none else some (nameOf w))
  | _ => pure none

def name : Reader String := do
  match ← name? with
  | some w => advance; pure w
  | none => reject

/-- The kind of the token after the next one. -/
def second : Reader TokenKind := do
  match ← remaining with
  | _ :: t :: _ => pure t.kind
  | _ => pure .finish

def collect {α : Type} (step : Reader (Option α)) : Nat → Reader (List α)
  | 0 => reject
  | fuel + 1 => do
    match ← step with
    | none => pure []
    | some a => do
      let rest ← collect step fuel
      pure (a :: rest)

/-- Reads items until `step` finds none. Each item takes a token, so the tokens bound the items. -/
def many {α : Type} (step : Reader (Option α)) : Reader (List α) := do
  collect step ((← remaining).length + 1)

/-! ### Words and expressions -/

/-- Notes that something is not as it should be; what is noted first counts. -/
def noteIrregular (message : String) : Reader Unit :=
  modify fun s => { s with irregular := s.irregular <|> some message }

def missingBlank (place : String) : String :=
  "Must have at least one space " ++ place

def beforeKeyword (w : String) : String :=
  "before '" ++ w ++ "' keyword."

def afterKeyword (w : String) : String :=
  "after '" ++ w ++ "' keyword."

/-- Notes how the expression that ends here ends. -/
def endWith (isOpen : Bool) : Reader Unit :=
  modify fun s => { s with openEnd := isOpen }

/-- Takes a keyword that stands behind an expression; `place` says where a blank should be. -/
def acceptWordBehind (w place : String) : Reader Bool := do
  let t ← peek
  if t.kind == .word w then
    if !t.spaced && (← get).openEnd then noteIrregular (missingBlank place)
    advance
    pure true
  else pure false

def wordBehind (w place : String) : Reader Unit := do
  unless ← acceptWordBehind w place do reject

/-- Does an expression that starts with these tokens show its start? The brackets of a condition do
not count. -/
def showsStart (conditions : List Nat) : List Token → Bool
  | [] => true
  | t :: rest =>
    match t.kind with
    | .mark "(" => if conditions.contains rest.length then showsStart conditions rest else true
    | .literal form _ => !form.raw && !form.formatted
    | .word _ | .integer _ | .hugeInteger | .decimal _ _ | .imaginary | .embedding _ => false
    | _ => true

def isStar : Expr → Bool
  | .star _ _ => true
  | _ => false

/-- An expression behind a keyword; `place` says where a blank should be. -/
def behindWord (place : String) (expression : Reader Expr) : Reader Expr := do
  let start ← remaining
  let e ← expression
  match start with
  | t :: _ =>
    if !t.spaced && (isStar e || !showsStart (← get).conditions start) then
      noteIrregular (missingBlank place)
  | [] => pure ()
  pure e

/-- Items after the first of a list parted by commas; `closes` says where the list ends, so that a
comma may stand before its end. -/
def moreAfterComma {α : Type} (closes : Reader Bool) (item : Reader α) : Reader (List α) :=
  many do
    if ← atMark "," then
      advance
      if ← closes then
        endWith false
        pure none
      else some <$> item
    else pure none

end Reader

end Codeweave.Script
