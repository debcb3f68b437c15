import Codeweave.Script.Parser.Expression

/-!
Reading patterns, which say what a value may look like. Patterns nest, and `patternUpTo` ties the
readers by the depth to which they may.
-/

namespace Codeweave.Script

namespace Reader

def dottedName : Reader (List String) := do
  let first ← name
  let rest ← many do
    if ← acceptMark "." then some <$> name else pure none
  pure (first :: rest)

/-! ### Values in patterns -/

def isNumber : TokenKind → Bool
  | .integer _ | .decimal _ _ | .imaginary => true
  | _ => false

section

variable (inner : Inner)

/-- A number, perhaps behind a sign, or a sum of a real and an imaginary one. -/
def numberValue : Reader Expr := do
  let start ← line
  let negative ← acceptMark "-"
  unless isNumber (← peek).kind do reject
  let real := (← peek).kind != .imaginary
  let first ← atom inner
  if (← acceptMark "+") || (← acceptMark "-") then
    unless real && (← peek).kind == .imaginary do reject
    advance
    pure (.constant .unfollowed)
  else pure (if negative then .unary start .minus first else first)

/-- A number or a text; `none` if something else comes next. -/
def literalValue? : Reader (Option Expr) := do
  let kind := (← peek).kind
  match kind with
  | .literal _ _ | .embedding _ => some <$> atom inner
  | _ => if isNumber kind || kind == .mark "-" then some <$> numberValue inner else pure none

/-- Nothing or a truth value; `none` if something else comes next. -/
def constantValue? : Reader (Option Constant) := do
  if ← acceptWord "None" then pure (some .none)
  else if ← acceptWord "True" then pure (some (.bool true))
  else if ← acceptWord "False" then pure (some (.bool false))
  else pure none

end

/-- A name and members behind it; the parts of the name are counted. -/
def dottedValue : Reader (Expr × Nat) := do
  let start ← line
  let first ← name
  let members ← many do
    if ← acceptMark "." then
      let at_ ← line
      pure (some (at_, ← name))
    else pure none
  pure (members.foldl (fun e (at_, id) => .member at_ e id) (.name start first), members.length + 1)

/-- A name that a value can be bound to in a pattern. -/
def captured : Reader String := do
  let id ← name
  if id == "_" then reject
  if (← atMark ".") || (← atMark "(") || (← atMark "=") then reject
  pure id

/-! ### Patterns -/

section

variable (inner : Inner) (pattern : Reader Pattern)

/-- A star before a name, or before the name that stands for no name. -/
def restPattern (start : Nat) : Reader Pattern := do
  if ← acceptWord "_" then pure (.rest start none) else pure (.rest start (some (← captured)))

def itemPattern : Reader Pattern := do
  let start ← line
  if ← acceptMark "*" then restPattern start else pattern

/-- Patterns in brackets, of which the opening one was read: a sequence, or in round brackets the
one pattern that no comma follows. -/
def bracketedPattern (start : Nat) (closing : String) : Reader Pattern := do
  if ← acceptMark closing then pure (.sequence start [])
  else
    let first ← itemPattern pattern
    let comma ← atMark ","
    let rest ← moreAfterComma (atMark closing) (itemPattern pattern)
    mark closing
    if closing == "]" || comma then pure (.sequence start (first :: rest))
    else
      match first with
      | .rest _ _ => reject
      | only => pure only

def keyValue : Reader Expr := do
  match ← literalValue? inner with
  | some e => pure e
  | none =>
    match ← constantValue? with
    | some c => pure (.constant c)
    | none =>
      let (e, parts) ← dottedValue
      if parts < 2 then reject
      pure e

/-- The entries of a mapping up to its closing brace, in at most so many steps. -/
def mappingFrom : Nat → Reader (List (Expr × Pattern) × Option String)
  | 0 => reject
  | fuel + 1 => do
    if ← acceptMark "\x7d" then pure ([], none)
    else if ← acceptMark "**" then
      let rest ← captured
      let _ ← acceptMark ","
      mark "\x7d"
      pure ([], some rest)
    else
      let key ← keyValue inner
      mark ":"
      let value ← pattern
      if ← acceptMark "," then
        let (entries, rest) ← mappingFrom fuel
        pure ((key, value) :: entries, rest)
      else
        mark "\x7d"
        pure ([(key, value)], none)

/-- The patterns for members up to the closing bracket, in at most so many steps. Those with names
come last. -/
def memberPatterns (named : Bool) : Nat → Reader (List Pattern × List (Nat × String) × List Pattern)
  | 0 => reject
  | fuel + 1 => do
    if ← acceptMark ")" then pure ([], [], [])
    else
      let id? ← (do
        match ← name?, ← second with
        | some id, .mark "=" => advance; advance; pure (some id)
        | _, _ => pure none)
      if named && id?.isNone then reject
      let start ← line
      let value ← pattern
      let (positional, names, values) ← (do
        if ← acceptMark "," then memberPatterns id?.isSome fuel
        else
          mark ")"
          pure ([], [], []))
      match id? with
      | some id => pure (positional, (start, id) :: names, value :: values)
      | none => pure (value :: positional, names, values)

def closedPattern : Reader Pattern := do
  let start ← line
  match ← literalValue? inner with
  | some e => pure (.equal start e)
  | none =>
    match ← constantValue? with
    | some c => pure (.constant start c)
    | none =>
      if ← acceptMark "(" then bracketedPattern pattern start ")"
      else if ← acceptMark "[" then bracketedPattern pattern start "]"
      else if ← acceptMark "\x7b" then
        let (entries, rest) ← mappingFrom inner pattern ((← remaining).length + 1)
        pure (.mapping start (entries.map Prod.fst) (entries.map Prod.snd) rest)
      else if ← acceptWord "_" then pure (.anything start)
      else
        let (e, parts) ← dottedValue
        if ← acceptMark "(" then
          let (positional, names, values) ← memberPatterns pattern false ((← remaining).length + 1)
          pure (.instance_ start e positional names values)
        else if ← atMark "=" then reject
        else
          match e with
          | .name _ id => pure (.capture start id)
          | _ => if parts < 2 then reject else pure (.equal start e)

def patternStep : Reader Pattern := do
  let start ← line
  let first ← closedPattern inner pattern
  let rest ← many do
    if ← acceptMark "|" then some <$> closedPattern inner pattern else pure none
  let options := if rest.isEmpty then first else .either start (first :: rest)
  if ← acceptWord "as" then pure (.named start options (← captured)) else pure options

end

def patternUpTo (inner : Inner) : Nat → Reader Pattern
  | 0 => reject
  | depth + 1 => fun tokens => patternStep inner (patternUpTo inner depth) tokens

/-- The pattern of a case, which may be a sequence without brackets. -/
def openPattern (inner : Inner) : Reader Pattern := do
  let start ← line
  let pattern := patternUpTo inner ((← remaining).length + 1)
  let first ← itemPattern pattern
  if ← atMark "," then
    let closes : Reader Bool := do pure ((← atMark ":") || (← atWord "if"))
    pure (.sequence start (first :: (← moreAfterComma closes (itemPattern pattern))))
  else
    match first with
    | .rest _ _ => reject
    | only => pure only

end Reader

end Codeweave.Script
