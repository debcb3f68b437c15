import Codeweave.Decimal.Exact
import Codeweave.Script.Parser.Basic
import Codeweave.Script.Parser.Literal

/-!
Reading expressions, one function per rank of operators from the loosest to the tightest. The
grammar refers to itself at three places only: expressions inside brackets and after colons,
operands of signs and exponents, and operands of negation. Those three are parameters of all other
readers, and `Inner.upTo` ties them by the depth to which they may nest.
-/

namespace Codeweave.Script

/-- The readers through which the grammar of expressions refers to itself. -/
structure Inner where
  /-- a condition, a disjunction or a function expression -/
  expression : Reader Expr
  /-- an operand of a sign, or of an exponent -/
  factor : Reader Expr
  /-- an operand of negation -/
  negation : Reader Expr

namespace Reader

/-! ### Operators -/

def acceptOperator {α : Type} (table : List (String × α)) : Reader (Option α) := do
  match (← peek).kind with
  | .mark m =>
    match table.lookup m with
    | some op => advance; pure (some op)
    | none => pure none
  | _ => pure none

def leftGrouped (table : List (String × BinaryOp)) (operand : Reader Expr) : Reader Expr := do
  let start ← line
  let first ← operand
  let rest ← many do
    match ← acceptOperator table with
    | some op => some <$> (Prod.mk op <$> operand)
    | none => pure none
  pure (rest.foldl (fun left (op, right) => .binary start op left right) first)

/-- Where blanks should be at comparisons that are words. -/
def aroundComparison : String :=
  "around comparison operator."

def acceptComparison : Reader (Option CompareOp) := do
  match ← acceptOperator
      [("==", CompareOp.equal), ("!=", .notEqual), ("<", .less), ("<=", .lessEqual),
       (">", .greater), (">=", .greaterEqual)] with
  | some op => pure (some op)
  | none =>
    if ← acceptWordBehind "in" aroundComparison then pure (some .contained)
    else if ← acceptWordBehind "is" aroundComparison then
      if ← acceptWord "not" then pure (some .notSame) else pure (some .same)
    else if (← second) == .word "in" then
      if ← acceptWordBehind "not" aroundComparison then
        advance
        pure (some .notContained)
      else pure none
    else pure none

def isWordy : CompareOp → Bool
  | .contained | .notContained | .same | .notSame => true
  | _ => false

/-! ### Atoms -/

/-- Is this a target that can be assigned to? Stars may stand inside tuples and lists. -/
def isTarget : Expr → Bool
  | .name _ _ | .member _ _ _ | .item _ _ _ => true
  | .star _ value => isTarget value
  | .tuple _ items | .list _ items => items.attach.all fun ⟨item, _⟩ => isTarget item
  | _ => false

section

variable (inner : Inner)

def named : Reader Expr := do
  let start ← line
  match ← name? with
  | some id =>
    if (← second) == .mark ":=" then
      advance
      advance
      pure (.binding start id (← inner.expression))
    else inner.expression
  | none => inner.expression

def onTokens {α : Type} (tokens : List Token) (reader : Reader α) : Reader α := do
  let outer ← get
  set { outer with tokens := tokens, conditions := [] }
  let result ← reader
  modify fun s => { outer with irregular := s.irregular }
  pure result

def literals : Reader Expr := do
  let start ← line
  let tokens ← many do
    let t ← peek
    match t.kind with
    | .literal form source => advance; pure (some (t.line, form, source))
    | _ => pure none
  endWith false
  if tokens.any fun (_, form, _) => form.bytes then
    unless tokens.all fun (_, form, source) =>
        form.bytes && (Literal.letters? form source).isSome do reject
    pure (.constant .unfollowed)
  else
    let pieces ← tokens.mapM fun (at_, form, source) =>
      if form.formatted then partPieces start at_ form (Literal.parts form source)
      else do pure [← text form source]
    let pieces := pieces.flatten
    if tokens.any fun (_, form, _) => form.formatted then pure (.formatted pieces)
    else pure (.constant (plainText pieces))
where
  /-- The text of a literal whose escapes all stand for something. -/
  text (form : LiteralForm) (source : List Char) : Reader Piece :=
    match Literal.letters? form source with
    | some letters =>
      pure (((letters.mapM id).map fun cs => .text (String.ofList cs)).getD .unfollowed)
    | none => reject
  /-- The text that pieces without values make up. -/
  plainText (pieces : List Piece) : Constant :=
    match pieces.mapM fun | .text s => some s | _ => none with
    | some texts => .text (String.join texts)
    | none => .unfollowed
  /-- An expression in a formatted literal. -/
  value (line : Nat) (source : List Char) : Reader Expr := do
    let lexed := Lexer.tokensFrom line ('(' :: source ++ [')'])
    if lexed.failure.isSome then reject
    onTokens lexed.tokens do
      let value ← inner.factor
      unless (← peek).kind == .newline do reject
      pure value
  /-- The pieces of a formatted literal. The row of literals starts on the first of the lines, the
  literal on the second. -/
  partPieces (start at_ : Nat) (form : LiteralForm) : List Literal.Part → Reader (List Piece)
    | [] => pure []
    | .broken :: _ => reject
    | .plain source :: rest => do
      let piece ← text form source
      pure (piece :: (← partPieces start at_ form rest))
    | .value newlines source quoted special format :: rest => do
      let e ← value (at_ + newlines) source
      let shape ← partPieces start at_ form format
      pure (.shown start e quoted special shape :: (← partPieces start at_ form rest))

def power (primary : Reader Expr) : Reader Expr := do
  let start ← line
  let base ← (do
    if ← acceptWord "await" then
      let e ← behindWord "after await" primary
      endWith true
      pure (Expr.await start e)
    else primary)
  if ← acceptMark "**" then pure (.binary start .power base (← inner.factor)) else pure base

def factorStep (primary : Reader Expr) : Reader Expr := do
  let start ← line
  match ← acceptOperator [("+", UnaryOp.plus), ("-", .minus), ("~", .invert)] with
  | some op => pure (.unary start op (← inner.factor))
  | none => power inner primary

def bitOr : Reader Expr :=
  let term := leftGrouped
    [("*", .multiply), ("/", .divide), ("//", .floorDivide), ("%", .modulo),
     ("@", .matrixMultiply)] inner.factor
  let sum := leftGrouped [("+", .add), ("-", .subtract)] term
  let shift := leftGrouped [("<<", .shiftLeft), (">>", .shiftRight)] sum
  let conjunct := leftGrouped [("&", .bitAnd)] shift
  let exclusive := leftGrouped [("^", .bitXor)] conjunct
  leftGrouped [("|", .bitOr)] exclusive

def comparison : Reader Expr := do
  let start ← line
  let first ← bitOr inner
  let rest ← many do
    match ← acceptComparison with
    | some op =>
      some <$> (Prod.mk op <$> if isWordy op then
        behindWord aroundComparison (bitOr inner) else bitOr inner)
    | none => pure none
  pure (if rest.isEmpty then first else .compare start first rest)

def negationStep : Reader Expr := do
  let start ← line
  if ← acceptWord "not" then
    pure (.unary start .negation (← behindWord "after not operator." inner.negation))
  else comparison inner

def joined (w : String) (join : Expr → Expr → Expr) (operand : Reader Expr) : Reader Expr := do
  let first ← operand
  let rest ← many do
    let place := "around boolean operator."
    if ← acceptWordBehind w place then some <$> behindWord place operand else pure none
  pure (rest.foldl join first)

def disjunction : Reader Expr :=
  joined "or" .either (joined "and" .both inner.negation)

/-- An item of a tuple or list: an expression, or a star before an operand. -/
def starNamed : Reader Expr := do
  let start ← line
  if ← acceptMark "*" then pure (.star start (← bitOr inner)) else named inner

def starExpression : Reader Expr := do
  let start ← line
  if ← acceptMark "*" then pure (.star start (← bitOr inner)) else inner.expression

def atExpressionEnd : Reader Bool := do
  match (← peek).kind with
  | .newline | .finish => pure true
  | .mark m => pure ([")", "]", "\x7d", "=", ":", ";"].contains m || m.endsWith "=")
  | .word w => pure (w == "in")
  | _ => pure false

/-- Items parted by commas without brackets around them: one item, and the others if a comma
follows it. -/
def row (item : Reader Expr) : Reader (Expr × Option (List Expr)) := do
  let first ← item
  if ← atMark "," then
    pure (first, some (← moreAfterComma atExpressionEnd item))
  else pure (first, none)

/-- The tuple of a row with a comma, the one item of another. -/
def rowValue (start : Nat) : Expr × Option (List Expr) → Expr
  | (first, some rest) => .tuple start (first :: rest)
  | (first, none) => first

def tupleOf (item : Reader Expr) : Reader Expr := do
  let start ← line
  pure (rowValue start (← row item))

def starExpressions : Reader Expr :=
  tupleOf (starExpression inner)

def targetItem : Reader Expr := do
  let start ← line
  if ← acceptMark "*" then pure (.star start (← bitOr inner)) else bitOr inner

def targets : Reader Expr := do
  let e ← tupleOf (targetItem inner)
  if isTarget e then pure e else reject

def clause? : Reader (Option Clause) := do
  let start ← line
  let async ← acceptWordBehind "async" (beforeKeyword "for")
  if ← acceptWordBehind "for" (beforeKeyword "for") then
    let target ← behindWord (afterKeyword "for") (targets inner)
    wordBehind "in" (beforeKeyword "in")
    let source ← behindWord (afterKeyword "in") (disjunction inner)
    let conditions ← many do
      if ← acceptWordBehind "if" (beforeKeyword "if") then
        some <$> behindWord (afterKeyword "if") (disjunction inner)
      else pure none
    pure (some (.mk start async target source conditions))
  else if async then reject
  else pure none

def clauses : Reader (List Clause) := many (clause? inner)

def yieldExpression : Reader Expr := do
  let start ← line
  word "yield"
  if ← acceptWord "from" then
    pure (.produceFrom start (← behindWord (afterKeyword "from") inner.expression))
  else if ← atExpressionEnd then pure (.produce start none)
  else pure (.produce start (some (← behindWord (afterKeyword "yield") (starExpressions inner))))

def isCondition : Expr → Bool
  | .choose _ _ _ => true
  | _ => false

/-- Notes an expression in brackets of which so many tokens were left after the opening one. -/
def noteBrackets (start : Nat) (e : Expr) : Reader Unit :=
  if isCondition e then modify fun s => { s with conditions := start :: s.conditions }
  else endWith false

/-- May the loops of a comprehension come next, behind its element? Behind a star only loosely. -/
def atLoops (element : Expr) : Reader Bool := do
  if isStar element && !(← isLoose) then pure false
  else pure ((← atWord "for") || (← atWord "async"))

def parenthesised (start : Nat) : Reader Expr := do
  let count := (← remaining).length
  if ← acceptMark ")" then
    endWith false
    pure (.tuple start [])
  else if ← atWord "yield" then
    let e ← yieldExpression inner
    mark ")"
    endWith false
    pure e
  else
    let first ← starNamed inner
    if ← atMark "," then
      let rest ← moreAfterComma (atMark ")") (starNamed inner)
      mark ")"
      endWith false
      pure (.tuple start (first :: rest))
    else if ← atLoops first then
      let loops ← clauses inner
      mark ")"
      endWith false
      pure (.comprehension start .generator first loops)
    else if isStar first then reject
    else
      mark ")"
      noteBrackets count first
      pure first

def listItems (start : Nat) : Reader Expr := do
  if ← acceptMark "]" then
    endWith false
    pure (.list start [])
  else
    let first ← starNamed inner
    if ← atLoops first then
      let loops ← clauses inner
      mark "]"
      endWith false
      pure (.comprehension start .list first loops)
    else
      let rest ← moreAfterComma (atMark "]") (starNamed inner)
      mark "]"
      endWith false
      pure (.list start (first :: rest))

def entry : Reader Entry := do
  let start ← line
  if ← acceptMark "**" then pure (.spread start (← bitOr inner))
  else
    let key ← inner.expression
    mark ":"
    pure (.pair key (← inner.expression))

/-- The tuple of the key and the value of an entry. -/
def pairOf (start : Nat) : Entry → Expr
  | .pair key value => .tuple start [key, value]
  | .spread _ value => value

def isPair : Entry → Bool
  | .pair _ _ => true
  | .spread _ _ => false

/-- The entries of a dictionary of which the first was read, or the loops behind it. -/
def dictItems (start : Nat) (first : Entry) : Reader Expr := do
  if (isPair first || (← isLoose)) && (← atLoops (pairOf start first)) then
    let loops ← clauses inner
    mark "\x7d"
    endWith false
    pure (.comprehension start .dict (pairOf start first) loops)
  else
    let rest ← moreAfterComma (atMark "\x7d") (entry inner)
    mark "\x7d"
    endWith false
    pure (.dict start (first :: rest))

/-- The items of a set of which the first was read, or the loops behind it. -/
def setItems (start : Nat) (first : Expr) : Reader Expr := do
  if ← atLoops first then
    let loops ← clauses inner
    mark "\x7d"
    endWith false
    pure (.comprehension start .set first loops)
  else
    let rest ← moreAfterComma (atMark "\x7d") (starNamed inner)
    mark "\x7d"
    endWith false
    pure (.set start (first :: rest))

/-- Does a name come next that an expression is about to bind? -/
def atBinding : Reader Bool := do
  pure ((← name?).isSome && (← second) == .mark ":=")

/-- What stands in braces: a dictionary if there is nothing, or a pair first, else a set. -/
def braced (start : Nat) : Reader Expr := do
  if ← acceptMark "\x7d" then
    endWith false
    pure (.dict start [])
  else if ← atMark "**" then dictItems inner start (← entry inner)
  else
    let binds ← atBinding
    let first ← starNamed inner
    if !binds && !isStar first && (← acceptMark ":") then
      dictItems inner start (.pair first (← inner.expression))
    else setItems inner start first

/-- A row of adjacent text literals of which only the expressions in them are looked at. -/
def looseLiterals : Reader Expr := do
  let bytes ← many do
    match (← peek).kind with
    | .literal form _ => advance; pure (some form.bytes)
    | .embedding values => do
      advance
      values.forM value
      pure (some false)
    | _ => pure none
  if bytes.any id && !bytes.all id then noteIrregular "Cannot concatenate string and bytes."
  endWith false
  pure (.constant (.text ""))
where
  /-- An expression in a formatted literal, with an equals sign and a letter behind it. -/
  value (source : List Char) : Reader Unit := do
    let lexed := Lexer.looseTokens ('(' :: source ++ [')'])
    if lexed.failure.isSome then reject
    onTokens lexed.tokens do
      advance
      let _ ← if ← atWord "yield" then yieldExpression inner else tupleOf (starExpression inner)
      let _ ← acceptMark "="
      if ← acceptMark "!" then
        let letter ← name
        unless ["a", "r", "s"].contains letter do reject
      mark ")"
      unless (← peek).kind == .newline do reject

/-- A constant that ends in a letter, or one that does not. -/
def constant (isOpen : Bool) (value : Constant) : Reader Expr := do
  advance
  endWith isOpen
  pure (.constant value)

def atom : Reader Expr := do
  let t ← peek
  match t.kind with
  | .word w =>
    if w == "None" then constant true .none
    else if w == "True" then constant true (.bool true)
    else if w == "False" then constant true (.bool false)
    else if keywords.contains w then reject
    else
      advance
      endWith true
      pure (.name t.line (nameOf w))
  | .integer n => constant false (.integer n)
  | .hugeInteger => if ← isLoose then constant false (.integer 0) else reject
  | .decimal digits exponent =>
    constant false (.float (Decimal.ofScientific digits exponent))
  | .imaginary => constant false .unfollowed
  | .literal _ _ => if ← isLoose then looseLiterals inner else literals inner
  | .embedding _ => looseLiterals inner
  | .mark m =>
    if m == "(" then advance; parenthesised inner t.line
    else if m == "[" then advance; listItems inner t.line
    else if m == "\x7b" then advance; braced inner t.line
    else if m == "..." then constant false .ellipsis
    else reject
  | _ => reject

/-! ### Calls and look-ups -/

/-- What came before an argument: nothing that forbids one, a named argument, or named arguments
taken from a dictionary. -/
inductive ArgumentStage where
  | plain
  | named
  | spreadNamed

/-- The argument that comes next. Positional arguments stand before named ones. -/
def argument (stage : ArgumentStage) : Reader (Argument × ArgumentStage) := do
  let start ← line
  if ← atMark "*" then
    match stage with
    | .spreadNamed => reject
    | _ =>
      advance
      pure (.spread start (← inner.expression), stage)
  else if ← acceptMark "**" then
    pure (.spreadNamed start (← inner.expression), .spreadNamed)
  else
    match ← name?, ← second with
    | some id, .mark "=" =>
      advance
      advance
      let stage' := match stage with
        | .spreadNamed => ArgumentStage.spreadNamed
        | _ => .named
      pure (.named start id (← inner.expression), stage')
    | _, _ =>
      match stage with
      | .plain => pure (.positional (← named inner), stage)
      | _ => reject

def argumentsFrom : Nat → ArgumentStage → Reader (List Argument)
  | 0, _ => reject
  | fuel + 1, stage => do
    if ← acceptMark ")" then pure []
    else
      let (a, stage') ← argument inner stage
      if ← acceptMark "," then
        let rest ← argumentsFrom fuel stage'
        pure (a :: rest)
      else
        mark ")"
        pure [a]

/-- Arguments after the opening bracket. A generator expression may stand alone without brackets of
its own. -/
def arguments (start : Nat) : Reader (List Argument) := do
  if ← acceptMark ")" then pure []
  else
    let (first, stage) ← argument inner .plain
    match first with
    | .positional e => if ← atLoops e then alone e else more first stage
    | .spread at_ e => if ← atLoops (.star at_ e) then alone e else more first stage
    | _ => more first stage
where
  alone (e : Expr) : Reader (List Argument) := do
    let loops ← clauses inner
    mark ")"
    pure [.positional (.comprehension start .generator e loops)]
  more (first : Argument) (stage : ArgumentStage) : Reader (List Argument) := do
    if ← acceptMark "," then
      let rest ← argumentsFrom inner ((← remaining).length + 1) stage
      pure (first :: rest)
    else
      mark ")"
      pure [first]

def sliceItem : Reader Expr := do
  let part : Reader (Option Expr) := do
    if (← atMark ":") || (← atMark "]") || (← atMark ",") then pure none
    else some <$> inner.expression
  let low ← (do if ← atMark ":" then pure none else some <$> named inner)
  if ← acceptMark ":" then
    let high ← part
    let step ← (do if ← acceptMark ":" then part else pure none)
    pure (.slice low high step)
  else
    match low with
    | some e => pure e
    | none => reject

def keyItem : Reader Expr := do
  let start ← line
  if ← acceptMark "*" then pure (.star start (← inner.expression)) else sliceItem inner

/-- What stands in square brackets behind an expression. A comma or a star makes it a tuple. -/
def subscript : Reader Expr := do
  let start ← line
  let first ← keyItem inner
  if (← atMark ",") || isStar first then
    let rest ← moreAfterComma (atMark "]") (keyItem inner)
    mark "]"
    pure (.tuple start (first :: rest))
  else
    mark "]"
    pure first

/-- The line on which a call is reported: that of the attribute it calls, when all its arguments
are written out, else the line on which it starts. -/
def callLine (start : Nat) (callee : Expr) (arguments : List Argument) : Nat :=
  match callee with
  | .member at_ _ _ =>
    if arguments.all fun | .positional _ | .named _ _ _ => true | _ => false then at_ else start
  | _ => start

def trailer (start : Nat) : Reader (Option (Expr → Expr)) := do
  let t ← peek
  if ← acceptMark "." then
    let at_ ← line
    let id ← name
    endWith true
    pure (some fun e => .member at_ e id)
  else if ← acceptMark "(" then
    let args ← arguments inner t.line
    endWith false
    pure (some fun e => .call (callLine start e args) e args)
  else if ← acceptMark "[" then
    let key ← subscript inner
    endWith false
    pure (some fun e => .item start e key)
  else pure none

def primary : Reader Expr := do
  let start ← line
  let first ← atom inner
  let trailers ← many (trailer inner start)
  pure (trailers.foldl (fun e f => f e) first)

/-! ### Functions -/

structure ParamStage where
  kind : ParamKind := .regular
  defaulted : Bool := false

/-- Parameters up to `closes`, in at most the given number of steps. `annotated` parameters may
have an annotation. -/
def paramsFrom (annotated : Bool) (closes : Reader Bool) : Nat → ParamStage → List Param →
    Reader (List Param)
  | 0, _, _ => reject
  | fuel + 1, stage, before => do
    if ← closes then pure before
    else
      let start ← line
      if ← acceptMark "**" then
        let (id, hint) ← annotatedName false
        let _ ← acceptMark ","
        if ← closes then pure (before ++ [.mk start id .restNamed none hint]) else reject
      else if ← atMark "*" then
        match stage.kind with
        | .keywordOnly => reject
        | _ =>
          advance
          if ← acceptMark "," then
            if (← closes) || (← atMark "**") then reject
            else paramsFrom annotated closes fuel ⟨.keywordOnly, false⟩ before
          else
            let (id, hint) ← annotatedName true
            let params := before ++ [.mk start id .rest none hint]
            if ← acceptMark "," then
              paramsFrom annotated closes fuel ⟨.keywordOnly, false⟩ params
            else if ← closes then pure params
            else reject
      else if ← atMark "/" then
        if before.isEmpty || before.any (fun p => p.kind != .regular) || stage.kind != .regular then
          reject
        else
          advance
          let params := before.map fun p =>
            .mk p.line p.name .positionalOnly p.default p.hint
          if ← acceptMark "," then paramsFrom annotated closes fuel stage params
          else if ← closes then pure params
          else reject
      else
        let (id, hint) ← annotatedName false
        let default ← (do if ← acceptMark "=" then some <$> inner.expression else pure none)
        if stage.kind == .regular && stage.defaulted && default.isNone then reject
        else
          let params := before ++ [.mk start id stage.kind default hint]
          let stage' := { stage with defaulted := stage.defaulted || default.isSome }
          if ← acceptMark "," then paramsFrom annotated closes fuel stage' params
          else if ← closes then pure params
          else reject
where
  /-- A name with its annotation; that of a parameter with a star may have one, too. -/
  annotatedName (starred : Bool) : Reader (String × Option Expr) := do
    let id ← name
    if !annotated then pure (id, none)
    else if ← acceptMark ":" then
      if ← atMark "*" then
        if starred then
          advance
          pure (id, some (← bitOr inner))
        else reject
      else pure (id, some (← inner.expression))
    else pure (id, none)

def params (annotated : Bool) (closes : Reader Bool) : Reader (List Param) := do
  paramsFrom inner annotated closes ((← remaining).length + 1) {} []

def functionExpression : Reader Expr := do
  let start ← line
  word "lambda"
  let ps ← params inner false (atMark ":")
  mark ":"
  pure (.function start ps (← inner.expression))

def expressionStep : Reader Expr := do
  if ← atWord "lambda" then functionExpression inner
  else
    let yes ← disjunction inner
    if ← acceptWordBehind "if" (beforeKeyword "if") then
      let test ← behindWord (afterKeyword "if") (disjunction inner)
      wordBehind "else" (beforeKeyword "else")
      pure (.choose test yes (← behindWord (afterKeyword "else") inner.expression))
    else pure yes

end

end Reader

/-- The readers of expressions that nest to at most the given depth. -/
def Inner.upTo : Nat → Inner
  | 0 => ⟨Reader.reject, Reader.reject, Reader.reject⟩
  | depth + 1 =>
    { expression := fun tokens => Reader.expressionStep (upTo depth) tokens
      factor := fun tokens =>
        Reader.factorStep (upTo depth) (Reader.primary (upTo depth)) tokens
      negation := fun tokens => Reader.negationStep (upTo depth) tokens }

/-- The readers of expressions in a text of so many characters: every pair of brackets takes three
steps. -/
def Inner.ofSize (size : Nat) : Inner :=
  Inner.upTo (3 * size + 8)

end Codeweave.Script
