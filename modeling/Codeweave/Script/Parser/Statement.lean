import Codeweave.Script.Diagnosis.Statement
import Codeweave.Script.Parser.Pattern

/-!
Reading statements and whole scripts. A block is either the rest of its header's line or deeper
lines below it.
-/

namespace Codeweave.Script

namespace Reader

def updateOperators : List (String × BinaryOp) :=
  [("+=", .add), ("-=", .subtract), ("*=", .multiply), ("@=", .matrixMultiply), ("/=", .divide),
   ("//=", .floorDivide), ("%=", .modulo), ("**=", .power), ("<<=", .shiftLeft),
   (">>=", .shiftRight), ("&=", .bitAnd), ("|=", .bitOr), ("^=", .bitXor)]

/-- A target that is one place, not several. -/
def isSingleTarget : Expr → Bool
  | .name _ _ | .member _ _ _ | .item _ _ _ => true
  | _ => false

def isDeletable : Expr → Bool
  | .name _ _ | .member _ _ _ | .item _ _ _ => true
  | .tuple _ items | .list _ items => items.attach.all fun ⟨item, _⟩ => isDeletable item
  | _ => false

def atStatementEnd : Reader Bool := do
  match (← peek).kind with
  | .newline | .finish => pure true
  | .mark m => pure (m == ";")
  | _ => pure false

def atPlainName : Reader Bool := do
  match ← remaining with
  | { kind := .word _, .. } :: { kind := .mark ":", .. } :: _ => pure true
  | _ => pure false

section

variable (inner : Inner)

def assigned : Reader Expr := do
  if ← atWord "yield" then yieldExpression inner else starExpressions inner

/-- The further sides of an assignment after its first equals sign, the value last. -/
def furtherSides : Reader (List Expr) :=
  many do
    if ← acceptMark "=" then some <$> assigned inner else pure none

/-- Can the target that was read from the given tokens have an annotation? Exactly read, a target in
brackets can, but nothing else that starts with a target in brackets; loosely read, no target in
brackets can. -/
def takesHint (start : List Token) : Reader Bool := do
  let rest ← remaining
  match start with
  | ⟨.mark "(", line, _⟩ :: inside =>
    let last := (start.take (start.length - rest.length)).getLast?
    let closed := (last.map Token.kind) == some (.mark ")")
    if ← isLoose then pure !closed
    else
      match (parenthesised inner line).run { tokens := inside } with
      | some (e, after) =>
        pure (!isSingleTarget e || after.tokens.length == rest.length)
      | none => pure true
  | _ => pure true

def expressionStatement : Reader Stmt := do
  let start ← line
  let tokens ← remaining
  let simple ← atPlainName
  let first ← assigned inner
  if ← atMark "=" then
    if isTarget first then
      let sides ← furtherSides inner
      match sides.getLast? with
      | none => reject
      | some value =>
        let middle := sides.dropLast
        if middle.all isTarget then pure (.assign (first :: middle) value)
        else reject
    else reject
  else if ← atMark ":" then
    if isSingleTarget first && (← takesHint inner tokens) then
      advance
      let hint ← inner.expression
      let value ← (do if ← acceptMark "=" then some <$> assigned inner else pure none)
      pure (.annotate start simple first hint value)
    else reject
  else
    match (← peek).kind with
    | .mark m =>
      match updateOperators.lookup m with
      | some op =>
        if isSingleTarget first then
          advance
          pure (.update start first op (← assigned inner))
        else reject
      | none => pure (.evaluate first)
    | _ => pure (.evaluate first)

def atTypeName : Reader Bool := do
  match ← remaining with
  | ⟨.word "type", _, _⟩ :: ⟨.word w, _, _⟩ :: _ => pure !(keywords.contains w)
  | _ => pure false

/-- Parameters of a function or of a type that stand for types, in square brackets. -/
def typeParams : Reader Unit := do
  if ← acceptMark "[" then
    let item : Reader Unit := do
      let _ ← (do if ← acceptMark "*" then pure true else acceptMark "**")
      let _ ← name
      if ← acceptMark ":" then
        let _ ← inner.expression
      if ← acceptMark "=" then
        let _ ← starExpression inner
    item
    let _ ← moreAfterComma (atMark "]") item
    mark "]"

/-- A statement that names a type, which is only read loosely. -/
def typeName : Reader Stmt := do
  advance
  let _ ← name
  typeParams inner
  mark "="
  let _ ← inner.expression
  pure .pass

/-! ### Imports -/

def asName : Reader (Option String) := do
  if ← acceptWord "as" then some <$> name else pure none

def moduleAlias : Reader Alias := do
  let path ← dottedName
  pure ⟨path, ← asName⟩

def memberAlias : Reader Alias := do
  let id ← name
  pure ⟨[id], ← asName⟩

def commaParted {α : Type} (item : Reader α) : Reader (List α) := do
  let first ← item
  let rest ← many do
    if ← acceptMark "," then some <$> item else pure none
  pure (first :: rest)

/-- Where names come from: dots for packages above, and the name of a module. -/
def origin : Reader Origin := do
  let dots ← many do
    if ← acceptMark "." then pure (some 1)
    else if ← acceptMark "..." then pure (some 3)
    else pure none
  let level := dots.foldl (· + ·) 0
  if !dots.isEmpty && (← atWord "import") then pure ⟨level, []⟩
  else pure ⟨level, ← dottedName⟩

def importFrom (start : Nat) : Reader Stmt := do
  let origin ← origin
  word "import"
  let starLine ← line
  if ← acceptMark "*" then pure (.bringAll start starLine origin)
  else if ← acceptMark "(" then
    let first ← memberAlias
    let rest ← moreAfterComma (atMark ")") memberAlias
    mark ")"
    pure (.bringFrom start origin (first :: rest))
  else pure (.bringFrom start origin (← commaParted memberAlias))

def simpleStatement : Reader Stmt := do
  let start ← line
  if ← acceptWord "pass" then pure .pass
  else if ← acceptWord "import" then pure (.bring start (← commaParted moduleAlias))
  else if ← acceptWord "from" then importFrom start
  else if ← acceptWord "break" then pure (.leave start)
  else if ← acceptWord "continue" then pure (.next start)
  else if ← acceptWord "return" then
    if ← atStatementEnd then pure (.giveBack start none)
    else pure (.giveBack start (some (← behindWord "after 'return'." (starExpressions inner))))
  else if ← acceptWord "raise" then
    if ← atStatementEnd then pure (.raise start none none)
    else
      let error ← behindWord "after 'raise'." inner.expression
      let cause ← (do
        if ← acceptWordBehind "from" "before 'from'." then
          some <$> behindWord (afterKeyword "from") inner.expression
        else pure none)
      pure (.raise start (some error) cause)
  else if ← acceptWord "global" then pure (.globals start (← commaParted name))
  else if ← acceptWord "nonlocal" then pure (.nonlocals start (← commaParted name))
  else if ← acceptWord "del" then
    let e ← behindWord "after 'del'." (starExpressions inner)
    if isDeletable e then
      pure (.delete (match e with | .tuple _ items => items | _ => [e]))
    else reject
  else if ← acceptWord "assert" then
    let test ← behindWord "after 'assert'." inner.expression
    let message ← (do if ← acceptMark "," then some <$> inner.expression else pure none)
    pure (.assert start test message)
  else if (← isLoose) && (← atTypeName) then typeName inner
  else expressionStatement inner

def simpleLine : Reader (List Stmt) := do
  let first ← simpleStatement inner
  let rest ← many do
    if ← acceptMark ";" then
      match (← peek).kind with
      | .newline => pure none
      | _ => some <$> simpleStatement inner
    else pure none
  unless (← peek).kind == .newline do reject
  advance
  pure (first :: rest)

variable (block : Reader (List Stmt))

def body : Reader (List Stmt) := do
  mark ":"
  block

def otherBranches : Nat → Reader (List Stmt)
  | 0 => reject
  | fuel + 1 => do
    if ← acceptWord "elif" then
      let test ← named inner
      let yes ← body block
      let no ← otherBranches fuel
      pure [.branch test yes no]
    else if ← acceptWord "else" then body block
    else pure []

def otherwise : Reader (List Stmt) := do
  if ← acceptWord "else" then body block else pure []

def handler? : Reader (Option Handler) := do
  let start ← line
  if ← acceptWord "except" then
    if ← atMark ":" then pure (some (.mk start false none none (← body block)))
    else if ← acceptMark "*" then
      let errors ← inner.expression
      pure (some (.mk start true (some errors) (← asName) (← body block)))
    else
      let errors ← inner.expression
      let id ← (do
        if ← acceptWordBehind "as" "before as keyword in an except handler." then some <$> name
        else
          if ← isLoose then
            let _ ← moreAfterComma (atMark ":") inner.expression
          pure none)
      pure (some (.mk start false (some errors) id (← body block)))
  else pure none

def attempt (start : Nat) : Reader Stmt := do
  let main ← body block
  let handlers ← many (handler? inner block)
  if handlers.any Handler.forGroups && !handlers.all Handler.forGroups then reject
  if handlers.dropLast.any Handler.takesAll then
    noteIrregular "The bare except: handler must be the last one."
  let instead ← (do if handlers.isEmpty then pure [] else otherwise block)
  let hasCleanup ← acceptWord "finally"
  let cleanup ← (do if hasCleanup then body block else pure [])
  if handlers.isEmpty && !hasCleanup then reject
  else pure (.attempt start main handlers instead cleanup)

/-! ### Definitions -/

def decorators : Reader (List Decorator) :=
  many do
    if ← acceptMark "@" then
      let start ← line
      let function ← named inner
      unless (← peek).kind == .newline do reject
      advance
      pure (some ⟨start, function⟩)
    else pure none

def define (start : Nat) (async : Bool) (decorators : List Decorator) : Reader Stmt := do
  let id ← name
  if ← isLoose then typeParams inner
  mark "("
  let ps ← params inner true (atMark ")")
  mark ")"
  let returns ← (do if ← acceptMark "->" then some <$> inner.expression else pure none)
  pure (.define start async decorators id ps returns (← body block))

/-- Is the name one that stands for another inside a class, or one by which code of a class comes
to know the class? -/
def isPrivate (id : String) : Bool :=
  id == "__class__" || id == "super" ||
    ("__".toList.isPrefixOf id.toList && !"__".toList.isSuffixOf id.toList)

/-- May there be such a name? Of a formatted literal, only the characters are looked at. -/
def mayBePrivate (t : Token) : Bool :=
  match t.kind with
  | .word w => isPrivate (nameOf w)
  | .literal form source =>
    let holds (part : String) := 1 < ((String.ofList source).splitOn part).length
    form.formatted && (!source.all Literal.isAscii || holds "__" || holds "super")
  | _ => false

def classDefinition (start : Nat) (decorators : List Decorator) : Reader Stmt := do
  let id ← name
  if ← isLoose then typeParams inner
  let given ← (do
    if ← acceptMark "(" then argumentsFrom inner ((← remaining).length + 1) .plain else pure [])
  let before ← remaining
  let main ← body block
  let after ← remaining
  let isPrivate := (before.take (before.length - after.length)).any mayBePrivate
  pure (.class_ start decorators id given isPrivate main)

/-! ### Objects that are entered -/

def managed : Reader Managed := do
  let object ← inner.expression
  if ← acceptWord "as" then
    let t ← peek
    let target ← targetItem inner
    match target with
    | .name _ _ =>
      if t.kind == .mark "(" && !t.spaced then
        noteIrregular "There must be at least one space between 'as' and name."
    | _ => pure ()
    if isTarget target then pure ⟨object, some target⟩ else reject
  else pure ⟨object, none⟩

def manage (start : Nat) (async : Bool) : Reader Stmt := do
  let bracketed : Reader (List Managed) := do
    mark "("
    let first ← managed inner
    let rest ← moreAfterComma (atMark ")") (managed inner)
    mark ")"
    unless ← atMark ":" do reject
    pure (first :: rest)
  let plain : Reader (List Managed) := do
    let begins ← remaining
    let items ← commaParted (managed inner)
    match begins with
    | t :: _ =>
      if !t.spaced && !showsStart (← get).conditions begins then
        noteIrregular (missingBlank "after with keyword.")
    | [] => pure ()
    pure items
  let items ← bracketed <|> plain
  pure (.manage start async items (← body block))

/-! ### Choices by pattern -/

def case? : Reader (Option Case) := do
  if ← acceptWord "case" then
    let shape ← openPattern inner
    let guard ← (do if ← acceptWord "if" then some <$> named inner else pure none)
    pure (some (.mk shape guard (← body block)))
  else pure none

def select (start : Nat) : Reader Stmt := do
  word "match"
  let subject ← (do
    let start ← line
    let items ← row (starNamed inner)
    if items.2.isNone && isStar items.1 then reject
    pure (rowValue start items))
  mark ":"
  unless (← peek).kind == .newline do reject
  advance
  unless (← peek).kind == .indent do reject
  advance
  let cases ← many (case? inner block)
  if cases.isEmpty then reject
  unless (← peek).kind == .dedent do reject
  advance
  pure (.select start subject cases)

/-! ### All statements -/

def each (start : Nat) (async : Bool) : Reader Stmt := do
  let target ← behindWord (afterKeyword "for") (targets inner)
  wordBehind "in" (beforeKeyword "in")
  let source ← behindWord (afterKeyword "in") (starExpressions inner)
  let main ← body block
  pure (.each start async target source main (← otherwise block))

def statement : Reader (List Stmt) := do
  let start ← line
  if ← acceptWord "if" then
    let test ← named inner
    let yes ← body block
    let no ← otherBranches inner block ((← remaining).length + 1)
    pure [.branch test yes no]
  else if ← acceptWord "while" then
    let test ← behindWord (afterKeyword "while") (named inner)
    let main ← body block
    pure [.repeat_ start test main (← otherwise block)]
  else if ← acceptWord "for" then pure [← each inner block start false]
  else if ← acceptWord "try" then pure [← attempt inner block start]
  else if ← acceptWord "with" then pure [← manage inner block start false]
  else if (← atMark "@") || (← atWord "def") || (← atWord "class") || (← atWord "async") then
    pure [← definition]
  else if ← atWord "match" then (do pure [← select inner block start]) <|> simpleLine inner
  else simpleLine inner
where
  /-- What decorators and a word that says that something waits may stand before. -/
  definition : Reader Stmt := do
    let before ← decorators inner
    let start ← line
    if ← acceptWord "class" then classDefinition inner block start before
    else
      let async ← acceptWord "async"
      if ← acceptWord "def" then define inner block start async before
      else if before.isEmpty && (← acceptWord "for") then each inner block start async
      else if before.isEmpty && (← acceptWord "with") then manage inner block start async
      else reject

def statements : Reader (List Stmt) := do
  let groups ← many do
    match (← peek).kind with
    | .dedent | .finish => pure none
    | _ => some <$> statement inner block
  pure groups.flatten

def blockStep : Reader (List Stmt) := do
  if (← peek).kind == .newline then
    advance
    unless (← peek).kind == .indent do reject
    advance
    let stmts ← statements inner block
    unless (← peek).kind == .dedent do reject
    advance
    pure stmts
  else simpleLine inner

end

/-- The reader of blocks that nest to at most the given depth. -/
def blockUpTo (inner : Inner) : Nat → Reader (List Stmt)
  | 0 => reject
  | depth + 1 => fun tokens => blockStep inner (blockUpTo inner depth) tokens

def runOn {α : Type} (lexed : Lexer.Tokens) (reader : Reader α) : Option α :=
  if lexed.failure.isSome then none else (reader.run { tokens := lexed.tokens }).map Prod.fst

/-- What a text looks like when it is read loosely. -/
inductive Look where
  | other
  | regular
  /-- like it, but for what the message says -/
  | irregular (message : String)

def look {α : Type} (source : List Char) (reader : Reader α) : Look :=
  let lexed := Lexer.looseTokens source
  if lexed.failure.isSome then .other
  else
    match reader.run { tokens := lexed.tokens, loose := true } with
    | none => .other
    | some (_, s) => (s.irregular.map Look.irregular).getD .regular

end Reader

def wholeProgram (size : Nat) : Reader (List Stmt) := do
  let inner := Inner.ofSize size
  let stmts ← Reader.statements inner (Reader.blockUpTo inner (size + 1))
  unless (← Reader.peek).kind == .finish do Reader.reject
  pure stmts

def program? (source : List Char) (lexed : Lexer.Tokens) : Option (List Stmt) :=
  Reader.runOn lexed (wholeProgram source.length)

def parseProgram (source : List Char) : Except Failure (List Stmt) :=
  let lexed := Lexer.tokens source
  match program? source lexed with
  | some stmts => .ok stmts
  | none => .error ((Diagnosis.programFailure? source lexed).getD { line := 1 })

structure Standalone where
  value : Expr
  /-- is it a star, or a tuple without brackets that holds one? -/
  starred : Bool

def wholeExpression (size : Nat) : Reader Standalone := do
  let start ← Reader.line
  let items ← Reader.row (Reader.starExpression (Inner.ofSize size))
  unless (← Reader.peek).kind == .newline do Reader.reject
  Reader.advance
  unless (← Reader.peek).kind == .finish do Reader.reject
  pure ⟨Reader.rowValue start items, (items.1 :: items.2.getD []).any Reader.isStar⟩

def parseExpression (source : List Char) : Option Standalone :=
  Reader.runOn (Lexer.tokens source) (wholeExpression source.length)

def lookAtExpression (source : List Char) : Reader.Look :=
  Reader.look source (wholeExpression source.length)

def lookAtProgram (source : List Char) : Reader.Look :=
  Reader.look source (wholeProgram source.length)

end Codeweave.Script
