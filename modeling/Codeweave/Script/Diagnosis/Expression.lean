import Codeweave.Script.Diagnosis.Basic
import Codeweave.Script.Parser.Literal

/-!
Attempts at expressions and targets. The rules that are kept, or that refer to themselves, are
reached through `call`; all others stand here by themselves. Rules whose names start with `bad` are
those for common mistakes: they blame a place or fail.
-/

namespace Codeweave.Script.Diagnosis

open Attempt

/-- What is told of a text that a walk rejects. Characters that make no token are told before
anything that is wrong with the tokens, unexpected indentation apart; so is a bracket that is still
open where the text stops making sense, if the walk came beyond its line. -/
def told (lexed : Lexer.Tokens) (r : Rejection) : Failure :=
  if r.failure.kind == .unexpectedIndent then r.failure
  else
    match lexed.failure with
    | none => r.failure
    | some failure =>
      if r.unread || lexed.outranks then failure
      else
        match lexed.openBracket with
        | some line => if line < r.reached then ⟨line, .malformed⟩ else r.failure
        | none => r.failure

/-- What is blamed when both walks fail without a word: the last token that the first walk looked
at. -/
def unexplained (items : Array Item) (first second : Walk) : Rejection :=
  let reached := lastLine items second
  match (items[first.seen - 1]?).map Item.token with
  | some ⟨.indent, _, _⟩ | some ⟨.dedent, _, _⟩ =>
    { failure := ⟨reached, .unexpectedIndent⟩, reached := reached }
  | some t => { failure := ⟨t.line, .malformed⟩, reached := reached }
  | none => { failure := ⟨1, .malformed⟩, reached := reached }

/-- What is wrong with a text, if its tokens are not what an attempt takes. -/
def failure? (start : Attempt Node) (lexed : Lexer.Tokens) : Option Failure :=
  let items := (itemsFrom 0 lexed.tokens).toArray
  match start items {} with
  | .error r => some (told lexed r)
  | .ok (some _, _) => none
  | .ok (none, first) =>
    match start items { seen := first.seen, explains := true } with
    | .error r => some (told lexed r)
    | .ok (_, second) => some (told lexed (unexplained items first second))

section

variable (call : Rule → Attempt Node)

/-! ### Rows and names -/

/-- The one item of a row without a comma, else the row. -/
def rowOf (start : Nat) (first : Node) (rest : List Node) (comma : Bool) : Node :=
  if rest.isEmpty && !comma then first else .row start (first :: rest)

def starExpressions : Attempt Node := do
  let start ← line
  let first ← call .starExpression
  let rest ← many (do let _ ← mark ","; call .starExpression)
  let comma ← attempt (mark ",")
  pure (rowOf start first rest comma.isSome)

def binding : Attempt Node := do
  let n ← name
  let _ ← mark ":="
  let _ ← call .expression
  pure (.other n.line)

def named : Attempt Node :=
  firstOf
    [binding call, explain (do let _ ← call .badBinding),
     do
      let e ← call .expression
      notAhead (mark ":=")
      pure e]

def starNamed : Attempt Node :=
  firstOf
    [do
      let star ← mark "*"
      pure (.star star.line (← call .bitOr)),
     named call]

def starNamedRow : Attempt (List Node) := do
  let items ← parted (mark ",") (starNamed call)
  let _ ← attempt (mark ",")
  pure items

def starred : Attempt Node := do
  let star ← mark "*"
  pure (.star star.line (← call .expression))

/-- An expression that binds a name, or one that is not about to. -/
def argumentValue : Attempt Node :=
  firstOf
    [binding call,
     do
      let e ← call .expression
      notAhead (mark ":=")
      pure e]

def yieldExpression : Attempt Node := do
  let start ← word "yield"
  firstOf
    [do
      let _ ← word "from"
      let _ ← call .expression,
     do
      let _ ← attempt (starExpressions call)]
  pure (.other start.line)

/-! ### Comprehensions -/

def blameTarget (use : TargetUse) (node : Node) : Attempt Unit :=
  match node.badTarget? use with
  | some bad => blame bad.line
  | none => fail

def badLoopTarget : Attempt Unit := do
  let _ ← attempt (word "async")
  let _ ← word "for"
  blameTarget .looped (← starExpressions call)

def starTargets : Attempt Node := do
  let start ← line
  let first ← call .starTarget
  let rest ← many (do let _ ← mark ","; call .starTarget)
  let comma ← attempt (mark ",")
  pure (rowOf start first rest comma.isSome)

def loop : Attempt Unit := do
  let head ← attempt (do
    let _ ← attempt (word "async")
    let _ ← word "for"
    let _ ← starTargets call
    word "in")
  match head with
  | some _ =>
    let _ ← call .disjunction
    let _ ← many (do let _ ← word "if"; call .disjunction)
  | none => explain (badLoopTarget call)

def loops : Attempt Unit := do
  let _ ← some1 (loop call)

def badComprehension : Attempt Unit := do
  blameIf (do
    let _ ← oneOf ["[", "(", "\x7b"]
    let a ← starred call
    loops call
    pure a)
  blameIf (do
    let _ ← oneOf ["[", "\x7b"]
    let a ← starNamed call
    let _ ← mark ","
    let _ ← starNamedRow call
    loops call
    pure a)
  blameIf (do
    let _ ← oneOf ["[", "\x7b"]
    let a ← starNamed call
    let _ ← mark ","
    loops call
    pure a)

def listComprehension : Attempt Node :=
  firstOf
    [do
      let start ← mark "["
      let _ ← named call
      loops call
      let _ ← mark "]"
      pure start,
     explain (badComprehension call)]

def setComprehension : Attempt Node :=
  firstOf
    [do
      let start ← mark "\x7b"
      let _ ← named call
      loops call
      let _ ← mark "\x7d"
      pure start,
     explain (badComprehension call)]

def generator : Attempt Node :=
  firstOf
    [do
      let start ← mark "("
      let _ ← argumentValue call
      loops call
      let _ ← mark ")"
      pure start,
     explain (badComprehension call)]

/-! ### Brackets -/

def tuple : Attempt Node := do
  let start ← mark "("
  let items ← attempt (do
    let first ← starNamed call
    let _ ← mark ","
    let rest ← attempt (starNamedRow call)
    pure (first :: rest.getD []))
  let _ ← mark ")"
  pure (.row start.line (items.getD []))

def badGroup : Attempt Unit := do
  blameIf (do
    let _ ← mark "("
    let a ← starred call
    let _ ← mark ")"
    pure a)
  blameIf (do
    let _ ← mark "("
    let a ← mark "**"
    let _ ← call .expression
    let _ ← mark ")"
    pure a)

/-- An expression in brackets, which is the expression itself. -/
def group : Attempt Node :=
  firstOf
    [do
      let _ ← mark "("
      let e ← firstOf [yieldExpression call, named call]
      let _ ← mark ")"
      pure e,
     explain (badGroup call)]

def list : Attempt Node := do
  let start ← mark "["
  let items ← attempt (starNamedRow call)
  let _ ← mark "]"
  pure (.row start.line (items.getD []))

def pair : Attempt Node := do
  let key ← call .expression
  let _ ← mark ":"
  let _ ← call .expression
  pure key

def entry : Attempt Node :=
  firstOf
    [do
      let _ ← mark "**"
      call .bitOr,
     pair call]

/-- A star or nothing where the value of an entry should be. -/
def badValue : Attempt Unit := do
  blameIf (do
    let _ ← call .expression
    let _ ← mark ":"
    let star ← mark "*"
    let _ ← call .bitOr
    pure star)
  blameIf (do
    let _ ← call .expression
    let colon ← mark ":"
    ahead (oneOf ["\x7d", ","])
    pure colon)

def badEntry : Attempt Unit := do
  blameIf (do
    let a ← call .expression
    notAhead (mark ":")
    pure a)
  badValue call

/-- Entries of which one is mistaken. This rule is always in force. -/
def badEntries : Attempt Unit := do
  let _ ← attempt (do
    let _ ← parted (mark ",") (entry call)
    let _ ← mark ","
    badEntry call)
  badValue call

def dict : Attempt Node :=
  firstOf
    [do
      let start ← mark "\x7b"
      let _ ← attempt (do
        let _ ← parted (mark ",") (entry call)
        let _ ← attempt (mark ","))
      let _ ← mark "\x7d"
      pure start,
     do
      let _ ← mark "\x7b"
      badEntries call
      fail]

def set : Attempt Node := do
  let start ← mark "\x7b"
  let _ ← starNamedRow call
  let _ ← mark "\x7d"
  pure start

def dictComprehension : Attempt Node :=
  firstOf
    [do
      let start ← mark "\x7b"
      let _ ← pair call
      loops call
      let _ ← mark "\x7d"
      pure start,
     explain (blameIf (do
      let _ ← mark "\x7b"
      let stars ← mark "**"
      let _ ← call .bitOr
      loops call
      let _ ← mark "\x7d"
      pure stars))]

/-! ### Atoms -/

/-- A number; one with too many digits is blamed at once. -/
def number : Attempt Node := do
  let t ← accept fun
    | .integer _ | .hugeInteger | .decimal _ _ | .imaginary => true
    | _ => false
  if t.kind == .hugeInteger then blame t.line else pure (.other t.line)

def checkParts (start : Nat) (form : LiteralForm) : List Literal.Part → Attempt Unit
  | [] => pure ()
  | .broken :: _ => blameLast
  | .plain source :: rest => do
    if (Literal.letters? form source).isNone then blameLast
    checkParts start form rest
  | .value newlines source _ _ format :: rest => do
    match failure? (starExpressions call)
        (Lexer.tokensFrom (start + newlines) ('(' :: source ++ [')'])) with
    | some failure => blame failure.line failure.kind
    | none => pure ()
    checkParts start form format
    checkParts start form rest

/-- Checks a row of literals, which are of bytes like the ones before, or texts like them. -/
def checkLiterals (before : Option Bool) : List Token → Attempt Unit
  | [] => pure ()
  | t :: rest =>
    match t.kind with
    | .literal form source => do
      if form.bytes && !source.all Literal.isAscii then blame t.line
      if !form.formatted && (Literal.letters? form source).isNone then blameLast
      if before.any (· != form.bytes) then blameLast
      if form.formatted then checkParts call t.line form (Literal.parts form source)
      checkLiterals (some form.bytes) rest
    | _ => checkLiterals before rest

def stringsRule : Attempt Node := do
  let start ← line
  let tokens ← some1 literal
  checkLiterals call none tokens
  pure (.other start)

def atom : Attempt Node := do
  let t ← look
  match t.kind with
  | .word _ => firstOf [name, word "True", word "False", word "None"]
  | .literal _ _ => call .strings
  | .mark "(" => firstOf [tuple call, group call, generator call]
  | .mark "[" => firstOf [list call, listComprehension call]
  | .mark "\x7b" =>
    firstOf [dict call, set call, dictComprehension call, setComprehension call]
  | .mark "..." => mark "..."
  | _ => number

/-! ### Calls, items and attributes -/

def namedArgument : Attempt Node := do
  let n ← name
  let _ ← mark "="
  let _ ← call .expression
  pure (.other n.line)

def badNamedArgument : Attempt Unit := do
  blameIf (do
    let a ← firstOf [word "True", word "False", word "None"]
    let _ ← mark "="
    pure a)
  blameIf (do
    let a ← name
    let _ ← mark "="
    let _ ← call .expression
    loops call
    pure a)
  blameIf (do
    notAhead (do let _ ← name; mark "=")
    let a ← call .expression
    let _ ← mark "="
    pure a)

def namedOrStarred : Attempt Node :=
  firstOf [explain (badNamedArgument call), namedArgument call, starred call]

def namedOrSpread : Attempt Node :=
  firstOf
    [explain (badNamedArgument call), namedArgument call,
     do
      let stars ← mark "**"
      let _ ← call .expression
      pure stars]

/-- Named arguments; those among them that are starred. -/
def namedArguments : Attempt (List Node) :=
  let comma := mark ","
  firstOf
    [do
      let a ← parted comma (namedOrStarred call)
      let _ ← comma
      let _ ← parted comma (namedOrSpread call)
      pure (a.filter isStarred),
     do
      let a ← parted comma (namedOrStarred call)
      pure (a.filter isStarred),
     do
      let _ ← parted comma (namedOrSpread call)
      pure []]
where
  isStarred : Node → Bool
    | .star _ _ => true
    | _ => false

/-- Arguments as a row of the positional ones. -/
def argumentRow : Attempt Node := do
  let start ← line
  firstOf
    [do
      let positional ← parted (mark ",") (firstOf
        [starred call,
         do
          let e ← argumentValue call
          notAhead (mark "=")
          pure e])
      let more ← attempt (do let _ ← mark ","; namedArguments call)
      pure (.row start (positional ++ more.getD [])),
     do
      pure (.row start (← namedArguments call))]

/-- Blames the last of several arguments that stand before the loops of a comprehension. -/
def blameNeighbours (arguments : Node) : Attempt Unit :=
  match arguments.items with
  | _ :: second :: rest => blame ((second :: rest).getLast?.getD second).line
  | _ => fail

def badArguments : Attempt Unit := do
  blameIf (do
    let a ← argumentRow call
    let _ ← mark ","
    let _ ← mark "*"
    pure a)
  blameIf (do
    let a ← call .expression
    loops call
    let _ ← mark ","
    let _ ← attempt (firstOf
      [do let _ ← argumentRow call,
       do
        let _ ← call .expression
        loops call])
    pure a)
  blameIf (do
    let a ← name
    let _ ← mark "="
    let _ ← call .expression
    loops call
    pure a)
  let neighbours ← attempt (do
    let a ← argumentRow call
    loops call
    pure a)
  match neighbours with
  | some arguments => blameNeighbours arguments
  | none => do
    blameIf (do
      let _ ← argumentRow call
      let _ ← mark ","
      let a ← call .expression
      loops call
      pure a)
    blameLastIf (do
      let _ ← argumentRow call
      let _ ← mark ","
      argumentRow call)

def argumentsRule : Attempt Node :=
  firstOf
    [do
      let a ← argumentRow call
      let _ ← attempt (mark ",")
      ahead (mark ")")
      pure a,
     explain (badArguments call)]

def slice : Attempt Node := do
  let start ← line
  firstOf
    [do
      let _ ← attempt (call .expression)
      let _ ← mark ":"
      let _ ← attempt (call .expression)
      let _ ← attempt (do
        let _ ← mark ":"
        let _ ← attempt (call .expression))
      pure (.other start),
     named call]

def slices : Attempt Unit :=
  firstOf
    [do
      let _ ← slice call
      notAhead (mark ","),
     do
      let _ ← parted (mark ",") (firstOf [slice call, starred call])
      let _ ← attempt (mark ",")]

def callBrackets : Attempt Unit :=
  firstOf
    [do let _ ← generator call,
     do
      let _ ← mark "("
      let _ ← attempt (call .arguments)
      let _ ← mark ")"]

def itemBrackets : Attempt Unit := do
  let _ ← mark "["
  slices call
  let _ ← mark "]"

def memberName : Attempt Unit := do
  let _ ← mark "."
  let _ ← name

/-- What follows an atom, and whether the whole is a place afterwards. -/
def trailer : Attempt Bool :=
  firstOf
    [do memberName; pure true,
     do callBrackets call; pure false,
     do itemBrackets call; pure true]

def primaryRule : Attempt Node := do
  let start ← line
  let first ← atom call
  let trailers ← many (trailer call)
  match trailers.getLast? with
  | none => pure first
  | some isPlace => pure (if isPlace then .place start else .other start)

/-! ### Operators -/

def joinedBy (operators : List String) (operand : Attempt Node) : Attempt Node := do
  let start ← line
  let first ← operand
  let rest ← many (do let _ ← oneOf operators; operand)
  pure (if rest.isEmpty then first else .other start)

def joinedByWord (w : String) (operand : Attempt Node) : Attempt Node := do
  let start ← line
  let first ← operand
  let rest ← many (do let _ ← word w; operand)
  pure (if rest.isEmpty then first else .other start)

def powerRule : Attempt Node := do
  let start ← line
  let base ← call .awaited
  let raised ← attempt (do let _ ← mark "**"; call .factor)
  pure (if raised.isSome then .other start else base)

def factorRule : Attempt Node := do
  let start ← line
  firstOf
    [do
      let _ ← oneOf ["+", "-", "~"]
      let _ ← call .factor
      pure (.other start),
     powerRule call]

def awaitedRule : Attempt Node := do
  let start ← line
  firstOf
    [do
      let _ ← word "await"
      let _ ← call .primary
      pure (.other start),
     call .primary]

def compared : Attempt Bool :=
  firstOf
    [do
      let _ ← oneOf ["==", "!=", "<=", "<", ">=", ">"]
      let _ ← call .bitOr
      pure false,
     do
      let _ ← word "not"
      let _ ← word "in"
      let _ ← call .bitOr
      pure false,
     do
      let _ ← word "in"
      let _ ← call .bitOr
      pure true,
     do
      let _ ← word "is"
      let _ ← word "not"
      let _ ← call .bitOr
      pure false,
     do
      let _ ← word "is"
      let _ ← call .bitOr
      pure false]

def comparison : Attempt Node := do
  let start ← line
  let first ← call .bitOr
  let rest ← many (compared call)
  match rest with
  | [] => pure first
  | true :: _ => pure (.membership start first)
  | false :: _ => pure (.comparison start)

def inversionRule : Attempt Node := do
  let start ← line
  firstOf
    [do
      let _ ← word "not"
      let _ ← call .inversion
      pure (.other start),
     comparison call]

/-! ### Whole expressions -/

def conditional : Attempt Node := do
  let start ← line
  let _ ← call .disjunction
  let _ ← word "if"
  let _ ← call .disjunction
  let _ ← word "else"
  let _ ← call .expression
  pure (.other start)

variable (lambda : Attempt Node)

/-- Two expressions side by side in brackets, and a condition without an alternative. -/
def badExpression : Attempt Unit := do
  let neighbours ← attempt (do
    notAhead (firstOf [do let _ ← name; let _ ← literal, do let _ ← softWord])
    let a ← call .disjunction
    let _ ← plainly (firstOf [conditional call, call .disjunction, lambda])
    pure a)
  match neighbours with
  | some a => if a.isStatementWord || (← depth) == 0 then fail else blame a.line
  | none =>
    blameIf (do
      let a ← call .disjunction
      let _ ← word "if"
      let _ ← call .disjunction
      notAhead (firstOf [word "else", mark ":"])
      pure a)

def badStatementWord : Attempt Unit := do
  let a ← name
  notAhead (mark "(")
  let _ ← starExpressions call
  if a.isStatementWord then blame a.line else fail

def expressionRule : Attempt Node :=
  firstOf
    [explain (badExpression call lambda), explain (badStatementWord call), conditional call,
     call .disjunction, lambda]

def starExpressionRule : Attempt Node :=
  firstOf
    [do
      let star ← mark "*"
      pure (.star star.line (← call .bitOr)),
     call .expression]

/-- An equals sign or a binding where neither can be. -/
def badBindingRule : Attempt Unit := do
  let assigns := oneOf ["=", ":="]
  blameIf (do
    let a ← call .expression
    let _ ← mark ":="
    let _ ← call .expression
    pure a)
  blameIf (do
    let a ← name
    let _ ← mark "="
    let _ ← call .bitOr
    notAhead assigns
    pure a)
  blameIf (do
    notAhead (firstOf
      [list call, tuple call, generator call, word "True", word "None", word "False"])
    let a ← call .bitOr
    let _ ← mark "="
    let _ ← call .bitOr
    notAhead assigns
    pure a)

/-! ### Targets -/

def atTrailer : Attempt Node :=
  oneOf ["(", "[", "."]

def targetPrimaryRule : Attempt Node := do
  let start ← line
  let first ← atom call
  ahead atTrailer
  let trailers ← many (do
    let isPlace ← firstOf
      [do memberName; pure true,
       do itemBrackets call; pure true,
       do callBrackets call; pure false]
    ahead atTrailer
    pure isPlace)
  match trailers.getLast? with
  | none => pure first
  | some isPlace => pure (if isPlace then .place start else .other start)

def placeTarget : Attempt Node := do
  let start ← line
  firstOf
    [do
      let _ ← call .targetPrimary
      memberName
      notAhead atTrailer,
     do
      let _ ← call .targetPrimary
      itemBrackets call
      notAhead atTrailer]
  pure (.place start)

def starTargetRule : Attempt Node :=
  firstOf
    [do
      let star ← mark "*"
      notAhead (mark "*")
      pure (.star star.line (← call .starTarget)),
     call .targetWithStars]

/-- Targets in brackets: one of them with or without a comma, or any number. -/
def bracketed (opening closing : String) (items : Attempt (List Node)) : Attempt Node := do
  let start ← mark opening
  let found ← attempt items
  let _ ← mark closing
  pure (.row start.line (found.getD []))

/-- Targets parted by commas; there is a comma behind one that stands alone. -/
def starTargetRow : Attempt (List Node) := do
  let first ← call .starTarget
  let rest ← many (do let _ ← mark ","; call .starTarget)
  let comma ← attempt (mark ",")
  if rest.isEmpty && comma.isNone then fail else pure (first :: rest)

def starTargetList : Attempt (List Node) := do
  let items ← parted (mark ",") (call .starTarget)
  let _ ← attempt (mark ",")
  pure items

def targetWithStarsRule : Attempt Node :=
  firstOf
    [placeTarget call, name,
     do
      let _ ← mark "("
      let target ← call .targetWithStars
      let _ ← mark ")"
      pure target,
     bracketed "(" ")" (starTargetRow call), bracketed "[" "]" (starTargetList call)]

def singleTargetRule : Attempt Node :=
  firstOf
    [placeTarget call, name,
     do
      let _ ← mark "("
      let target ← call .singleTarget
      let _ ← mark ")"
      pure target]

/-- A tuple or a list where a target that is annotated stands. -/
def annotatedRowRule : Attempt Node :=
  firstOf
    [list call, tuple call,
     do
      let _ ← mark "("
      let row ← call .annotatedRow
      let _ ← mark ")"
      pure row]

def delTargets : Attempt (List Node) := do
  let items ← parted (mark ",") (call .delTarget)
  let _ ← attempt (mark ",")
  pure items

def delTargetRule : Attempt Node :=
  firstOf
    [placeTarget call, name,
     do
      let _ ← mark "("
      let target ← call .delTarget
      let _ ← mark ")"
      pure target,
     bracketed "(" ")" (delTargets call), bracketed "[" "]" (delTargets call)]

end

end Codeweave.Script.Diagnosis
