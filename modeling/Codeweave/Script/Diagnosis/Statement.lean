import Codeweave.Script.Diagnosis.Pattern

/-!
Attempts at statements and whole scripts.
-/

namespace Codeweave.Script.Diagnosis

open Attempt

section

variable (call : Rule → Attempt Node)

/-! ### Simple statements -/

def updates : List String :=
  ["+=", "-=", "*=", "@=", "/=", "%=", "&=", "|=", "^=", "<<=", ">>=", "**=", "//="]

def assigned : Attempt Node :=
  firstOf [yieldExpression call, starExpressions call]

def annotation : Attempt Unit := do
  let _ ← mark ":"
  let _ ← call .expression
  let _ ← attempt (do let _ ← mark "="; assigned call)

def badAssignment : Attempt Unit := do
  blameIf (do
    let a ← call .annotatedRow
    let _ ← mark ":"
    let _ ← call .expression
    pure a)
  blameIf (do
    let a ← starNamed call
    let _ ← mark ","
    let _ ← many (starNamedRow call)
    let _ ← mark ":"
    let _ ← call .expression
    pure a)
  blameIf (do
    let a ← call .expression
    let _ ← mark ":"
    let _ ← call .expression
    pure a)
  let sides := many (do let _ ← starTargets call; mark "=")
  let side ← attempt (do
    let _ ← sides
    let a ← starExpressions call
    let _ ← mark "="
    pure a)
  match side with
  | some a => blameTarget .assigned a
  | none => do
    blameIf (do
      let _ ← sides
      let a ← yieldExpression call
      let _ ← mark "="
      pure a)
    blameIf (do
      let a ← starExpressions call
      let _ ← oneOf updates
      let _ ← assigned call
      pure a)

def assignment : Attempt Node := do
  let start ← line
  let plain ← attempt (firstOf
    [do
      let _ ← name
      annotation call,
     do
      let _ ← firstOf
        [do
          let _ ← mark "("
          let target ← call .singleTarget
          let _ ← mark ")"
          pure target,
         placeTarget call]
      annotation call,
     do
      let _ ← some1 (do let _ ← starTargets call; mark "=")
      let _ ← assigned call
      notAhead (mark "=")])
  match plain with
  | some _ => pure (.other start)
  | none =>
    let update ← attempt (do let _ ← call .singleTarget; oneOf updates)
    match update with
    | some _ => do
      let _ ← assigned call
      pure (.other start)
    | none => explain (badAssignment call)

def deletion : Attempt Node :=
  firstOf
    [do
      let start ← word "del"
      let _ ← delTargets call
      ahead (firstOf [mark ";", newline])
      pure start,
     explain (do
      let _ ← word "del"
      blameTarget .deleted (← starExpressions call))]

/-! ### Imports -/

def underName (item : Attempt Node) : Attempt Node := do
  let n ← item
  let _ ← attempt (do let _ ← word "as"; name)
  pure n

def memberRow : Attempt (List Node) :=
  parted (mark ",") (underName name)

def importTargets : Attempt Unit :=
  firstOf
    [do
      let _ ← mark "("
      let _ ← memberRow
      let _ ← attempt (mark ",")
      let _ ← mark ")",
     do
      let _ ← memberRow
      notAhead (mark ","),
     do let _ ← mark "*",
     explain (blameLastIf (do
      let _ ← memberRow
      let _ ← mark ","
      newline))]

def importStatement : Attempt Node := do
  let dots := oneOf [".", "..."]
  firstOf
    [do
      let start ← word "import"
      let _ ← parted (mark ",") (underName anyName)
      pure start,
     do
      let start ← word "from"
      let _ ← many dots
      let _ ← anyName
      let _ ← word "import"
      importTargets
      pure start,
     do
      let start ← word "from"
      let _ ← some1 dots
      let _ ← word "import"
      importTargets
      pure start]

/-! ### Statements without blocks -/

/-- A statement that a keyword starts, and that has no block. -/
def wordStatement : Attempt Node :=
  firstOf
    [do
      let start ← word "return"
      let _ ← attempt (starExpressions call)
      pure start,
     importStatement,
     do
      let start ← word "raise"
      let _ ← attempt (do
        let _ ← call .expression
        let _ ← attempt (do let _ ← word "from"; call .expression))
      pure start,
     word "pass", deletion call, yieldExpression call,
     do
      let start ← word "assert"
      let _ ← call .expression
      let _ ← attempt (do let _ ← mark ","; call .expression)
      pure start,
     word "break", word "continue",
     do
      let start ← firstOf [word "global", word "nonlocal"]
      let _ ← parted (mark ",") name
      pure start]

def simpleStatementRule : Attempt Node :=
  firstOf [assignment call, starExpressions call, wordStatement call]

def simpleLine : Attempt Unit :=
  firstOf
    [do
      let _ ← call .simpleStatement
      notAhead (mark ";")
      let _ ← newline,
     do
      let _ ← parted (mark ";") (call .simpleStatement)
      let _ ← attempt (mark ";")
      let _ ← newline]

/-! ### Blocks -/

/-- A colon with nothing below it. -/
def emptyBlock : Attempt Unit := do
  let _ ← mark ":"
  let _ ← newline
  notAhead indent

def badHeader (header : Attempt Unit) : Attempt Unit :=
  blameLastIf (do header; emptyBlock) .missingBlock

def badCondition (header : Attempt Unit) : Attempt Unit := do
  blameLastIf (do header; newline)
  badHeader header

def condition (w : String) : Attempt Unit := do
  let _ ← word w
  let _ ← named call

def body : Attempt Unit := do
  let _ ← mark ":"
  let _ ← call .block

def otherwise : Attempt Unit :=
  firstOf
    [explain (badHeader (do let _ ← word "else")),
     do
      let _ ← word "else"
      let _ ← required ":"
      let _ ← call .block]

def branch (w : String) : Attempt Node := do
  let start ← line
  firstOf
    [explain (badCondition (condition call w)),
     do
      condition call w
      body call
      let _ ← call .otherBranch,
     do
      condition call w
      body call
      let _ ← attempt (otherwise call)]
  pure (.other start)

def repetition : Attempt Unit :=
  firstOf
    [explain (badCondition (condition call "while")),
     do
      condition call "while"
      body call
      let _ ← attempt (otherwise call)]

def loopHead : Attempt Unit := do
  let _ ← attempt (word "async")
  let _ ← word "for"
  let _ ← starTargets call
  let _ ← word "in"

def eachLoop : Attempt Unit := do
  let mistake : Attempt Unit := explain (badCondition (do
    loopHead call
    let _ ← starExpressions call))
  let _ ← attempt mistake
  let head ← attempt (loopHead call)
  match head with
  | some _ =>
    let _ ← starExpressions call
    body call
    let _ ← attempt (otherwise call)
  | none => explain (badLoopTarget call)

/-! ### Handlers -/

def handledName : Attempt Unit := do
  let _ ← attempt (do let _ ← word "as"; name)

def handlerHead : Attempt Unit := do
  let _ ← word "except"
  let _ ← call .expression
  handledName

def groupHandlerHead : Attempt Unit := do
  let _ ← word "except"
  let _ ← mark "*"
  let _ ← call .expression
  handledName

def badHandler : Attempt Unit := do
  blameIf (do
    let _ ← word "except"
    let _ ← attempt (mark "*")
    let a ← call .expression
    let _ ← mark ","
    let _ ← parted (mark ",") (call .expression)
    let _ ← attempt (mark ",")
    handledName
    let _ ← mark ":"
    pure a)
  blameLastIf (do
    let _ ← word "except"
    let _ ← attempt (mark "*")
    let _ ← call .expression
    handledName
    newline)
  blameLastIf (do
    let _ ← word "except"
    newline)
  blameLastIf (do
    let _ ← word "except"
    let _ ← mark "*"
    firstOf [newline, mark ":"])

def handler : Attempt Unit :=
  firstOf
    [explain (do
      badHeader (handlerHead call)
      badHeader (do let _ ← word "except")),
     do
      handlerHead call
      body call,
     do
      let _ ← word "except"
      body call,
     explain (badHandler call)]

/-- A handler for a part of a group. -/
def groupHandler : Attempt Unit :=
  firstOf
    [explain (badHeader (groupHandlerHead call)),
     do
      groupHandlerHead call
      body call,
     explain (badHandler call)]

def cleanup : Attempt Unit :=
  firstOf
    [explain (badHeader (do let _ ← word "finally")),
     do
      let _ ← word "finally"
      let _ ← required ":"
      let _ ← call .block]

def tried : Attempt Unit := do
  let _ ← word "try"
  let _ ← required ":"
  let _ ← call .block

def badTry : Attempt Unit := do
  badHeader (do let _ ← word "try")
  blameLastIf (do
    let _ ← word "try"
    body call
    notAhead (firstOf [word "except", word "finally"]))
  blameLastIf (do
    let _ ← word "try"
    let _ ← mark ":"
    let _ ← many (call .block)
    firstOf
      [do
        let _ ← some1 (handler call)
        groupHandler call,
       do
        let _ ← some1 (groupHandler call)
        handler call]
    many (call .block))

def tryStatement : Attempt Unit :=
  firstOf
    [explain (badTry call),
     do
      tried call
      cleanup call,
     do
      tried call
      let _ ← some1 (handler call)
      let _ ← attempt (otherwise call)
      let _ ← attempt (cleanup call),
     do
      tried call
      let _ ← some1 (groupHandler call)
      let _ ← attempt (otherwise call)
      let _ ← attempt (cleanup call)]

/-! ### Definitions -/

def definitionHead (bracket : Attempt Node) : Attempt Unit := do
  let _ ← attempt (word "async")
  let _ ← word "def"
  let _ ← name
  let _ ← bracket
  let _ ← attempt (params call .definition)
  let _ ← mark ")"
  let _ ← attempt (do let _ ← mark "->"; call .expression)

def decoration : Attempt Unit := do
  let _ ← mark "@"
  let _ ← named call
  let _ ← newline

def bareDefinition : Attempt Unit :=
  firstOf
    [explain (badHeader (definitionHead call (mark "("))),
     do
      definitionHead call (required "(")
      let _ ← required ":"
      let _ ← call .block]

def definition : Attempt Unit :=
  firstOf
    [do
      let _ ← some1 (decoration call)
      bareDefinition call,
     bareDefinition call]

def classHead : Attempt Unit := do
  let _ ← word "class"
  let _ ← name
  let _ ← attempt (do
    let _ ← mark "("
    let _ ← attempt (call .arguments)
    mark ")")

def bareClass : Attempt Unit :=
  firstOf
    [explain (badCondition (classHead call)),
     do
      classHead call
      body call]

def classDefinition : Attempt Unit :=
  firstOf
    [do
      let _ ← some1 (decoration call)
      bareClass call,
     bareClass call]

/-! ### Objects that are entered -/

def managed : Attempt Node := do
  let mistaken : Attempt Unit := do
    let _ ← call .expression
    let _ ← word "as"
    let target ← call .expression
    ahead (oneOf [",", ")", ":"])
    blameTarget .assigned target
  firstOf
    [do
      let e ← call .expression
      let _ ← word "as"
      let _ ← call .starTarget
      ahead (oneOf [",", ")", ":"])
      pure e,
     explain mistaken,
     call .expression]

def manageWord : Attempt Unit := do
  let _ ← attempt (word "async")
  let _ ← word "with"

/-- What stands before the colon, as far as it may be mistaken. -/
def looseManaged (bracketed : Bool) : Attempt Unit := do
  manageWord
  let asTarget := attempt (do let _ ← word "as"; call .starTarget)
  let comma := mark ","
  if bracketed then
    let _ ← mark "("
    let _ ← parted comma (do
      let _ ← parted comma (call .expression)
      asTarget)
    let _ ← attempt comma
    let _ ← mark ")"
  else
    let _ ← parted comma (do
      let _ ← call .expression
      asTarget)

def manage : Attempt Unit :=
  firstOf
    [explain (do
      badHeader (looseManaged call false)
      badHeader (looseManaged call true)),
     do
      manageWord
      let _ ← mark "("
      let _ ← parted (mark ",") (managed call)
      let _ ← attempt (mark ",")
      let _ ← mark ")"
      body call,
     do
      manageWord
      let _ ← parted (mark ",") (managed call)
      body call,
     explain (do
      blameLastIf (do
        looseManaged call false
        newline)
      blameLastIf (do
        looseManaged call true
        newline))]

/-! ### Choices by pattern -/

def caseBlock : Attempt Unit :=
  firstOf
    [explain (badCondition (caseHead call)),
     do
      caseHead call
      body call]

def choice : Attempt Unit :=
  firstOf
    [do
      subject call
      let _ ← mark ":"
      let _ ← newline
      let _ ← indent
      let _ ← some1 (caseBlock call)
      let _ ← dedent,
     explain (badCondition (subject call))]

/-! ### All statements -/

def statement : Attempt Node := do
  let start ← line
  firstOf
    [definition call,
     do let _ ← branch call "if",
     classDefinition call, manage call, eachLoop call, tryStatement call, repetition call,
     choice call, simpleLine call]
  pure (.other start)

def blockRule : Attempt Node := do
  let start ← line
  firstOf
    [do
      let _ ← newline
      let _ ← indent
      let _ ← some1 (statement call)
      let _ ← dedent,
     simpleLine call,
     explain (blameLastIf (do
      let _ ← newline
      notAhead indent) .missingBlock)]
  pure (.other start)

def program : Attempt Node := do
  let _ ← many (statement call)
  let t ← accept fun k => k == .finish
  pure (.other t.line)

/-- What each rule takes, when it refers to other rules through `call`. -/
def Rule.attempt : Rule → Attempt Node
  | .expression => expressionRule call (lambdaRule call)
  | .starExpression => starExpressionRule call
  | .badBinding => do
    badBindingRule call
    fail
  | .disjunction => joinedByWord "or" (call .conjunction)
  | .conjunction => joinedByWord "and" (call .inversion)
  | .inversion => inversionRule call
  | .bitOr => joinedBy ["|"] (call .bitXor)
  | .bitXor => joinedBy ["^"] (call .bitAnd)
  | .bitAnd => joinedBy ["&"] (call .shift)
  | .shift => joinedBy ["<<", ">>"] (call .sum)
  | .sum => joinedBy ["+", "-"] (call .term)
  | .term => joinedBy ["*", "/", "//", "%", "@"] (call .factor)
  | .factor => factorRule call
  | .awaited => awaitedRule call
  | .primary => primaryRule call
  | .strings => stringsRule call
  | .arguments => argumentsRule call
  | .starTarget => starTargetRule call
  | .targetWithStars => targetWithStarsRule call
  | .targetPrimary => targetPrimaryRule call
  | .singleTarget => singleTargetRule call
  | .annotatedRow => annotatedRowRule call
  | .delTarget => delTargetRule call
  | .simpleStatement => simpleStatementRule call
  | .block => blockRule call
  | .otherBranch => branch call "elif"
  | .pattern => patternRule call
  | .closedPattern => closedPatternRule call

end

/-- Rules that refer to others to at most the given depth. -/
def Rule.upTo : Nat → Rule → Attempt Node
  | 0, _ => fail
  | depth + 1, rule => keep rule (rule.attempt (upTo depth))

/-- What is wrong with a text that is no script. From one token to the next, rules refer to others
less often than the factor says. -/
def programFailure? (source : List Char) (lexed : Lexer.Tokens) : Option Failure :=
  failure? (program (Rule.upTo (32 * source.length + 64))) lexed

end Codeweave.Script.Diagnosis
