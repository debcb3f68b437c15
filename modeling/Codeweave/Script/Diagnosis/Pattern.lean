import Codeweave.Script.Diagnosis.Parameters

/-!
Attempts at patterns, and at the choices that are made by them.
-/

namespace Codeweave.Script.Diagnosis

open Attempt

section

variable (call : Rule → Attempt Node)

/-! ### Values -/

/-- A number in a sum of two, of which one is imaginary: any other is blamed at once. -/
def summand (imaginary : Bool) : Attempt Unit := do
  let t ← look
  let _ ← number
  if (t.kind == .imaginary) != imaginary then blame t.line

/-- A number, perhaps behind a sign, or a sum of a real and an imaginary one. -/
def numberValue : Attempt Node := do
  let start ← line
  firstOf
    [do
      let _ ← attempt (mark "-")
      let _ ← number
      notAhead (oneOf ["+", "-"]),
     do
      let _ ← attempt (mark "-")
      summand false
      let _ ← oneOf ["+", "-"]
      summand true]
  pure (.other start)

def literalValue : Attempt Node :=
  firstOf [numberValue, call .strings, word "None", word "True", word "False"]

def dotted (more : Attempt (List Node)) : Attempt Node := do
  let start ← line
  let _ ← name
  let _ ← more
  pure (.other start)

def member : Attempt Node := do
  let _ ← mark "."
  name

def qualifiedName : Attempt Node :=
  dotted (some1 member)

def anyName : Attempt Node :=
  dotted (many member)

/-- What would make a name one of another kind. -/
def continued : Attempt Node :=
  oneOf [".", "(", "="]

def captureTarget : Attempt Node := do
  notAhead (nameOnly "_")
  let n ← name
  notAhead continued
  pure n

/-! ### Sequences, mappings and instances -/

def itemPattern : Attempt Node :=
  firstOf
    [do
      let start ← mark "*"
      let _ ← firstOf [captureTarget, nameOnly "_"]
      pure start,
     call .pattern]

def itemPatterns : Attempt Unit := do
  let _ ← parted (mark ",") (itemPattern call)
  let _ ← attempt (mark ",")

def openSequence : Attempt Unit := do
  let _ ← itemPattern call
  let _ ← mark ","
  let _ ← attempt (itemPatterns call)

def pairPattern : Attempt Node := do
  let key ← firstOf [literalValue call, do
    let n ← qualifiedName
    pure n]
  let _ ← mark ":"
  let _ ← call .pattern
  pure key

def restOfMapping : Attempt Unit := do
  let _ ← mark "**"
  let _ ← captureTarget

def mappingPattern : Attempt Node := do
  let start ← mark "\x7b"
  let close : Attempt Unit := do
    let _ ← attempt (mark ",")
    let _ ← mark "\x7d"
  firstOf
    [do let _ ← mark "\x7d",
     do
      restOfMapping
      close,
     do
      let _ ← parted (mark ",") (pairPattern call)
      let _ ← mark ","
      restOfMapping
      close,
     do
      let _ ← parted (mark ",") (pairPattern call)
      close]
  pure start

def namedPattern : Attempt Node := do
  let n ← name
  let _ ← mark "="
  let _ ← call .pattern
  pure n

def instancePattern : Attempt Node := do
  let start ← line
  let positional := parted (mark ",") (call .pattern)
  let named := parted (mark ",") (namedPattern call)
  let close : Attempt Unit := do
    let _ ← attempt (mark ",")
    let _ ← mark ")"
  let opened : Attempt Node := do
    let n ← anyName
    let _ ← mark "("
    pure n
  let misplaced : Attempt Unit := blameIf (do
    let _ ← opened
    let _ ← attempt (do
      let _ ← positional
      mark ",")
    let _ ← named
    let _ ← mark ","
    let first ← positional
    pure (first.headD (.other start)))
  firstOf
    [do
      let _ ← opened
      let _ ← mark ")",
     do
      let _ ← opened
      let _ ← positional
      close,
     do
      let _ ← opened
      let _ ← named
      close,
     do
      let _ ← opened
      let _ ← positional
      let _ ← mark ","
      let _ ← named
      close,
     explain misplaced]
  pure (.other start)

/-! ### Patterns -/

def bracketedPattern (opening closing : String) (items : Attempt Unit) : Attempt Node := do
  let start ← mark opening
  items
  let _ ← mark closing
  pure start

def closedPatternRule : Attempt Node :=
  firstOf
    [literalValue call, captureTarget, nameOnly "_",
     do
      let n ← qualifiedName
      notAhead continued
      pure n,
     bracketedPattern "(" ")" (do let _ ← call .pattern),
     bracketedPattern "[" "]" (do let _ ← attempt (itemPatterns call)),
     bracketedPattern "(" ")" (do let _ ← attempt (openSequence call)),
     mappingPattern call, instancePattern call]

def options : Attempt Node := do
  let start ← line
  let _ ← parted (mark "|") (call .closedPattern)
  pure (.other start)

/-- A name to which nothing is bound, or something else, where a name should be. -/
def badName : Attempt Unit := do
  blameIf (do
    let _ ← options call
    let _ ← word "as"
    nameOnly "_")
  blameIf (do
    let _ ← options call
    let _ ← word "as"
    notAhead name
    call .expression)

def patternRule : Attempt Node :=
  firstOf
    [do
      let start ← options call
      let _ ← word "as"
      let _ ← captureTarget
      pure start,
     explain (badName call),
     options call]

/-! ### Choices -/

def casePattern : Attempt Unit :=
  firstOf [openSequence call, do let _ ← call .pattern]

def caseHead : Attempt Unit := do
  let _ ← nameOnly "case"
  casePattern call
  let _ ← attempt (do let _ ← word "if"; named call)

/-- The word and the subject of a choice. -/
def subject : Attempt Unit := do
  let _ ← nameOnly "match"
  firstOf
    [do
      let _ ← starNamed call
      let _ ← mark ","
      let _ ← attempt (starNamedRow call),
     do let _ ← named call]

end

end Codeweave.Script.Diagnosis
