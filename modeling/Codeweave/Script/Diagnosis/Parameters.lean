import Codeweave.Script.Diagnosis.Expression

/-!
Attempts at lists of parameters, those of a definition and those of a function expression. The two
differ in what closes them and in whether parameters may be annotated.
-/

namespace Codeweave.Script.Diagnosis

open Attempt

structure ParamSite where
  closing : String
  annotated : Bool

def ParamSite.definition : ParamSite := ⟨")", true⟩

def ParamSite.lambda : ParamSite := ⟨":", false⟩

section

variable (call : Rule → Attempt Node) (site : ParamSite)

def param : Attempt Node := do
  let n ← name
  if site.annotated then
    let _ ← attempt (do let _ ← mark ":"; call .expression)
  pure n

def paramEnd : Attempt Unit :=
  firstOf
    [do let _ ← mark ",",
     ahead (mark site.closing)]

def default : Attempt Unit :=
  firstOf
    [do
      let _ ← mark "="
      let _ ← call .expression,
     explain (blameIf (do
      let equals ← mark "="
      ahead (oneOf [")", ","])
      pure equals))]

def paramBare : Attempt Node := do
  let p ← param call site
  paramEnd site
  pure p

def paramDefaulted : Attempt Node := do
  let p ← param call site
  default call
  paramEnd site
  pure p

def paramEither : Attempt Node := do
  let p ← param call site
  let _ ← attempt (default call)
  paramEnd site
  pure p

def paramStarAnnotated : Attempt Node := do
  if site.annotated then
    let n ← name
    let _ ← mark ":"
    let _ ← call .starExpression
    paramEnd site
    pure n
  else fail

/-- The slash behind parameters that take no names. -/
def slash : Attempt Unit := do
  let _ ← mark "/"
  paramEnd site

def slashBare : Attempt Unit := do
  let _ ← some1 (paramBare call site)
  slash site

def slashDefaulted : Attempt Unit := do
  let _ ← many (paramBare call site)
  let _ ← some1 (paramDefaulted call site)
  slash site

def badSpread : Attempt Unit := do
  let stars := mark "**"
  blameIf (do
    let _ ← stars
    let _ ← param call site
    mark "=")
  blameIf (do
    let _ ← stars
    let _ ← param call site
    let _ ← mark ","
    param call site)
  blameIf (do
    let _ ← stars
    let _ ← param call site
    let _ ← mark ","
    oneOf ["*", "**", "/"])

def spread : Attempt Unit :=
  firstOf
    [explain (badSpread call site),
     do
      let _ ← mark "**"
      let _ ← paramBare call site]

/-- A star that no named parameter follows. -/
def loneStar : Attempt Node := do
  let star ← mark "*"
  firstOf
    [do let _ ← mark site.closing,
     do
      let _ ← mark ","
      let _ ← oneOf [site.closing, "**"]]
  pure star

def commaOrBare : Attempt Unit :=
  firstOf
    [do let _ ← mark ",",
     do let _ ← paramBare call site]

def badStar : Attempt Unit := do
  if site.annotated then blameIf (loneStar site) else blameLastIf (loneStar site)
  blameIf (do
    let _ ← mark "*"
    let _ ← param call site
    mark "=")
  blameIf (do
    let _ ← mark "*"
    commaOrBare call site
    let _ ← many (paramEither call site)
    let star ← mark "*"
    commaOrBare call site
    pure star)

def starParams : Attempt Unit := do
  let spread? := do let _ ← attempt (spread call site)
  firstOf
    [explain (badStar call site),
     do
      let _ ← mark "*"
      let _ ← paramBare call site
      let _ ← many (paramEither call site)
      spread?,
     do
      let _ ← mark "*"
      let _ ← paramStarAnnotated call site
      let _ ← many (paramEither call site)
      spread?,
     do
      let _ ← mark "*"
      let _ ← mark ","
      let _ ← some1 (paramEither call site)
      spread?,
     spread call site]

def paramRow : Attempt Unit :=
  let star? := do let _ ← attempt (starParams call site)
  firstOf
    [do
      slashBare call site
      let _ ← many (paramBare call site)
      let _ ← many (paramDefaulted call site)
      star?,
     do
      slashDefaulted call site
      let _ ← many (paramDefaulted call site)
      star?,
     do
      let _ ← some1 (paramBare call site)
      let _ ← many (paramDefaulted call site)
      star?,
     do
      let _ ← some1 (paramDefaulted call site)
      star?,
     starParams call site]

def groupedParams : Attempt Unit := do
  if site.annotated then
    let _ ← some1 (paramBare call site)
  else
    let _ ← parted (mark ",") (param call site)

def badParams : Attempt Unit := do
  let either := many (paramEither call site)
  blameIf (do
    let _ ← many (paramBare call site)
    firstOf
      [slashDefaulted call site,
       do let _ ← some1 (paramDefaulted call site)]
    paramBare call site)
  blameIf (do
    let _ ← many (paramBare call site)
    let bracket ← mark "("
    groupedParams call site
    let _ ← attempt (mark ",")
    let _ ← mark ")"
    pure bracket)
  blameIf (do
    let slash ← mark "/"
    let _ ← mark ","
    pure slash)
  blameIf (do
    firstOf [slashBare call site, slashDefaulted call site]
    let _ ← either
    mark "/")
  blameIf (do
    let _ ← attempt (firstOf [slashBare call site, slashDefaulted call site])
    let _ ← either
    let _ ← mark "*"
    commaOrBare call site
    let _ ← either
    mark "/")
  blameIf (do
    let _ ← some1 (paramEither call site)
    let _ ← mark "/"
    mark "*")

def params : Attempt Unit :=
  firstOf [explain (badParams call site), paramRow call site]

def lambdaRule : Attempt Node := do
  let start ← word "lambda"
  let _ ← attempt (params call .lambda)
  let _ ← mark ":"
  let _ ← call .expression
  pure start

end

end Codeweave.Script.Diagnosis
