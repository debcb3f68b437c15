import Codeweave.Script.Raising

/-!
How the arguments of a call are given to the parameters of a function: positional ones in order,
named ones by name, and what is left to the parameters that take all the rest.
-/

namespace Codeweave.Script

structure Signature where
  title : String
  params : List Param
  defaults : Names := []

namespace Signature

def plain (title : String) (names : List String) (defaults : Names) : Signature :=
  { title := title
    params := names.map fun n => .mk 0 n .regular none none
    defaults := defaults }

def positional (s : Signature) : List Param :=
  s.params.filter fun p => p.kind == .positionalOnly || p.kind == .regular

def keywordOnly (s : Signature) : List Param :=
  s.params.filter (·.kind == .keywordOnly)

def restNamed? (s : Signature) : Option Param :=
  s.params.find? (·.kind == .restNamed)

def raiseUnexpected {α : Type} (s : Signature) (given : Names) (name : String) : Run α :=
  let wrong := ((s.params.filter (·.kind == .positionalOnly)).map Param.name).filter fun n =>
    (given.lookup n).isSome
  if wrong.isEmpty then
    raiseWith .wrongType (s.title ++ "() got an unexpected keyword argument '" ++ name ++ "'")
  else
    raiseWith .wrongType (s.title ++
      "() got some positional-only arguments passed as keyword arguments: '" ++
      String.intercalate ", " wrong ++ "'")

/-- Gives named arguments to parameters: the names bound so far, and the arguments that no parameter
takes. -/
def takeNamed (s : Signature) (given : Names) : Names → Names → Names → Run (Names × Names)
  | bound, extra, [] => pure (bound, extra)
  | bound, extra, (name, value) :: rest => do
    let takes := s.params.any fun p =>
      p.name == name && (p.kind == .regular || p.kind == .keywordOnly)
    if takes then
      if (bound.lookup name).isSome then
        raiseWith .wrongType (s.title ++ "() got multiple values for argument '" ++ name ++ "'")
      else takeNamed s given (bound ++ [(name, value)]) extra rest
    else if s.restNamed?.isSome then takeNamed s given bound (extra ++ [(name, value)]) rest
    else s.raiseUnexpected given name

/-- The names that a call starts with. -/
def bind (s : Signature) (args : Arguments) : Run Names := do
  let positional := s.positional
  let rest := s.params.find? (·.kind == .rest)
  let direct := (positional.zip args.positional).map fun (p, v) => (p.name, v)
  let (bound, extra) ← s.takeNamed args.named direct [] args.named
  let unbound (ps : List Param) := (ps.map Param.name).filter fun n =>
    (bound.lookup n).isNone && (s.defaults.lookup n).isNone
  if positional.length < args.positional.length && rest.isNone then
    raiseTooMany s.title positional.length
      (positional.filter fun p => (s.defaults.lookup p.name).isSome).length
      args.positional.length
      (s.keywordOnly.filter fun p => (bound.lookup p.name).isSome).length
  else
    let missing := unbound positional
    let missingNamed := unbound s.keywordOnly
    if !missing.isEmpty then raiseMissing s.title "positional" missing
    else if !missingNamed.isEmpty then raiseMissing s.title "keyword-only" missingNamed
    else
      let names := Names.bindAll s.defaults bound
      let names := match rest with
        | some p => Names.bind p.name (.tuple (args.positional.drop positional.length)) names
        | none => names
      match s.restNamed? with
      | some p => do
        let address ← allocate (.dict (extra.map fun (n, v) => (.text n, v)))
        pure (Names.bind p.name (.dict address) names)
      | none => pure names

end Signature

end Codeweave.Script
