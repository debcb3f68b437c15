import Codeweave.Script.Machine

/-!
How built-in functions take their arguments. A function says how many arguments it takes and under
which names; a call that does not fit is refused with a message that counts or names what is wrong.
-/

namespace Codeweave.Script

def counted (n : Nat) (noun : String) : String :=
  toString n ++ " " ++ noun ++ if n == 1 then "" else "s"

def givenCount (n : Nat) : String :=
  " (" ++ toString n ++ " given)"

/-- The name of a value's type, where no value is one of its own. -/
def argumentKind (v : Value) : Run String := do
  match v with
  | .none => pure "None"
  | _ => pure ((← get).typeName v)

/-- The text given as the argument at a position. -/
def textAt (title : String) (position : Nat) (v : Value) : Run String := do
  match v with
  | .text s => pure s
  | _ =>
    raiseWith .wrongType (title ++ "argument " ++ toString position ++ " must be str, not " ++
      (← argumentKind v))

namespace Arguments

def refuseNamed (title : String) (args : Arguments) : Run Unit := do
  unless args.named.isEmpty do
    raiseWith .wrongType (title ++ "() takes no keyword arguments")

def refuse (title : String) (args : Arguments) : Run Unit := do
  args.refuseNamed title
  unless args.positional.isEmpty do
    raiseWith .wrongType (title ++ "() takes no arguments" ++ givenCount args.positional.length)

def only (title : String) (args : Arguments) : Run Value := do
  args.refuseNamed title
  match args.positional with
  | [v] => pure v
  | vs => raiseWith .wrongType (title ++ "() takes exactly one argument" ++ givenCount vs.length)

def between (title : String) (low high : Nat) (args : Arguments) : Run (List Value) := do
  let n := args.positional.length
  let refuse (bound : String) (limit : Nat) : Run (List Value) :=
    raiseWith .wrongType (title ++ " expected " ++ (if low == high then "" else bound) ++
      counted limit "argument" ++ ", got " ++ toString n)
  if n < low then refuse "at least " low
  else if n > high then refuse "at most " high
  else pure args.positional

/-- Positional arguments of a function that words its refusal the other way. -/
def counting (title : String) (low high : Nat) (args : Arguments) : Run (List Value) := do
  let n := args.positional.length
  let refuse (bound : String) (limit : Nat) : Run (List Value) :=
    raiseWith .wrongType (title ++ "() takes " ++ bound ++ counted limit "argument" ++
      givenCount n)
  if n < low then refuse "at least " low
  else if n > high then refuse "at most " high
  else pure args.positional

/-- The first parameter that is given both by position and by name, with its position. -/
def doublyGiven? (params : List String) (args : Arguments) : Option (String × Nat) :=
  ((params.take args.positional.length).zipIdx 1).find? fun (name, _) =>
    (args.named.lookup name).isSome

/-- The values of parameters, which can be given by position or by name; a parameter with an empty
name only by position. The first `required` ones have to be given by position. -/
def unpack (title : String) (required : Nat) (params : List String) (args : Arguments) :
    Run (List (Option Value)) := do
  let given := args.positional.length
  let total := given + args.named.length
  if total > params.length then
    raiseWith .wrongType (title ++ "() takes at most " ++
      counted params.length (if given == 0 then "keyword argument" else "argument") ++
      givenCount total)
  else if given < required then
    raiseWith .wrongType (title ++ "() takes at least " ++
      counted required "positional argument" ++ givenCount given)
  else
    match args.doublyGiven? params,
      args.named.find? fun (n, _) => n == "" || !params.contains n with
    | some (name, position), _ =>
      raiseWith .wrongType ("argument for " ++ title ++ "() given by name ('" ++ name ++
        "') and position (" ++ toString position ++ ")")
    | none, some (name, _) =>
      raiseWith .wrongType ("'" ++ name ++ "' is an invalid keyword argument for " ++ title ++ "()")
    | none, none =>
      pure (params.zipIdx.map fun (name, i) =>
        match args.positional[i]? with
        | some v => some v
        | none => args.named.lookup name)

def unpackNamed (title : String) (params : List String) (args : Arguments) :
    Run (List (Option Value)) :=
  unpack title 0 params { named := args.named }

end Arguments

end Codeweave.Script
