import Codeweave.Script.Binding
import Codeweave.Script.Names

/-!
Names: where a name is looked up and bound. A function owns the names it binds; any other name
belongs to the nearest function around it that owns it, else to the global names, else to those
that every script has. A class owns the names its body binds, but only for the code of the body
itself, which finds a global name while its own is not bound.
-/

namespace Codeweave.Script

inductive Place where
  | own (space : Nat)
  | around (space : Nat)
  | ofClass (space : Nat)
  | global

def Scope.place (s : Scope) (innermost : Bool) : Place :=
  if s.isClass then .ofClass s.space else if innermost then .own s.space else .around s.space

/-- Where a name belongs among scopes; `innermost` tells whether the first one is running. -/
def placeAmong (name : String) (innermost : Bool) : List Scope → Place
  | [] => .global
  | s :: rest =>
    if s.global.contains name then .global
    else if s.own.contains name then s.place innermost
    else placeAmong name false rest

def Env.place (env : Env) (name : String) : Place :=
  placeAmong name true env.scopes

def Env.spaceOf (env : Env) : Place → Nat
  | .own space | .around space | .ofClass space => space
  | .global => env.globals

def builtin? (name : String) : Option Value :=
  match Builtin.table.lookup name with
  | some b => some (.builtin b)
  | none => (ErrorClass.ofName? name).map .errorClass

/-- What every script can use as well, by its name, but is not followed. -/
def unfollowedNames : List String :=
  ["NotImplemented", "__build_class__", "__class__", "__doc__", "__import__", "__loader__",
   "__name__", "__package__", "__spec__", "aiter", "all", "anext", "any", "ascii", "bin",
   "breakpoint", "bytearray", "bytes", "callable", "classmethod", "compile", "complex",
   "copyright", "credits",
   "delattr", "dir", "divmod", "eval", "exec", "exit", "filter", "float", "format", "frozenset",
   "getattr", "hasattr", "hash", "help", "hex", "id", "input", "isinstance", "issubclass", "iter",
   "license", "locals", "map", "memoryview", "next", "object", "oct", "open", "pow", "property",
   "quit", "round", "set", "setattr", "slice", "staticmethod", "super", "tuple", "type", "vars"]

/-- The name under which code has what every script can use. -/
def builtinsName : String := "__builtins__"

def builtinsValue : Value := .module "builtins"

/-- Can code under these names use what every script can use? Where that was replaced, nothing is
known of it. -/
def Names.areFurnished (names : Names) : Bool :=
  match names.lookup builtinsName with
  | some (.module name) => name == "builtins"
  | _ => false

/-- Code that starts under names finds there what every script can use, unless something else has
its name. -/
def furnish (space : Nat) : Run Unit := do
  if (((← get).names space).lookup builtinsName).isNone then
    modifyNames space (Names.bind builtinsName builtinsValue)

def raiseUndefined {α : Type} (name : String) : Run α :=
  raiseProblem (.plain .undefinedName [.text ("name '" ++ name ++ "' is not defined")]
    (some (.name (.text name))))

/-- Refuses a name of the running function that is not bound yet. -/
def raiseUnbound {α : Type} (name : String) : Run α :=
  raiseWith .unboundLocal
    ("cannot access local variable '" ++ name ++ "' where it is not associated with a value")

/-- Refuses a name of a function around the running one that is not bound. -/
def raiseUnboundAround {α : Type} (name : String) : Run α :=
  raiseProblem (.plain .undefinedName
    [.text ("cannot access free variable '" ++ name ++
      "' where it is not associated with a value in enclosing scope")] (some (.name (.text name))))

/-- Looks up a name among those that every script has. -/
def lookUpBuiltin (env : Env) (name : String) : Run Value := do
  if ((← get).names env.globals).areFurnished && !unfollowedNames.contains name then
    match builtin? name with
    | some v => pure v
    | none => raiseUndefined name
  else giveUp

def lookUpGlobal (env : Env) (name : String) : Run Value := do
  match ((← get).names env.globals).lookup name with
  | some v => pure v
  | none => lookUpBuiltin env name

/-- Looks up a name. The fixed name always holds. -/
def lookUpName (env : Env) (name : String) : Run Value := do
  if name == fixedName then return .bool true
  let w ← get
  let place := env.place name
  match (w.names (env.spaceOf place)).lookup name, place with
  | some v, _ => pure v
  | none, .own _ => raiseUnbound name
  | none, .around _ => raiseUnboundAround name
  | none, .ofClass _ => lookUpGlobal env name
  | none, .global => lookUpBuiltin env name

def bindName (env : Env) (name : String) (value : Value) : Run Unit :=
  modifyNames (env.spaceOf (env.place name)) (Names.bind name value)

def deleteName (env : Env) (name : String) : Run Unit := do
  let w ← get
  let place := env.place name
  let space := env.spaceOf place
  if ((w.names space).lookup name).isSome then modifyNames space (Names.unbind name)
  else
    match place with
    | .own _ => raiseUnbound name
    | .around _ => raiseUnboundAround name
    | .ofClass _ | .global => raiseUndefined name

/-- The environment outside all comprehensions, to which they bind names. -/
def Env.outsideComprehensions (env : Env) : Env :=
  { env with scopes := env.scopes.dropWhile (·.isComprehension) }

/-! ### Functions and classes -/

/-- The environment of what is defined here: it sees no names of the class around it. -/
def Env.outsideClass (env : Env) : Env :=
  { env with scopes := env.scopes.filter fun s => !s.isClass }

/-- How something that is defined here is qualified: not at all if its name is a global one. -/
def Env.qualify (env : Env) (name : String) : String :=
  if env.scopes.head?.any (·.global.contains name) then name else env.qualifier ++ name

/-- Where a class notes the annotations of its names, and code outside all functions those of the
global ones. -/
def Env.hintSpace? (env : Env) : Option Nat :=
  match env.scopes with
  | [] => some env.globals
  | s :: _ => if s.isClass then some s.space else none

def Closure.signature (f : Closure) : Signature :=
  { title := f.qualifiedName, params := f.params, defaults := f.defaults }

/-- The scope of code that is run under the names of a space, with the given names of its own. -/
def scopeOf (space : Nat) (names : List String) (program : List Stmt) : Scope :=
  let global := declaredIn true program
  let enclosing := declaredIn false program
  let own := (names ++ boundIn program).filter fun n => !global.contains n && !enclosing.contains n
  { space := space, own := own, global := global }

def Closure.scope (f : Closure) (space : Nat) : Scope :=
  let params := f.params.map Param.name
  match f.body with
  | .value e => { space := space, own := params ++ e.bindings }
  | .block _ program => scopeOf space params program

/-- The name under which the annotations of names are kept. -/
def hintTable : String := "__annotations__"

/-- The names that the body of a class finds bound. -/
def classNames (home title : Value) : Names :=
  [(classHome, home), ("__qualname__", title)]

/-- The scope of the body of a class; the names for its annotations and for what is said about it
are its own. -/
def classScope (space : Nat) (body : List Stmt) : Scope :=
  let hints := if annotatesIn body then [hintTable] else []
  let names := (classNames .none .none).map Prod.fst ++ "__doc__" :: hints
  { scopeOf space names body with isClass := true }

end Codeweave.Script
