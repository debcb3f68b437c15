import Codeweave.Builder
import Codeweave.Journal
import Codeweave.Script.Datum
import Codeweave.Script.ErrorClass
import Codeweave.Template

/-!
Values of running scripts. Lists, dictionaries, iterators, functions, templates and errors have an
identity and live in a store; their values are addresses. All other values are what they are.
-/

namespace Codeweave.Script

/-- An active piece of code: a line of the script, a segment of a template, or code that is neither.
An error carries the frames that were active when it was raised, the innermost first. -/
inductive Frame where
  | script (line : Nat)
  | segment
  | host
deriving Repr, DecidableEq

inductive Builtin where
  | length
  | range
  | text
  | integer
  | boolean
  | list
  | dict
  | enumerate
  | zip
  | sorted
  | reversed
  | sum
  | least
  | greatest
  | magnitude
  | character
  | codePoint
  | shown
  | print
  | globals
deriving Repr, DecidableEq

namespace Builtin

def table : List (String × Builtin) :=
  [("len", length), ("range", range), ("str", text), ("int", integer), ("bool", boolean),
   ("list", list), ("dict", dict), ("enumerate", enumerate), ("zip", zip), ("sorted", sorted),
   ("reversed", reversed), ("sum", sum), ("min", least), ("max", greatest), ("abs", magnitude),
   ("chr", character), ("ord", codePoint), ("repr", shown), ("print", print),
   ("globals", globals)]

def name (b : Builtin) : String :=
  ((table.find? fun (_, c) => c == b).map Prod.fst).getD ""

def isType : Builtin → Bool
  | range | text | integer | boolean | list | dict | enumerate | zip | reversed => true
  | _ => false

end Builtin

inductive Action where
  | template
  | newline
  | indent
  | unindent
  | write
deriving Repr, DecidableEq

def Action.table : List (String × Action) :=
  [("template", .template), ("nl", .newline), ("indent", .indent), ("unindent", .unindent),
   ("write", .write)]

def Action.name (a : Action) : String :=
  ((Action.table.find? fun (_, b) => b == a).map Prod.fst).getD ""

/-- What an output can be asked to do by whoever has it. -/
inductive OutputMethod where
  | write
  | writeText
  | newline
  | indent
  | unindent
  | content
  | finish
deriving Repr, DecidableEq

namespace OutputMethod

def table : List (String × OutputMethod) :=
  [("write", write), ("write_text", writeText), ("nl", newline), ("indent", indent),
   ("unindent", unindent), ("getvalue", content), ("finish", finish)]

def name (o : OutputMethod) : String :=
  ((table.find? fun (_, p) => p == o).map Prod.fst).getD ""

end OutputMethod

inductive Method where
  | upper
  | lower
  | strip
  | stripLeft
  | stripRight
  | replace
  | split
  | count
  | join
  | startsWith
  | endsWith
  | append
  | pairs
  | render
  | output (method : OutputMethod)
deriving Repr, DecidableEq

inductive Value where
  | none
  | bool (value : Bool)
  | integer (value : Int)
  | float (value : Float)
  | complex (real imaginary : Float)
  | text (value : String)
  | ellipsis
  | tuple (items : List Value)
  /-- the positional arguments of a template -/
  | varargs (items : List Value)
  | range (start stop step : Int)
  | slice (low high step : Value)
  | list (address : Nat)
  | dict (address : Nat)
  | iterator (address : Nat)
  | function (address : Nat)
  | procedure (address : Nat)
  | template (address : Nat)
  /-- all names of a name space -/
  | names (space : Nat)
  | builtin (function : Builtin)
  | action (action : Action)
  | method (owner : Value) (method : Method)
  | errorClass (class_ : ErrorClass)
  | error (address : Nat)
  /-- a class that the script defined -/
  | class_ (address : Nat)
  /-- what the script runs in: it has the outputs and the names of the script -/
  | runtime
  /-- the output at an address -/
  | output (address : Nat)
  /-- a module, of which nothing is known but its name -/
  | module (name : String)

inductive Number where
  | integer (value : Int)
  | float (value : Float)

def Value.number? : Value → Option Number
  | .bool b => some (.integer (if b then 1 else 0))
  | .integer n => some (.integer n)
  | .float x => some (.float x)
  | _ => .none

def Value.integer? (v : Value) : Option Int :=
  match v.number? with
  | some (.integer n) => some n
  | _ => .none

def Value.isNumeric (v : Value) : Bool :=
  v.number?.isSome

/-- What an error knows besides its arguments. -/
inductive Detail where
  /-- the name that was looked for in vain, or whatever stands for it in an error made by hand -/
  | name (value : Value)
  /-- where an error of the parser is: a file, a line, an offset, a text, and perhaps where it ends
  -/
  | place (parts : List Value)
  /-- the errors of a group -/
  | members (errors : List Value)

/-- Where a fault of the library comes from. -/
structure Provenance where
  /-- the address of the error that caused it -/
  cause : Option Nat := none
  /-- what is told to be missing -/
  name : Option Value := none

/-- What is wrong when an error is raised: an error of a class, made from values, or a fault of the
library. -/
inductive Problem where
  | plain (class_ : ErrorClass) (arguments : List Value) (detail : Option Detail)
  | fault (fault : Fault) (origin : Provenance)

/-- The class of a problem; faults of the library are ordinary errors. -/
def Problem.class_ : Problem → ErrorClass
  | .plain c _ _ => c
  | .fault _ _ => .ordinary

/-- Names and what they are bound to, in the order in which they were first bound. -/
abbrev Names := List (String × Value)

namespace Names

/-- Binds a name, in place if it is bound already. -/
def bind (name : String) (value : Value) : Names → Names
  | [] => [(name, value)]
  | (n, v) :: rest => if n == name then (n, value) :: rest else (n, v) :: bind name value rest

def unbind (name : String) (names : Names) : Names :=
  names.filter fun (n, _) => n != name

def bindAll (names more : Names) : Names :=
  more.foldl (fun acc (n, v) => bind n v acc) names

end Names

structure Scope where
  space : Nat
  /-- names that belong to the function, bound or not -/
  own : List String
  global : List String := []
  /-- is it the body of a comprehension, which binds nothing but its loop variables? -/
  isComprehension : Bool := false
  /-- is it the body of a class, whose names the functions in it do not see? -/
  isClass : Bool := false

/-- What code can see: where it was written, its global names, and the names of the functions around
it, the innermost first. -/
structure Env where
  inSegment : Bool
  globals : Nat
  scopes : List Scope := []
  /-- how the functions defined here are qualified in messages -/
  qualifier : String := ""

def Env.frame (env : Env) (line : Nat) : Frame :=
  if env.inSegment then .segment else .script line

inductive FunctionBody where
  | value (expression : Expr)
  /-- `async` if the function waits -/
  | block (async : Bool) (program : List Stmt)

/-- A function with the names it was defined under. -/
structure Closure where
  name : String
  qualifiedName : String
  params : List Param
  defaults : List (String × Value)
  body : FunctionBody
  env : Env

/-- A class with the names that its body bound. -/
structure ClassDefinition where
  name : String
  qualifiedName : String
  /-- is it made from no other class? -/
  isPlain : Bool
  names : Names

/-- The name under which a class keeps the name of its module. -/
def classHome : String := "__module__"

/-- How a class is called in texts: by its qualified name in its module, unless this is the one of
what every script has, or has no name. -/
def ClassDefinition.title (c : ClassDefinition) : String :=
  match c.names.lookup classHome with
  | some (.text home) => if home == "builtins" then c.name else home ++ "." ++ c.qualifiedName
  | _ => c.name

/-- A comprehension under way: what it makes, its loops, and the iterators of the loops that were
entered, the innermost first. -/
structure Progress where
  line : Nat
  kind : ComprehensionKind
  env : Env
  element : Expr
  clauses : List Clause
  active : List Nat

inductive Source where
  | done
  | given (rest : List Value)
  /-- a list, as it is when its turn comes, from a position on -/
  | list (address next : Nat)
  /-- the items of a list before a position, from there to its start -/
  | listBack (address before : Nat)
  /-- so many integers at a distance from each other -/
  | integers (next step : Int) (left : Nat)
  /-- the keys of a dictionary that had the given size, from a position on -/
  | keys (address next size : Nat)
  | keysBack (address before size : Nat)
  /-- the names of a name space that had the given size, from a position on -/
  | names (space next size : Nat)
  | numbered (iterator : Nat) (next : Int)
  /-- the items of several iterators side by side; `strict` if these have to end together -/
  | together (iterators : List Nat) (strict : Bool)
  | elements (progress : Progress)
  /-- a comprehension whose next element is being made -/
  | busy

inductive Object where
  | list (items : Array Value)
  | dict (entries : List (Value × Value))
  /-- an iterator; `kind` is the name of its type -/
  | iterator (kind : String) (source : Source)
  | function (closure : Closure)
  | class_ (definition : ClassDefinition)
  | procedure (steps : List Step) (ending : Ending)
  /-- a template with the value it was made from -/
  | template (template : Template) (pattern : Value)
  /-- an error with the frames it was last seen in -/
  | error (problem : Problem) (frames : List Frame)

/-- An error on its way to whoever handles it. -/
structure Raised where
  problem : Problem
  frames : List Frame
  address : Option Nat := none

/-- Why a run ends before its value is there. -/
inductive Stop where
  | raised (error : Raised)
  /-- the run nests deeper, goes on longer, or uses more of the language, than it is followed -/
  | abandoned

/-- The outputs of a run besides the current one. -/
structure Outputs where
  /-- the address of the current output -/
  current : Nat := 0
  /-- the outputs that were put aside, by their addresses -/
  aside : Nat → Builder := fun _ => .fresh Builder.defaultWidth
  /-- how many outputs there are -/
  count : Nat := 1
  /-- the addresses of the outputs that were worked on by their addresses, in the order of that -/
  reached : List Nat := []
  current_lt : current < count := by exact Nat.zero_lt_one

structure World where
  objects : Array Object := #[]
  spaces : Array Names := #[]
  /-- the current output -/
  builder : Builder
  outputs : Outputs := {}
  journal : Array Remark := #[]
  /-- the name space of the script -/
  home : Nat := 0
  /-- the name of the run in log records and where templates are shown; a run without one cannot
  show them -/
  label : Option String := some "<memory>"
  /-- did the run want what it does not have: its name, or something beyond what is followed? -/
  wanted : Bool := false
  /-- the addresses of the errors being handled, the innermost first -/
  handling : List Nat := []
  depth : Nat := 0
  memory : Memory := .usual

/-- A step of a run: it changes the state, and gives a value or stops. What it did before it stops
stays done. -/
abbrev Run := ExceptT Stop (StateM World)

/-! ### Errors -/

/-- Raises an error; the code that is active adds its frame. -/
def raiseProblem {α : Type} (problem : Problem) : Run α :=
  throw (.raised { problem := problem, frames := [] })

def raiseWith {α : Type} (class_ : ErrorClass) (message : String) : Run α :=
  raiseProblem (.plain class_ [.text message] none)

/-- Raises a fault from code that is neither script nor segment. -/
def raiseFault {α : Type} (fault : Fault) : Run α :=
  throw (.raised { problem := .fault fault {}, frames := [.host] })

/-- Gives up a run that wants what it does not have. -/
def giveUp {α : Type} : Run α := do
  modify fun w => { w with wanted := true }
  throw .abandoned

def withFrame {α : Type} (frame : Frame) (step : Run α) : Run α :=
  tryCatchThe Stop step fun
    | .raised error => throw (.raised { error with frames := error.frames ++ [frame] })
    | .abandoned => throw .abandoned

/-- Does a step of the code that has reached a line. -/
def Env.at {α : Type} (env : Env) (line : Nat) (step : Run α) : Run α :=
  withFrame (env.frame line) step

/-! ### Store -/

def allocate (object : Object) : Run Nat := do
  let w ← get
  set { w with objects := w.objects.push object }
  pure w.objects.size

def newSpace (names : Names) : Run Nat := do
  let w ← get
  set { w with spaces := w.spaces.push names }
  pure w.spaces.size

def World.names (w : World) (space : Nat) : Names :=
  (w.spaces[space]?).getD []

def modifyNames (space : Nat) (change : Names → Names) : Run Unit :=
  modify fun w => { w with spaces := w.spaces.modify space change }

def World.listArray (w : World) (address : Nat) : Array Value :=
  match w.objects[address]? with
  | some (.list items) => items
  | _ => #[]

def World.listItems (w : World) (address : Nat) : List Value :=
  (w.listArray address).toList

def World.dictEntries (w : World) (address : Nat) : List (Value × Value) :=
  match w.objects[address]? with
  | some (.dict entries) => entries
  | _ => []

def store (address : Nat) (object : Object) : Run Unit :=
  modify fun w => { w with objects := w.objects.modify address fun _ => object }

def World.classAt (w : World) (address : Nat) : ClassDefinition :=
  match w.objects[address]? with
  | some (.class_ definition) => definition
  | _ => { name := "", qualifiedName := "", isPlain := true, names := [] }

def World.problemAt (w : World) (address : Nat) : Problem :=
  match w.objects[address]? with
  | some (.error problem _) => problem
  | _ => .plain .ordinary [] none

def World.framesAt (w : World) (address : Nat) : List Frame :=
  match w.objects[address]? with
  | some (.error _ frames) => frames
  | _ => []

def newList (items : List Value) : Run Value := do
  pure (.list (← allocate (.list items.toArray)))

def newIterator (kind : String) (source : Source) : Run Nat :=
  allocate (.iterator kind source)

def pushTo (address : Nat) (value : Value) : Run Unit :=
  modify fun w => { w with objects := w.objects.modify address fun
    | .list items => .list (items.push value)
    | object => object }

def say (remark : Remark) : Run Unit :=
  modify fun w => { w with journal := w.journal.push remark }

/-! ### Outputs -/

def modifyBuilder (change : Builder → Builder) : Run Unit :=
  modify fun w => { w with builder := change w.builder }

def World.outputAt (w : World) (address : Nat) : Builder :=
  if address = w.outputs.current then w.builder else w.outputs.aside address

/-- The output at an address becomes the current one, and the others are put aside. -/
def World.turnTo (w : World) (address : Nat) : World :=
  { w with
    builder := w.outputAt address
    outputs :=
      { current := address
        aside := w.outputAt
        count := max w.outputs.count (address + 1)
        reached := w.outputs.reached
        current_lt := Nat.le_max_right _ _ } }

/-- Notes that an output was worked on by its address. -/
def World.reach (w : World) (address : Nat) : World :=
  { w with outputs := { w.outputs with reached := w.outputs.reached ++ [address] } }

/-- With a further output of the width of the current one. -/
def World.openOutput (w : World) : World :=
  let aside := fun address =>
    if address = w.outputs.count then Builder.fresh w.builder.width else w.outputs.aside address
  let current_lt := Nat.lt_succ_of_lt w.outputs.current_lt
  { w with outputs := { w.outputs with aside, count := w.outputs.count + 1, current_lt } }

def newOutput : Run Nat := do
  let w ← get
  set w.openOutput
  pure w.outputs.count

/-! ### Types -/

def World.typeName (w : World) : Value → String
  | .none => "NoneType"
  | .bool _ => "bool"
  | .integer _ => "int"
  | .float _ => "float"
  | .complex _ _ => "complex"
  | .text _ => "str"
  | .ellipsis => "ellipsis"
  | .tuple _ => "tuple"
  | .varargs _ => "Varargs"
  | .range _ _ _ => "range"
  | .slice _ _ _ => "slice"
  | .list _ => "list"
  | .dict _ | .names _ => "dict"
  | .iterator address =>
    match w.objects[address]? with
    | some (.iterator kind _) => kind
    | _ => "iterator"
  | .function _ | .procedure _ => "function"
  | .template _ => "BoundTemplate"
  | .builtin b => if b.isType then "type" else "builtin_function_or_method"
  | .action _ => "method"
  | .method owner _ =>
    match owner with
    | .template _ | .varargs _ | .output _ => "method"
    | _ => "builtin_function_or_method"
  | .errorClass _ | .class_ _ => "type"
  | .error address =>
    match w.problemAt address with
    | .plain class_ _ _ => class_.name
    | .fault fault _ => fault.cause.kind
  | .runtime => "ScriptRuntime"
  | .output _ => "TextBuilder"
  | .module _ => "module"

def Value.isCallable : Value → Bool
  | .function _ | .procedure _ | .template _ | .builtin _ | .action _ | .method _ _
  | .errorClass _ | .class_ _ => true
  | _ => false

end Codeweave.Script
