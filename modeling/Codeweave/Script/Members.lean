import Codeweave.Script.Builtins
import Codeweave.Script.Modules

/-!
The members of values, and the methods of lists and of the positional arguments of a template. A run
that asks for a member that a value has, but of which nothing is known here, is given up.
-/

namespace Codeweave.Script

def ofOption (n : Option Int) : Value :=
  match n with
  | some k => .integer k
  | none => .none

def argumentAt (arguments : List Value) (i : Nat) : Value :=
  (arguments[i]?).getD .none

/-- The members that errors of a class have besides their arguments. -/
def classMembers (c : ErrorClass) (arguments : List Value) (detail : Option Detail) :
    List (String × Value) :=
  let name := match detail with
    | some (.name v) => [("name", v)]
    | _ => [("name", .none)]
  let parts := match detail with
    | some (.place parts) => parts
    | _ => []
  let place := ["filename", "lineno", "offset", "text", "end_lineno", "end_offset"]
  if c.isBelow .undefinedName || c.isBelow .missingMember then name
  else if c.isBelow .importing then
    ("msg", match arguments with | [v] => v | _ => .none) :: name
  else if c.isBelow .stopIteration then [("value", argumentAt arguments 0)]
  else if c.isBelow .exit then
    [("code", match arguments with | [] => .none | [v] => v | vs => .tuple vs)]
  else if c.isBelow .malformed then
    ("msg", argumentAt arguments 0) :: place.mapIdx fun i part => (part, argumentAt parts i)
  else if c.isBelow .system then
    let files := if isSystemReport c arguments then namedFiles c arguments else []
    let report := if isSystemReport c arguments then arguments else []
    [("errno", argumentAt report 0), ("strerror", argumentAt report 1),
     ("filename", argumentAt files 0), ("filename2", argumentAt files 1)]
  else
    match detail with
    | some (.members errors) =>
      [("message", argumentAt arguments 0), ("exceptions", .tuple errors)]
    | _ => []

def problemMember? (problem : Problem) (name : String) : Option Value :=
  match problem with
  | .plain c arguments detail =>
    if name == "args" then some (.tuple (reportedArguments c arguments))
    else if name == "__class__" then some (.errorClass c)
    else (classMembers c arguments detail).lookup name
  | .fault fault origin =>
    if name == "args" then some (.tuple [.text fault.cause.message])
    else if name == "message" then some (.text fault.cause.message)
    else if name == "kind" then some (.text fault.cause.kind)
    else if name == "offset" then some (ofOption fault.offset)
    else if name == "line" then some (ofOption fault.line)
    else
      match fault.cause with
      | .undefinedParameter parameter =>
        if name == "name" then some (origin.name.getD (.text parameter)) else none
      | _ => none

/-- The members of an output at an address. The list of its lines is not among them. -/
def outputMember? (b : Builder) (address : Nat) (name : String) : Option Value :=
  match OutputMethod.table.lookup name with
  | some method => some (.method (.output address) (.output method))
  | none =>
    if name == "indent_width" then some (.integer b.width)
    else if name == "indent_level" then some (.integer b.level)
    else if name == "current_line" then some (.text (String.ofList b.currentLine))
    else if name == "_prefix" then some (.text (String.ofList b.lead))
    else if name == "_text" then some (.text (String.ofList b.pending))
    else none

/-- The members of what a script runs in, but for its name. -/
def World.runtimeMember? (w : World) (name : String) : Option Value :=
  match Action.table.lookup name with
  | some action => some (.action action)
  | none =>
    if name == "builder" then some (.output w.outputs.current)
    else if name == "globals" then some (.names w.home)
    else none

/-- Does the name stand between double underscores, as those do that values of all types have? -/
def isReserved (name : String) : Bool :=
  "__".toList.isPrefixOf name.toList && "__".toList.isSuffixOf name.toList

def ClassDefinition.member? (c : ClassDefinition) (name : String) : Option Value :=
  if name == "__name__" then some (.text c.name)
  else if isReserved name then none
  else c.names.lookup name

def World.member? (w : World) (v : Value) (name : String) : Option Value :=
  match v with
  | .text _ => (textMethods.lookup name).map (.method v)
  | .list _ => if name == "append" then some (.method v .append) else none
  | .varargs xs =>
    if name == "n" then some (.integer xs.length)
    else if name == "pairs" then some (.method v .pairs)
    else none
  | .template _ =>
    if name == "text" then some (.method v .render)
    else if name == "runtime" then some .runtime
    else none
  | .runtime => w.runtimeMember? name
  | .output address => outputMember? (w.outputAt address) address name
  | .action _ => if name == "__self__" then some .runtime else none
  | .method owner _ => if name == "__self__" then some owner else none
  | .error address => problemMember? (w.problemAt address) name
  | .function address =>
    match w.objects[address]? with
    | some (.function f) => if name == "__name__" then some (.text f.name) else none
    | _ => none
  | .builtin b => if name == "__name__" then some (.text b.name) else none
  | .errorClass c => if name == "__name__" then some (.text c.name) else none
  | .class_ address => (w.classAt address).member? name
  | .module home => (moduleMembers home).lookup name
  | _ => none

/-- How a value is called when it lacks a member. -/
def World.ownerTitle (w : World) (v : Value) : String :=
  match v with
  | .builtin b =>
    if b.isType then "type object '" ++ b.name ++ "'" else "'" ++ w.typeName v ++ "' object"
  | .errorClass c => "type object '" ++ c.name ++ "'"
  | .class_ address => "type object '" ++ (w.classAt address).name ++ "'"
  | _ => "'" ++ w.typeName v ++ "' object"

/-! ### What is not followed -/

def unfollowedTextMembers : List String :=
  ["capitalize", "casefold", "center", "encode", "expandtabs", "find", "format", "format_map",
   "index", "isalnum", "isalpha", "isascii", "isdecimal", "isdigit", "isidentifier", "islower",
   "isnumeric", "isprintable", "isspace", "istitle", "isupper", "ljust", "maketrans", "partition",
   "removeprefix", "removesuffix", "rfind", "rindex", "rjust", "rpartition", "rsplit",
   "splitlines", "swapcase", "title", "translate", "zfill"]

def unfollowedListMembers : List String :=
  ["clear", "copy", "count", "extend", "index", "insert", "pop", "remove", "reverse", "sort"]

def unfollowedDictMembers : List String :=
  ["clear", "copy", "fromkeys", "get", "items", "keys", "pop", "popitem", "setdefault", "update",
   "values"]

def unfollowedIntegerMembers : List String :=
  ["as_integer_ratio", "bit_count", "bit_length", "conjugate", "denominator", "from_bytes", "imag",
   "numerator", "real", "to_bytes"]

def unfollowedErrorMembers : List String :=
  ["with_traceback", "add_note", "print_file_and_line", "characters_written", "encoding", "object",
   "start", "end", "reason", "obj", "path", "derive", "split", "subgroup", "describe", "location",
   "error", "declared", "actual", "number"]

/-- The members that a value has, beside those of which something is known here. A type has the
members of its values as well, and a module has nothing else. -/
def World.hasUnfollowed (w : World) (v : Value) (name : String) : Bool :=
  isReserved name ||
    match v with
    | .text _ => unfollowedTextMembers.contains name
    | .tuple _ | .varargs _ => ["count", "index"].contains name
    | .list _ => unfollowedListMembers.contains name
    | .dict _ | .names _ => unfollowedDictMembers.contains name
    | .bool _ | .integer _ => unfollowedIntegerMembers.contains name
    | .float _ =>
      ["as_integer_ratio", "conjugate", "fromhex", "hex", "imag", "is_integer",
        "real"].contains name
    | .complex _ _ => ["conjugate", "imag", "real"].contains name
    | .range _ _ _ => ["count", "index", "start", "step", "stop"].contains name
    | .slice _ _ _ => ["indices", "start", "step", "stop"].contains name
    | .iterator _ =>
      w.typeName v == "generator" &&
        ["close", "gi_code", "gi_frame", "gi_running", "gi_suspended", "gi_yieldfrom", "send",
         "throw"].contains name
    | .template _ => ["template", "context"].contains name
    | .error _ => unfollowedErrorMembers.contains name
    | .runtime => ["api", "redirect", "run", "render"].contains name
    | .output _ => name == "lines"
    | .builtin b => b.isType
    | .class_ address => !(w.classAt address).isPlain || name == "mro"
    | .errorClass _ | .module _ => true
    | _ => false

/-- The name of a run, which what a script runs in has for a member. -/
def World.labelText (w : World) : Except TextError String :=
  match w.label with
  | some label => .ok label
  | none => .error .unknown

def raiseNoMember {α : Type} (v : Value) (name : String) : Run α := do
  raiseProblem (.plain .missingMember
    [.text ((← get).ownerTitle v ++ " has no attribute '" ++ name ++ "'")]
    (some (.name (.text name))))

def memberAt (v : Value) (name : String) : Run Value := do
  let w ← get
  match w.member? v name with
  | some found => pure found
  | none => if w.hasUnfollowed v name then giveUp else raiseNoMember v name

def memberOf (v : Value) (name : String) : Run Value := do
  match v, name with
  | .runtime, "label" => do
    let label ← orRaise (← get).labelText
    pure (.text label)
  | _, _ => memberAt v name

/-- Can a member of the value be set? Where it can, this is not followed. -/
def Value.isSettable : Value → Bool
  | .none | .bool _ | .integer _ | .float _ | .complex _ _ | .text _ | .ellipsis | .tuple _
  | .range _ _ _ | .slice _ _ _ | .list _ | .dict _ | .names _ | .iterator _ | .action _
  | .method _ _ => false
  | .builtin b => b.isType
  | _ => true

/-- Sets a member, or deletes it. -/
def setMember (v : Value) (name : String) : Run Unit := do
  let w ← get
  if v.isSettable || (w.member? v name).isSome || w.hasUnfollowed v name then giveUp
  else raiseNoMember v name

/-- Numbers the positional arguments of a template. -/
def callPairs (xs : List Value) (args : Arguments) : Run Value := do
  let signature := Signature.plain "Varargs.pairs" ["self", "start"] [("start", .integer 1)]
  let names ← signature.bind { args with positional := .varargs xs :: args.positional }
  withFrame .host do
    let start ← requireInteger ((names.lookup "start").getD .none)
    enumerated (.varargs xs) start

def callAppend (address : Nat) (args : Arguments) : Run Value := do
  let v ← args.only "list.append"
  pushTo address v
  pure .none

end Codeweave.Script
