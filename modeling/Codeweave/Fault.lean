/-!
Faults of compiling, scanning and regenerating. A fault has a cause and, where it is known, a place:
an offset into the text at fault or a line of the source. Structural faults are those after which no
span of the source can be trusted.
-/

namespace Codeweave

/-- Why something failed. The causes that carry a message carry it whole. -/
inductive Cause where
  | unspecified (message : String)
  | structural (message : String)
  | unterminatedExpression (message : String)
  | unterminatedDirective (message : String)
  | malformedTemplate (message : String)
  | undefinedParameter (name : String)
  | negativeIndent (message : String)
  /-- a script raised an error of the named class; `text` is what the error says, `none` for an
  error of the parser -/
  | execution (errorClass : String) (text : Option String)
  | lineCountDrift (declared actual : Int)
  | sentinelCollision (number : Int)
deriving Repr, DecidableEq

namespace Cause

def levelZero : Cause := .negativeIndent "unindent() called at indent level 0"

def kind : Cause → String
  | unspecified _ => "LitgenError"
  | structural _ => "StructuralError"
  | unterminatedExpression _ => "UnterminatedExpression"
  | unterminatedDirective _ => "UnterminatedDirective"
  | malformedTemplate _ => "TemplateSyntaxError"
  | undefinedParameter _ => "UndefinedParameter"
  | negativeIndent _ => "NegativeIndent"
  | execution _ _ => "ExecutionFault"
  | lineCountDrift _ _ => "LineCountDrift"
  | sentinelCollision _ => "SentinelCollision"

def message : Cause → String
  | unspecified m | structural m | unterminatedExpression m | unterminatedDirective m
  | malformedTemplate m | negativeIndent m => m
  | undefinedParameter name => "undefined parameter \x60" ++ name ++ "\x60"
  | execution errorClass none => errorClass
  | execution errorClass (some text) => errorClass ++ ": " ++ text
  | lineCountDrift declared actual =>
    "directive declares " ++ toString declared ++ " script lines, found " ++ toString actual
  | sentinelCollision number =>
    "generated line " ++ toString number ++
      " is a region sentinel and would end the region early"

/-- Do spans of the source become meaningless by this cause? -/
def isStructural : Cause → Bool
  | structural _ | unterminatedExpression _ | unterminatedDirective _ | malformedTemplate _ => true
  | _ => false

end Cause

structure Fault where
  cause : Cause
  offset : Option Int := none
  line : Option Int := none
deriving Repr, DecidableEq

namespace Fault

/-- The name that stands for a source without a path. -/
def pathOrMemory (path : String) : String :=
  if path.isEmpty then "<memory>" else path

/-- Where the fault is: the line if it is known, else the offset. -/
def location (f : Fault) (path : String) : String :=
  pathOrMemory path ++
    match f.line, f.offset with
    | some line, _ => ":" ++ toString line
    | none, some offset => ":@" ++ toString offset
    | none, none => ""

def describe (f : Fault) (path : String) : String :=
  f.location path ++ ": " ++ f.cause.kind ++ ": " ++ f.cause.message

end Fault

end Codeweave
