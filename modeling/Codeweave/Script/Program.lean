/-!
Programs of the script language: expressions and statements as trees. A node that can fail at run
time carries the line it is reported on.
-/

namespace Codeweave.Script

inductive UnaryOp where
  | plus
  | minus
  | invert
  | negation
deriving Repr, DecidableEq

inductive BinaryOp where
  | add
  | subtract
  | multiply
  | matrixMultiply
  | divide
  | floorDivide
  | modulo
  | power
  | shiftLeft
  | shiftRight
  | bitAnd
  | bitOr
  | bitXor
deriving Repr, DecidableEq

inductive CompareOp where
  | equal
  | notEqual
  | less
  | lessEqual
  | greater
  | greaterEqual
  | contained
  | notContained
  | same
  | notSame
deriving Repr, DecidableEq

inductive Constant where
  | none
  | bool (value : Bool)
  | ellipsis
  | integer (value : Nat)
  | float (value : Float)
  | text (value : String)
  /-- a value that is not followed: bytes, an imaginary number, or a text with other characters than
  texts have here -/
  | unfollowed

inductive ParamKind where
  | positionalOnly
  | regular
  | rest
  | keywordOnly
  | restNamed
deriving Repr, DecidableEq

inductive ComprehensionKind where
  | list
  | set
  | dict
  /-- a generator expression, whose elements are made when they are asked for -/
  | generator
deriving Repr, DecidableEq

/-- The name that always holds, and that nothing can be assigned to. -/
def fixedName : String := "__debug__"

mutual

inductive Expr where
  | constant (value : Constant)
  | name (line : Nat) (id : String)
  | formatted (pieces : List Piece)
  | tuple (line : Nat) (items : List Expr)
  | list (line : Nat) (items : List Expr)
  | set (line : Nat) (items : List Expr)
  | dict (line : Nat) (entries : List Entry)
  /-- The element of a comprehension that makes a dictionary is a tuple of a key and a value. -/
  | comprehension (line : Nat) (kind : ComprehensionKind) (element : Expr) (clauses : List Clause)
  | unary (line : Nat) (op : UnaryOp) (operand : Expr)
  | binary (line : Nat) (op : BinaryOp) (left right : Expr)
  | both (left right : Expr)
  | either (left right : Expr)
  | compare (line : Nat) (first : Expr) (rest : List (CompareOp × Expr))
  | choose (test yes no : Expr)
  | function (line : Nat) (params : List Param) (body : Expr)
  | call (line : Nat) (callee : Expr) (arguments : List Argument)
  | member (line : Nat) (object : Expr) (name : String)
  | item (line : Nat) (object key : Expr)
  | slice (low high step : Option Expr)
  | binding (line : Nat) (id : String) (value : Expr)
  | star (line : Nat) (value : Expr)
  | produce (line : Nat) (value : Option Expr)
  | produceFrom (line : Nat) (value : Expr)
  | await (line : Nat) (value : Expr)

inductive Piece where
  | text (value : String)
  /-- a text that is not followed -/
  | unfollowed
  /-- a value, written by its text or quoted, or, if it is special, in another way -/
  | shown (line : Nat) (value : Expr) (quoted special : Bool) (format : List Piece)

inductive Entry where
  | pair (key value : Expr)
  | spread (line : Nat) (value : Expr)

/-- A loop of a comprehension; `async` if it waits for its items. -/
inductive Clause where
  | mk (line : Nat) (async : Bool) (target source : Expr) (conditions : List Expr)

inductive Param where
  | mk (line : Nat) (name : String) (kind : ParamKind) (default hint : Option Expr)

inductive Argument where
  | positional (value : Expr)
  | named (line : Nat) (name : String) (value : Expr)
  | spread (line : Nat) (value : Expr)
  | spreadNamed (line : Nat) (value : Expr)

end

def Param.name : Param → String
  | .mk _ name _ _ _ => name

def Param.line : Param → Nat
  | .mk line _ _ _ _ => line

def Param.kind : Param → ParamKind
  | .mk _ _ kind _ _ => kind

def Param.default : Param → Option Expr
  | .mk _ _ _ default _ => default

def Param.hint : Param → Option Expr
  | .mk _ _ _ _ hint => hint

def Clause.async : Clause → Bool
  | .mk _ async _ _ _ => async

def Clause.target : Clause → Expr
  | .mk _ _ target _ _ => target

def Clause.source : Clause → Expr
  | .mk _ _ _ source _ => source

def Clause.conditions : Clause → List Expr
  | .mk _ _ _ _ conditions => conditions

/-- What is brought from elsewhere, perhaps under another name. The name of a module has several
parts if the module is inside another. -/
structure Alias where
  path : List String
  newName : Option String

/-- Where names are brought from: a module, by its name below the package so many levels up. -/
structure Origin where
  level : Nat
  path : List String

/-- A function that is called with what is defined below it. -/
structure Decorator where
  line : Nat
  function : Expr

/-- An object that is entered before a block and left after it, and the target for what entering it
gives. -/
structure Managed where
  object : Expr
  target : Option Expr

/-- What a value may look like. -/
inductive Pattern where
  | anything (line : Nat)
  | capture (line : Nat) (name : String)
  /-- a value that is equal to the value of an expression -/
  | equal (line : Nat) (value : Expr)
  /-- nothing, or a truth value -/
  | constant (line : Nat) (value : Constant)
  | sequence (line : Nat) (items : List Pattern)
  /-- the items of a sequence that others leave, if they are wanted under a name -/
  | rest (line : Nat) (name : Option String)
  /-- a dictionary with some keys, and what it holds besides, if that is wanted under a name -/
  | mapping (line : Nat) (keys : List Expr) (values : List Pattern) (rest : Option String)
  /-- a value of a class with some members, of which the last ones are given by their names, with
  the lines of their patterns -/
  | instance_ (line : Nat) (type : Expr) (positional : List Pattern) (names : List (Nat × String))
    (named : List Pattern)
  | either (line : Nat) (options : List Pattern)
  | named (line : Nat) (pattern : Pattern) (name : String)

def Pattern.line : Pattern → Nat
  | .anything line | .capture line _ | .equal line _ | .constant line _ | .sequence line _
  | .rest line _ | .mapping line _ _ _ | .instance_ line _ _ _ _ | .either line _
  | .named line _ _ => line

mutual

inductive Stmt where
  | evaluate (value : Expr)
  | assign (targets : List Expr) (value : Expr)
  | update (line : Nat) (target : Expr) (op : BinaryOp) (value : Expr)
  /-- an annotated target; `simple` if it is a name without brackets -/
  | annotate (line : Nat) (simple : Bool) (target hint : Expr) (value : Option Expr)
  | delete (targets : List Expr)
  | pass
  | leave (line : Nat)
  | next (line : Nat)
  | giveBack (line : Nat) (value : Option Expr)
  | raise (line : Nat) (error cause : Option Expr)
  | globals (line : Nat) (names : List String)
  | nonlocals (line : Nat) (names : List String)
  | assert (line : Nat) (test : Expr) (message : Option Expr)
  | branch (test : Expr) (yes no : List Stmt)
  | repeat_ (line : Nat) (test : Expr) (body otherwise : List Stmt)
  /-- a loop over items; `async` if it waits for them -/
  | each (line : Nat) (async : Bool) (target source : Expr) (body otherwise : List Stmt)
  | define (line : Nat) (async : Bool) (decorators : List Decorator) (name : String)
    (params : List Param) (returns : Option Expr) (body : List Stmt)
  /-- `private` if its code mentions names that stand for others inside a class, or the class
  itself -/
  | class_ (line : Nat) (decorators : List Decorator) (name : String) (arguments : List Argument)
    (private_ : Bool) (body : List Stmt)
  | attempt (line : Nat) (body : List Stmt) (handlers : List Handler)
      (otherwise cleanup : List Stmt)
  | manage (line : Nat) (async : Bool) (managed : List Managed) (body : List Stmt)
  | select (line : Nat) (subject : Expr) (cases : List Case)
  | bring (line : Nat) (modules : List Alias)
  | bringFrom (line : Nat) (origin : Origin) (names : List Alias)
  /-- all names of a module; the star stands on the second line -/
  | bringAll (line starLine : Nat) (origin : Origin)

/-- What is done about errors of a class; without a class, about every error. One for groups takes
some errors out of a group. -/
inductive Handler where
  | mk (line : Nat) (forGroups : Bool) (errors : Option Expr) (name : Option String)
    (body : List Stmt)

/-- What is done with a value that looks like a pattern, if the condition holds. -/
inductive Case where
  | mk (pattern : Pattern) (guard : Option Expr) (body : List Stmt)

end

def Handler.takesAll : Handler → Bool
  | .mk _ _ errors _ _ => errors.isNone

def Handler.forGroups : Handler → Bool
  | .mk _ forGroups _ _ _ => forGroups

end Codeweave.Script
