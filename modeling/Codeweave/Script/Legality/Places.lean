import Codeweave.Script.Legality.Mention

/-!
Rules about places: where values are returned, produced and awaited, where stars stand, what a
target may be, how deep blocks may nest. A script is gone through in the order of its instructions,
and the line of the first thing out of place is reported.
-/

namespace Codeweave.Script

/-- The line of something out of place. -/
abbrev Complaint := Option Nat

def complainIf (condition : Bool) (line : Nat) : Complaint :=
  if condition then some line else none

inductive Use where
  | load
  | store
  | delete
deriving DecidableEq

/-- Is the region neither a function nor a comprehension? -/
def RegionKind.isOutside (kind : RegionKind) : Bool :=
  kind == .whole || kind == .class_

/-- The fixed name is only read. -/
def nameComplaint (use : Use) (line : Nat) (name : String) : Complaint :=
  complainIf (use != .load && name == fixedName) line

def paramComplaint (line : Nat) (params : List Param) : Complaint :=
  complainIf (params.any fun p => p.name == fixedName) line

def isStar : Expr → Bool
  | .star _ _ => true
  | _ => false

def maxBeforeStar : Nat := 255

/-- Among targets one star is enough, and it does not come too late. -/
def unpackComplaint (line : Nat) (targets : List Expr) : Complaint :=
  complainIf ((targets.filter isStar).length > 1 ||
    decide (maxBeforeStar < (targets.findIdx? isStar).getD 0)) line

def namedArguments (arguments : List Argument) : List (Nat × String) :=
  arguments.filterMap fun
    | .named line name _ => some (line, name)
    | _ => none

/-- No argument of a call on the given line is named twice, and none has the fixed name. -/
def argumentComplaint (line : Nat) : List (Nat × String) → Complaint
  | [] => none
  | (_, name) :: rest =>
    nameComplaint .store line name <|>
      (rest.find? fun other => other.2 == name).map Prod.fst <|>
      argumentComplaint line rest

mutual

/-- What is out of place in an expression of a region of the given kind. -/
def Expr.misplaced (kind : RegionKind) (use : Use) : Expr → Complaint
  | .constant _ => none
  | .name line id => nameComplaint use line id
  | .formatted pieces => misplacedPieces kind pieces
  | .set _ items => misplacedItems kind .load true items
  | .tuple line items | .list line items =>
    match use with
    | .load => misplacedItems kind .load true items
    | .store => unpackComplaint line items <|> misplacedItems kind .store true items
    | .delete => misplacedItems kind .delete false items
  | .dict _ entries => misplacedEntries kind entries
  | .comprehension line made element clauses =>
    let onDemand := made == .generator
    let outside := match kind with
      | .comprehension _ | .coroutine => false
      | _ => true
    let inner := loopMentions (element.mentions false) clauses
    complainIf (outside && !onDemand && awaitsHere inner) line <|>
      misplacedLoops kind onDemand (element.misplaced (.comprehension onDemand) .load) clauses
  | .unary _ _ operand => operand.misplaced kind .load
  | .binary _ _ left right | .both left right | .either left right =>
    left.misplaced kind .load <|> right.misplaced kind .load
  | .compare _ first rest => first.misplaced kind .load <|> misplacedCompared kind rest
  | .choose test yes no =>
    test.misplaced kind .load <|> yes.misplaced kind .load <|> no.misplaced kind .load
  | .function line params body =>
    paramComplaint line params <|> misplacedDefaults kind params <|> body.misplaced .function .load
  | .call line callee arguments =>
    argumentComplaint line (namedArguments arguments) <|> callee.misplaced kind .load <|>
      misplacedArguments kind false arguments <|> misplacedArguments kind true arguments
  | .member line object name =>
    object.misplaced kind .load <|> complainIf (use == .store && name == fixedName) line
  | .item _ object key => object.misplaced kind .load <|> key.misplaced kind .load
  | .slice low high step =>
    misplacedOption kind low <|> misplacedOption kind high <|> misplacedOption kind step
  | .binding line id value => value.misplaced kind .load <|> nameComplaint .store line id
  | .star line _ => some line
  | .produce line value => complainIf kind.isOutside line <|> misplacedOption kind value
  | .produceFrom line value =>
    complainIf (kind.isOutside || kind == .coroutine) line <|> value.misplaced kind .load
  | .await line value =>
    complainIf (kind.isOutside || kind == .function) line <|> value.misplaced kind .load

/-- Items; with `starred`, a star before one of them is in place. -/
def misplacedItems (kind : RegionKind) (use : Use) (starred : Bool) : List Expr → Complaint
  | [] => none
  | .star line value :: rest =>
    (if starred then value.misplaced kind use else some line) <|>
      misplacedItems kind use starred rest
  | e :: rest => e.misplaced kind use <|> misplacedItems kind use starred rest

def misplacedOption (kind : RegionKind) : Option Expr → Complaint
  | none => none
  | some e => e.misplaced kind .load

def misplacedPieces (kind : RegionKind) : List Piece → Complaint
  | [] => none
  | .text _ :: rest | .unfollowed :: rest => misplacedPieces kind rest
  | .shown _ value _ _ format :: rest =>
    value.misplaced kind .load <|> misplacedPieces kind format <|> misplacedPieces kind rest

def misplacedEntries (kind : RegionKind) : List Entry → Complaint
  | [] => none
  | .pair key value :: rest =>
    key.misplaced kind .load <|> value.misplaced kind .load <|> misplacedEntries kind rest
  | .spread _ value :: rest => value.misplaced kind .load <|> misplacedEntries kind rest

def misplacedCompared (kind : RegionKind) : List (CompareOp × Expr) → Complaint
  | [] => none
  | (_, e) :: rest => e.misplaced kind .load <|> misplacedCompared kind rest

/-- The loops of a comprehension: the first source comes last, since it is evaluated outside. -/
def misplacedLoops (kind : RegionKind) (onDemand : Bool) (element : Complaint) :
    List Clause → Complaint
  | [] => element
  | .mk _ _ target source conditions :: rest =>
    target.misplaced (.comprehension onDemand) .store <|>
      misplacedItems (.comprehension onDemand) .load false conditions <|>
      misplacedClauses (.comprehension onDemand) rest <|> element <|> source.misplaced kind .load

def misplacedClauses (kind : RegionKind) : List Clause → Complaint
  | [] => none
  | .mk _ _ target source conditions :: rest =>
    source.misplaced kind .load <|> target.misplaced kind .store <|>
      misplacedItems kind .load false conditions <|> misplacedClauses kind rest

def misplacedDefaults (kind : RegionKind) : List Param → Complaint
  | [] => none
  | .mk _ _ _ default _ :: rest => misplacedOption kind default <|> misplacedDefaults kind rest

def misplacedArguments (kind : RegionKind) (named : Bool) : List Argument → Complaint
  | [] => none
  | .positional value :: rest | .spread _ value :: rest =>
    (if named then none else value.misplaced kind .load) <|> misplacedArguments kind named rest
  | .named _ _ value :: rest | .spreadNamed _ value :: rest =>
    (if named then value.misplaced kind .load else none) <|> misplacedArguments kind named rest

end

/-! ### Statements -/

inductive Enclosure where
  | loop
  /-- a block with what is out of place in the cleanup after it, if this is run on its own and if it
  is run while a value or an error waits -/
  | cleanup (alone waiting : Complaint)
  /-- the handler of a part of a group, which no jump leaves -/
  | closed
  | other

/-- The blocks around a statement, the innermost first, and the region it belongs to. -/
structure Surroundings where
  kind : RegionKind := .whole
  /-- is it a function that waits and produces values? -/
  mixed : Bool := false
  blocks : List Enclosure := []
  /-- the line of the last statement at the start of the script that names features of the language
  -/
  features : Nat := 0

def maxNested : Nat := 20

def Surroundings.push (p : Surroundings) (b : Enclosure) : Surroundings :=
  { p with blocks := b :: p.blocks }

def Surroundings.full (p : Surroundings) (line : Nat) : Complaint :=
  complainIf (p.blocks.length ≥ maxNested) line

/-- What is out of place where a jump on the given line leaves blocks, their cleanups included. -/
def exitComplaint (line : Nat) (waiting : Bool) : List Enclosure → Complaint
  | [] => none
  | .cleanup alone withValue :: outer =>
    (if waiting then withValue else alone) <|> exitComplaint line waiting outer
  | .closed :: _ => some line
  | _ :: outer => exitComplaint line waiting outer

/-- The blocks inside the innermost loop; `none` if there is no loop. -/
def blocksInLoop? : List Enclosure → Option (List Enclosure)
  | [] => none
  | .loop :: _ => some []
  | b :: outer => (blocksInLoop? outer).map (b :: ·)

/-- A jump to the innermost loop leaves the blocks inside it. -/
def Surroundings.jump (p : Surroundings) (line : Nat) : Complaint :=
  match blocksInLoop? p.blocks with
  | some left => exitComplaint line false left
  | none => exitComplaint line false p.blocks <|> some line

def isConstant : Expr → Bool
  | .constant _ => true
  | _ => false

/-- A return gives a value back from a function and leaves all blocks. -/
def Surroundings.giveBack (p : Surroundings) (line : Nat) (value : Option Expr) : Complaint :=
  complainIf (p.kind.isOutside || (p.mixed && value.isSome)) line <|>
    (value.bind (Expr.misplaced p.kind .load)) <|>
    exitComplaint line (value.any fun e => !isConstant e) p.blocks

mutual

/-- The key of an annotated target without a value, in which no star has a place. -/
def misplacedKey (kind : RegionKind) : Expr → Complaint
  | .tuple _ keys => misplacedKeys kind keys
  | e => e.misplaced kind .load

def misplacedKeys (kind : RegionKind) : List Expr → Complaint
  | [] => none
  | e :: rest => misplacedKey kind e <|> misplacedKeys kind rest

end

def misplacedTarget (kind : RegionKind) : Expr → Complaint
  | .member line object name => nameComplaint .store line name <|> object.misplaced kind .load
  | .item _ object key => object.misplaced kind .load <|> misplacedKey kind key
  | _ => none

/-- A target with an annotation. The annotation itself is never evaluated, so nothing is out of
place in it. -/
def Surroundings.annotate (p : Surroundings) (target : Expr) (value : Option Expr) : Complaint :=
  match value with
  | some e => e.misplaced p.kind .load <|> target.misplaced p.kind .store
  | none =>
    match target with
    | .name line id => nameComplaint .store line id
    | _ => misplacedTarget p.kind target

/-! ### Patterns -/

def isRest : Pattern → Bool
  | .rest _ _ => true
  | _ => false

def isFormatted : Expr → Bool
  | .formatted _ => true
  | _ => false

/-- The number that a constant key is, perhaps behind a sign. -/
def keyNumber? : Expr → Option Int
  | .constant (.integer n) => some n
  | .constant (.bool b) => some (if b then 1 else 0)
  | .unary _ .minus (.constant (.integer n)) => some (-n)
  | _ => none

/-- Are two constant keys of a pattern surely the same? -/
def isSameKey (a b : Expr) : Bool :=
  match a, b with
  | .constant (.text s), .constant (.text t) => s == t
  | .constant .none, .constant .none => true
  | a, b => (keyNumber? a).isSome && keyNumber? a == keyNumber? b

/-- Is one of the keys a formatted text, or the same as a key before it? -/
def hasWrongKey : List Expr → Bool
  | [] => false
  | key :: rest => isFormatted key || rest.any (isSameKey key) || hasWrongKey rest

/-- Is the pattern one that every value looks like? -/
def takesAll : Pattern → Bool
  | .anything _ => true
  | _ => false

/-- The names that were bound in a pattern so far, unless something is out of place. -/
abbrev Binding := Except Nat (List String)

/-- Binds one more name, which must not be bound already. -/
def bindOnce (line : Nat) (before : List String) (name : String) : Binding :=
  if name == fixedName || before.contains name then .error line else .ok (before ++ [name])

def refuse (complaint : Complaint) : Except Nat Unit :=
  match complaint with
  | some line => .error line
  | none => .ok ()

mutual

/-- The names that are bound in a pattern and before it. Only a pattern that is `open` may be one
that every value looks like. -/
def Pattern.binding (kind : RegionKind) («open» : Bool) (before : List String) : Pattern → Binding
  | .anything line => if «open» then .ok before else .error line
  | .capture line name => if «open» then bindOnce line before name else .error line
  | .equal line value => do
    refuse (complainIf (isFormatted value) line <|> value.misplaced kind .load)
    pure before
  | .constant _ _ => pure before
  | .sequence line items => do
    refuse (complainIf ((items.filter isRest).length > 1) line)
    bindingOf kind before items
  | .rest line name => match name with
    | some id => bindOnce line before id
    | none => pure before
  | .mapping line keys values rest => do
    refuse (complainIf (hasWrongKey keys) line <|> misplacedItems kind .load false keys)
    let bound ← bindingOf kind before values
    match rest with
    | some id => bindOnce line bound id
    | none => pure bound
  | .instance_ _ type positional names named => do
    refuse (argumentComplaint 0 names <|> type.misplaced kind .load)
    bindingOf kind (← bindingOf kind before positional) named
  | .either line options => do
    let bound ← bindingEither kind «open» none options
    bound.foldlM (bindOnce line) before
  | .named line pattern name => do
    bindOnce line (← pattern.binding kind «open» before) name

/-- The names that are bound in parts of a pattern. -/
def bindingOf (kind : RegionKind) (before : List String) : List Pattern → Binding
  | [] => pure before
  | p :: rest => do bindingOf kind (← p.binding kind true before) rest

/-- The names that each of several patterns binds, which are the same for all. -/
def bindingEither (kind : RegionKind) («open» : Bool) (expected : Option (List String)) :
    List Pattern → Binding
  | [] => pure (expected.getD [])
  | p :: rest => do
    let bound ← p.binding kind («open» && rest.isEmpty) []
    let expected := expected.getD bound
    refuse (complainIf (bound.length != expected.length || !expected.all bound.contains) p.line)
    bindingEither kind «open» (some expected) rest

end

def patternComplaint (kind : RegionKind) («open» : Bool) (pattern : Pattern) : Complaint :=
  match pattern.binding kind «open» [] with
  | .error line => some line
  | .ok _ => none

/-! ### Statements and their parts -/

/-- The first name of an import that cannot be bound. -/
def aliasComplaint (line : Nat) (names : List Alias) : Complaint :=
  names.findSome? fun a => nameComplaint .store line a.bound

def misplacedDecorators (kind : RegionKind) : List Decorator → Complaint
  | [] => none
  | d :: rest => d.function.misplaced kind .load <|> misplacedDecorators kind rest

/-- Only a function that waits can wait for what a statement needs. -/
def Surroundings.wait (p : Surroundings) (line : Nat) (async : Bool) : Complaint :=
  complainIf (async && p.kind != .coroutine) line

/-- What is out of place among objects that are entered; each of them takes a block. -/
def misplacedManaged (line : Nat) (async : Bool) (body : Surroundings → Complaint) :
    List Managed → Surroundings → Complaint
  | [], p => body p
  | item :: rest, p =>
    p.wait line async <|> item.object.misplaced p.kind .load <|> p.full line <|>
      item.target.bind (Expr.misplaced p.kind .store) <|>
      misplacedManaged line async body rest (p.push .other)

/-- The module that names features of the language. -/
def futureModule : String := "__future__"

def Origin.isFuture (origin : Origin) : Bool :=
  origin.path == [futureModule]

mutual

def Stmt.misplaced (p : Surroundings) : Stmt → Complaint
  | .evaluate value => value.misplaced p.kind .load
  | .assign targets value =>
    value.misplaced p.kind .load <|> misplacedItems p.kind .store false targets
  | .update _ target _ value =>
    (match target with
     | .name _ _ => none
     | .member _ object _ => object.misplaced p.kind .load
     | _ => target.misplaced p.kind .store) <|>
    value.misplaced p.kind .load <|>
    (match target with
     | .name line id => nameComplaint .store line id
     | _ => none)
  | .annotate _ _ target _ value => p.annotate target value
  | .delete targets => misplacedItems p.kind .delete false targets
  | .pass | .globals _ _ | .nonlocals _ _ => none
  | .leave line | .next line => p.jump line
  | .giveBack line value => p.giveBack line value
  | .raise _ error cause => misplacedOption p.kind error <|> misplacedOption p.kind cause
  | .assert _ test message => test.misplaced p.kind .load <|> misplacedOption p.kind message
  | .branch test yes no => test.misplaced p.kind .load <|> misplacedIn p yes <|> misplacedIn p no
  | .repeat_ line test body otherwise =>
    p.full line <|> test.misplaced p.kind .load <|> misplacedIn (p.push .loop) body <|>
      misplacedIn p otherwise
  | .each line async target source body otherwise =>
    p.wait line async <|> p.full line <|> source.misplaced p.kind .load <|>
      target.misplaced p.kind .store <|>
      misplacedIn (p.push .loop) body <|> misplacedIn p otherwise
  | .define line async decorators name params _ body =>
    let mentions := mentionsIn body
    let mixed := (async || awaitsHere mentions) && producesHere mentions
    let inside : Surroundings := { kind := functionKind async, mixed, features := p.features }
    paramComplaint line params <|> misplacedDecorators p.kind decorators <|>
      misplacedDefaults p.kind params <|> misplacedIn inside body <|> nameComplaint .store line name
  | .class_ line decorators name arguments _ body =>
    misplacedDecorators p.kind decorators <|>
      misplacedIn { kind := .class_, features := p.features } body <|>
      argumentComplaint line (namedArguments arguments) <|>
      misplacedArguments p.kind false arguments <|> misplacedArguments p.kind true arguments <|>
      nameComplaint .store line name
  | .attempt line body handlers otherwise cleanup =>
    let alone := misplacedIn p cleanup
    let waiting := misplacedIn (p.push .other) cleanup
    let inner := if cleanup.isEmpty then p else p.push (.cleanup alone waiting)
    (if cleanup.isEmpty then none else p.full line) <|>
      (if handlers.isEmpty then misplacedIn inner body
       else if handlers.any Handler.forGroups then
         inner.full line <|> misplacedIn (inner.push .other) body <|>
           misplacedHandlers (inner.push .closed) handlers <|> misplacedIn inner otherwise
       else
         inner.full line <|> misplacedIn (inner.push .other) body <|>
           misplacedIn inner otherwise <|> misplacedHandlers (inner.push .other) handlers) <|>
      alone <|> waiting
  | .manage line async managed body =>
    misplacedManaged line async (misplacedIn · body) managed p
  | .select _ subject cases => subject.misplaced p.kind .load <|> misplacedCases p cases
  | .bring line modules => aliasComplaint line modules
  | .bringFrom line origin names =>
    complainIf (origin.isFuture && p.features < line) line <|> aliasComplaint line names
  | .bringAll line _ origin => complainIf (origin.isFuture && p.features < line) line

def misplacedIn (p : Surroundings) : List Stmt → Complaint
  | [] => none
  | s :: rest => s.misplaced p <|> misplacedIn p rest

/-- A handler for every error comes last. -/
def misplacedHandlers (p : Surroundings) : List Handler → Complaint
  | [] => none
  | .mk line _ errors name body :: rest =>
    complainIf (errors.isNone && !rest.isEmpty) line <|> misplacedOption p.kind errors <|>
      p.full line <|> misplacedIn (p.push .other) body <|>
      name.bind (nameComplaint .store line) <|> misplacedHandlers p rest

/-- Only the last pattern, or one with a condition, may be one that every value looks like. -/
def misplacedCases (p : Surroundings) : List Case → Complaint
  | [] => none
  | .mk pattern guard body :: rest =>
    patternComplaint p.kind (guard.isSome || rest.isEmpty) pattern <|>
      misplacedOption p.kind guard <|>
      misplacedIn p body <|> misplacedCases p rest

end

/-! ### Features of the language -/

/-- The features that a script may name; all of them are in force, or change nothing. -/
def features : List String :=
  ["nested_scopes", "generators", "division", "absolute_import", "with_statement",
   "print_function", "unicode_literals", "barry_as_FLUFL", "generator_stop", "annotations"]

/-- The line of the last statement that names features at the start of a script, or else of one
there that names something else. What stands too late on a further line is out of place, not looked
at here. -/
def featureLines (done : Bool) (last : Nat) : List Stmt → Except Nat Nat
  | [] => .ok last
  | .bringFrom line origin names :: rest =>
    if !origin.isFuture || (done && last < line) then featureLines true last rest
    else if done || names.any fun a => !features.contains (a.path.headD "") then .error line
    else featureLines false line rest
  | .bringAll line _ origin :: rest =>
    if !origin.isFuture || (done && last < line) then featureLines true last rest else .error line
  | .evaluate (.constant (.text _)) :: rest => featureLines done last rest
  | _ :: rest => featureLines true last rest

end Codeweave.Script
