import Codeweave.Script.Names

/-!
What a script does with names, as one row of events in the order in which the script is read. Parts
of the script that have names of their own are marked by the events that enter and leave them.
-/

namespace Codeweave.Script

inductive RegionKind where
  | whole
  | function
  /-- a function that waits -/
  | coroutine
  | class_
  | comprehension (onDemand : Bool)
  /-- annotations, which are never evaluated -/
  | hint
deriving Repr, DecidableEq

inductive Mention where
  | use (line : Nat) (name : String)
  | own (line : Nat) (name : String)
  /-- an import binds a name -/
  | imported (line : Nat) (name : String)
  | param (line : Nat) (name : String)
  | annotated (line : Nat) (name : String)
  | global (line : Nat) (name : String)
  /-- a name is declared to belong to an enclosing function -/
  | outer (line : Nat) (name : String)
  /-- an expression is about to bind a name -/
  | binding (line : Nat) (name : String)
  /-- all names of a module become names of the region -/
  | all (line : Nat)
  | produce (line : Nat)
  | await (line : Nat)
  | enter (kind : RegionKind)
  | leave
  | startSource
  | endSource
  | startTarget
  | endTarget
deriving Repr, DecidableEq

/-- What a loop that waits for its items does in its region. -/
def waitMentions (line : Nat) (async : Bool) : List Mention :=
  if async then [.await line] else []

mutual

/-- What an expression does with names; `placed` if something is assigned to it. -/
def Expr.mentions (placed : Bool) : Expr → List Mention
  | .constant _ => []
  | .name line id =>
    if placed then [.own line id] else if id == fixedName then [] else [.use line id]
  | .formatted pieces => pieceMentions pieces
  | .tuple _ items | .list _ items | .set _ items => itemMentions placed items
  | .dict _ entries => keyMentions entries ++ valueMentions entries
  | .comprehension _ kind element clauses =>
    sourceMentions clauses ++ [.enter (.comprehension (kind == .generator))] ++
      loopMentions (element.mentions false) clauses ++ [.leave]
  | .unary _ _ operand => operand.mentions false
  | .binary _ _ left right | .both left right | .either left right =>
    left.mentions false ++ right.mentions false
  | .compare _ first rest => first.mentions false ++ comparedMentions rest
  | .choose test yes no => test.mentions false ++ yes.mentions false ++ no.mentions false
  | .function _ params body =>
    defaultMentions params ++ [.enter .function] ++ paramMentions params ++ body.mentions false ++
      [.leave]
  | .call _ callee arguments =>
    callee.mentions false ++ argumentMentions false arguments ++ argumentMentions true arguments
  | .member _ object _ => object.mentions false
  | .item _ object key => object.mentions false ++ key.mentions false
  | .slice low high step => optionMentions low ++ optionMentions high ++ optionMentions step
  | .binding line id value => .binding line id :: value.mentions false ++ [.own line id]
  | .star _ value => value.mentions placed
  | .produce line value => optionMentions value ++ [.produce line]
  | .produceFrom line value => value.mentions false ++ [.produce line]
  | .await line value => value.mentions false ++ [.await line]

def itemMentions (placed : Bool) : List Expr → List Mention
  | [] => []
  | e :: rest => e.mentions placed ++ itemMentions placed rest

def optionMentions : Option Expr → List Mention
  | none => []
  | some e => e.mentions false

def pieceMentions : List Piece → List Mention
  | [] => []
  | .text _ :: rest | .unfollowed :: rest => pieceMentions rest
  | .shown _ value _ _ format :: rest =>
    value.mentions false ++ pieceMentions format ++ pieceMentions rest

def keyMentions : List Entry → List Mention
  | [] => []
  | .pair key _ :: rest => key.mentions false ++ keyMentions rest
  | .spread _ _ :: rest => keyMentions rest

def valueMentions : List Entry → List Mention
  | [] => []
  | .pair _ value :: rest | .spread _ value :: rest => value.mentions false ++ valueMentions rest

def comparedMentions : List (CompareOp × Expr) → List Mention
  | [] => []
  | (_, e) :: rest => e.mentions false ++ comparedMentions rest

/-- The first source of a comprehension, which belongs to the region around it. -/
def sourceMentions : List Clause → List Mention
  | [] => []
  | .mk _ _ _ source _ :: _ => [.startSource] ++ source.mentions false ++ [.endSource]

/-- What belongs to the region of a comprehension: all but the first source. -/
def loopMentions (element : List Mention) : List Clause → List Mention
  | [] => element
  | .mk line async target _ conditions :: rest =>
    waitMentions line async ++ [.startTarget] ++ target.mentions true ++ [.endTarget] ++
      itemMentions false conditions ++ clauseMentions rest ++ element

def clauseMentions : List Clause → List Mention
  | [] => []
  | .mk line async target source conditions :: rest =>
    [.startTarget] ++ target.mentions true ++ [.endTarget, .startSource] ++
      source.mentions false ++ [.endSource] ++ itemMentions false conditions ++
      waitMentions line async ++ clauseMentions rest

def defaultMentions : List Param → List Mention
  | [] => []
  | .mk _ _ _ default _ :: rest => optionMentions default ++ defaultMentions rest

/-- The named arguments of a call, or the others. -/
def argumentMentions (named : Bool) : List Argument → List Mention
  | [] => []
  | .positional value :: rest | .spread _ value :: rest =>
    (if named then [] else value.mentions false) ++ argumentMentions named rest
  | .named _ _ value :: rest | .spreadNamed _ value :: rest =>
    (if named then value.mentions false else []) ++ argumentMentions named rest

/-- The parameters of a function; those that take what is left come last. -/
def paramMentions (params : List Param) : List Mention :=
  ([[.positionalOnly, .regular], [.keywordOnly], [.rest], [.restNamed]] :
      List (List ParamKind)).flatMap fun kinds =>
    (params.filter fun p => kinds.contains p.kind).map fun p => .param p.line p.name

end

def hintMentions (params : List Param) (kind : ParamKind) : List Mention :=
  (params.filter fun p => p.kind == kind).flatMap fun p => optionMentions p.hint

def annotationMentions (mentions : List Mention) : List Mention :=
  [.enter .hint] ++ mentions ++ [.leave]

/-- The annotations of a function: those of all parameters together, then that of what is given
back. -/
def signatureMentions (params : List Param) (returns : Option Expr) : List Mention :=
  annotationMentions
    ([ParamKind.positionalOnly, .regular, .rest, .restNamed, .keywordOnly].flatMap
      (hintMentions params)) ++
    (returns.map fun e => annotationMentions (e.mentions false)).getD []

def functionKind (async : Bool) : RegionKind :=
  if async then .coroutine else .function

def decoratorMentions (decorators : List Decorator) : List Mention :=
  decorators.flatMap fun d => d.function.mentions false

mutual

def Pattern.mentions : Pattern → List Mention
  | .anything _ | .constant _ _ => []
  | .capture line name => [.own line name]
  | .equal _ value => value.mentions false
  | .sequence _ items => patternMentions items
  | .rest line name => name.toList.map (.own line)
  | .mapping line keys values rest =>
    itemMentions false keys ++ patternMentions values ++ rest.toList.map (.own line)
  | .instance_ _ type positional _ named =>
    type.mentions false ++ patternMentions positional ++ patternMentions named
  | .either _ options => patternMentions options
  | .named line pattern name => pattern.mentions ++ [.own line name]

def patternMentions : List Pattern → List Mention
  | [] => []
  | p :: rest => p.mentions ++ patternMentions rest

end

mutual

def Stmt.mentions : Stmt → List Mention
  | .evaluate value => value.mentions false
  | .assign targets value => itemMentions true targets ++ value.mentions false
  | .update _ target _ value => target.mentions true ++ value.mentions false
  | .annotate line simple target hint value =>
    (match target with
     | .name at_ id =>
       if simple then [.annotated line id] else if value.isSome then [.own at_ id] else []
     | _ => target.mentions true) ++ annotationMentions (hint.mentions false) ++
      optionMentions value
  | .delete targets => itemMentions true targets
  | .pass | .leave _ | .next _ => []
  | .giveBack _ value => optionMentions value
  | .raise _ error cause => optionMentions error ++ optionMentions cause
  | .globals line names => names.map (.global line)
  | .nonlocals line names => names.map (.outer line)
  | .assert _ test message => test.mentions false ++ optionMentions message
  | .branch test yes no => test.mentions false ++ mentionsIn yes ++ mentionsIn no
  | .repeat_ _ test body otherwise => test.mentions false ++ mentionsIn body ++ mentionsIn otherwise
  | .each _ _ target source body otherwise =>
    target.mentions true ++ source.mentions false ++ mentionsIn body ++ mentionsIn otherwise
  | .define line async decorators name params returns body =>
    [.own line name] ++ defaultMentions params ++ signatureMentions params returns ++
      decoratorMentions decorators ++ [.enter (functionKind async)] ++ paramMentions params ++
      mentionsIn body ++ [.leave]
  | .class_ line decorators name arguments _ body =>
    [.own line name] ++ argumentMentions false arguments ++ argumentMentions true arguments ++
      decoratorMentions decorators ++ [.enter .class_] ++ mentionsIn body ++ [.leave]
  | .attempt _ body handlers otherwise cleanup =>
    mentionsIn body ++ mentionsIn otherwise ++ handlerMentions handlers ++ mentionsIn cleanup
  | .manage _ _ managed body =>
    (managed.flatMap fun item =>
      item.object.mentions false ++ (item.target.map (Expr.mentions true)).getD []) ++
      mentionsIn body
  | .select _ subject cases => subject.mentions false ++ caseMentions cases
  | .bring line modules => modules.map fun a => .imported line a.bound
  | .bringFrom line _ names => names.map fun a => .imported line a.bound
  | .bringAll _ starLine _ => [.all starLine]

def mentionsIn : List Stmt → List Mention
  | [] => []
  | s :: rest => s.mentions ++ mentionsIn rest

def handlerMentions : List Handler → List Mention
  | [] => []
  | .mk line _ errors name body :: rest =>
    optionMentions errors ++ name.toList.map (.own line) ++ mentionsIn body ++ handlerMentions rest

def caseMentions : List Case → List Mention
  | [] => []
  | .mk pattern guard body :: rest =>
    pattern.mentions ++ optionMentions guard ++ mentionsIn body ++ caseMentions rest

end

/-- The next flags of the regions entered so far, the innermost first: does a region await? A
comprehension that awaits while it is evaluated makes the region around it await. -/
def awaitStep : List (RegionKind × Bool) → Mention → List (RegionKind × Bool)
  | (kind, _) :: outer, .await _ => (kind, true) :: outer
  | flags, .enter kind => (kind, false) :: flags
  | (.comprehension false, true) :: (kind, _) :: outer, .leave => (kind, true) :: outer
  | _ :: outer, .leave => outer
  | flags, _ => flags

def awaitsHere (mentions : List Mention) : Bool :=
  ((mentions.foldl awaitStep [(.whole, false)]).head?.map Prod.snd).getD false

/-- The next depth of the region that a row of events has come to, and whether the first region
produced a value. -/
def produceStep : Nat × Bool → Mention → Nat × Bool
  | (0, _), .produce _ => (0, true)
  | (depth, found), .enter _ => (depth + 1, found)
  | (depth, found), .leave => (depth - 1, found)
  | state, _ => state

def producesHere (mentions : List Mention) : Bool :=
  (mentions.foldl produceStep (0, false)).2

end Codeweave.Script
