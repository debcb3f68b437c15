import Codeweave.Script.Members
import Codeweave.Script.Scope

/-!
Evaluation of expressions. Parts of an expression are evaluated by the machine that is given.
-/

namespace Codeweave.Script

def Constant.value? : Constant → Option Value
  | .none => some Value.none
  | .bool b => some (.bool b)
  | .ellipsis => some .ellipsis
  | .integer n => some (.integer n)
  | .float x => some (.float x)
  | .text s => some (.text s)
  | .unfollowed => Option.none

section

variable (m : Machine) (env : Env)

/-! ### Parts of expressions -/

/-- The values of items, of which some stand for all items of another value. -/
def spreadItems (line : Nat) : List Expr → Run (List Value)
  | [] => pure []
  | .star _ e :: rest => do
    let v ← m.evaluate env e
    let xs ← env.at line do
      match ← items? m v with
      | some xs => pure xs
      | none =>
        raiseWith .wrongType ("Value after * must be an iterable, not " ++ (← get).typeName v)
    pure (xs ++ (← spreadItems line rest))
  | e :: rest => do
    let v ← m.evaluate env e
    pure (v :: (← spreadItems line rest))

/-- The pairs of a value that is spread over a dictionary. -/
def mappingEntries (v : Value) : Run (List (Value × Value)) := do
  let w ← get
  match v with
  | .dict address => pure (w.dictEntries address)
  | .names space => pure ((w.names space).map fun (n, x) => (.text n, x))
  | _ => raiseWith .wrongType ("'" ++ w.typeName v ++ "' object is not a mapping")

/-- Puts pairs over those that are there. -/
def putEntries (entries : List (Value × Value)) (more : List (Value × Value)) :
    Run (List (Value × Value)) :=
  more.foldlM (fun acc (k, v) => do
    requireKey k
    setEntry k v acc) entries

/-- The most pairs in a row of a dictionary that are evaluated before the first is put into it. -/
def gatheredPairs : Nat := 15

/-- The pairs at the start of the entries of a dictionary, at most so many, and the other entries.
-/
def leadingPairs : Nat → List Entry → List (Expr × Expr) × List Entry
  | n + 1, .pair key value :: rest =>
    let (pairs, others) := leadingPairs n rest
    ((key, value) :: pairs, others)
  | _, entries => ([], entries)

def pairValues : List (Expr × Expr) → Run (List (Value × Value))
  | [] => pure []
  | (key, value) :: rest => do
    let k ← m.evaluate env key
    let v ← m.evaluate env value
    pure ((k, v) :: (← pairValues rest))

/-- The pairs of a dictionary, added to those before, in at most so many steps. A short row of pairs
is evaluated as a whole before it is put into the dictionary, a long one pair by pair. -/
def dictEntries (line : Nat) : Nat → List Entry → List (Value × Value) → Run (List (Value × Value))
  | 0, _, before => pure before
  | _ + 1, [], before => pure before
  | steps + 1, .spread _ value :: rest, before => do
    let v ← m.evaluate env value
    let entries ← env.at line do putEntries before (← mappingEntries v)
    dictEntries line steps rest entries
  | steps + 1, entries, before => do
    let (row, others) := leadingPairs (gatheredPairs + 2) entries
    if row.length ≤ gatheredPairs then
      let pairs ← pairValues m env row
      let after ← env.at line (putEntries before pairs)
      dictEntries line steps others after
    else
      let after ← row.foldlM (fun acc pair => do
        let pairs ← pairValues m env [pair]
        env.at line (putEntries acc pairs)) before
      dictEntries line steps others after

def pieceTexts : List Piece → Run (List (List Char))
  | [] => pure []
  | .text s :: rest => do pure (s.toList :: (← pieceTexts rest))
  | .unfollowed :: _ => giveUp
  | .shown line e quoted special _ :: rest => do
    let v ← m.evaluate env e
    let text ← env.at line do
      if special then giveUp
      else if quoted then shownText v
      else writtenText v
    pure (text :: (← pieceTexts rest))

/-- A chain of comparisons: the first that fails ends it. -/
def compareChain (line : Nat) (left : Value) : List (CompareOp × Expr) → Run Value
  | [] => pure (.bool true)
  | (op, e) :: rest => do
    let right ← m.evaluate env e
    let holds ← env.at line (applyCompare m op left right)
    if holds && !rest.isEmpty then compareChain line right rest else pure (.bool holds)

def optional : Option Expr → Run Value
  | some e => m.evaluate env e
  | none => pure .none

/-! ### Targets -/

/-- The items of a value that is unpacked, no more of them than needed: so many and one more, or all
if there is no number. -/
def unpackItems (v : Value) (count : Option Nat) : Run (List Value) := do
  match v, count with
  | .tuple xs, _ | .varargs xs, _ => pure xs
  | .list address, _ => do pure ((← get).listItems address)
  | _, _ =>
    match ← iteratorOf? v, count with
    | none, _ =>
      raiseWith .wrongType ("cannot unpack non-iterable " ++ (← get).typeName v ++ " object")
    | some address, some n => takeItems m address (n + 1)
    | some _, none => items m v

/-- Is the target one that takes a list of what the others leave? -/
def isStarred : Expr → Bool
  | .star _ _ => true
  | _ => false

def distribute (targets : List Expr) (v : Value) : Run (List Value) := do
  let n := targets.length
  match targets.findIdx? isStarred with
  | none => do
    let xs ← unpackItems m v (some n)
    if xs.length > n then
      raiseWith .badValue ("too many values to unpack (expected " ++ toString n ++ ")")
    else if xs.length < n then
      raiseWith .badValue ("not enough values to unpack (expected " ++ toString n ++ ", got " ++
        toString xs.length ++ ")")
    else pure xs
  | some i => do
    let xs ← unpackItems m v none
    if xs.length + 1 < n then
      raiseWith .badValue ("not enough values to unpack (expected at least " ++
        toString (n - 1) ++ ", got " ++ toString xs.length ++ ")")
    else
      let after := n - 1 - i
      let middle ← newList ((xs.drop i).take (xs.length - i - after))
      pure (xs.take i ++ [middle] ++ xs.drop (xs.length - after))

def assignTo : Expr → Value → Run Unit
  | .name _ id, v => bindName env id v
  | .star _ target, v => assignTo target v
  | .tuple line targets, v | .list line targets, v => do
    let xs ← env.at line (distribute m targets v)
    (targets.attach.zip xs).forM fun (⟨target, _⟩, x) => assignTo target x
  | .item line object key, v => do
    let o ← m.evaluate env object
    let k ← m.evaluate env key
    env.at line (putAt m o k v)
  | .member line object name, _ => do
    let o ← m.evaluate env object
    env.at line (setMember o name)
  | _, _ => throw .abandoned

/-! ### Comprehensions -/

def allHold : List Expr → Run Bool
  | [] => pure true
  | e :: rest => do
    let v ← m.evaluate env e
    if (← get).isTrue v then allHold rest else pure false

/-- The element of a comprehension. The key of a pair for a dictionary has to be one that a
dictionary can have. -/
def elementValue (p : Progress) : Run Value := do
  let v ← m.evaluate p.env p.element
  match p.kind, v with
  | .dict, .tuple (key :: _) => p.env.at p.line (requireKey key)
  | _, _ => pure ()
  pure v

/-- The next element of a comprehension, found in at most so many rounds: the innermost loop that
was entered goes on; a loop without more items is left, and one whose conditions hold leads to the
next loop or, if it is the last, to an element. -/
def nextElement (p : Progress) : Nat → List Nat → Run (Option (Value × List Nat))
  | 0, _ => throw .abandoned
  | _ + 1, [] => pure none
  | rounds + 1, innermost :: outer => do
    let entered := outer.length
    match p.clauses[entered]? with
    | none => throw .abandoned
    | some clause =>
      match ← p.env.at p.line (m.advance innermost) with
      | none => nextElement p rounds outer
      | some x => do
        assignTo m p.env clause.target x
        if ← allHold m p.env clause.conditions then
          match p.clauses[entered + 1]? with
          | none => do
            let v ← elementValue m p
            pure (some (v, innermost :: outer))
          | some inner => do
            let source ← m.evaluate p.env inner.source
            let iterator ← p.env.at p.line (iteratorOf source)
            nextElement p rounds (iterator :: innermost :: outer)
        else nextElement p rounds (innermost :: outer)

def allElements (p : Progress) : Nat → List Nat → Array Value → Run (List Value)
  | 0, _, _ => throw .abandoned
  | rounds + 1, active, taken => do
    match ← nextElement m p m.rounds active with
    | some (v, active) => allElements p rounds active (taken.push v)
    | none => pure taken.toList

def ComprehensionKind.title : ComprehensionKind → String
  | .list => "<listcomp>"
  | .set => "<setcomp>"
  | .dict => "<dictcomp>"
  | .generator => "<genexpr>"

/-- A comprehension that is about to start: its first source belongs to the code around it, all else
to a scope of its own, which owns the loop variables. -/
def startComprehension (line : Nat) (kind : ComprehensionKind) (element : Expr)
    (clauses : List Clause) : Run Progress := do
  let first ← match clauses.head? with
    | some c => do
      let v ← m.evaluate env c.source
      env.at line (iteratorOf v)
    | none => throw .abandoned
  let space ← newSpace []
  let own := clauses.flatMap fun c => c.target.targetNames
  let scope : Scope := { space := space, own := own, isComprehension := true }
  let inside : Env :=
    { env with
      scopes := scope :: env.outsideClass.scopes
      qualifier := env.qualifier ++ kind.title ++ "." }
  pure
    { line := line, kind := kind, env := inside, element := element, clauses := clauses,
      active := [first] }

/-- The list or the dictionary that the elements of a comprehension make up. Sets are not followed.
-/
def gather (line : Nat) (kind : ComprehensionKind) (elements : List Value) : Run Value := do
  match kind with
  | .list => newList elements
  | .dict => do
    let pairs := elements.filterMap fun
      | .tuple [key, v] => some (key, v)
      | _ => none
    let entries ← env.at line (putEntries [] pairs)
    pure (.dict (← allocate (.dict entries)))
  | .set | .generator => giveUp

/-- A comprehension: its elements one after another, or an iterator over them, which makes them
when they are asked for. What waits for its items is not followed. -/
def comprehend (line : Nat) (kind : ComprehensionKind) (element : Expr) (clauses : List Clause) :
    Run Value := do
  if clauses.any Clause.async then giveUp
  else
    let p ← startComprehension m env line kind element clauses
    if kind == .generator then
      pure (.iterator (← newIterator "generator" (.elements p)))
    else
      let xs ← env.at line (deeper 1 (allElements m p m.rounds p.active #[]))
      gather env line kind xs

/-- The next element of the comprehension at an address. An error ends it, and one that would look
like its end is another. -/
def advanceElements (address : Nat) (p : Progress) : Run (Option Value) := do
  setSource address .busy
  match ← outcome (deeper 1 (nextElement m p m.rounds p.active)) with
  | .ok (some (v, active)) => giveOut address (.elements { p with active := active }) v
  | .ok none => exhaust address
  | .error stop => do
    setSource address .done
    match stop with
    | .raised { problem := .plain c _ _, .. } =>
      if c.isBelow .stopIteration then raiseWith .runtime "generator raised StopIteration"
      else throw stop
    | _ => throw stop

/-! ### Functions and calls -/

def defaultValues : List Param → Run (List (String × Value))
  | [] => pure []
  | p :: rest => do
    match p.default with
    | some e => do
      let v ← m.evaluate env e
      pure ((p.name, v) :: (← defaultValues rest))
    | none => defaultValues rest

/-- A new function. Its defaults are evaluated now, its annotations never. -/
def makeFunction (name : String) (params : List Param) (body : FunctionBody) : Run Value := do
  let defaults ← defaultValues m env params
  let closure : Closure :=
    { name := name, qualifiedName := env.qualify name, params := params, defaults := defaults,
      body := body, env := env.outsideClass }
  pure (.function (← allocate (.function closure)))

/-- How a callee is named when its arguments cannot be spread. -/
def World.calleeTitle (w : World) (v : Value) : Except TextError String :=
  match v with
  | .function address =>
    match w.objects[address]? with
    | some (.function f) =>
      match (w.names f.env.globals).lookup "__name__" with
      | some (.text home) => .ok (home ++ "." ++ f.qualifiedName ++ "()")
      | _ => .ok (f.qualifiedName ++ "()")
    | _ => .ok ""
  | .builtin b => .ok (b.name ++ "()")
  | .errorClass c => .ok (c.name ++ "()")
  | .class_ _ => .error .unknown
  | .action a => .ok ("litgen.runtime.ScriptRuntime." ++ a.name ++ "()")
  | .method (.template _) _ => .ok "litgen.runtime.BoundTemplate.text()"
  | .method (.varargs _) _ => .ok "litgen.render.Varargs.pairs()"
  | .method (.list _) _ => .ok "list.append()"
  | .method (.output _) (.output method) =>
    .ok ("litgen.codegen.TextBuilder." ++ method.name ++ "()")
  | .method _ method => .ok ("str." ++ textMethodName method ++ "()")
  | _ =>
    match w.written v with
    | .ok text => .ok (String.ofList text)
    | .error .unknown => .error .unknown
    | .error _ => .ok ""

def positionalItems : List Argument → List Expr
  | [] => []
  | .positional e :: rest => e :: positionalItems rest
  | .spread line e :: rest => .star line e :: positionalItems rest
  | _ :: rest => positionalItems rest

/-- How that is named which gets arguments: a callee, or what makes a class. -/
def World.receiverTitle (w : World) : Option Value → Except TextError String
  | some callee => w.calleeTitle callee
  | none => .ok "__build_class__()"

/-- Refuses to spread the one value that stands for all arguments of a call. -/
def raiseNotSpread {α : Type} (receiver : Option Value) (v : Value) (mark kind : String) :
    Run α := do
  let w ← get
  let title ← orRaise (w.receiverTitle receiver)
  raiseWith .wrongType (title ++ " argument after " ++ mark ++ " must be " ++ kind ++ ", not " ++
    w.typeName v)

/-- Adds named arguments, none of which may be there already. -/
def addNamed (receiver : Option Value) (before : List (Value × Value)) :
    List (Value × Value) → Run (List (Value × Value))
  | [] => pure before
  | (key, v) :: rest => do
    if (← findEntry before key).isSome then
      raiseWith .wrongType ((← orRaise ((← get).receiverTitle receiver)) ++
        " got multiple values for keyword argument '" ++ String.ofList (← writtenText key) ++ "'")
    else addNamed receiver (before ++ [(key, v)]) rest

def namedPairs (receiver : Option Value) (v : Value) : Run (List (Value × Value)) := do
  match v with
  | .dict _ | .names _ => mappingEntries v
  | _ => raiseNotSpread receiver v "**" "a mapping"

/-- The named arguments of a call, added to those before. Arguments in a row are evaluated before
they are added; `row` holds those that wait. -/
def namedArgumentValues (line : Nat) (receiver : Option Value) :
    List Argument → List (Value × Value) → List (Value × Value) → Run (List (Value × Value))
  | [], before, row => env.at line (addNamed receiver before row)
  | .named _ name e :: rest, before, row => do
    let v ← m.evaluate env e
    namedArgumentValues line receiver rest before (row ++ [(.text name, v)])
  | .spreadNamed _ e :: rest, before, row => do
    let known ← env.at line (addNamed receiver before row)
    let v ← m.evaluate env e
    let pairs ← env.at line do addNamed receiver known (← namedPairs receiver v)
    namedArgumentValues line receiver rest pairs []
  | _ :: rest, before, row => namedArgumentValues line receiver rest before row

/-- The names of named arguments, all of which have to be texts. -/
def argumentNames (pairs : List (Value × Value)) : Run Names :=
  pairs.mapM fun
    | (.text name, v) => pure (name, v)
    | _ => raiseWith .wrongType "keywords must be strings"

/-- The arguments of a call: the positional ones and the named ones are evaluated in this order. A
single value that stands for all positional arguments is spread last. -/
def argumentValues (line : Nat) (f : Value) (arguments : List Argument) : Run Arguments := do
  let (all, given) ← match positionalItems arguments with
    | [.star _ e] => do pure (some (← m.evaluate env e), [])
    | es => do pure (none, ← spreadItems m env line es)
  let named ← namedArgumentValues m env line (some f) arguments [] []
  env.at line do
    let positional ← match all with
      | none => pure given
      | some v => do
        match ← items? m v with
        | some xs => pure xs
        | none => raiseNotSpread (some f) v "*" "an iterable"
    pure ⟨positional, ← argumentNames named⟩

/-- The arguments of a class. Its name stands before the positional ones, so none stands for all. -/
def classArguments (line : Nat) (arguments : List Argument) : Run Arguments := do
  let positional ← spreadItems m env line (positionalItems arguments)
  let named ← namedArgumentValues m env line none arguments [] []
  env.at line do pure ⟨positional, ← argumentNames named⟩

/-- Calls a value from here: what gives all global names gives those of the caller. -/
def callHere (f : Value) (args : Arguments) : Run Value := do
  match f with
  | .builtin .globals => do
    args.refuse "globals"
    pure (.names env.globals)
  | _ => m.call f args

def evaluateCall (line : Nat) (callee : Expr) (arguments : List Argument) : Run Value := do
  let f ← m.evaluate env callee
  let args ← argumentValues m env line f arguments
  env.at line (callHere m env f args)

/-! ### Expressions -/

def evaluateStep : Expr → Run Value
  | .constant c => do
    match c.value? with
    | some v => pure v
    | none => giveUp
  | .name line id => env.at line (lookUpName env id)
  | .formatted pieces => do
    pure (.text (String.ofList (← pieceTexts m env pieces).flatten))
  | .tuple line items => do pure (.tuple (← spreadItems m env line items))
  | .list line items => do newList (← spreadItems m env line items)
  | .dict line entries => do
    pure (.dict (← allocate (.dict (← dictEntries m env line (entries.length + 1) entries []))))
  | .set _ _ => giveUp
  | .comprehension line kind element clauses => comprehend m env line kind element clauses
  | .unary line op operand => do
    let v ← m.evaluate env operand
    env.at line (applyUnary op v)
  | .binary line op left right => do
    let a ← m.evaluate env left
    let b ← m.evaluate env right
    env.at line (applyBinary op false a b)
  | .both left right => do
    let a ← m.evaluate env left
    if (← get).isTrue a then m.evaluate env right else pure a
  | .either left right => do
    let a ← m.evaluate env left
    if (← get).isTrue a then pure a else m.evaluate env right
  | .compare line first rest => do
    let a ← m.evaluate env first
    compareChain m env line a rest
  | .choose test yes no => do
    let v ← m.evaluate env test
    if (← get).isTrue v then m.evaluate env yes else m.evaluate env no
  | .function _ params body => makeFunction m env "<lambda>" params (.value body)
  | .call line callee arguments => evaluateCall m env line callee arguments
  | .member line object name => do
    let v ← m.evaluate env object
    env.at line (memberOf v name)
  | .item line object key => do
    let o ← m.evaluate env object
    let k ← m.evaluate env key
    env.at line (lookUp o k)
  | .slice low high step => do
    pure (.slice (← optional m env low) (← optional m env high) (← optional m env step))
  | .binding _ id value => do
    let v ← m.evaluate env value
    bindName env.outsideComprehensions id v
    pure v
  | .star _ _ | .produce _ _ | .produceFrom _ _ | .await _ _ => giveUp

end

end Codeweave.Script
