import Codeweave.Script.Evaluate

/-!
Execution of statements. A statement says how the run goes on: with the next statement, out of or to
the next round of a loop, or back to the caller.
-/

namespace Codeweave.Script

section

variable (m : Machine) (env : Env)

/-! ### Errors -/

/-- The error that a value stands for: an error is itself, and a class stands for a new error
without arguments. `none` for any other value. -/
def errorOf? (v : Value) : Run (Option Nat) := do
  match v with
  | .error address => pure (some address)
  | .errorClass c => do
    let problem ← makeProblem m c {}
    pure (some (← allocate (.error problem [])))
  | .class_ address => if ((← get).classAt address).isPlain then pure none else giveUp
  | _ => pure none

/-- Raises the error at an address once more. It keeps the frames it was seen in. -/
def raiseAt {α : Type} (address : Nat) : Run α := do
  let w ← get
  throw (.raised
    { problem := w.problemAt address, frames := w.framesAt address, address := some address })

/-- Notes what caused a fault; other errors say nothing of their cause. -/
def setCause (address : Nat) (cause : Option Nat) : Run Unit := do
  let w ← get
  match w.problemAt address with
  | .fault fault origin =>
    store address (.error (.fault fault { origin with cause := cause }) (w.framesAt address))
  | .plain _ _ _ => pure ()

def raiseValue {α : Type} (v : Value) (cause : Option Value) : Run α := do
  match ← errorOf? m v with
  | none => raiseWith .wrongType "exceptions must derive from BaseException"
  | some address => do
    match cause with
    | none => pure ()
    | some .none => setCause address none
    | some c => do
      match ← errorOf? m c with
      | none => raiseWith .wrongType "exception causes must derive from BaseException"
      | some origin => setCause address (some origin)
    raiseAt address

/-- Raises the error that is being handled once more, on no line of its own. -/
def raiseAgain {α : Type} (line : Nat) : Run α := do
  match (← get).handling with
  | address :: _ => raiseAt address
  | [] => env.at line (raiseWith .runtime "No active exception to reraise")

def raiseNotCaught {α : Type} : Run α :=
  raiseWith .wrongType "catching classes that do not inherit from BaseException is not allowed"

/-- Does a class take an error? A class that the script defined may be one of errors if it is made
from others; what it takes is not followed then. -/
def handlesClass (problem : Problem) (v : Value) : Run Bool := do
  match v with
  | .errorClass c => pure (problem.class_.isBelow c)
  | .class_ address => if ((← get).classAt address).isPlain then raiseNotCaught else giveUp
  | _ => raiseNotCaught

def handles (problem : Problem) : Value → Run Bool
  | .tuple options | .varargs options =>
    options.foldlM (fun found v => do pure ((← handlesClass problem v) || found)) false
  | v => handlesClass problem v

/-- The address of an error that was caught. What it was seen in is noted. -/
def caughtAt (error : Raised) : Run Nat := do
  let object : Object := .error error.problem error.frames
  match error.address with
  | some address => do
    store address object
    pure address
  | none => allocate object

def whileHandling {α : Type} (address : Nat) (step : Run α) : Run (Except Stop α) := do
  let before := (← get).handling
  modify fun w => { w with handling := address :: before }
  let result ← outcome step
  modify fun w => { w with handling := before }
  pure result

/-- Runs the body of a handler; the name it gives to the error lasts no longer. -/
def runHandler (address : Nat) (name : Option String) (body : List Stmt) : Run Flow := do
  match name with
  | some id => bindName env id (.error address)
  | none => pure ()
  let result ← outcome (m.execute env body)
  match name with
  | some id => modifyNames (env.spaceOf (env.place id)) (Names.unbind id)
  | none => pure ()
  resume result

/-- Lets the first handler that takes an error run; without one the error goes on. Handlers for
groups are not followed. -/
def tryHandlers (address : Nat) : List Handler → Run Flow
  | [] => raiseAt address
  | .mk _ true _ _ _ :: _ => giveUp
  | .mk line false errors name body :: rest => do
    let takes ← match errors with
      | none => pure true
      | some e => do
        let v ← m.evaluate env e
        env.at line (handles ((← get).problemAt address) v)
    if takes then runHandler m env address name body else tryHandlers address rest

/-- A block with handlers, a block for the case that nothing is raised, and a block that is run in
any case. -/
def attemptBlock (body : List Stmt) (handlers : List Handler) (otherwise cleanup : List Stmt) :
    Run Flow := do
  let guarded : Run Flow := do
    match ← outcome (m.execute env body) with
    | .ok .next => m.execute env otherwise
    | .ok flow => pure flow
    | .error (.raised error) => do
      let address ← caughtAt error
      resume (← whileHandling address (tryHandlers m env address handlers))
    | .error .abandoned => throw .abandoned
  if cleanup.isEmpty then guarded
  else
    match ← outcome guarded with
    | .error .abandoned => throw .abandoned
    | .error (.raised error) => do
      let address ← caughtAt error
      match ← resume (← whileHandling address (m.execute env cleanup)) with
      | .next => raiseAt address
      | flow => pure flow
    | .ok before => do
      match ← m.execute env cleanup with
      | .next => pure before
      | flow => pure flow

/-! ### Loops -/

/-- Runs a loop while its test holds, for at most the given number of rounds. `none` when it ended
because the test failed. -/
def whileLoop (test : Run Bool) (body : Run Flow) : Nat → Run (Option Flow)
  | 0 => throw .abandoned
  | rounds + 1 => do
    if ← test then
      match ← body with
      | .next | .nextRound => whileLoop test body rounds
      | .leaveLoop => pure (some .next)
      | .giveBack v => pure (some (.giveBack v))
    else pure none

/-- Runs the body of a loop for each item that an iterator gives, for at most so many. `none` when
there were no more. -/
def eachLoop (next : Run (Option Value)) (body : Value → Run Flow) : Nat → Run (Option Flow)
  | 0 => throw .abandoned
  | rounds + 1 => do
    match ← next with
    | none => pure none
    | some x =>
      match ← body x with
      | .next | .nextRound => eachLoop next body rounds
      | .leaveLoop => pure (some .next)
      | .giveBack v => pure (some (.giveBack v))

/-- What follows a loop: its last block if it was not left. -/
def afterLoop (otherwise : List Stmt) : Option Flow → Run Flow
  | none => m.execute env otherwise
  | some flow => pure flow

/-! ### Statements -/

/-- Updates a value. A list that is added to or repeated stays the same list. -/
def updateValue (op : BinaryOp) (old new : Value) : Run Value := do
  match op, old with
  | .add, .list address => do
    let more ← items m new
    store address (.list ((← get).listArray address ++ more.toArray))
    pure old
  | .multiply, .list address => do
    match ← applyBinary op true old new with
    | .list repeated => do
      store address (.list ((← get).listArray repeated))
      pure old
    | v => pure v
  | _, _ => applyBinary op true old new

def updateTarget (line : Nat) (target : Expr) (op : BinaryOp) (value : Expr) : Run Unit := do
  match target with
  | .name at_ id => do
    let old ← env.at at_ (lookUpName env id)
    let new ← m.evaluate env value
    let result ← env.at line (updateValue m op old new)
    bindName env id result
  | .item at_ object key => do
    let o ← m.evaluate env object
    let k ← m.evaluate env key
    let old ← env.at at_ (lookUp o k)
    let new ← m.evaluate env value
    let result ← env.at line (updateValue m op old new)
    env.at at_ (putAt m o k result)
  | _ => do
    let old ← m.evaluate env target
    let new ← m.evaluate env value
    let result ← env.at line (updateValue m op old new)
    assignTo m env target result

def deleteTarget : Expr → Run Unit
  | .name line id => env.at line (deleteName env id)
  | .item line object key => do
    let o ← m.evaluate env object
    let k ← m.evaluate env key
    env.at line (removeAt m o k)
  | .tuple _ items | .list _ items => items.attach.forM fun ⟨item, _⟩ => deleteTarget item
  | .member line object name => do
    let o ← m.evaluate env object
    env.at line (setMember o name)
  | _ => throw .abandoned

/-- Evaluates what a target that gets no value is made of. -/
def touchTarget : Expr → Run Unit
  | .member _ object _ => do
    let _ ← m.evaluate env object
  | .item _ object key => do
    let _ ← m.evaluate env object
    let _ ← m.evaluate env key
  | _ => pure ()

/-- Makes room for the annotations of names of a space before a program is run. -/
def makeHintTable (space : Nat) (program : List Stmt) : Run Unit := do
  if annotatesIn program then
    let w ← get
    if ((w.names space).lookup hintTable).isNone then
      let notes ← allocate (.dict [])
      modifyNames space (Names.bind hintTable (.dict notes))

/-- Notes the annotation of a name by its text. -/
def noteHint (line : Nat) (target hint : Expr) : Run Unit := do
  match target, hint.hintText? false with
  | .name _ id, some text =>
    env.at line do
      let notes ← lookUpName env hintTable
      putAt m notes (.text id) (.text text)
  | .name _ _, none => giveUp
  | _, _ => pure ()

/-! ### Definitions -/

/-- Calls the functions before a definition with what is defined, the last one first. -/
def decorate (decorators : List (Nat × Value)) (v : Value) : Run Value :=
  decorators.reverse.foldlM (fun v (line, f) => env.at line (callHere m env f ⟨[v], []⟩)) v

def decoratorValues (decorators : List Decorator) : Run (List (Nat × Value)) :=
  decorators.mapM fun d => do pure (d.line, ← m.evaluate env d.function)

/-- Names between double underscores that the body of a class may bind, as they change nothing
about the class itself. -/
def plainReserved : List String :=
  ["__init__", "__repr__", "__str__", "__call__", "__len__", "__iter__", "__next__", "__enter__",
   "__exit__", "__eq__", "__hash__", "__bool__", "__contains__", "__getitem__"]

/-- Can the class be followed? Its code must not mention names that stand for others, nor bind
names that say how the class is made. -/
def isFollowedClass (isPrivate : Bool) (body : List Stmt) : Bool :=
  !isPrivate && (boundIn body).all fun n => !isReserved n || plainReserved.contains n

/-- Is the class made from no other? Of other classes, one alone may be given, from which nothing
can go wrong. -/
def plainBase (args : Arguments) : Run Bool := do
  match args.named, args.positional with
  | [], [] => pure true
  | [], [.errorClass _] | [], [.class_ _] => pure false
  | _, _ => giveUp

/-- What the body of a class says about it, which is the text that it starts with. -/
def classComment : List Stmt → Names
  | .evaluate (.constant (.text s)) :: _ => [("__doc__", .text s)]
  | _ => []

/-- Runs the body of a class under names of its own. -/
def runClassBody (title : String) (body : List Stmt) : Run Names := do
  let home ← lookUpGlobal env "__name__"
  let space ← newSpace (classNames home (.text title) ++ classComment body)
  let inside : Env :=
    { env with
      scopes := classScope space body :: env.outsideClass.scopes
      qualifier := title ++ "." }
  makeHintTable space body
  let _ ← m.execute inside body
  pure ((← get).names space)

/-- Makes a class. Its arguments are evaluated before its body is run, two levels deeper. -/
def makeClass (line : Nat) (name : String) (arguments : List Argument) (isPrivate : Bool)
    (body : List Stmt) : Run Value := do
  if !((← get).names env.globals).areFurnished || !isFollowedClass isPrivate body then giveUp
  let isPlain ← plainBase (← classArguments m env line arguments)
  let title := env.qualify name
  env.at line do
    if (← get).room < 2 then raiseTooDeep " while calling a Python object"
    let names ← deeper 2 (runClassBody m env title body)
    let definition : ClassDefinition := { name := name, qualifiedName := title, isPlain, names }
    pure (.class_ (← allocate (.class_ definition)))

/-! ### Imports -/

/-- A module by the parts of its name. Without a new name, the outermost of its modules is given. -/
def importModule (path : List String) (outermost : Bool) : Run Value := do
  let name := String.intercalate "." path
  let given := if outermost then path.headD "" else name
  if ((← get).names env.globals).areFurnished && knownModules.contains name &&
      !renamedModules.contains given then
    pure (.module given)
  else giveUp

def bring (line : Nat) (modules : List Alias) : Run Unit :=
  modules.forM fun a => do
    let v ← env.at line (importModule env a.path a.newName.isNone)
    bindName env a.bound v

/-- Brings names of a module of the library. What is brought from packages is not followed. -/
def bringFrom (line : Nat) (origin : Origin) (names : List Alias) : Run Unit := do
  if origin.level != 0 then giveUp
  let home ← env.at line (importModule env origin.path false)
  names.forM fun a => do
    let v ← env.at line (memberOf home (a.path.headD ""))
    bindName env a.bound v

/-! ### Choices by pattern -/

/-- The items of a sequence that a pattern takes apart, if there can be so many, or at least so
many. -/
def sequenceItems? (v : Value) (count : Nat) (atLeast : Bool) : Run (Option (List Value)) := do
  match v with
  | .tuple _ | .varargs _ | .list _ | .range _ _ _ => do
    let length ← lengthOf v
    if length == count || (atLeast && length > count) then some <$> items m v else pure none
  | _ => pure none

/-- The values of keys of a dictionary; `none` if it lacks one of them. No key may occur twice. -/
def keyValues (entries : List (Value × Value)) :
    List Value → List Value → Run (Option (List Value))
  | _, [] => pure (some [])
  | before, key :: rest => do
    requireKey key
    if ← before.anyM (sameOrEqual key) then
      raiseWith .badValue ("mapping pattern checks duplicate key (" ++
        String.ofList (← shownText key) ++ ")")
    else
      match ← findEntry entries key with
      | none => pure none
      | some v => do
        match ← keyValues entries (key :: before) rest with
        | none => pure none
        | some values => pure (some (v :: values))

/-- The entries of a dictionary without those of some keys. -/
def entriesWithout (keys : List Value) (entries : List (Value × Value)) :
    Run (List (Value × Value)) :=
  entries.filterM fun (k, _) => do pure !(← keys.anyM (sameOrEqual k))

/-- Adds to what was bound before what is bound next. -/
def joinBound (before : Names) (step : Run (Option Names)) : Run (Option Names) := do
  match ← step with
  | none => pure none
  | some names => pure (some (before ++ names))

mutual

/-- What a value is bound to if it looks like a pattern, in the order of the pattern. -/
def fits : Pattern → Value → Run (Option Names)
  | .anything _, _ => pure (some [])
  | .capture _ name, v => pure (some [(name, v)])
  | .equal line e, v => do
    let x ← m.evaluate env e
    if ← env.at line (valuesEqual v x) then pure (some []) else pure none
  | .constant _ c, v => pure (if c.value?.any v.isSame then some [] else none)
  | .sequence line patterns, v => do
    match patterns.findIdx? isRest with
    | none => do
      match ← env.at line (sequenceItems? m v patterns.length false) with
      | none => pure none
      | some xs => fitAll patterns xs
    | some i => do
      match ← env.at line (sequenceItems? m v (patterns.length - 1) true) with
      | none => pure none
      | some xs =>
        let after := patterns.length - 1 - i
        let middle ← newList ((xs.drop i).take (xs.length - i - after))
        fitAll patterns (xs.take i ++ [middle] ++ xs.drop (xs.length - after))
  | .rest _ name, v => pure (some (name.toList.map fun n => (n, v)))
  | .mapping line keys patterns rest, v => do
    if !v.isMapping then pure none
    else
      let entries ← mappingEntries v
      if entries.length < keys.length then pure none
      else
        let ks ← keys.mapM (m.evaluate env)
        let found ← env.at line do
          if !keys.isEmpty && (← get).room < 1 then raiseTooDeep " while calling a Python object"
          keyValues entries [] ks
        match found with
        | none => pure none
        | some values => do
          match ← fitAll patterns values with
          | none => pure none
          | some bound => do
            match rest with
            | none => pure (some bound)
            | some name => do
              let others ← env.at line (entriesWithout ks entries)
              pure (some (bound ++ [(name, .dict (← allocate (.dict others)))]))
  | .instance_ _ type _ _ _, _ => do
    let _ ← m.evaluate env type
    giveUp
  | .either _ options, v => fitFirst options v
  | .named _ pattern name, v => do
    match ← fits pattern v with
    | none => pure none
    | some bound => pure (some (bound ++ [(name, v)]))

/-- What values are bound to if each looks like its pattern. -/
def fitAll : List Pattern → List Value → Run (Option Names)
  | p :: patterns, v :: values => do
    match ← fits p v with
    | none => pure none
    | some bound => joinBound bound (fitAll patterns values)
  | _, _ => pure (some [])

/-- What a value is bound to by the first pattern that it looks like. -/
def fitFirst : List Pattern → Value → Run (Option Names)
  | [], _ => pure none
  | p :: rest, v => do
    match ← fits p v with
    | some bound => pure (some bound)
    | none => fitFirst rest v

end

/-- Runs the block of the first case that a value fits, and whose condition holds. What the pattern
binds is bound before the condition is evaluated. -/
def selectCase (v : Value) : List Case → Run Flow
  | [] => pure .next
  | .mk pattern guard body :: rest => do
    match ← fits m env pattern v with
    | none => selectCase v rest
    | some bound => do
      bound.forM fun (name, x) => bindName env name x
      if ← allHold m env guard.toList then m.execute env body else selectCase v rest

/-! ### All statements -/

def executeStep : Stmt → Run Flow
  | .evaluate value => do
    let _ ← m.evaluate env value
    pure .next
  | .assign targets value => do
    let v ← m.evaluate env value
    targets.forM fun target => assignTo m env target v
    pure .next
  | .update line target op value => do
    updateTarget m env line target op value
    pure .next
  | .annotate line simple target hint value => do
    match value with
    | some e => do
      let v ← m.evaluate env e
      assignTo m env target v
    | none => touchTarget m env target
    if simple && env.hintSpace?.isSome then noteHint m env line target hint
    pure .next
  | .delete targets => do
    targets.forM (deleteTarget m env)
    pure .next
  | .pass | .globals _ _ | .nonlocals _ _ => pure .next
  | .leave _ => pure .leaveLoop
  | .next _ => pure .nextRound
  | .giveBack _ value => do
    match value with
    | some e => do pure (.giveBack (← m.evaluate env e))
    | none => pure (.giveBack .none)
  | .raise line error cause => do
    match error with
    | none => raiseAgain env line
    | some e => do
      let v ← m.evaluate env e
      let origin ← cause.mapM (m.evaluate env)
      env.at line (raiseValue m v origin)
  | .assert line test message => do
    let v ← m.evaluate env test
    if (← get).isTrue v then pure .next
    else
      let args ← match message with
        | some e => do pure [← m.evaluate env e]
        | none => pure []
      env.at line (raiseProblem (.plain .assertion args none))
  | .branch test yes no => do
    let v ← m.evaluate env test
    if (← get).isTrue v then m.execute env yes else m.execute env no
  | .repeat_ _ test body otherwise => do
    let holds : Run Bool := do
      let v ← m.evaluate env test
      pure ((← get).isTrue v)
    afterLoop m env otherwise (← whileLoop holds (m.execute env body) m.rounds)
  | .each _ true _ _ _ _ | .manage _ true _ _ => giveUp
  | .each line false target source body otherwise => do
    let v ← m.evaluate env source
    let iterator ← env.at line (iteratorOf v)
    let round (x : Value) : Run Flow := do
      assignTo m env target x
      m.execute env body
    afterLoop m env otherwise
      (← eachLoop (env.at line (m.advance iterator)) round m.rounds)
  | .define _ async decorators name params _ body => do
    let functions ← decoratorValues m env decorators
    let f ← makeFunction m env name params (.block async body)
    bindName env name (← decorate m env functions f)
    pure .next
  | .class_ line decorators name arguments isPrivate body => do
    let functions ← decoratorValues m env decorators
    let c ← makeClass m env line name arguments isPrivate body
    bindName env name (← decorate m env functions c)
    pure .next
  | .attempt _ body handlers otherwise cleanup =>
    attemptBlock m env body handlers otherwise cleanup
  -- of the values that are known, none can be entered
  | .manage line false managed _ => do
    match managed with
    | [] => throw .abandoned
    | item :: _ => do
      let v ← m.evaluate env item.object
      env.at line (raiseWith .wrongType ("'" ++ (← get).typeName v ++
        "' object does not support the context manager protocol"))
  | .select _ subject cases => do
    let v ← m.evaluate env subject
    selectCase m env v cases
  | .bring line modules => do
    bring env line modules
    pure .next
  | .bringFrom line origin names => do
    bringFrom env line origin names
    pure .next
  | .bringAll _ _ _ => giveUp

/-- Executes statements one after another until one leads elsewhere. -/
def executeAll : List Stmt → Run Flow
  | [] => pure .next
  | s :: rest => do
    match ← executeStep m env s with
    | .next => executeAll rest
    | flow => pure flow

end

end Codeweave.Script
