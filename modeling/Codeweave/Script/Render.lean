import Codeweave.Script.Execute

/-!
Output of scripts: values are written, templates rendered and captured, and the operations of the
runtime act on the current output.
-/

namespace Codeweave.Script

/-! ### Data from outside -/

/-- A datum as a value; lists and dictionaries become new objects. -/
def Datum.load : Datum → Run Value
  | .none => pure .none
  | .bool b => pure (.bool b)
  | .integer n => pure (.integer n)
  | .float x => pure (.float x)
  | .text s => pure (.text s)
  | .list items => do newList (← items.attach.mapM fun ⟨d, _⟩ => d.load)
  | .tuple items => do pure (.tuple (← items.attach.mapM fun ⟨d, _⟩ => d.load))
  | .varargs items => do pure (.varargs (← items.attach.mapM fun ⟨d, _⟩ => d.load))
  | .dict entries => do
    let pairs ← entries.attach.mapM fun ⟨(k, d), _⟩ => do pure (k, ← d.load)
    let bound := (Names.bindAll [] pairs).map fun (k, v) => (Value.text k, v)
    pure (.dict (← allocate (.dict bound)))
  | .procedure steps ending => do pure (.procedure (← allocate (.procedure steps ending)))
  | .shown s => pure (.text s)
decreasing_by
  all_goals
    have := List.sizeOf_lt_of_mem ‹_›
    simp at *
    omega

def loadNames (data : List (String × Datum)) : Run Names :=
  data.mapM fun (name, d) => do pure (name, ← d.load)

/-- A value as a datum. Values that have no plain form are known by how they are shown. -/
def World.datumWithin (w : World) : Nat → Value → Datum
  | 0, _ => .none
  | fuel + 1, v =>
    match v with
    | .none => .none
    | .bool b => .bool b
    | .integer n => .integer n
    | .float x => .float x
    | .text s => .text s
    | .list address => .list ((w.listItems address).map (w.datumWithin fuel))
    | .tuple items => .tuple (items.map (w.datumWithin fuel))
    | .varargs items => .varargs (items.map (w.datumWithin fuel))
    | .dict address =>
      .dict ((w.dictEntries address).map fun (k, x) =>
        (String.ofList ((w.written k).toOption.getD []), w.datumWithin fuel x))
    | _ => .shown (String.ofList ((w.shown v).toOption.getD []))

def World.datum (w : World) (v : Value) : Datum :=
  w.datumWithin maxDepth v

/-! ### The current output -/

def unindentOutput : Run Unit := do
  let w ← get
  match w.builder.unindent? with
  | some b => set { w with builder := b }
  | none => raiseFault { cause := .levelZero }

/-- Starts a new line. If its indentation is larger than any text, the current line is flushed
nevertheless, but no other is started. -/
def newlineOutput : Run Unit := do
  let w ← get
  let lead := w.builder.nextLead
  if lead ≥ indexBound || lead < -(indexBound : Int) then
    modifyBuilder Builder.breakOff
    raiseWith .overflow "cannot fit 'int' into an index-sized integer"
  else if lead ≥ w.memory.bound then
    modifyBuilder Builder.breakOff
    raiseProblem (.plain .memory [] none)
  else modifyBuilder Builder.newline

def writeRows : List (List Char) → Run Unit
  | [] => pure ()
  | row :: rest => do
    newlineOutput
    modifyBuilder (·.write row)
    writeRows rest

def writeOutput (text : List Char) : Run Unit := do
  match Text.rows text with
  | [] => pure ()
  | first :: rest => do
    modifyBuilder (·.write first)
    writeRows rest

/-- Flushes the current output and gives its lines; levels left open are worth a warning. -/
def finishOutput : Run (List Char) := do
  unless (← get).builder.pending.isEmpty do newlineOutput
  let b := (← get).builder
  if b.level != 0 then
    say (.log .warning .builder
      ("builder finished with " ++ toString b.level ++ " open indent level(s)"))
  pure b.flushedText

section

variable (m : Machine)

/-- Writes the items of a list from a position on, at most so many; an item is looked up when its
turn comes. -/
def emitList (address : Nat) : (rounds position : Nat) → Run Unit
  | 0, _ => throw .abandoned
  | rounds + 1, position => do
    match ((← get).listArray address)[position]? with
    | some v => do
      deeper 1 (m.emit v)
      emitList address rounds (position + 1)
    | none => pure ()

/-- Writes a value to the current output: nothing for no value, the items of a sequence one by one,
what calling a callable value gives, and the text of any other value. -/
def emitStep (v : Value) : Run Unit := do
  match v with
  | .none => pure ()
  | .tuple items | .varargs items => items.forM fun item => deeper 1 (m.emit item)
  | .list address => emitList m address m.rounds 0
  | _ =>
    if v.isCallable then
      let result ← withFrame .host (m.call v {})
      deeper 1 (m.emit result)
    else
      let text ← orRaise ((← get).outputText v)
      writeOutput text

def Step.run : Step → Run Value
  | .write text => do
    modifyBuilder (·.write text.toList)
    pure .none
  | .writeText text => do
    writeOutput text.toList
    pure .none
  | .newline => do
    newlineOutput
    pure .none
  | .indent => do
    modifyBuilder Builder.indent
    pure .none
  | .unindent => do
    unindentOutput
    pure .none
  | .content => do pure (.text (String.ofList (← get).builder.content))
  | .finish => do pure (.text (String.ofList (← finishOutput)))
  | .currentLine => do pure (.text (String.ofList (← get).builder.currentLine))
  | .emit d => do
    m.emit (← d.load)
    pure .none

def runProcedure (steps : List Step) (ending : Ending) : Run Value :=
  withFrame .host do
    steps.forM fun s => do
      let _ ← s.run m
    match ending with
    | .returns d => d.load
    | .raises name args => do
      let values ← args.mapM Datum.load
      raiseProblem (← problemOf m name values)

/-! ### Templates -/

/-- Is it an undefined name that code of a segment asked for? -/
def Raised.isOwnName (error : Raised) : Bool :=
  match error.problem with
  | .plain c _ _ => c.isBelow .undefinedName && error.frames.head? == some .segment
  | .fault _ _ => false

/-- What an error says it looked for in vain, unless it says nothing. -/
def World.missing? (w : World) : Problem → Option Value
  | .plain _ _ (some (.name v)) => if w.isTrue v then some v else none
  | _ => none

/-- What is told to be missing, and its text: what the error looked for in vain, else what it says.
-/
def World.reported (w : World) (problem : Problem) : Except TextError (Value × String) :=
  match w.missing? problem with
  | some v => (w.written v).map fun text => (v, String.ofList text)
  | none => (w.problemText problem).map fun text => (.text text, text)

/-- Catches an error about a name and gives the text of what is missing, and where the fault that is
made of it comes from. -/
def reportMissing (error : Raised) : Run (String × Provenance) := do
  let told ← outcome do orRaise ((← get).reported error.problem)
  let cause ← caughtAt error
  let (name, text) ← resume told
  pure (text, { cause := some cause, name := some name })

/-- Evaluates a segment. A name that its own code asked for in vain is an undefined parameter. -/
def asParameter {α : Type} (offset : Nat) (step : Run α) : Run α :=
  tryCatchThe Stop step fun
    | .raised error => do
      if error.isOwnName then
        let (name, origin) ← reportMissing error
        let fault : Fault := { cause := .undefinedParameter name, offset := some offset }
        throw (.raised { problem := .fault fault origin, frames := [.host] })
      else throw (.raised error)
    | .abandoned => throw .abandoned

def renderSegment (env : Env) : Segment → Run Unit
  | .literal text => writeOutput text
  | .code _ offset (.value e) => do
    furnish env.globals
    let v ← asParameter offset (m.evaluate env e)
    m.emit v
  | .code _ offset (.action program) => do
    furnish env.globals
    makeHintTable env.globals program
    let _ ← asParameter offset (m.execute env program)

/-- Renders a template. Its segments share one new name space, which holds the names of the context
over those of the scope. -/
def render (t : Template) (context scope : Names) : Run Unit := do
  let space ← newSpace (Names.bindAll scope context)
  t.segments.forM (renderSegment m { inSegment := true, globals := space })

def compilePattern (pattern : List Char) : Run Template := do
  match Template.compile pattern with
  | .ok t => do
    say (.compiled (.text pattern) t.segments.length)
    pure t
  | .error e =>
    match e, e.fault? with
    | _, some fault => raiseFault fault
    | .segment _ (.irregular message), none => raiseWith .irregular message
    | _, none => raiseWith .badValue "source code string cannot contain null bytes"

/-- The template of a collection without items, which has no segments. -/
def emptyTemplate (v : Value) : Run Value := do
  let (pattern, kept) := match v with
    | .range start _ step => (Pattern.emptyRange, Value.range start start step)
    | _ => (Pattern.emptyTuple, v)
  say (.compiled pattern 0)
  pure (.template (← allocate (.template ⟨[], []⟩ kept)))

def makeTemplate (v : Value) : Run Value := do
  match v with
  | .text s => do pure (.template (← allocate (.template (← compilePattern s.toList) v)))
  | _ => do
    requireKey v
    let length ← lengthOf v
    if length == 0 then emptyTemplate v
    else
      raiseWith .missingMember ("'" ++ (← get).typeName v ++ "' object has no attribute 'find'")

def World.templateAt (w : World) (address : Nat) : Template :=
  match w.objects[address]? with
  | some (.template t _) => t
  | _ => ⟨[], []⟩

def templateSignature (title : String) : Signature :=
  { title := title
    params :=
      [.mk 0 "self" .regular none none, .mk 0 "args" .rest none none,
       .mk 0 "named" .restNamed none none] }

def checkTemplate (title : String) (template : Value) (args : Arguments) : Run Unit := do
  let _ ← (templateSignature title).bind { args with positional := template :: args.positional }

/-- Renders a template with arguments: positional ones as `args`, named ones by their names. -/
def callTemplate (address : Nat) (args : Arguments) : Run Unit :=
  withFrame .host do
    let w ← get
    let context := Names.bindAll [("args", .varargs args.positional)] args.named
    render m (w.templateAt address) context (w.names w.home)

/-- Does a step with another output as the current one. The output that was current before is
current again afterwards, also when the step stops. -/
def redirected {α : Type} (address : Nat) (step : Run α) : Run α := do
  let before := (← get).outputs.current
  modify (·.turnTo address)
  let result ← outcome step
  modify (·.turnTo before)
  resume result

/-- Does a step on a fresh output of the same width as the current one, and gives what is written
there. -/
def captured (step : Run Unit) : Run (List Char) := do
  let scratch ← newOutput
  redirected scratch step
  pure ((← get).outputAt scratch).content

/-- Does a step on an output by its address, and notes that this output was reached. -/
def onOutput {α : Type} (address : Nat) (step : Run α) : Run α := do
  modify (·.reach address)
  redirected address step

/-! ### Operations of the runtime -/

def Action.signature (a : Action) : Signature :=
  let title := "ScriptRuntime." ++ a.name
  match a with
  | .template => .plain title ["self", "pattern"] []
  | .newline | .indent | .unindent => .plain title ["self"] []
  | .write =>
    { title := title
      params := [.mk 0 "self" .regular none none, .mk 0 "values" .rest none none] }

/-- Puts values into the log, never into the output. -/
def logValues (values : List Value) : Run Unit := do
  values.forM fun v => do
    let w ← get
    match w.shown v with
    | .ok text =>
      say (.log .debug .runtime (w.label.getD "" ++ ": write: " ++ String.ofList text))
    | .error _ => pure ()

def callAction (a : Action) (args : Arguments) : Run Value := do
  let names ← a.signature.bind { args with positional := .none :: args.positional }
  withFrame .host do
    match a with
    | .template => makeTemplate ((names.lookup "pattern").getD .none)
    | .newline => do
      newlineOutput
      pure .none
    | .indent => do
      modifyBuilder Builder.indent
      pure .none
    | .unindent => do
      unindentOutput
      pure .none
    | .write => do
      logValues args.positional
      pure .none

/-! ### Operations of outputs -/

def OutputMethod.signature (o : OutputMethod) : Signature :=
  let parameters := match o with
    | .write | .writeText => ["self", "text"]
    | .newline | .indent | .unindent | .content | .finish => ["self"]
  .plain ("TextBuilder." ++ o.name) parameters []

/-- What an output is asked to do with what it is given. -/
def OutputMethod.run (o : OutputMethod) (given : Value) : Run Value := do
  match o, given with
  | .write, .text s => modifyBuilder (·.write s.toList)
  | .write, v => cannotJoin "str" v
  | .writeText, .text s => writeOutput s.toList
  -- no other value is known that can be split
  | .writeText, v => do
    let _ ← memberAt v "split"
    giveUp
  | .newline, _ => newlineOutput
  | .indent, _ => modifyBuilder Builder.indent
  | .unindent, _ => unindentOutput
  | .content, _ => return .text (String.ofList (← get).builder.content)
  | .finish, _ => return .text (String.ofList (← finishOutput))
  pure .none

def callOutput (address : Nat) (o : OutputMethod) (args : Arguments) : Run Value := do
  let names ← o.signature.bind { args with positional := .output address :: args.positional }
  withFrame .host (onOutput address (o.run ((names.lookup "text").getD .none)))

/-! ### Calls -/

/-- Does a function give its values back one by one, or wait? -/
def FunctionBody.produces : FunctionBody → Bool
  | .value e => producesHere (e.mentions false)
  | .block async program => async || producesHere (mentionsIn program)

def callFunction (f : Closure) (args : Arguments) : Run Value := do
  let names ← f.signature.bind args
  if f.body.produces then giveUp
  else
    deeper 1 do
      let space ← newSpace names
      let env : Env :=
        { f.env with
          scopes := f.scope space :: f.env.scopes
          qualifier := f.qualifiedName ++ ".<locals>." }
      match f.body with
      | .value e => m.evaluate env e
      | .block _ program => do
        match ← m.execute env program with
        | .giveBack v => pure v
        | _ => pure .none

def callMethod (owner : Value) (method : Method) (args : Arguments) : Run Value := do
  match owner, method with
  | .template address, .render => do
    checkTemplate "BoundTemplate.text" owner args
    pure (.text (String.ofList (← captured (deeper 7 (callTemplate m address args)))))
  | .varargs items, .pairs => callPairs items args
  | .list address, .append => callAppend address args
  | .text s, _ => callTextMethod m method s.toList args
  | .output address, .output o => callOutput address o args
  | _, _ => throw .abandoned

def callStep (v : Value) (args : Arguments) : Run Value := do
  match v with
  | .function address =>
    match (← get).objects[address]? with
    | some (.function f) => callFunction m f args
    | _ => throw .abandoned
  | .builtin b => callBuiltin m b args
  | .errorClass c => do
    let problem ← makeProblem m c args
    pure (.error (← allocate (.error problem [])))
  | .template address => do
    checkTemplate "BoundTemplate.__call__" v args
    deeper 6 (callTemplate m address args)
    pure .none
  | .method owner method => callMethod m owner method args
  | .action a => callAction a args
  | .procedure address =>
    match (← get).objects[address]? with
    | some (.procedure steps ending) => deeper 1 (runProcedure m steps ending)
    | _ => throw .abandoned
  -- no objects of classes that a script defined are known
  | .class_ _ => giveUp
  | _ => raiseWith .wrongType ("'" ++ (← get).typeName v ++ "' object is not callable")

def advanceStep (address : Nat) : Run (Option Value) := do
  match (← get).sourceAt address with
  | .elements progress => advanceElements m address progress
  | source => advanceOver m address source

end

/-- The machine that follows a run to the given depth. -/
def Machine.upTo : Nat → Machine
  | 0 =>
    { evaluate := fun _ _ => throw .abandoned
      execute := fun _ _ => throw .abandoned
      call := fun _ _ => throw .abandoned
      emit := fun _ => throw .abandoned
      advance := fun _ => throw .abandoned
      rename := modifyNames
      rounds := 0 }
  | depth + 1 =>
    { evaluate := fun env e => evaluateStep (upTo depth) env e
      execute := fun env program => executeAll (upTo depth) env program
      call := fun v args => callStep (upTo depth) v args
      emit := fun v => emitStep (upTo depth) v
      advance := fun address => advanceStep (upTo depth) address
      rename := modifyNames
      rounds := depth }

/-- How deep a run may nest, and how many rounds a loop may have. -/
def patience : Nat := 10000000

def machine : Machine := Machine.upTo patience

end Codeweave.Script
