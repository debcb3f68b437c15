import Codeweave.Proofs.Script.Keeping
import Codeweave.Proofs.Script.Shortening

/-!
Renders and the names of their callers. A render works on names of its own, and its segments bind
theirs there. What can change the names of the caller is code that was written under them, which a
segment may call, and the dictionary of these names, which a segment may be handed. Name spaces are
watched by giving a run up where one of the two changes their names in a way that is not allowed;
then the run as a whole changes them as is allowed, and a watched run that is not given up is the
run itself.
-/

namespace Codeweave.Script

variable {α : Type}

/-! ### Watched runs -/

/-- Was the code written where names are watched, among its global names or those of a function
around it? -/
def Env.reaches (env : Env) (watched : Watch) : Bool :=
  watched.spaces.contains env.globals ||
    env.scopes.any fun scope => watched.spaces.contains scope.space

/-- Is it a comprehension that was written where names are watched? -/
def Source.reaches : Source → Watch → Bool
  | .elements p, watched => p.env.reaches watched
  | _, _ => false

/-- Does a step, unless it changes the watched names in a way that is not allowed: then the run is
given up as it was before. -/
def watching (watched : Watch) (step : Run α) : Run α := do
  let before ← get
  let result ← outcome step
  if before.Allows (← get) watched then resume result
  else
    set before
    throw .abandoned

/-- The machine that follows a run to the given depth and watches names: it gives the run up when
code that was written among them changes them in a way that is not allowed, and when they are
changed so through the dictionary of the names of their name space. -/
def Machine.watched (watched : Watch) : Nat → Machine
  | 0 =>
    { Machine.upTo 0 with
      rename := fun space change => watching watched (modifyNames space change) }
  | depth + 1 =>
    { evaluate := fun env e =>
        if env.reaches watched then watching watched (evaluateStep (.upTo depth) env e)
        else evaluateStep (Machine.watched watched depth) env e
      execute := fun env program =>
        if env.reaches watched then watching watched (executeAll (.upTo depth) env program)
        else executeAll (Machine.watched watched depth) env program
      call := fun v args => callStep (Machine.watched watched depth) v args
      emit := fun v => emitStep (Machine.watched watched depth) v
      advance := fun address => do
        if ((← get).sourceAt address).reaches watched then
          watching watched (advanceStep (.upTo depth) address)
        else advanceStep (Machine.watched watched depth) address
      rename := fun space change => watching watched (modifyNames space change)
      rounds := depth }

variable {watched : Watch}

theorem runFrom_watching (w : World) (step : Run α) :
    runFrom w (watching watched step) =
      if w.Allows (runFrom w step).2 watched then runFrom w step
      else (.error .abandoned, w) := by
  rw [watching, runFrom_bind, runFrom_get]
  simp only [runFrom_bind, runFrom_outcome, runFrom_get]
  split
  · rw [runFrom_resume]
  · rfl

theorem keeps_watching (step : Run α) : Keeps watched (watching watched step) := by
  intro w _
  rw [runFrom_watching]
  split
  · assumption
  · exact .of_spaces_eq rfl

theorem shortens_watching (step : Run α) : Shortens (watching watched step) step := by
  intro w
  rw [runFrom_watching]
  split
  · exact .inr rfl
  · exact .inl rfl

theorem free_of_not_reaches {env : Env} (h : ¬ env.reaches watched = true) :
    Free (keeping watched) env := by
  simp only [Env.reaches, Bool.or_eq_true, List.any_eq_true, not_or, not_exists, not_and,
    List.contains_eq_mem, decide_eq_true_eq] at h
  exact ⟨h.1, h.2⟩

/-! ### The machine that watches -/

/-- The machine that watches names keeps them. -/
theorem machineCorresponds_keeping (depth : Nat) :
    MachineCorresponds (keeping watched) (.watched watched depth) (.watched watched depth) := by
  induction depth with
  | zero =>
      exact
        { evaluate := fun _ _ => ⟨.of_state_eq fun _ => rfl⟩
          execute := fun _ _ => ⟨.of_state_eq fun _ => rfl⟩
          call := fun _ _ => ⟨.of_state_eq fun _ => rfl⟩
          emit := fun _ => ⟨.of_state_eq fun _ => rfl⟩
          advance := fun _ => ⟨.of_state_eq fun _ => rfl⟩
          rename := fun space change => ⟨keeps_watching _⟩
          rounds := ⟨rfl⟩ }
  | succ depth ih =>
      refine
        { evaluate := fun env e => ?_
          execute := fun env program => ?_
          call := fun v args =>
            inferInstanceAs (Respects (keeping watched) (callStep (.watched watched depth) v args))
          emit := fun v =>
            inferInstanceAs (Respects (keeping watched) (emitStep (.watched watched depth) v))
          advance := fun address => ⟨fun w hholds => ?_⟩
          rename := fun space change => ⟨keeps_watching _⟩
          rounds := ⟨rfl⟩ }
      -- code written under watched names is watched itself, other code binds none of them
      · simp only [Machine.watched]
        split
        · exact ⟨keeps_watching _⟩
        · have := free_of_not_reaches ‹_›
          infer_instance
      · simp only [Machine.watched]
        split
        · exact ⟨keeps_watching _⟩
        · have := free_of_not_reaches ‹_›
          infer_instance
      · simp only [Machine.watched]
        rw [runFrom_bind, runFrom_get]
        simp only
        split
        · exact keeps_watching _ w hholds
        · rename_i hreaches
          have hnext : Keeps watched _ :=
            (Corresponds.advance (.watched watched depth) (.watched watched depth) address
              (w.sourceAt address) fun p hsource => free_of_not_reaches
                (by simpa [hsource, Source.reaches] using hreaches)).rel
          rw [advanceStep, runFrom_bind, runFrom_get]
          exact hnext w hholds

/-- The machine that watches names does what the machine without does, unless it gives up. -/
theorem machineCorresponds_watched (depth : Nat) :
    MachineCorresponds shortening (.watched watched depth) (.upTo depth) := by
  induction depth with
  | zero =>
      exact
        { evaluate := fun _ _ => ⟨.refl _⟩
          execute := fun _ _ => ⟨.refl _⟩
          call := fun _ _ => ⟨.refl _⟩
          emit := fun _ => ⟨.refl _⟩
          advance := fun _ => ⟨.refl _⟩
          rename := fun space change => ⟨shortens_watching _⟩
          rounds := ⟨Nat.le_refl _⟩ }
  | succ depth ih =>
      refine
        { evaluate := fun env e => ?_
          execute := fun env program => ?_
          call := fun v args =>
            inferInstanceAs (Corresponds shortening (callStep (.watched watched depth) v args)
              (callStep (.upTo depth) v args))
          emit := fun v =>
            inferInstanceAs (Corresponds shortening (emitStep (.watched watched depth) v)
              (emitStep (.upTo depth) v))
          advance := fun address => ⟨fun w => ?_⟩
          rename := fun space change => ⟨shortens_watching _⟩
          rounds := ⟨Nat.le_refl _⟩ }
      · simp only [Machine.watched, Machine.upTo]
        split
        · exact ⟨shortens_watching _⟩
        · infer_instance
      · simp only [Machine.watched, Machine.upTo]
        split
        · exact ⟨shortens_watching _⟩
        · infer_instance
      · simp only [Machine.watched, Machine.upTo]
        rw [runFrom_bind, runFrom_get]
        simp only
        split
        · exact shortens_watching _ w
        · have : Corresponds shortening (advanceStep (.watched watched depth) address)
            (advanceStep (.upTo depth) address) := inferInstance
          exact this.rel w

/-! ### Renders -/

/-- What the segments of a render see: the names of the render. -/
def segmentEnv (space : Nat) : Env :=
  { inSegment := true, globals := space }

/-- A template, and the name space that is its context. -/
structure Rendering where
  template : Template
  context : Nat

/-- Renders templates one after the other, each with the names of its context over those of one
scope, as they then are. An error ends no more than its own render. -/
def renderEach (m : Machine) (scope : Nat) (renderings : List Rendering) : Run Unit :=
  renderings.forM fun r => do
    let w ← get
    match ← outcome (render m r.template (w.names r.context) (w.names scope)) with
    | .error .abandoned => throw .abandoned
    | _ => pure ()

instance {C : Correspondence} (m m' : Machine) [MachineCorresponds C m m'] (scope : Nat)
    (renderings : List Rendering) :
    Corresponds C (renderEach m scope renderings) (renderEach m' scope renderings) := by
  have hone (r : Rendering) : Corresponds C
      (do
        let w ← get
        match ← outcome (render m r.template (w.names r.context) (w.names scope)) with
        | .error .abandoned => throw .abandoned
        | _ => pure ())
      (do
        let w ← get
        match ← outcome (render m' r.template (w.names r.context) (w.names scope)) with
        | .error .abandoned => throw .abandoned
        | _ => pure ()) := by
    refine .read (fun w => .outcome (fun _ => rfl) fun result => ?_) fun _ _ _ => rfl
    split <;> infer_instance
  unfold renderEach
  infer_instance

/-- A segment finds the names that segments before it bound. -/
theorem lookUpName_bindName {w : World} {space : Nat} (hspace : space < w.spaces.size)
    {name : String} (hname : name ≠ fixedName) (v : Value) :
    runFrom (runFrom w (bindName (segmentEnv space) name v)).2
        (lookUpName (segmentEnv space) name) =
      (.ok v, (runFrom w (bindName (segmentEnv space) name v)).2) := by
  have hbound : (runFrom w (bindName (segmentEnv space) name v)).2.names space =
      Names.bind name v (w.names space) := by
    change ((w.spaces.modify space (Names.bind name v))[space]?).getD [] = _
    rw [Array.getElem?_modify, if_pos rfl, World.names, Array.getElem?_eq_getElem hspace]
    rfl
  generalize (runFrom w (bindName (segmentEnv space) name v)).2 = w' at hbound ⊢
  have hfixed : (name == fixedName) = false := by simpa using hname
  have hfound : (w'.names ((segmentEnv space).spaceOf .global)).lookup name = some v := by
    change (w'.names space).lookup name = some v
    rw [hbound, Names.lookup_bind, beq_self_eq_true]
    rfl
  have hplace : (segmentEnv space).place name = .global := rfl
  rw [lookUpName, hfixed]
  simp only [Bool.false_eq_true, if_false]
  rw [runFrom_bind, runFrom_get]
  simp only [hplace, hfound, runFrom_pure]

/-- What a name is bound to in a render depends on what it was bound to in the context and the
scope. -/
theorem World.Allows.lookup_bindAll {w w' : World} (h : w.Allows w' watched) {scope context : Nat}
    (hscope : scope ∈ watched.spaces) (hcontext : context ∈ watched.spaces) {name : String}
    (hbelow : watched.Fixes scope name) (habove : watched.Fixes context name) :
    (Names.bindAll (w'.names scope) (w'.names context)).lookup name =
      (Names.bindAll (w.names scope) (w.names context)).lookup name := by
  rw [Names.lookup_bindAll, Names.lookup_bindAll, h.entriesOf_eq hcontext habove,
    h.lookup_eq hscope hbelow]

/-- Renders under one scope, whether they end or raise, change watched names by no more than what
code that was written among these names, and the dictionary of a name space, is allowed to. Names
that these leave alone are bound to the same after the renders as before. Each render has the names
of the scope and its context in a name space that is new, bound as they are when it starts; what a
segment binds there is found by the segments behind it. So it is with the templates that a script
calls. -/
theorem renderEach_keeps_names (watched : Watch) (depth scope : Nat) (renderings : List Rendering)
    (w : World) (hholds : w.Holds watched) :
    let m := Machine.watched watched depth
    let run := runFrom w (renderEach m scope renderings)
    (∀ space ∈ watched.spaces, watched.allows space (w.names space) (run.2.names space) = true ∧
      ∀ name, watched.Fixes space name →
        (run.2.names space).lookup name = (w.names space).lookup name) ∧
    (run.1 = .error .abandoned ∨ run = runFrom w (renderEach (.upTo depth) scope renderings)) ∧
    (∀ before r after, renderings = before ++ r :: after →
      let now := (runFrom w (renderEach m scope before)).2
      let bound := Names.bindAll (now.names scope) (now.names r.context)
      now.spaces.size ∉ watched.spaces ∧
        runFrom now (render m r.template (now.names r.context) (now.names scope)) =
          runFrom { now with spaces := now.spaces.push bound }
            (r.template.segments.forM (renderSegment m (segmentEnv now.spaces.size))) ∧
        (scope ∈ watched.spaces → r.context ∈ watched.spaces →
          ∀ name, watched.Fixes scope name → watched.Fixes r.context name →
            bound.lookup name = (Names.bindAll (w.names scope) (w.names r.context)).lookup name)) ∧
    (∀ (now : World) space name v, space < now.spaces.size → name ≠ fixedName →
      let bound := (runFrom now (bindName (segmentEnv space) name v)).2
      runFrom bound (lookUpName (segmentEnv space) name) = (.ok v, bound)) ∧
    ∀ address args,
      let call := runFrom w (callTemplate m address args)
      (∀ space ∈ watched.spaces, watched.allows space (w.names space) (call.2.names space) = true ∧
        ∀ name, watched.Fixes space name →
          (call.2.names space).lookup name = (w.names space).lookup name) ∧
        (call.1 = .error .abandoned ∨
          call = runFrom w (callTemplate (.upTo depth) address args)) := by
  intro m run
  have hkeeping : MachineCorresponds (keeping watched) m m := machineCorresponds_keeping depth
  have hwatched : MachineCorresponds shortening m (.upTo depth) := machineCorresponds_watched depth
  have hallows (rs : List Rendering) : w.Allows (runFrom w (renderEach m scope rs)).2 watched :=
    (inferInstance : Respects (keeping watched) (renderEach m scope rs)).rel w hholds
  refine ⟨?_, ?_, ?_, ?_, ?_⟩
  · exact fun space hspace => ⟨(hallows renderings).names space hspace,
      fun name hname => (hallows renderings).lookup_eq hspace hname⟩
  · exact (inferInstance : Corresponds shortening (renderEach m scope renderings)
      (renderEach (.upTo depth) scope renderings)).rel w
  · rintro before r after rfl now bound
    have hnow : w.Allows now watched := hallows before
    refine ⟨(hholds.of_allows hnow).size_not_mem, rfl, ?_⟩
    exact fun hscope hcontext name hbelow habove =>
      hnow.lookup_bindAll hscope hcontext hbelow habove
  · intro now space name v hspace hname bound
    exact lookUpName_bindName hspace hname v
  · intro address args call
    have hcall : w.Allows call.2 watched :=
      (inferInstance : Respects (keeping watched) (callTemplate m address args)).rel w hholds
    exact ⟨fun space hspace => ⟨hcall.names space hspace,
      fun name hname => hcall.lookup_eq hspace hname⟩,
      (inferInstance : Corresponds shortening (callTemplate m address args)
        (callTemplate (.upTo depth) address args)).rel w⟩

/-- The text that a name is bound to. -/
def Names.text? (name : String) (names : Names) : Option String :=
  match names.lookup name with
  | some (.text s) => some s
  | _ => none

/-- Watches one name of each space: the text that it is bound to may not change. -/
def Watch.text (spaces : List Nat) (name : String) : Watch where
  spaces := spaces
  allows _ before after := before.text? name == after.text? name
  allows_refl _ _ := beq_self_eq_true _
  allows_trans _ _ _ _ h h' := beq_iff_eq.mpr ((beq_iff_eq.mp h).trans (beq_iff_eq.mp h'))

/-- A function of the script that binds one of its names. -/
def counting : Closure where
  name := "f"
  qualifiedName := "f"
  params := []
  defaults := []
  body := .block false [.globals 1 ["n"], .evaluate (.binding 2 "n" (.constant (.text "1")))]
  env := { inSegment := false, globals := 0 }

/-- A template that binds a name, shows what it is bound to, and looks it up once more. -/
def bindAndShow : Template where
  pattern := "`(x := 'b')`, `x`; ".toList
  segments :=
    [.code "(x := 'b')".toList 1 (.value (.binding 1 "x" (.constant (.text "b")))),
      .literal ", ".toList, .code "x".toList 15 (.value (.name 1 "x")), .literal "; ".toList]

/-- A template that binds a name and calls a function of the script. -/
def bindAndCall : Template where
  pattern := "`(x := 'b')`; `f()`".toList
  segments :=
    [.code "(x := 'b')".toList 1 (.value (.binding 1 "x" (.constant (.text "b")))),
      .literal "; ".toList, .code "f()".toList 15 (.value (.call 1 (.name 1 "f") []))]

def showBoth : Template where
  pattern := "`x`, `n`".toList
  segments :=
    [.code "x".toList 1 (.value (.name 1 "x")), .literal ", ".toList,
      .code "n".toList 6 (.value (.name 1 "n"))]

/-- One render binds a name for its own segments; the next one has the name of the scope again. A
render that calls a function of the script, which binds another name of the scope, does no more to
the scope than this function. -/
theorem renderEach_keeps_names_twice :
    let names : Names := [("x", .text "a"), ("n", .text "0"), ("f", .function 0)]
    let w : World :=
      { builder := .fresh 4, objects := #[.function counting], spaces := #[names, []] }
    let shown := runFrom w (renderEach (.upTo 6) 0 [⟨bindAndShow, 1⟩, ⟨showBoth, 1⟩])
    let counted := runFrom w (renderEach (.upTo 6) 0 [⟨bindAndCall, 1⟩, ⟨showBoth, 1⟩])
    (w.Holds (.fixed [0, 1] fun _ _ => True) ∧
      (∀ name, (shown.2.names 0).lookup name = names.lookup name) ∧
        shown.2.builder.content = "b, b; a, 0".toList) ∧
    w.Holds (.text [0] "x") ∧ (counted.2.names 0).text? "x" = some "a" ∧
      (counted.2.names 0).text? "n" = some "1" ∧ counted.2.builder.content = "b; a, 1".toList := by
  intro names w shown counted
  have hholds : w.Holds (.fixed [0, 1] fun _ _ => True) := by decide
  have hholds' : w.Holds (.text [0] "x") := by decide
  obtain ⟨hfixed, hshown, -⟩ :=
    renderEach_keeps_names _ 6 0 [⟨bindAndShow, 1⟩, ⟨showBoth, 1⟩] w hholds
  obtain ⟨htext, hcounted, -⟩ :=
    renderEach_keeps_names _ 6 0 [⟨bindAndCall, 1⟩, ⟨showBoth, 1⟩] w hholds'
  have hended : (runFrom w (renderEach (.watched (.fixed [0, 1] fun _ _ => True) 6) 0
      [⟨bindAndShow, 1⟩, ⟨showBoth, 1⟩])).1.isOk = true := by decide +kernel
  have hended' : (runFrom w (renderEach (.watched (.text [0] "x") 6) 0
      [⟨bindAndCall, 1⟩, ⟨showBoth, 1⟩])).1.isOk = true := by decide +kernel
  refine ⟨?_, ?_⟩
  · rcases hshown with hgiven | hshown
    · rw [hgiven] at hended
      cases hended
    · have hnames := (hfixed 0 (by decide)).2
      rw [hshown] at hnames
      exact ⟨hholds, fun name => hnames name (Watch.fixed_fixes trivial), by decide +kernel⟩
  · rcases hcounted with hgiven | hcounted
    · rw [hgiven] at hended'
      cases hended'
    · have hname := (htext 0 (by decide)).1
      rw [hcounted] at hname
      exact ⟨hholds', (beq_iff_eq.mp hname).symm, by decide +kernel, by decide +kernel⟩

/-! ### The dictionary of the caller's names -/

def putItem : List Stmt :=
  [.assign [.item 1 (.name 1 "g") (.constant (.text "x"))] (.constant (.text "b"))]

def putting : Template where
  pattern := "`g[\"x\"] = \"b\"`".toList
  segments := [.code "g[\"x\"] = \"b\"".toList 1 (.action putItem)]

theorem executeAll_putItem (m : Machine) (env : Env) :
    executeAll m env putItem = (do
      let v ← m.evaluate env (.constant (.text "b"))
      let o ← m.evaluate env (.name 1 "g")
      let k ← m.evaluate env (.constant (.text "x"))
      env.at 1 (putAt m o k v)
      pure .next) := by
  simp only [putItem, executeAll, executeStep, List.forM_eq_forM, List.forM_cons, List.forM_nil,
    assignTo, bind_assoc, pure_bind]

theorem render_putting (depth : Nat) (context scope : Names) :
    render (.upTo (depth + 1)) putting context scope = (do
      let space ← newSpace (.bindAll scope context)
      furnish space
      let _ ← asParameter 1 (do
        let v ← (Machine.upTo depth).evaluate (segmentEnv space) (.constant (.text "b"))
        let o ← (Machine.upTo depth).evaluate (segmentEnv space) (.name 1 "g")
        let k ← (Machine.upTo depth).evaluate (segmentEnv space) (.constant (.text "x"))
        (segmentEnv space).at 1 (putAt (.upTo depth) o k v)
        pure Flow.next)) := by
  have hsegments : putting.segments = [.code _ 1 (.action putItem)] := rfl
  rw [render, hsegments]
  refine congrArg _ (funext fun space => ?_)
  have hhints : makeHintTable (segmentEnv space).globals putItem = pure () := rfl
  rw [List.forM_eq_forM, List.forM_cons, List.forM_nil, renderSegment, bind_assoc]
  rw [show ({ inSegment := true, globals := space } : Env) = segmentEnv space from rfl, hhints,
    bind_assoc]
  simp only [pure_bind, bind_assoc]
  exact congrArg (fun step => furnish space >>= fun _ => asParameter 1 step >>= fun _ => pure ())
    (executeAll_putItem (.upTo depth) (segmentEnv space))

theorem runFrom_putting :
    let w : World := { builder := .fresh 4, spaces := #[[("x", .text "a")]] }
    runFrom w (render (.upTo 3) putting [("g", .names 0)] (w.names 0)) =
      (.ok (), { w with
        spaces :=
          #[[("x", .text "b")],
            [("x", .text "a"), ("g", .names 0), (builtinsName, builtinsValue)]] }) := by
  intro w
  exact (congrArg (runFrom w) (render_putting 2 [("g", .names 0)] (w.names 0))).trans rfl

/-- Without any functions, a segment changes the names of its caller if it is given their
dictionary. -/
theorem not_render_keeps_names :
    ¬ ∀ (t : Template) (context : Names) (w : World), w.objects = #[] →
      (runFrom w (render machine t context (w.names w.home))).2.names w.home = w.names w.home := by
  intro h
  let w : World := { builder := .fresh 4, spaces := #[[("x", .text "a")]] }
  have hmachine : runFrom w (render machine putting [("g", .names 0)] (w.names 0)) = _ :=
    render_upTo_of_le (by decide : 3 ≤ patience) w putting _ _
      (by rw [runFrom_putting]; exact nofun)
  have hnames := h putting [("g", .names 0)] w rfl
  rw [show w.home = 0 from rfl, hmachine, runFrom_putting] at hnames
  injection hnames with hentry
  injection (Prod.mk.inj hentry).2 with htext
  exact absurd htext (by decide)

end Codeweave.Script
