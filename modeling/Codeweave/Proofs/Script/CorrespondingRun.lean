import Codeweave.Proofs.Script.CorrespondingStatements
import Codeweave.Script.Session

/-!
Output, templates and calls under a correspondence, and machines that are built over each other. The
machine that follows a run one level farther stands to another as its parts do.
-/

namespace Codeweave.Script

variable {C : Correspondence} {α β : Type}

theorem respects_modifyNames [h : ∀ env, Free C env] (space : Nat) (change : Names → Names) :
    Respects C (modifyNames space change) :=
  ⟨C.modifyNames change (h { inSegment := false, globals := space }).globals⟩

/-! ### Output -/

instance (d : Datum) : Respects C d.load := by
  fun_induction Datum.load d
  case case6 items ih | case7 items ih | case8 items ih =>
    have hload (a : { d // d ∈ items }) : Respects C (match a with | ⟨d, _⟩ => d.load) :=
      ih a.1 a.2
    infer_instance
  case case9 entries ih =>
    have hload (a : { entry // entry ∈ entries }) : Respects C (match a with
        | ⟨(k, d), _⟩ => do pure (k, ← d.load) : Run (String × Value)) := by
      obtain ⟨⟨k, d⟩, hentry⟩ := a
      have := ih k d hentry
      infer_instance
    infer_instance
  all_goals infer_instance

theorem unindentOutput_eq :
    unindentOutput = (do
      match (← get).builder.unindent? with
      | some b => modifyBuilder fun _ => b
      | none => raiseFault { cause := .levelZero }) := by
  unfold unindentOutput
  funext w
  change runFrom w _ = runFrom w _
  rw [runFrom_bind, runFrom_bind, runFrom_get]
  simp only
  cases w.builder.unindent? <;> rfl

instance : Respects C unindentOutput := by
  rw [unindentOutput_eq]
  exact .read (fun _ => by split <;> infer_instance) fun _ _ _ => rfl

instance : Respects C newlineOutput :=
  .read (fun _ => by infer_instance) fun _ _ _ => rfl

instance (rows : List (List Char)) : Respects C (writeRows rows) := by
  fun_induction writeRows rows <;> infer_instance

instance (text : List Char) : Respects C (writeOutput text) := by
  fun_cases writeOutput text <;> infer_instance

instance : Respects C finishOutput := by
  have hfinish : Respects C (do
      let b := (← get).builder
      if b.level != 0 then
        say (.log .warning .builder
          ("builder finished with " ++ toString b.level ++ " open indent level(s)"))
      pure b.flushedText) :=
    .read (fun _ => by dsimp only; infer_instance) fun _ _ _ => rfl
  exact .read (fun _ => by dsimp only; infer_instance) fun _ _ _ => rfl

section

variable (m m' : Machine) [MachineCorresponds C m m']

instance (address rounds more position : Nat) [h : Rounds C rounds more] :
    Corresponds C (emitList m address rounds position) (emitList m' address more position) := by
  induction rounds generalizing more position with
  | zero => exact .no_rounds (emitList m' address · position) rfl
  | succ rounds ih =>
      obtain ⟨more, rfl, hmore⟩ := h.exists_succ
      refine .read (fun w => ?_) fun _ _ _ => rfl
      cases (w.listArray address)[position]? <;> infer_instance

instance (v : Value) : Corresponds C (emitStep m v) (emitStep m' v) := by
  unfold emitStep
  cases v <;> infer_instance

instance (s : Step) : Corresponds C (s.run m) (s.run m') := by
  cases s <;> simp only [Step.run]
  case content | currentLine => exact .read (fun _ => inferInstance) fun _ _ _ => rfl
  all_goals infer_instance

instance (steps : List Step) (ending : Ending) :
    Corresponds C (runProcedure m steps ending) (runProcedure m' steps ending) := by
  unfold runProcedure
  cases ending <;> infer_instance

/-! ### Templates -/

instance (problem : Problem) : Legible fun w => w.reported problem where
  same w label journal hlabel := by
    have hmissing : (w.named label journal).missing? problem = w.missing? problem := rfl
    unfold World.reported
    rw [hmissing]
    cases w.missing? problem with
    | some v => exact (sameText_textWithin hlabel label journal ..).map _
    | none =>
        have hsaid : Legible fun w => w.problemText problem := inferInstance
        exact (hsaid.same w label journal hlabel).map _

instance (error : Raised) : Respects C (reportMissing error) := by
  refine .outcome (fun w => ?_) fun told => inferInstance
  rw [runFrom_bind, caughtAt]
  cases error.address <;> rfl

instance (offset : Nat) (step step' : Run α) [Corresponds C step step'] :
    Corresponds C (asParameter offset step) (asParameter offset step') :=
  .tryCatch fun _ => inferInstance

instance (env : Env) [Free C env] (s : Segment) :
    Corresponds C (renderSegment m env s) (renderSegment m' env s) := by
  rcases s with text | ⟨text, offset, _ | _⟩ <;> simp only [renderSegment] <;> infer_instance

instance (t : Template) (context scope : Names) :
    Corresponds C (render m t context scope) (render m' t context scope) := by
  refine .newSpace_bind fun space hspace => ?_
  have : Free C { inSegment := true, globals := space } := ⟨hspace, by simp⟩
  infer_instance

instance (pattern : List Char) : Respects C (compilePattern pattern) := by
  unfold compilePattern
  (repeat' split) <;> infer_instance

instance (v : Value) : Respects C (emptyTemplate v) := by
  unfold emptyTemplate
  infer_instance

instance (v : Value) : Respects C (makeTemplate v) := by
  fun_cases makeTemplate v <;> infer_instance

instance (title : String) (template : Value) (args : Arguments) :
    Respects C (checkTemplate title template args) := by
  unfold checkTemplate
  infer_instance

instance (address : Nat) (args : Arguments) :
    Corresponds C (callTemplate m address args) (callTemplate m' address args) := by
  have hrender : Corresponds C
      (do
        let w ← get
        let context := Names.bindAll [("args", .varargs args.positional)] args.named
        render m (w.templateAt address) context (w.names w.home))
      (do
        let w ← get
        let context := Names.bindAll [("args", .varargs args.positional)] args.named
        render m' (w.templateAt address) context (w.names w.home)) :=
    .read (fun _ => inferInstance) fun _ _ _ => rfl
  unfold callTemplate
  infer_instance

/-! ### Operations and calls -/

/-- What is written into the log names the run, but nothing reads the log. -/
instance (values : List Value) : Respects C (logValues values) := by
  have hlog (v : Value) : Respects C (do
      let w ← get
      match w.shown v with
      | .ok text =>
        say (.log .debug .runtime (w.label.getD "" ++ ": write: " ++ String.ofList text))
      | .error _ => pure ()) := by
    refine ⟨C.plain (fun _ => ()) (fun w => { w with journal := match w.shown v with
      | .ok text => w.journal.push
          (.log .debug .runtime (w.label.getD "" ++ ": write: " ++ String.ofList text))
      | .error _ => w.journal }) (fun w => ?_) (fun _ => ⟨rfl, rfl, rfl, rfl⟩) (fun _ _ _ => rfl)
      fun _ _ _ => ⟨_, rfl⟩⟩
    rw [runFrom_bind, runFrom_get]
    simp only
    split <;> rfl
  unfold logValues
  infer_instance

instance (a : Action) (args : Arguments) : Respects C (callAction a args) := by
  unfold callAction
  (repeat' split) <;> infer_instance

instance (o : OutputMethod) (given : Value) : Respects C (o.run given) := by
  unfold OutputMethod.run
  cases o
  case content => exact .read (fun _ => inferInstance) fun _ _ _ => rfl
  case write | writeText => cases given <;> infer_instance
  all_goals infer_instance

instance (address : Nat) (o : OutputMethod) (args : Arguments) :
    Respects C (callOutput address o args) := by
  unfold callOutput
  infer_instance

instance (f : Closure) (args : Arguments) :
    Corresponds C (callFunction m f args) (callFunction m' f args) := by
  unfold callFunction
  cases f.body <;> infer_instance

instance (owner : Value) (method : Method) (args : Arguments) :
    Corresponds C (callMethod m owner method args) (callMethod m' owner method args) := by
  unfold callMethod
  cases owner <;> cases method <;> infer_instance

instance (v : Value) (args : Arguments) :
    Corresponds C (callStep m v args) (callStep m' v args) := by
  cases v <;> simp only [callStep]
  case function address | procedure address =>
    refine .read (fun w => ?_) fun _ _ _ => rfl
    rcases w.objects[address]? with _ | object
    · infer_instance
    · cases object <;> infer_instance
  all_goals infer_instance

/-- The next item of what an iterator goes over, which is a comprehension only if its code may
change the names that it binds. -/
theorem Corresponds.advance (address : Nat) (source : Source) :
    (∀ p, source = .elements p → Free C p.env) →
      Corresponds C
        (match source with
          | .elements p => advanceElements m address p
          | source => advanceOver m address source)
        (match source with
          | .elements p => advanceElements m' address p
          | source => advanceOver m' address source) := by
  intro hfree
  cases source
  case elements p =>
    have := hfree p rfl
    infer_instance
  all_goals infer_instance

instance [hfree : ∀ env, Free C env] (address : Nat) :
    Corresponds C (advanceStep m address) (advanceStep m' address) :=
  .read (fun w => .advance m m' address (w.sourceAt address) fun p _ => hfree p.env)
    fun _ _ _ => rfl

/-! ### Depths -/

/-- Machines that stand to each other at one depth do so at the next, if code may change all names.
-/
theorem MachineCorresponds.succ [∀ env, Free C env] {depth deeper : Nat}
    [MachineCorresponds C (.upTo depth) (.upTo deeper)] (hrounds : C.rounds depth deeper) :
    MachineCorresponds C (.upTo (depth + 1)) (.upTo (deeper + 1)) where
  evaluate env e :=
    inferInstanceAs (Corresponds C (evaluateStep (.upTo depth) env e)
      (evaluateStep (.upTo deeper) env e))
  execute env program :=
    inferInstanceAs (Corresponds C (executeAll (.upTo depth) env program)
      (executeAll (.upTo deeper) env program))
  call v args :=
    inferInstanceAs (Corresponds C (callStep (.upTo depth) v args) (callStep (.upTo deeper) v args))
  emit v :=
    inferInstanceAs (Corresponds C (emitStep (.upTo depth) v) (emitStep (.upTo deeper) v))
  advance address :=
    inferInstanceAs (Corresponds C (advanceStep (.upTo depth) address)
      (advanceStep (.upTo deeper) address))
  rename space change := respects_modifyNames space change
  rounds := ⟨hrounds⟩

end

end Codeweave.Script
