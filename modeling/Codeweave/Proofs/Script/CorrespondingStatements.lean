import Codeweave.Proofs.Script.CorrespondingExpressions
import Codeweave.Script.Execute

/-!
Statements under a correspondence: if the machines that run their parts stand to each other as it
says, then so do the two executions, as long as the code may change the names it binds.
-/

namespace Codeweave.Script

variable {C : Correspondence} {α β γ : Type} (m m' : Machine) [MachineCorresponds C m m']
  (env : Env)
  (line : Nat)

instance (priority := low) (step step' : Run Flow) (next next' : Flow → Run β)
    [Corresponds C step step'] [Corresponds C (next .next) (next' .next)]
    [Corresponds C (next .leaveLoop) (next' .leaveLoop)]
    [Corresponds C (next .nextRound) (next' .nextRound)]
    [hvalue : ∀ v, Corresponds C (next (.giveBack v)) (next' (.giveBack v))] :
    Corresponds C (step >>= next) (step' >>= next') :=
  .then fun
    | .next | .leaveLoop | .nextRound => inferInstance
    | .giveBack v => hvalue v

/-! ### Errors -/

instance (v : Value) : Corresponds C (errorOf? m v) (errorOf? m' v) := by
  unfold errorOf?
  cases v
  case class_ address => exact .read (fun _ => inferInstance) fun _ _ _ => rfl
  all_goals infer_instance

instance (address : Nat) : Respects C (raiseAt address : Run α) :=
  .read (fun _ => inferInstance) fun _ _ _ => rfl

instance (address : Nat) (cause : Option Nat) : Respects C (setCause address cause) :=
  .read (fun _ => by split <;> infer_instance) fun _ _ _ => rfl

instance (v : Value) (cause : Option Value) :
    Corresponds C (raiseValue m v cause : Run α) (raiseValue m' v cause) := by
  unfold raiseValue
  refine .then fun found => ?_
  cases found with
  | none => infer_instance
  | some address =>
      rcases cause with _ | cause
      · infer_instance
      · cases cause <;> infer_instance

instance : Respects C (raiseAgain env line : Run α) :=
  .read (fun _ => by split <;> infer_instance) fun _ _ _ => rfl

instance : Respects C (raiseNotCaught : Run α) := by
  unfold raiseNotCaught
  infer_instance

instance (problem : Problem) (v : Value) : Respects C (handlesClass problem v) := by
  unfold handlesClass
  cases v
  case class_ address => exact .read (fun _ => inferInstance) fun _ _ _ => rfl
  all_goals infer_instance

instance (problem : Problem) (errors : Value) : Respects C (handles problem errors) := by
  fun_cases handles problem errors <;> infer_instance

instance (error : Raised) : Respects C (caughtAt error) := by
  fun_cases caughtAt error <;> infer_instance

instance [Free C env] (name : Option String) (address : Nat) (body : List Stmt) :
    Corresponds C (runHandler m env address name body) (runHandler m' env address name body) := by
  cases name <;> simp only [runHandler]
  case none => exact .outcome (fun _ => rfl) fun _ => inferInstance
  case some id => exact .then fun _ => .outcome (fun _ => rfl) fun _ => inferInstance

instance [Free C env] (address : Nat) (handlers : List Handler) :
    Corresponds C (tryHandlers m env address handlers) (tryHandlers m' env address handlers) := by
  induction handlers with
  | nil =>
      unfold tryHandlers
      infer_instance
  | cons handler rest ih =>
      obtain ⟨line, forGroups, errors, name, body⟩ := handler
      cases forGroups <;> cases errors <;> simp only [tryHandlers]
      case false.some e => exact .then fun _ => .read (fun _ => inferInstance) fun _ _ _ => rfl
      all_goals infer_instance

instance [Free C env] (body : List Stmt) (handlers : List Handler) (otherwise cleanup : List Stmt) :
    Corresponds C (attemptBlock m env body handlers otherwise cleanup)
      (attemptBlock m' env body handlers otherwise cleanup) := by
  have hguarded : Corresponds C
      (outcome (m.execute env body) >>= fun
        | .ok .next => m.execute env otherwise
        | .ok flow => pure flow
        | .error (.raised error) => do
          let address ← caughtAt error
          resume (← whileHandling address (tryHandlers m env address handlers))
        | .error .abandoned => throw .abandoned)
      (outcome (m'.execute env body) >>= fun
        | .ok .next => m'.execute env otherwise
        | .ok flow => pure flow
        | .error (.raised error) => do
          let address ← caughtAt error
          resume (← whileHandling address (tryHandlers m' env address handlers))
        | .error .abandoned => throw .abandoned) := by
    refine .outcome (fun _ => rfl) fun
      | .ok flow => by cases flow <;> infer_instance
      | .error .abandoned => inferInstance
      | .error (.raised error) => .then fun address => ?_
    exact .whileHandling address (fun _ => rfl) fun _ => inferInstance
  simp only [attemptBlock]
  split
  · exact hguarded
  · refine .outcome (fun _ => rfl) fun
      | .ok before => inferInstance
      | .error .abandoned => inferInstance
      | .error (.raised error) => .then fun address => ?_
    exact .whileHandling address (fun _ => rfl) fun _ => inferInstance

/-! ### Loops -/

instance (test test' : Run Bool) (body body' : Run Flow) (rounds more : Nat)
    [h : Rounds C rounds more] [Corresponds C test test'] [Corresponds C body body'] :
    Corresponds C (whileLoop test body rounds) (whileLoop test' body' more) := by
  induction rounds generalizing more with
  | zero => exact .no_rounds (whileLoop test' body') rfl
  | succ rounds ih =>
      obtain ⟨more, rfl, hmore⟩ := h.exists_succ
      simp only [whileLoop]
      infer_instance

instance (next next' : Run (Option Value)) (body body' : Value → Run Flow) (rounds more : Nat)
    [h : Rounds C rounds more] [Corresponds C next next']
    [∀ v, Corresponds C (body v) (body' v)] :
    Corresponds C (eachLoop next body rounds) (eachLoop next' body' more) := by
  induction rounds generalizing more with
  | zero => exact .no_rounds (eachLoop next' body') rfl
  | succ rounds ih =>
      obtain ⟨more, rfl, hmore⟩ := h.exists_succ
      simp only [eachLoop]
      infer_instance

instance (otherwise : List Stmt) (flow : Option Flow) :
    Corresponds C (afterLoop m env otherwise flow) (afterLoop m' env otherwise flow) := by
  cases flow <;> simp only [afterLoop] <;> infer_instance

/-! ### Statements -/

instance (op : BinaryOp) (old new : Value) :
    Corresponds C (updateValue m op old new) (updateValue m' op old new) := by
  have hlist (address : Nat) (old v : Value) : Respects C (match v with
      | .list repeated => do
        store address (.list ((← get).listArray repeated))
        pure old
      | v => pure v : Run Value) := by
    split
    · exact .read (fun _ => inferInstance) fun _ _ _ => rfl
    · infer_instance
  unfold updateValue
  cases op
  case add =>
    cases old
    case list => exact .then fun _ => .read (fun _ => inferInstance) fun _ _ _ => rfl
    all_goals infer_instance
  case multiply => cases old <;> infer_instance
  all_goals infer_instance

instance [Free C env] (target : Expr) (op : BinaryOp) (value : Expr) :
    Corresponds C (updateTarget m env line target op value)
      (updateTarget m' env line target op value) := by
  unfold updateTarget
  cases target <;> infer_instance

instance [Free C env] (target : Expr) :
    Corresponds C (deleteTarget m env target) (deleteTarget m' env target) := by
  fun_induction deleteTarget m env target
  case case3 items ih | case4 items ih =>
    have hdelete (a : { item // item ∈ items }) : Corresponds C
        (match a with | ⟨item, _⟩ => deleteTarget m env item)
        (match a with | ⟨item, _⟩ => deleteTarget m' env item) :=
      ih a.1 a.2
    rw [deleteTarget]
    infer_instance
  all_goals
    simp only [deleteTarget]
    infer_instance

instance (target : Expr) :
    Corresponds C (touchTarget m env target) (touchTarget m' env target) := by
  cases target <;> simp only [touchTarget] <;> infer_instance

/-- A table for annotations may be made where names may be changed. -/
theorem respects_makeHintTable {space : Nat} (hspace : C.free space) (program : List Stmt) :
    Respects C (makeHintTable space program) := by
  have hbind (notes : Nat) : Respects C (modifyNames space (Names.bind hintTable (.dict notes))) :=
    ⟨C.modifyNames _ hspace⟩
  have hmake : Respects C (do
      let w ← get
      if ((w.names space).lookup hintTable).isNone then
        let notes ← allocate (.dict [])
        modifyNames space (Names.bind hintTable (.dict notes))) :=
    .read (fun _ => inferInstance) fun _ _ _ => rfl
  unfold makeHintTable
  infer_instance

instance [hfree : Free C env] (program : List Stmt) :
    Respects C (makeHintTable env.globals program) :=
  respects_makeHintTable hfree.globals program

instance [Free C env] (line : Nat) (target hint : Expr) :
    Corresponds C (noteHint m env line target hint) (noteHint m' env line target hint) := by
  unfold noteHint
  cases target
  case name line id => cases hint.hintText? false <;> infer_instance
  all_goals infer_instance

/-! ### Definitions -/

instance (decorators : List Decorator) :
    Corresponds C (decoratorValues m env decorators) (decoratorValues m' env decorators) := by
  unfold decoratorValues
  infer_instance

instance (decorators : List (Nat × Value)) (v : Value) :
    Corresponds C (decorate m env decorators v) (decorate m' env decorators v) := by
  unfold decorate
  infer_instance

instance (args : Arguments) : Respects C (plainBase args) := by
  fun_cases plainBase args <;> infer_instance

/-- The names of a class are new, so its body may change them. -/
instance [Free C env] (title : String) (body : List Stmt) :
    Corresponds C (runClassBody m env title body) (runClassBody m' env title body) := by
  refine .then fun home => .newSpace_bind fun space hspace => ?_
  have := respects_makeHintTable hspace body
  have hclass : C.free (classScope space body).space := hspace
  have := Free.inside env.outsideClass hclass (title ++ ".")
  have hnames : Respects C (do pure ((← get).names space) : Run Names) :=
    .read (fun _ => inferInstance) fun _ _ _ => rfl
  infer_instance

instance [Free C env] (name : String) (arguments : List Argument) (isPrivate : Bool)
    (body : List Stmt) :
    Corresponds C (makeClass m env line name arguments isPrivate body)
      (makeClass m' env line name arguments isPrivate body) := by
  have hmake (title : String) (isPlain : Bool) : Corresponds C
      (do
        if (← get).room < 2 then raiseTooDeep " while calling a Python object"
        let names ← deeper 2 (runClassBody m env title body)
        let definition : ClassDefinition := { name := name, qualifiedName := title, isPlain, names }
        pure (.class_ (← allocate (.class_ definition))) : Run Value)
      (do
        if (← get).room < 2 then raiseTooDeep " while calling a Python object"
        let names ← deeper 2 (runClassBody m' env title body)
        let definition : ClassDefinition := { name := name, qualifiedName := title, isPlain, names }
        pure (.class_ (← allocate (.class_ definition)))) :=
    .read (fun _ => inferInstance) fun _ _ _ => rfl
  exact .read (fun _ => inferInstance) fun _ _ _ => rfl

/-! ### Imports -/

instance (path : List String) (outermost : Bool) : Respects C (importModule env path outermost) :=
  .read (fun _ => inferInstance) fun _ _ _ => rfl

instance [Free C env] (modules : List Alias) : Respects C (bring env line modules) := by
  unfold bring
  infer_instance

instance [Free C env] (origin : Origin) (names : List Alias) :
    Respects C (bringFrom env line origin names) := by
  unfold bringFrom
  infer_instance

/-! ### Choices by pattern -/

instance (f : γ → Run Bool) (xs : List γ) [∀ a, Respects C (f a)] : Respects C (xs.anyM f) := by
  induction xs with
  | nil => rw [List.anyM]; infer_instance
  | cons x xs ih =>
      rw [List.anyM]
      exact .then fun found => by cases found <;> infer_instance

instance (v : Value) (count : Nat) (atLeast : Bool) :
    Corresponds C (sequenceItems? m v count atLeast) (sequenceItems? m' v count atLeast) := by
  unfold sequenceItems?
  cases v <;> infer_instance

instance (entries : List (Value × Value)) (before keys : List Value) :
    Respects C (keyValues entries before keys) := by
  induction keys generalizing before with
  | nil => simp only [keyValues]; infer_instance
  | cons key rest ih => simp only [keyValues]; infer_instance

instance (keys : List Value) (entries : List (Value × Value)) :
    Respects C (entriesWithout keys entries) := by
  unfold entriesWithout
  infer_instance

instance (before : Names) (step step' : Run (Option Names)) [Corresponds C step step'] :
    Corresponds C (joinBound before step) (joinBound before step') := by
  unfold joinBound
  infer_instance

mutual

theorem corresponds_fits {m m' : Machine} [MachineCorresponds C m m'] {env : Env}
    (p : Pattern) (v : Value) :
    Corresponds C (fits m env p v) (fits m' env p v) := by
  cases p with
  | anything _ | capture _ _ | rest _ _ | constant _ _ => simp only [fits]; infer_instance
  | equal _ _ | instance_ _ _ _ _ _ => simp only [fits]; infer_instance
  | sequence _ patterns =>
      have hall (values : List Value) :
          Corresponds C (fitAll m env patterns values) (fitAll m' env patterns values) :=
        corresponds_fitAll patterns values
      simp only [fits]
      cases patterns.findIdx? isRest <;> infer_instance
  | mapping line keys patterns rest =>
      have hall (values : List Value) :
          Corresponds C (fitAll m env patterns values) (fitAll m' env patterns values) :=
        corresponds_fitAll patterns values
      have hkeys (entries : List (Value × Value)) (ks : List Value) : Respects C (do
          if !keys.isEmpty && (← get).room < 1 then raiseTooDeep " while calling a Python object"
          keyValues entries [] ks) :=
        .read (fun _ => inferInstance) fun _ _ _ => rfl
      simp only [fits]
      cases rest <;> infer_instance
  | either _ options =>
      have hfirst : Corresponds C (fitFirst m env options v) (fitFirst m' env options v) :=
        corresponds_fitFirst options v
      simp only [fits]
      infer_instance
  | named _ pattern name =>
      have hpattern : Corresponds C (fits m env pattern v) (fits m' env pattern v) :=
        corresponds_fits pattern v
      simp only [fits]
      infer_instance

theorem corresponds_fitAll {m m' : Machine} [MachineCorresponds C m m'] {env : Env}
    (patterns : List Pattern) (values : List Value) :
    Corresponds C (fitAll m env patterns values) (fitAll m' env patterns values) := by
  rcases patterns with _ | ⟨p, patterns⟩
  · simp only [fitAll]; infer_instance
  · rcases values with _ | ⟨v, values⟩
    · simp only [fitAll]; infer_instance
    · have hfits : Corresponds C (fits m env p v) (fits m' env p v) := corresponds_fits p v
      have hall : Corresponds C (fitAll m env patterns values) (fitAll m' env patterns values) :=
        corresponds_fitAll patterns values
      simp only [fitAll]
      infer_instance

theorem corresponds_fitFirst {m m' : Machine} [MachineCorresponds C m m'] {env : Env}
    (options : List Pattern) (v : Value) :
    Corresponds C (fitFirst m env options v) (fitFirst m' env options v) := by
  rcases options with _ | ⟨p, rest⟩
  · simp only [fitFirst]; infer_instance
  · have hfits : Corresponds C (fits m env p v) (fits m' env p v) := corresponds_fits p v
    have hfirst : Corresponds C (fitFirst m env rest v) (fitFirst m' env rest v) :=
      corresponds_fitFirst rest v
    simp only [fitFirst]
    infer_instance

end

instance [Free C env] (v : Value) (cases_ : List Case) :
    Corresponds C (selectCase m env v cases_) (selectCase m' env v cases_) := by
  induction cases_ with
  | nil => simp only [selectCase]; infer_instance
  | cons c rest ih =>
      obtain ⟨pattern, guard, body⟩ := c
      have hfits : Corresponds C (fits m env pattern v) (fits m' env pattern v) :=
        corresponds_fits pattern v
      simp only [selectCase]
      infer_instance

/-! ### All statements -/

instance [Free C env] (s : Stmt) : Corresponds C (executeStep m env s) (executeStep m' env s) := by
  cases s
  case annotate line simple target hint value =>
    simp only [executeStep]
    cases value <;> infer_instance
  case giveBack line value => cases value <;> simp only [executeStep] <;> infer_instance
  case raise line error cause => cases error <;> simp only [executeStep] <;> infer_instance
  case assert line test message =>
    simp only [executeStep]
    refine .then fun _ => .read (fun _ => ?_) fun _ _ _ => rfl
    cases message <;> infer_instance
  case each line async target source body otherwise =>
    cases async <;> simp only [executeStep] <;> infer_instance
  case manage line async managed body =>
    cases async <;> cases managed <;> simp only [executeStep]
    case false.cons item rest =>
      exact .then fun _ => .read (fun _ => inferInstance) fun _ _ _ => rfl
    all_goals infer_instance
  all_goals
    simp only [executeStep]
    infer_instance

instance [Free C env] (program : List Stmt) :
    Corresponds C (executeAll m env program) (executeAll m' env program) := by
  induction program with
  | nil => simp only [executeAll]; infer_instance
  | cons s rest ih =>
      simp only [executeAll]
      infer_instance

end Codeweave.Script
