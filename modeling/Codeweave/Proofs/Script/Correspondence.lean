import Codeweave.Proofs.Script.NamedText

/-!
Correspondences between steps. What a run does is compared in several ways: with the run under
another name, with the run that is followed farther, with the state before it. Each of these is a
relation between steps that is kept when steps are put together, so that it holds of all that two
machines do if it holds of their parts. How it is led through expressions, statements and calls does
not depend on the relation.
-/

namespace Codeweave.Script

/-- A text is read off a state; without a name it may be missing, with every name it is the same. -/
class Legible {β : Type} (text : World → Except TextError β) : Prop where
  same : ∀ w label journal, World.label w = none → SameText (text w) (text (w.named label journal))

/-- A relation between steps that is kept when steps are put together. Nothing is known of what
reads the name of the run, but of texts. -/
structure Correspondence where
  rel {α : Type} : Run α → Run α → Prop
  /-- the name spaces whose names may be changed -/
  free : Nat → Prop
  /-- for how many rounds loops are followed in the one and in the other run -/
  rounds : Nat → Nat → Prop
  rounds_zero {α : Type} {more : Nat} {step : Run α} :
    rounds 0 (more + 1) → rel (throw .abandoned) step
  rounds_succ {fewer more : Nat} :
    rounds (fewer + 1) more → ∃ most, more = most + 1 ∧ rounds fewer most
  pure {α : Type} (a : α) : rel (pure a) (pure a)
  throw {α : Type} (stop : Stop) : rel (throw stop : Run α) (throw stop)
  bind {α β : Type} {step step' : Run α} {next next' : α → Run β} :
    rel step step' → (∀ a, rel (next a) (next' a)) → rel (step >>= next) (step' >>= next')
  /-- What goes on with an outcome must not go on with the outcome of a step that was given up. -/
  outcome {α β : Type} {step step' : Run α} {next next' : Except Stop α → Run β} :
    rel step step' → (∀ w, (runFrom w (next (.error .abandoned))).1 = .error .abandoned) →
      (∀ result, rel (next result) (next' result)) →
        rel (outcome step >>= next) (outcome step' >>= next')
  read {α : Type} {next next' : World → Run α} :
    (∀ w, rel (next w) (next' w)) →
      (∀ w label journal, next (World.named w label journal) = next w) →
        rel (get >>= next) (get >>= next')
  legible {α β : Type} {text : World → Except TextError α} {next : World → α → Run β} :
    Legible text → (∀ w a, rel (next w a) (next w a)) →
      (∀ w label journal, next (World.named w label journal) = next w) →
        rel (get >>= fun w => orRaise (text w) >>= next w)
          (get >>= fun w => orRaise (text w) >>= next w)
  giveUp {α : Type} : rel (giveUp : Run α) giveUp
  /-- a step that leaves all names alone, and of all outputs works on the current one at most -/
  plain {α : Type} {step : Run α} (a : World → α) (change : World → World) :
    (∀ w, runFrom w step = (.ok (a w), change w)) →
      (∀ w, (change w).label = w.label ∧ (change w).wanted = w.wanted ∧
        (change w).spaces = w.spaces ∧ (change w).outputs = w.outputs) →
      (∀ w label journal, a (World.named w label journal) = a w) →
      (∀ w label journal, ∃ journal',
        change (World.named w label journal) = (change w).named label journal') →
        rel step step
  modifyNames {space : Nat} (change : Names → Names) :
    free space → rel (modifyNames space change) (modifyNames space change)
  newSpace {β : Type} {names : Names} {next next' : Nat → Run β} :
    (∀ space, free space → rel (next space) (next' space)) →
      rel (newSpace names >>= next) (newSpace names >>= next')
  captured {step step' : Run Unit} : rel step step' → rel (captured step) (captured step')
  onOutput {α : Type} (address : Nat) {step step' : Run α} :
    rel step step' → rel (onOutput address step) (onOutput address step')

theorem exists_of_succ_eq {fewer more : Nat} (h : fewer + 1 = more) :
    ∃ most, more = most + 1 ∧ fewer = most :=
  ⟨fewer, h.symm, rfl⟩

/-- The first step stands to the second as the correspondence says. -/
class Corresponds (C : Correspondence) {α : Type} (step step' : Run α) : Prop where
  rel : C.rel step step'

abbrev Respects (C : Correspondence) {α : Type} (step : Run α) : Prop :=
  Corresponds C step step

/-- Loops are followed for so many rounds in the one and in the other run. -/
class Rounds (C : Correspondence) (rounds more : Nat) : Prop where
  rel : C.rounds rounds more

/-- The code may change its global names and the names of the functions around it. -/
class Free (C : Correspondence) (env : Env) : Prop where
  globals : C.free env.globals
  scopes : ∀ scope ∈ env.scopes, C.free scope.space

variable {C : Correspondence} {α β γ : Type}

/-! ### Plain steps -/

instance (a : α) : Respects C (pure a : Run α) := ⟨C.pure a⟩

instance (stop : Stop) : Respects C (throw stop : Run α) := ⟨C.throw stop⟩

instance : Respects C (giveUp : Run α) := ⟨C.giveUp⟩

/-! ### Sequences -/

instance Corresponds.bind (step step' : Run α) (next next' : α → Run β)
    [h : Corresponds C step step']
    [hnext : ∀ a, Corresponds C (next a) (next' a)] :
    Corresponds C (step >>= next) (step' >>= next') :=
  ⟨C.bind h.rel fun a => (hnext a).rel⟩

theorem Corresponds.then {step step' : Run α} {next next' : α → Run β} [Corresponds C step step']
    (hnext : ∀ a, Corresponds C (next a) (next' a)) :
    Corresponds C (step >>= next) (step' >>= next') :=
  inferInstance

/-- What goes on with the outcome of a step does not go on if the step was given up. -/
theorem Corresponds.outcome {step step' : Run α} {next next' : Except Stop α → Run β}
    [h : Corresponds C step step']
    (hgiven : ∀ w, (runFrom w (next (.error .abandoned))).1 = .error .abandoned)
    (hnext : ∀ result, Corresponds C (next result) (next' result)) :
    Corresponds C (outcome step >>= next) (outcome step' >>= next') :=
  ⟨C.outcome h.rel hgiven fun result => (hnext result).rel⟩

/-- Reads the state, and goes on with what does not depend on the name. -/
theorem Corresponds.read {next next' : World → Run α}
    (hnext : ∀ w, Corresponds C (next w) (next' w))
    (hread : ∀ w label journal, next (World.named w label journal) = next w) :
    Corresponds C (get >>= next) (get >>= next') :=
  ⟨C.read (fun w => (hnext w).rel) hread⟩

theorem Corresponds.legible {text : World → Except TextError α} {next : World → α → Run β}
    [htext : Legible text] (hnext : ∀ w a, Respects C (next w a))
    (hread : ∀ w label journal, next (World.named w label journal) = next w) :
    Respects C (get >>= fun w => orRaise (text w) >>= next w) :=
  ⟨C.legible htext (fun w a => (hnext w a).rel) hread⟩

theorem Corresponds.modify {change : World → World}
    (hkeeps : ∀ w, (change w).label = w.label ∧ (change w).wanted = w.wanted ∧
      (change w).spaces = w.spaces ∧ (change w).outputs = w.outputs)
    (hchange : ∀ w label journal, ∃ journal',
      change (World.named w label journal) = (change w).named label journal') :
    Respects C (modify change : Run Unit) :=
  ⟨C.plain (fun _ => ()) change (fun _ => rfl) hkeeps (fun _ _ _ => rfl) hchange⟩

instance (priority := low) (step step' : Run (Option α)) (next next' : Option α → Run β)
    [Corresponds C step step'] [Corresponds C (next none) (next' none)]
    [hsome : ∀ a, Corresponds C (next (some a)) (next' (some a))] :
    Corresponds C (step >>= next) (step' >>= next') :=
  .then fun
    | none => inferInstance
    | some a => hsome a

instance (priority := low) (step step' : Run (α × γ)) (next next' : α × γ → Run β)
    [Corresponds C step step'] [hpair : ∀ a c, Corresponds C (next (a, c)) (next' (a, c))] :
    Corresponds C (step >>= next) (step' >>= next') :=
  .then fun (a, c) => hpair a c

instance (priority := low) (step step' : Run (List α)) (next next' : List α → Run β)
    [Corresponds C step step'] [Corresponds C (next []) (next' [])]
    [hcons : ∀ a rest, Corresponds C (next (a :: rest)) (next' (a :: rest))] :
    Corresponds C (step >>= next) (step' >>= next') :=
  .then fun
    | [] => inferInstance
    | a :: rest => hcons a rest

instance (f : α → β) (step step' : Run α) [Corresponds C step step'] :
    Corresponds C (f <$> step) (f <$> step') := by
  rw [← bind_pure_comp, ← bind_pure_comp]
  infer_instance

instance (p : Prop) [Decidable p] (x y x' y' : Run α) [Corresponds C x x'] [Corresponds C y y'] :
    Corresponds C (if p then x else y) (if p then x' else y') := by
  split <;> infer_instance

/-! ### Outcomes -/

theorem tryCatch_eq_outcome_bind (step : Run α) (handler : Stop → Run α) :
    tryCatchThe Stop step handler =
      outcome step >>= fun
        | .ok a => pure a
        | .error stop => handler stop := by
  funext w
  change runFrom w _ = runFrom w _
  rw [runFrom_tryCatch, runFrom_bind, runFrom_outcome]
  rcases runFrom w step with ⟨_ | _, _⟩ <;> rfl

/-- A step whose errors are handled is given up if it was given up before. -/
theorem Corresponds.tryCatch {step step' : Run α} {handler : Raised → Run α}
    [Corresponds C step step'] (hhandler : ∀ error, Respects C (handler error)) :
    Corresponds C
      (tryCatchThe Stop step fun
        | .raised error => handler error
        | .abandoned => throw .abandoned)
      (tryCatchThe Stop step' fun
        | .raised error => handler error
        | .abandoned => throw .abandoned) := by
  rw [tryCatch_eq_outcome_bind, tryCatch_eq_outcome_bind]
  refine .outcome (fun _ => rfl) fun
    | .ok a => inferInstance
    | .error .abandoned => inferInstance
    | .error (.raised error) => hhandler error

instance (result : Except Stop α) : Respects C (resume result) := by
  unfold resume
  split <;> infer_instance

/-! ### Lists -/

instance (f f' : α → Run β) (xs : List α) [∀ a, Corresponds C (f a) (f' a)] :
    Corresponds C (xs.mapM f) (xs.mapM f') := by
  induction xs with
  | nil => rw [List.mapM_nil, List.mapM_nil]; infer_instance
  | cons x xs ih => rw [List.mapM_cons, List.mapM_cons]; infer_instance

instance (f f' : α → Run PUnit) (xs : List α) [∀ a, Corresponds C (f a) (f' a)] :
    Corresponds C (xs.forM f) (xs.forM f') := by
  induction xs with
  | nil => rw [List.forM, List.forM]; infer_instance
  | cons x xs ih => rw [List.forM, List.forM]; infer_instance

instance (f f' : γ → α → Run γ) (c : γ) (xs : List α) [∀ c a, Corresponds C (f c a) (f' c a)] :
    Corresponds C (xs.foldlM f c) (xs.foldlM f' c) := by
  induction xs generalizing c with
  | nil => rw [List.foldlM_nil, List.foldlM_nil]; infer_instance
  | cons x xs ih => rw [List.foldlM_cons, List.foldlM_cons]; infer_instance

instance (f f' : α → Run β) (a : Option α) [∀ a, Corresponds C (f a) (f' a)] :
    Corresponds C (a.mapM f) (a.mapM f') := by
  cases a with
  | none => exact (inferInstance : Respects C (pure none : Run (Option β)))
  | some a => exact (inferInstance : Corresponds C (some <$> f a) (some <$> f' a))

instance (f : α → Run Bool) (xs : List α) [∀ a, Respects C (f a)] : Respects C (xs.findM? f) := by
  induction xs with
  | nil => rw [List.findM?]; infer_instance
  | cons x xs ih =>
      rw [List.findM?]
      exact .then fun found => by cases found <;> infer_instance

instance (f : α → Run Bool) (xs kept : List α) [∀ a, Respects C (f a)] :
    Respects C (xs.filterAuxM f kept) := by
  induction xs generalizing kept with
  | nil => rw [List.filterAuxM]; infer_instance
  | cons x xs ih => rw [List.filterAuxM]; infer_instance

instance (f : α → Run Bool) (xs : List α) [∀ a, Respects C (f a)] : Respects C (xs.filterM f) := by
  unfold List.filterM
  infer_instance

/-! ### Errors -/

instance (problem : Problem) : Respects C (raiseProblem problem : Run α) := by
  unfold raiseProblem
  infer_instance

instance (c : ErrorClass) (message : String) : Respects C (raiseWith c message : Run α) := by
  unfold raiseWith
  infer_instance

instance (fault : Fault) : Respects C (raiseFault fault : Run α) := by
  unfold raiseFault
  infer_instance

instance (frame : Frame) (step step' : Run α) [Corresponds C step step'] :
    Corresponds C (withFrame frame step) (withFrame frame step') :=
  .tryCatch fun _ => inferInstance

instance (env : Env) (line : Nat) (step step' : Run α) [Corresponds C step step'] :
    Corresponds C (env.at line step) (env.at line step') := by
  unfold Env.at
  infer_instance

/-! ### The state -/

instance (object : Object) : Respects C (allocate object) :=
  ⟨C.plain (fun w => w.objects.size) (fun w => { w with objects := w.objects.push object })
    (fun _ => rfl) (fun _ => ⟨rfl, rfl, rfl, rfl⟩) (fun _ _ _ => rfl)
    fun _ _ journal => ⟨journal, rfl⟩⟩

instance (address : Nat) (object : Object) : Respects C (store address object) :=
  .modify (fun _ => ⟨rfl, rfl, rfl, rfl⟩) fun _ _ journal => ⟨journal, rfl⟩

instance (address : Nat) (source : Source) : Respects C (setSource address source) :=
  .modify (fun _ => ⟨rfl, rfl, rfl, rfl⟩) fun _ _ journal => ⟨journal, rfl⟩

instance (address : Nat) (v : Value) : Respects C (pushTo address v) :=
  .modify (fun _ => ⟨rfl, rfl, rfl, rfl⟩) fun _ _ journal => ⟨journal, rfl⟩

instance (remark : Remark) : Respects C (say remark) :=
  .modify (fun _ => ⟨rfl, rfl, rfl, rfl⟩) fun _ _ journal => ⟨journal.push remark, rfl⟩

instance (change : Builder → Builder) : Respects C (modifyBuilder change) :=
  .modify (fun _ => ⟨rfl, rfl, rfl, rfl⟩) fun _ _ journal => ⟨journal, rfl⟩

instance (depth : Nat) : Respects C (modify fun w => { w with depth := depth } : Run Unit) :=
  .modify (fun _ => ⟨rfl, rfl, rfl, rfl⟩) fun _ _ journal => ⟨journal, rfl⟩

instance (addresses : List Nat) :
    Respects C (modify fun w => { w with handling := addresses } : Run Unit) :=
  .modify (fun _ => ⟨rfl, rfl, rfl, rfl⟩) fun _ _ journal => ⟨journal, rfl⟩

instance (items : List Value) : Respects C (newList items) := by
  unfold newList
  infer_instance

instance (kind : String) (source : Source) : Respects C (newIterator kind source) := by
  unfold newIterator
  infer_instance

/-! ### Nesting -/

instance (where_ : String) : Respects C (raiseTooDeep where_ : Run α) := by
  unfold raiseTooDeep
  infer_instance

instance (levels : Nat) (step step' : Run α) [Corresponds C step step'] :
    Corresponds C (deeper levels step) (deeper levels step') := by
  unfold deeper
  refine .read (fun w => ?_) fun _ _ _ => ?_
  · dsimp only
    split
    · infer_instance
    · exact .then fun _ => .outcome (fun _ => rfl) fun _ => inferInstance
  · rfl

instance (answer : Except TextError α) : Respects C (orRaise answer) := by
  unfold orRaise
  split <;> infer_instance

instance (size : Nat) : Respects C (requireMemory size) :=
  .read (fun _ => inferInstance) fun _ _ _ => rfl

/-- What goes on after a step that is done while an error is being handled does not go on if the
step was given up. -/
theorem Corresponds.whileHandling {step step' : Run α} {next next' : Except Stop α → Run β}
    [Corresponds C step step'] (address : Nat)
    (hgiven : ∀ w, (runFrom w (next (.error .abandoned))).1 = .error .abandoned)
    (hnext : ∀ result, Corresponds C (next result) (next' result)) :
    Corresponds C (whileHandling address step >>= next)
      (whileHandling address step' >>= next') := by
  simp only [Script.whileHandling, bind_assoc, pure_bind]
  refine .read (fun w => .then fun _ => .outcome (fun w => ?_) fun result => ?_) fun _ _ _ => rfl
  · rw [runFrom_bind, runFrom_modify]
    exact hgiven _
  · infer_instance

/-! ### Loops -/

/-- A loop that is followed no farther stands as it should to whatever the other does. -/
theorem Corresponds.no_rounds {more : Nat} [h : Rounds C 0 more] (step : Nat → Run α)
    (hzero : step 0 = throw .abandoned) : Corresponds C (throw .abandoned) (step more) := by
  cases more with
  | zero => rw [hzero]; infer_instance
  | succ more => exact ⟨C.rounds_zero h.rel⟩

theorem Rounds.exists_succ {fewer more : Nat} [h : Rounds C (fewer + 1) more] :
    ∃ most, more = most + 1 ∧ Rounds C fewer most := by
  obtain ⟨most, rfl, hrounds⟩ := C.rounds_succ h.rel
  exact ⟨most, rfl, ⟨hrounds⟩⟩

/-! ### Outputs -/

instance (step step' : Run Unit) [h : Corresponds C step step'] :
    Corresponds C (captured step) (captured step') :=
  ⟨C.captured h.rel⟩

instance (address : Nat) (step step' : Run α) [h : Corresponds C step step'] :
    Corresponds C (onOutput address step) (onOutput address step') :=
  ⟨C.onOutput address h.rel⟩

/-! ### Names -/

theorem Corresponds.newSpace_bind {names : Names} {next next' : Nat → Run β}
    (hnext : ∀ space, C.free space → Corresponds C (next space) (next' space)) :
    Corresponds C (newSpace names >>= next) (newSpace names >>= next') :=
  ⟨C.newSpace fun space hspace => (hnext space hspace).rel⟩

instance (names : Names) : Respects C (newSpace names) := by
  have h : Respects C (newSpace names >>= pure) := .newSpace_bind fun _ _ => inferInstance
  simpa using h

theorem spaceOf_scopePlace (env : Env) (s : Scope) (innermost : Bool) :
    env.spaceOf (s.place innermost) = s.space := by
  unfold Scope.place
  split
  · rfl
  · split <;> rfl

theorem spaceOf_placeAmong_mem (env : Env) (name : String) (innermost : Bool)
    (scopes : List Scope) :
    env.spaceOf (placeAmong name innermost scopes) = env.globals ∨
      ∃ scope ∈ scopes, env.spaceOf (placeAmong name innermost scopes) = scope.space := by
  fun_induction placeAmong name innermost scopes
  case case1 => exact .inl rfl
  case case2 => exact .inl rfl
  case case3 innermost s rest _ _ =>
    exact .inr ⟨s, List.mem_cons_self, spaceOf_scopePlace env s innermost⟩
  case case4 s rest _ _ ih =>
    rcases ih with h | ⟨scope, hscope, h⟩
    · exact .inl h
    · exact .inr ⟨scope, List.mem_cons_of_mem s hscope, h⟩

namespace Free

variable (env : Env) [henv : Free C env]

include henv

theorem spaceOf_place (name : String) : C.free (env.spaceOf (env.place name)) := by
  rw [Env.place]
  rcases spaceOf_placeAmong_mem env name true env.scopes with h | ⟨scope, hscope, h⟩ <;> rw [h]
  · exact henv.globals
  · exact henv.scopes scope hscope

instance outsideComprehensions : Free C env.outsideComprehensions where
  globals := henv.globals
  scopes scope hscope := henv.scopes scope ((List.dropWhile_sublist _).subset hscope)

instance outsideClass : Free C env.outsideClass where
  globals := henv.globals
  scopes scope hscope := henv.scopes scope (List.mem_filter.1 hscope).1

/-- Code in a scope of its own may change its names, too. -/
theorem inside {scope : Scope} (hscope : C.free scope.space) (qualifier : String) :
    Free C { env with scopes := scope :: env.scopes, qualifier := qualifier } where
  globals := henv.globals
  scopes other hother := by
    rcases List.mem_cons.mp hother with rfl | hother
    · exact hscope
    · exact henv.scopes other hother

end Free

end Codeweave.Script
