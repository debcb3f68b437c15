import Codeweave.Proofs.Script.CorrespondingCalls
import Codeweave.Script.Evaluate

/-!
Expressions under a correspondence: if the machines that evaluate their parts stand to each other as
it says, then so do the two evaluations, as long as the code may change the names it binds.
-/

namespace Codeweave.Script

variable {C : Correspondence} {α : Type} (m m' : Machine) [MachineCorresponds C m m'] (env : Env)
  (line : Nat)

/-! ### Parts of expressions -/

instance (items : List Expr) :
    Corresponds C (spreadItems m env line items) (spreadItems m' env line items) := by
  induction items with
  | nil => simp only [spreadItems]; infer_instance
  | cons e rest ih => cases e <;> simp only [spreadItems] <;> infer_instance

instance (v : Value) : Respects C (mappingEntries v) :=
  .read (fun _ => by split <;> infer_instance) fun _ _ _ => rfl

instance (entries more : List (Value × Value)) : Respects C (putEntries entries more) := by
  unfold putEntries
  infer_instance

instance (pairs : List (Expr × Expr)) :
    Corresponds C (pairValues m env pairs) (pairValues m' env pairs) := by
  induction pairs with
  | nil => simp only [pairValues]; infer_instance
  | cons pair rest ih => simp only [pairValues]; infer_instance

instance (steps : Nat) (entries : List Entry) (before : List (Value × Value)) :
    Corresponds C (dictEntries m env line steps entries before)
      (dictEntries m' env line steps entries before) := by
  induction steps generalizing entries before with
  | zero => simp only [dictEntries]; infer_instance
  | succ steps ih =>
      rcases entries with _ | ⟨_ | _, rest⟩ <;> simp only [dictEntries] <;> infer_instance

instance (pieces : List Piece) :
    Corresponds C (pieceTexts m env pieces) (pieceTexts m' env pieces) := by
  induction pieces with
  | nil => simp only [pieceTexts]; infer_instance
  | cons piece rest ih =>
      cases piece <;> simp only [pieceTexts]
      case shown line value quoted special format =>
        cases special <;> cases quoted <;> infer_instance
      all_goals infer_instance

instance (left : Value) (rest : List (CompareOp × Expr)) :
    Corresponds C (compareChain m env line left rest) (compareChain m' env line left rest) := by
  induction rest generalizing left with
  | nil => simp only [compareChain]; infer_instance
  | cons pair rest ih => simp only [compareChain]; infer_instance

instance (e : Option Expr) : Corresponds C (optional m env e) (optional m' env e) := by
  cases e <;> simp only [optional] <;> infer_instance

/-! ### Targets -/

instance (v : Value) (count : Option Nat) :
    Corresponds C (unpackItems m v count) (unpackItems m' v count) := by
  unfold unpackItems
  cases v
  case list address => exact .read (fun _ => inferInstance) fun _ _ _ => rfl
  all_goals cases count <;> infer_instance

instance (targets : List Expr) (v : Value) :
    Corresponds C (distribute m targets v) (distribute m' targets v) := by
  simp only [distribute]
  cases targets.findIdx? isStarred <;> infer_instance

instance [Free C env] (target : Expr) (v : Value) :
    Corresponds C (assignTo m env target v) (assignTo m' env target v) := by
  fun_induction assignTo m env target v
  case case3 targets v ih | case4 targets v ih =>
    have hassign (a : { target // target ∈ targets } × Value) : Corresponds C
        (match a with | (⟨target, _⟩, x) => assignTo m env target x)
        (match a with | (⟨target, _⟩, x) => assignTo m' env target x) :=
      ih a.1.1 a.1.2 a.2
    rw [assignTo]
    infer_instance
  all_goals
    simp only [assignTo]
    infer_instance

/-! ### Comprehensions -/

instance (conditions : List Expr) :
    Corresponds C (allHold m env conditions) (allHold m' env conditions) := by
  induction conditions with
  | nil => simp only [allHold]; infer_instance
  | cons e rest ih => simp only [allHold]; infer_instance

section

variable (p : Progress) [Free C p.env]

instance : Corresponds C (elementValue m p) (elementValue m' p) := by
  unfold elementValue
  exact .then fun v => by split <;> infer_instance

instance (rounds more : Nat) [h : Rounds C rounds more] (active : List Nat) :
    Corresponds C (nextElement m p rounds active) (nextElement m' p more active) := by
  induction rounds generalizing more active with
  | zero => exact .no_rounds (nextElement m' p · active) rfl
  | succ rounds ih =>
      obtain ⟨more, rfl, hmore⟩ := h.exists_succ
      rcases active with _ | ⟨innermost, outer⟩
      · simp only [nextElement]; infer_instance
      · simp only [nextElement]
        cases p.clauses[outer.length]? with
        | none => infer_instance
        | some clause =>
            refine .then fun found => ?_
            cases found with
            | none => infer_instance
            | some x =>
                refine .then fun _ => .then fun holds => ?_
                cases p.clauses[outer.length + 1]? <;> infer_instance

instance (rounds more : Nat) [h : Rounds C rounds more] (active : List Nat) (taken : Array Value) :
    Corresponds C (allElements m p rounds active taken) (allElements m' p more active taken) := by
  induction rounds generalizing more active taken with
  | zero => exact .no_rounds (allElements m' p · active taken) rfl
  | succ rounds ih =>
      obtain ⟨more, rfl, hmore⟩ := h.exists_succ
      simp only [allElements]
      infer_instance

instance (address : Nat) :
    Corresponds C (advanceElements m address p) (advanceElements m' address p) := by
  refine .then fun _ => .outcome (fun _ => rfl) fun
    | .ok found => by cases found <;> infer_instance
    | .error stop => .then fun _ => ?_
  split
  · split <;> infer_instance
  · infer_instance

end

instance (kind : ComprehensionKind) (elements : List Value) :
    Respects C (gather env line kind elements) := by
  cases kind <;> simp only [gather] <;> infer_instance

section

variable (kind : ComprehensionKind) (element : Expr) (clauses : List Clause)

/-- The scope of a comprehension is new, so what goes on may change the names that it binds. -/
theorem Corresponds.startComprehension [Free C env] {next next' : Progress → Run α}
    (hnext : ∀ p, Free C p.env → Corresponds C (next p) (next' p)) :
    Corresponds C (startComprehension m env line kind element clauses >>= next)
      (startComprehension m' env line kind element clauses >>= next') := by
  unfold Script.startComprehension
  cases clauses.head? with
  | none =>
      simp only [bind_assoc, pure_bind]
      exact .then fun _ => .newSpace_bind fun space hspace =>
        hnext _ (Free.inside env.outsideClass hspace _)
  | some c =>
      simp only [bind_assoc, pure_bind]
      exact .then fun _ => .then fun _ => .newSpace_bind fun space hspace =>
        hnext _ (Free.inside env.outsideClass hspace _)

instance [Free C env] :
    Corresponds C (comprehend m env line kind element clauses)
      (comprehend m' env line kind element clauses) := by
  unfold comprehend
  split
  · infer_instance
  · exact .startComprehension m m' env line kind element clauses fun p _ => inferInstance

end

/-! ### Functions and calls -/

instance (params : List Param) :
    Corresponds C (defaultValues m env params) (defaultValues m' env params) := by
  induction params with
  | nil => simp only [defaultValues]; infer_instance
  | cons p rest ih =>
      simp only [defaultValues]
      cases p.default <;> infer_instance

instance (name : String) (params : List Param) (body : FunctionBody) :
    Corresponds C (makeFunction m env name params body)
      (makeFunction m' env name params body) := by
  unfold makeFunction
  infer_instance

instance (callee : Value) : Legible fun w => w.calleeTitle callee where
  same w label journal hlabel := by
    have hwritten : SameText (w.written callee) ((w.named label journal).written callee) :=
      sameText_textWithin hlabel label journal ..
    unfold World.calleeTitle
    split
    case h_11 =>
      rcases hwritten with h | h
      · exact .inl (by rw [h])
      · exact .inr (by rw [h])
    all_goals exact .inr rfl

section

variable (receiver : Option Value) (v : Value)

instance : Legible fun w => w.receiverTitle receiver where
  same w label journal hlabel := by
    cases receiver with
    | none => exact .inr rfl
    | some callee =>
        have htitle : Legible fun w => w.calleeTitle callee := inferInstance
        exact htitle.same w label journal hlabel

instance (mark kind : String) : Respects C (raiseNotSpread receiver v mark kind : Run α) :=
  .legible (fun _ => inferInstance) fun _ _ _ => rfl

instance (before more : List (Value × Value)) : Respects C (addNamed receiver before more) := by
  fun_induction addNamed receiver before more <;> infer_instance

instance : Respects C (namedPairs receiver v) := by
  fun_cases namedPairs receiver v <;> infer_instance

instance (arguments : List Argument) (before row : List (Value × Value)) :
    Corresponds C (namedArgumentValues m env line receiver arguments before row)
      (namedArgumentValues m' env line receiver arguments before row) := by
  induction arguments generalizing before row with
  | nil => simp only [namedArgumentValues]; infer_instance
  | cons argument rest ih => cases argument <;> simp only [namedArgumentValues] <;> infer_instance

end

instance (pairs : List (Value × Value)) : Respects C (argumentNames pairs) := by
  have hname (pair : Value × Value) : Respects C (match pair with
      | (.text name, v) => pure (name, v)
      | _ => raiseWith .wrongType "keywords must be strings" : Run (String × Value)) := by
    split <;> infer_instance
  unfold argumentNames
  infer_instance

instance (f : Value) (arguments : List Argument) :
    Corresponds C (argumentValues m env line f arguments)
      (argumentValues m' env line f arguments) := by
  unfold argumentValues
  rcases positionalItems arguments with _ | ⟨e, _ | ⟨e', rest⟩⟩
  case cons.nil => cases e <;> simp only [pure_bind] <;> infer_instance
  all_goals
    simp only [pure_bind]
    infer_instance

instance (arguments : List Argument) :
    Corresponds C (classArguments m env line arguments) (classArguments m' env line arguments) := by
  unfold classArguments
  infer_instance

instance (f : Value) (args : Arguments) :
    Corresponds C (callHere m env f args) (callHere m' env f args) := by
  unfold callHere
  cases f
  case builtin b => cases b <;> infer_instance
  all_goals infer_instance

instance (callee : Expr) (arguments : List Argument) :
    Corresponds C (evaluateCall m env line callee arguments)
      (evaluateCall m' env line callee arguments) := by
  unfold evaluateCall
  infer_instance

instance [Free C env] (e : Expr) :
    Corresponds C (evaluateStep m env e) (evaluateStep m' env e) := by
  cases e <;> simp only [evaluateStep]
  case constant c => cases c.value? <;> infer_instance
  all_goals infer_instance

end Codeweave.Script
