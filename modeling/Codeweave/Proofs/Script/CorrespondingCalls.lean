import Codeweave.Proofs.Script.CorrespondingValues
import Codeweave.Script.Scope

/-!
Calls under a correspondence: how arguments are given to parameters, what the functions do that
every script has, and where names are looked up and bound.
-/

namespace Codeweave.Script

variable {C : Correspondence} {α β : Type} (m m' : Machine) [MachineCorresponds C m m']

/-! ### Arguments -/

section

variable (title : String) (args : Arguments)

instance (v : Value) : Respects C (argumentKind v) := by
  unfold argumentKind
  split
  · infer_instance
  · exact .read (fun _ => inferInstance) fun _ _ _ => rfl

instance (position : Nat) (v : Value) : Respects C (textAt title position v) := by
  fun_cases textAt title position v <;> infer_instance

instance : Respects C (args.refuseNamed title) := by
  unfold Arguments.refuseNamed
  infer_instance

instance : Respects C (args.refuse title) := by
  unfold Arguments.refuse
  infer_instance

instance : Respects C (args.only title) := by
  unfold Arguments.only
  (repeat' split) <;> infer_instance

instance (low high : Nat) : Respects C (args.between title low high) := by
  unfold Arguments.between
  infer_instance

instance (low high : Nat) : Respects C (args.counting title low high) := by
  unfold Arguments.counting
  infer_instance

instance (required : Nat) (params : List String) :
    Respects C (args.unpack title required params) := by
  fun_cases Arguments.unpack title required params args <;> infer_instance

instance (params : List String) : Respects C (args.unpackNamed title params) := by
  unfold Arguments.unpackNamed
  infer_instance

end

/-! ### Errors -/

section

variable (args : List Value)

instance (position : Nat) (v : Value) : Respects C (requireText position v) := by
  unfold requireText
  infer_instance

instance (v : Value) : Respects C (requirePosition v) := by
  fun_cases requirePosition v <;> infer_instance

instance (title : String) (count given : Nat) : Respects C (requireCount title count given) := by
  unfold requireCount
  infer_instance

instance (start stop reason : Value) (position : Nat) :
    Respects C (checkPlace start stop reason position) := by
  unfold checkPlace
  infer_instance

instance (hasCodec : Bool) : Respects C (checkConversion hasCodec args) := by
  unfold checkConversion
  (repeat' split) <;> infer_instance

instance : Respects C (checkDecoding args) :=
  .then fun _ => by split <;> infer_instance

instance : Corresponds C (parserPlace m args) (parserPlace m' args) := by
  unfold parserPlace
  rcases args with _ | ⟨v, _ | ⟨place, _ | ⟨v', rest⟩⟩⟩ <;> infer_instance

instance : Respects C (checkWritten args) := by
  unfold checkWritten
  split <;> infer_instance

instance : Corresponds C (groupMembers m args) (groupMembers m' args) := by
  refine .then fun _ => ?_
  split
  · have hitem (found : List Value) : Respects C (match
        found.findIdx? (fun | .error _ => false | _ => true) with
      | some i =>
        raiseWith .badValue ("Item " ++ toString i ++
          " of second argument (exceptions) is not an exception")
      | none => pure found : Run (List Value)) := by
      split <;> infer_instance
    infer_instance
  · infer_instance

instance (c : ErrorClass) (args : Arguments) :
    Corresponds C (makeGroup m c args) (makeGroup m' c args) :=
  .then fun _ => .read (fun _ => inferInstance) fun _ _ _ => rfl

instance (c : ErrorClass) :
    Corresponds C (checkErrorArguments m c args) (checkErrorArguments m' c args) := by
  unfold checkErrorArguments
  cases c <;> infer_instance

instance (c : ErrorClass) (args : Arguments) :
    Corresponds C (makeProblem m c args) (makeProblem m' c args) := by
  unfold makeProblem
  infer_instance

instance (title kind : String) (names : List String) :
    Respects C (raiseMissing title kind names : Run α) := by
  unfold raiseMissing
  infer_instance

instance (title : String) (params defaults given named : Nat) :
    Respects C (raiseTooMany title params defaults given named : Run α) := by
  unfold raiseTooMany
  infer_instance

instance (title : String) (params : List String) (defaults given : Nat) :
    Respects C (requireParameters title params defaults given) := by
  unfold requireParameters
  infer_instance

instance (name : String) : Corresponds C (problemOf m name args) (problemOf m' name args) := by
  have htext : Respects C (match args.head? with
      | some v => do pure (String.ofList (← writtenText v))
      | none => pure "" : Run String) := by
    split <;> infer_instance
  have hnamed (v : Value) (text : Run String) [Respects C text] : Respects C (do
      let w ← get
      let said ← text
      pure (.fault { cause := .execution (w.typeName v) (some said) } {}) : Run Problem) :=
    .read (fun _ => inferInstance) fun _ _ _ => rfl
  simp only [problemOf]
  cases ErrorClass.ofName? name with
  | some c => infer_instance
  | none => cases toldFaults.lookup name <;> infer_instance

end

/-! ### Parameters -/

instance (s : Signature) (given : Names) (name : String) :
    Respects C (s.raiseUnexpected given name : Run α) := by
  unfold Signature.raiseUnexpected
  infer_instance

instance (s : Signature) (given bound extra rest : Names) :
    Respects C (s.takeNamed given bound extra rest) := by
  fun_induction Signature.takeNamed s given bound extra rest <;> infer_instance

instance (s : Signature) (args : Arguments) : Respects C (s.bind args) := by
  unfold Signature.bind
  (repeat' split) <;> infer_instance

/-! ### Order -/

instance (x y : Value × Value) : Respects C (keyBefore x y) := by
  unfold keyBefore
  infer_instance

instance (falling : Bool) (last : Value × Value) (taken rest : List (Value × Value)) :
    Respects C (takeRun falling last taken rest) := by
  fun_induction takeRun falling last taken rest <;> infer_instance

instance (keyed : List (Value × Value)) : Respects C (leadingRun keyed) := by
  fun_cases leadingRun keyed <;> infer_instance

instance (xs : Array (Value × Value)) (x : Value × Value) (low high : Nat) :
    Respects C (insertionPoint xs x low high) := by
  fun_induction insertionPoint xs x low high <;> infer_instance

instance (xs : Array (Value × Value)) (x : Value × Value) : Respects C (insertOrdered xs x) := by
  unfold insertOrdered
  infer_instance

instance (xs : List (Value × Value)) : Respects C (orderByKey xs) := by
  unfold orderByKey
  infer_instance

instance (v : Value) : Respects C (switchArgument v) := by
  fun_cases switchArgument v <;> infer_instance

instance (key v : Value) : Corresponds C (keyOf m key v) (keyOf m' key v) := by
  unfold keyOf
  cases key <;> infer_instance

instance (args : Arguments) : Corresponds C (callSorted m args) (callSorted m' args) := by
  unfold callSorted
  refine .then fun given => ?_
  rcases given with _ | ⟨v, rest⟩
  · infer_instance
  · refine .then fun _ => .then fun given => ?_
    dsimp only
    cases (given[1]?).join <;> infer_instance

instance (key : Value) (better : Value → Value → Run Bool) (address rounds more : Nat)
    [h : Rounds C rounds more] (best : Option (Value × Value)) [∀ a b, Respects C (better a b)] :
    Corresponds C (bestOf m key better address rounds best)
      (bestOf m' key better address more best) := by
  induction rounds generalizing more best with
  | zero => exact .no_rounds (bestOf m' key better address · best) rfl
  | succ rounds ih =>
      obtain ⟨more, rfl, hmore⟩ := h.exists_succ
      simp only [bestOf]
      cases best <;> infer_instance

instance (title symbol : String) (goesBefore : Ordering → Bool) (args : Arguments) :
    Corresponds C (callExtreme m title symbol goesBefore args)
      (callExtreme m' title symbol goesBefore args) := by
  have hbest (iterator : Nat) (fallback : Option Value) (key : Value) : Corresponds C
      (do
        match ← bestOf m key (inOrder symbol goesBefore) iterator m.rounds none, fallback with
        | some (_, v), _ => pure v
        | none, some v => pure v
        | none, none => raiseWith .badValue (title ++ "() arg is an empty sequence"))
      (do
        match ← bestOf m' key (inOrder symbol goesBefore) iterator m'.rounds none, fallback with
        | some (_, v), _ => pure v
        | none, some v => pure v
        | none, none => raiseWith .badValue (title ++ "() arg is an empty sequence")) := by
    cases fallback <;> infer_instance
  obtain ⟨positional, named⟩ := args
  rcases positional with _ | ⟨v, _ | ⟨v', rest⟩⟩ <;> simp only [callExtreme] <;> infer_instance

/-! ### Texts -/

section

variable (text : List Char) (args : Arguments)

instance (message : String → String) (v : Value) : Respects C (textArgument message v) := by
  unfold textArgument
  split
  · infer_instance
  · exact .read (fun _ => inferInstance) fun _ _ _ => rfl

instance (v : Value) : Respects C (requireInteger v) := by
  fun_cases requireInteger v <;> infer_instance

instance (v : Value) : Respects C (limitArgument v) := by
  unfold limitArgument
  infer_instance

instance (title : String) (trim : (Char → Bool) → List Char → List Char) :
    Respects C (stripMethod title trim text args) :=
  .then fun _ => by split <;> infer_instance

instance (low high : Value) : Respects C (between? text low high) := by
  unfold between?
  infer_instance

instance (title : String) :
    Respects C (searched title text args) := by
  unfold searched
  infer_instance

instance (title : String) (test : List Char → Bool) (options : List Value) :
    Respects C (anyText title test options) := by
  fun_induction anyText title test options <;> infer_instance

instance (title : String) (fits : List Char → List Char → Bool) :
    Respects C (affixMethod title fits text args) := by
  refine .then fun (v, place) => ?_
  dsimp only
  split <;> infer_instance

instance : Respects C (countMethod text args) := by
  unfold countMethod
  infer_instance

instance : Respects C (splitMethod text args) := by
  have hpieces (part : Value) (limit : Option Nat) : Respects C (match part with
      | .none => pure (Parts.splitBlank (text.length + 1) limit text)
      | v => do
        let part ← textArgument (fun found => "must be str or None, not " ++ found) v
        if part.isEmpty then raiseWith .badValue "empty separator"
        else pure (Parts.splitAt part (text.length + 1) limit text) : Run (List (List Char))) := by
    split <;> infer_instance
  refine .then fun given => ?_
  dsimp only
  split
  · refine .then fun _ => ?_
    split <;> infer_instance
  · refine .then fun _ => ?_
    split <;> infer_instance

instance : Respects C (replaceMethod text args) := by
  refine .then fun given => ?_
  split
  · refine .then fun _ => .then fun _ => ?_
    split <;> infer_instance
  · infer_instance

instance (part : List Char) : Corresponds C (joinMethod m part args) (joinMethod m' part args) := by
  unfold joinMethod
  infer_instance

instance (method : Method) (text : List Char) :
    Corresponds C (callTextMethod m method text args) (callTextMethod m' method text args) := by
  unfold callTextMethod
  cases method <;> infer_instance

end

/-! ### The functions of every script -/

section

variable (args : Arguments) (v : Value)

instance : Respects C (callRange args) := by
  refine .then fun _ => .then fun given => ?_
  split
  · infer_instance
  · refine .then fun _ => .then fun _ => ?_
    split <;> infer_instance
  · infer_instance

instance (base : Nat) (s : String) : Respects C (integerOfText base s) := by
  fun_cases integerOfText base s <;> infer_instance

instance : Respects C (integerOf v) := by
  unfold integerOf
  (repeat' split) <;> infer_instance

instance : Respects C (callInteger args) := by
  refine .then fun given => ?_
  split
  case h_4 =>
    refine .then fun base => ?_
    (repeat' split) <;> infer_instance
  all_goals infer_instance

instance (name : String) (v : Option Value) : Respects C (requireCodec name v) := by
  fun_cases requireCodec name v <;> infer_instance

instance : Respects C (callText args) := by
  refine .then fun given => ?_
  split
  · refine .then fun _ => .then fun _ => ?_
    split <;> infer_instance
  · infer_instance

instance : Respects C (callBoolean args) := by
  have htrue (v : Value) : Respects C (do pure (.bool ((← get).isTrue v)) : Run Value) :=
    .read (fun _ => inferInstance) fun _ _ _ => rfl
  unfold callBoolean
  infer_instance

instance : Respects C (callMagnitude args) :=
  .then fun _ => by split <;> infer_instance

instance : Respects C (callCharacter args) := by
  unfold callCharacter
  infer_instance

instance : Respects C (callCodePoint args) :=
  .then fun _ => by (repeat' split) <;> infer_instance

instance (name usual : String) (given : Option Value) :
    Respects C (separatorText name usual given) := by
  fun_cases separatorText name usual given <;> infer_instance

instance (between : String) (values : List Value) : Respects C (printValues between values) := by
  fun_induction printValues between values <;> infer_instance

instance : Respects C (callPrint args) := by
  refine .then fun given => ?_
  split
  · refine .then fun _ => .then fun _ => ?_
    split <;> infer_instance
  · infer_instance

instance : Corresponds C (callList m args) (callList m' args) := by
  unfold callList
  refine .then fun _ => .then fun given => ?_
  cases given <;> infer_instance

instance (address rounds more position : Nat) [h : Rounds C rounds more]
    (entries : List (Value × Value)) :
    Corresponds C (takePairs m address rounds position entries)
      (takePairs m' address more position entries) := by
  induction rounds generalizing more position entries with
  | zero => exact .no_rounds (takePairs m' address · position entries) rfl
  | succ rounds ih =>
      obtain ⟨more, rfl, hmore⟩ := h.exists_succ
      simp only [takePairs]
      refine .then fun pair => ?_
      cases pair with
      | none => infer_instance
      | some pair =>
          refine .then fun found => ?_
          rcases found with _ | _ | ⟨k, _ | ⟨v, _ | ⟨v', rest⟩⟩⟩ <;> infer_instance

instance : Corresponds C (callDict m args) (callDict m' args) := by
  unfold callDict
  refine .then fun given => ?_
  rcases given with _ | ⟨v, rest⟩
  · infer_instance
  · cases v
    case dict | names => exact .read (fun _ => inferInstance) fun _ _ _ => rfl
    all_goals infer_instance

instance (start : Int) : Respects C (enumerated v start) := by
  unfold enumerated
  infer_instance

instance : Respects C (callEnumerate args) := by
  fun_cases callEnumerate args <;> infer_instance

instance : Respects C (callZip args) :=
  .then fun _ => .read (fun _ => inferInstance) fun _ _ _ => rfl

instance : Respects C (reversedOf v) :=
  .read (fun _ => by split <;> infer_instance) fun _ _ _ => rfl

instance : Respects C (callReversed args) := by
  unfold callReversed
  infer_instance

instance (address rounds more : Nat) [h : Rounds C rounds more] (total : Value) :
    Corresponds C (sumUp m address rounds total) (sumUp m' address more total) := by
  induction rounds generalizing more total with
  | zero => exact .no_rounds (sumUp m' address · total) rfl
  | succ rounds ih =>
      obtain ⟨more, rfl, hmore⟩ := h.exists_succ
      simp only [sumUp]
      infer_instance

instance : Corresponds C (callSum m args) (callSum m' args) := by
  unfold callSum
  refine .then fun given => ?_
  rcases given with _ | ⟨_ | v, start⟩
  · infer_instance
  · infer_instance
  · refine .then fun iterator => ?_
    cases (start.head?.join).getD (.integer 0) <;> infer_instance

instance (b : Builtin) : Corresponds C (callBuiltin m b args) (callBuiltin m' b args) := by
  cases b <;> simp only [callBuiltin]
  case globals => exact .then fun _ => .read (fun _ => inferInstance) fun _ _ _ => rfl
  all_goals infer_instance

end

/-! ### Members and names -/

instance : Legible fun w => w.labelText where
  same _ _ _ hlabel := .inl (by simp only [World.labelText, hlabel])

instance (v : Value) (name : String) : Respects C (raiseNoMember v name : Run α) :=
  .read (fun _ => inferInstance) fun _ _ _ => rfl

instance (v : Value) (name : String) : Respects C (memberAt v name) :=
  .read (fun _ => by split <;> infer_instance) fun _ _ _ => rfl

instance (v : Value) (name : String) : Respects C (memberOf v name) := by
  unfold memberOf
  split <;> infer_instance

instance (v : Value) (name : String) : Respects C (setMember v name) :=
  .read (fun _ => inferInstance) fun _ _ _ => rfl

instance (xs : List Value) (args : Arguments) : Respects C (callPairs xs args) := by
  unfold callPairs
  infer_instance

instance (address : Nat) (args : Arguments) : Respects C (callAppend address args) := by
  unfold callAppend
  infer_instance

instance (name : String) : Respects C (raiseUndefined name : Run α) := by
  unfold raiseUndefined
  infer_instance

instance (name : String) : Respects C (raiseUnbound name : Run α) := by
  unfold raiseUnbound
  infer_instance

instance (name : String) : Respects C (raiseUnboundAround name : Run α) := by
  unfold raiseUnboundAround
  infer_instance

instance (env : Env) (name : String) : Respects C (lookUpBuiltin env name) :=
  .read (fun _ => by (repeat' split) <;> infer_instance) fun _ _ _ => rfl

instance (env : Env) (name : String) : Respects C (lookUpGlobal env name) :=
  .read (fun _ => by split <;> infer_instance) fun _ _ _ => rfl

instance (env : Env) (name : String) : Respects C (lookUpName env name) := by
  unfold lookUpName
  split
  · infer_instance
  · refine .read (fun w => ?_) fun _ _ _ => rfl
    dsimp only
    (repeat' split) <;> infer_instance

section

variable (env : Env) [henv : Free C env] (name : String)

instance (change : Names → Names) :
    Respects C (modifyNames (env.spaceOf (env.place name)) change) :=
  ⟨C.modifyNames change (Free.spaceOf_place env name)⟩

instance (change : Names → Names) : Respects C (modifyNames env.globals change) :=
  ⟨C.modifyNames change henv.globals⟩

instance : Respects C (furnish env.globals) :=
  .read (fun _ => inferInstance) fun _ _ _ => rfl

instance (value : Value) : Respects C (bindName env name value) := by
  unfold bindName
  infer_instance

instance : Respects C (deleteName env name) := by
  refine .read (fun w => ?_) fun _ _ _ => rfl
  dsimp only
  (repeat' split) <;> infer_instance

end

end Codeweave.Script
