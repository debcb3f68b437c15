import Codeweave.Proofs.Script.Correspondence
import Codeweave.Script.Members

/-!
Values under a correspondence: their types, their texts, their equality and order, arithmetic, and
going through them. None of it depends on the name of the run, but for texts.
-/

namespace Codeweave.Script

variable {C : Correspondence} {α β : Type}

/-! ### What is read off a state -/

/-- What is read off a state does not depend on the name. -/
class Nameless (read : World → β) : Prop where
  eq : ∀ w label journal, read (World.named w label journal) = read w

instance (b : β) : Nameless fun _ => b := ⟨fun _ _ _ => rfl⟩

instance (v : Value) : Nameless fun w => w.typeName v := ⟨fun _ _ _ => rfl⟩

instance (v : Value) : Nameless fun w => w.ownerTitle v := ⟨fun _ _ _ => rfl⟩

instance (v : Value) : Nameless fun w => w.isTrue v := ⟨fun _ _ _ => rfl⟩

instance (f g : World → String) [hf : Nameless f] [hg : Nameless g] :
    Nameless fun w => f w ++ g w :=
  ⟨fun w label journal => by rw [hf.eq, hg.eq]⟩

instance (c : ErrorClass) (message : World → String) [h : Nameless message] :
    Respects C (get >>= fun w => raiseWith c (message w) : Run α) :=
  .read (fun _ => inferInstance) fun w label journal => by rw [h.eq]

instance (read : World → α) [h : Nameless read] : Respects C (get >>= fun w => pure (read w)) :=
  .read (fun _ => inferInstance) fun w label journal => by rw [h.eq]

instance (v : Value) (yes no yes' no' : Run α) [Corresponds C yes yes'] [Corresponds C no no'] :
    Corresponds C (get >>= fun w => if w.isTrue v then yes else no)
      (get >>= fun w => if w.isTrue v then yes' else no') :=
  .read (fun _ => inferInstance) fun _ _ _ => rfl

/-! ### Texts -/

instance (v : Value) : Legible fun w => w.shown v :=
  ⟨fun _ label journal hlabel => sameText_textWithin hlabel label journal ..⟩

instance (v : Value) : Legible fun w => w.written v :=
  ⟨fun _ label journal hlabel => sameText_textWithin hlabel label journal ..⟩

instance (v : Value) : Legible fun w => w.outputText v where
  same _ label journal hlabel := by
    cases v with
    | none => exact .inr rfl
    | bool b => exact .inr rfl
    | _ => exact sameText_textWithin hlabel label journal ..

instance (problem : Problem) : Legible fun w => w.problemText problem where
  same _ label journal hlabel := by
    cases problem with
    | fault fault origin => exact .inr rfl
    | plain c arguments detail => exact (sameText_plainText hlabel label journal ..).map _

instance (text : World → Except TextError α) (next : α → Run β) [Legible text]
    [∀ a, Respects C (next a)] : Respects C (get >>= fun w => orRaise (text w) >>= next) :=
  .legible (fun _ => inferInstance) fun _ _ _ => rfl

instance (text : World → Except TextError α) [Legible text] :
    Respects C (get >>= fun w => orRaise (text w)) := by
  have h : Respects C (get >>= fun w => orRaise (text w) >>= pure) := inferInstance
  simpa using h

instance (v : Value) : Respects C (shownText v) := by
  unfold shownText
  infer_instance

instance (v : Value) : Respects C (writtenText v) := by
  unfold writtenText
  infer_instance

/-! ### Equality and order -/

section

variable (w : World) (label : String) (journal : Array Remark)

theorem equalWithin_named : (w.named label journal).equalWithin = w.equalWithin := by
  funext fuel
  induction fuel with
  | zero => rfl
  | succ fuel ih =>
      funext a b
      unfold World.equalWithin
      rw [ih]
      rfl

theorem orderWithin_named : (w.named label journal).orderWithin = w.orderWithin := by
  funext fuel
  induction fuel with
  | zero => rfl
  | succ fuel ih =>
      funext a b
      unfold World.orderWithin
      rw [ih, equalWithin_named]
      rfl

theorem unhashable?_named : (w.named label journal).unhashable? = w.unhashable? := by
  funext fuel
  induction fuel with
  | zero => rfl
  | succ fuel ih =>
      funext v
      unfold World.unhashable?
      rw [ih]

end

instance (a b : Value) : Respects C (valuesEqual a b) := by
  refine .read (fun w => ?_) fun w label journal => ?_
  · split <;> infer_instance
  · rw [equalWithin_named]
    rfl

instance (a b : Value) : Respects C (sameOrEqual a b) := by
  unfold sameOrEqual
  infer_instance

instance (symbol : String) (holds : Ordering → Bool) (a b : Value) :
    Respects C (inOrder symbol holds a b) := by
  refine .read (fun w => ?_) fun w label journal => ?_
  · split <;> infer_instance
  · rw [orderWithin_named]
    rfl

instance (n : Int) : Respects C (floatOfInteger n) := by
  simp only [floatOfInteger]
  infer_instance

instance (n : Number) : Respects C (floatOfNumber n) := by
  unfold floatOfNumber
  split <;> infer_instance

instance (v : Value) : Respects C (requireKey v) := by
  refine .read (fun w => ?_) fun w label journal => ?_
  · split <;> infer_instance
  · rw [unhashable?_named]

/-! ### Arithmetic -/

section

variable (op : BinaryOp) (updating : Bool) (a b : Value)

instance (x : Float) : Respects C (truncateFloat x) := by
  fun_cases truncateFloat x <;> infer_instance

instance (n : Int) : Respects C (characterOf n) := by
  unfold characterOf
  infer_instance

instance (letter : Char) (v : Value) : Respects C (Percent.integerFor letter v) := by
  fun_cases Percent.integerFor letter v <;> infer_instance

instance (v : Value) : Respects C (Percent.floatFor v) := by
  fun_cases Percent.floatFor v <;> infer_instance

instance (v : Value) : Respects C (Percent.characterFor v) := by
  unfold Percent.characterFor
  split
  · split <;> infer_instance
  · infer_instance
  · infer_instance

instance (mark : Percent.Mark) (offset : Nat) (letter : Char) (v : Value) :
    Respects C (mark.replace offset letter v) := by
  fun_cases Percent.Mark.replace mark offset letter v
  all_goals infer_instance

instance (mapping : Bool) (fuel offset : Nat) (text : List Char) (values : List Value) :
    Respects C (Percent.replaceFrom mapping fuel offset text values) := by
  fun_induction Percent.replaceFrom mapping fuel offset text values
  all_goals infer_instance

instance (text : List Char) (v : Value) : Respects C (Percent.format text v) := by
  unfold Percent.format
  dsimp only
  infer_instance

instance : Respects C (unsupported op updating a b) := by
  unfold unsupported
  infer_instance

instance (x y : Float) : Respects C (complexPower x y) := by
  unfold complexPower
  dsimp only
  infer_instance

instance (x y : Float) : Respects C (floatOperation op updating a b x y) := by
  cases op <;> simp only [floatOperation] <;> infer_instance

instance (x y : Int) : Respects C (divideIntegers x y) := by
  simp only [divideIntegers]
  infer_instance

instance (x : Int) (n : Nat) : Respects C (raiseInteger x n) := by
  unfold raiseInteger
  infer_instance

instance (x y : Int) : Respects C (integerOperation op updating a b x y) := by
  cases op <;> simp only [integerOperation] <;> infer_instance

instance (kind : String) : Respects C (cannotJoin kind b : Run α) := by
  unfold cannotJoin
  infer_instance

instance : Respects C (joinValues updating a b) := by
  unfold joinValues
  split
  case h_3 => exact .read (fun _ => inferInstance) fun _ _ _ => rfl
  all_goals infer_instance

instance (xs : List α) (n : Nat) : Respects C (copies xs n) := by
  unfold copies
  infer_instance

instance (v : Value) (times : Int) (otherwise : Run Value) [Respects C otherwise] :
    Respects C ((repeatValue? v times).getD otherwise) := by
  cases v
  case list address =>
    have h : Respects C (do newList (← copies ((← get).listItems address) times.toNat)) :=
      .read (fun _ => inferInstance) fun _ _ _ => rfl
    simp only [repeatValue?, Option.getD_some]
    infer_instance
  all_goals
    simp only [repeatValue?, Option.getD_some, Option.getD_none]
    infer_instance

instance : Respects C (multiplyValues updating a b) := by
  fun_cases multiplyValues updating a b <;> infer_instance

instance : Respects C (applyBinary op updating a b) := by
  fun_cases applyBinary op updating a b <;> infer_instance

instance (op : UnaryOp) (v : Value) : Respects C (applyUnary op v) := by
  simp only [applyUnary]
  split
  case h_1 => exact .read (fun _ => inferInstance) fun _ _ _ => rfl
  all_goals infer_instance

end

/-! ### Machines -/

/-- All parts of the two machines stand to each other as the correspondence says. -/
class MachineCorresponds (C : Correspondence) (m m' : Machine) : Prop where
  evaluate : ∀ env e, Corresponds C (m.evaluate env e) (m'.evaluate env e)
  execute : ∀ env program, Corresponds C (m.execute env program) (m'.execute env program)
  call : ∀ v args, Corresponds C (m.call v args) (m'.call v args)
  emit : ∀ v, Corresponds C (m.emit v) (m'.emit v)
  advance : ∀ address, Corresponds C (m.advance address) (m'.advance address)
  rename : ∀ space change, Corresponds C (m.rename space change) (m'.rename space change)
  rounds : Rounds C m.rounds m'.rounds

attribute [instance] MachineCorresponds.evaluate MachineCorresponds.execute MachineCorresponds.call
  MachineCorresponds.emit MachineCorresponds.advance MachineCorresponds.rename
  MachineCorresponds.rounds

section

variable (m m' : Machine) [MachineCorresponds C m m'] (address : Nat) (v : Value)

/-! ### Going through values -/

instance : Respects C (iteratorOf? v) :=
  .read (fun w => by dsimp only; split <;> infer_instance) fun _ _ _ => rfl

instance : Respects C (raiseNotIterable v : Run α) := by
  unfold raiseNotIterable
  infer_instance

instance : Respects C (iteratorOf v) := by
  unfold iteratorOf
  infer_instance

instance (source : Source) : Respects C (giveOut address source v) := by
  unfold giveOut
  infer_instance

instance : Respects C (exhaust address) := by
  unfold exhaust
  infer_instance

instance (size now : Nat) : Respects C (requireSize size now) := by
  unfold requireSize
  infer_instance

instance (addresses : List Nat) :
    Corresponds C (advanceAll m addresses) (advanceAll m' addresses) := by
  induction addresses with
  | nil => simp only [advanceAll]; infer_instance
  | cons i rest ih => simp only [advanceAll]; infer_instance

instance (position : Nat) (how : String) : Respects C (raiseUneven position how : Run α) := by
  unfold raiseUneven
  infer_instance

instance (position : Nat) (addresses : List Nat) :
    Corresponds C (requireEnded m position addresses) (requireEnded m' position addresses) := by
  induction addresses generalizing position with
  | nil => simp only [requireEnded]; infer_instance
  | cons i rest ih => simp only [requireEnded]; infer_instance

instance (position : Nat) (addresses : List Nat) :
    Corresponds C (advanceEvenly m position addresses) (advanceEvenly m' position addresses) := by
  induction addresses generalizing position with
  | nil => simp only [advanceEvenly]; infer_instance
  | cons i rest ih => simp only [advanceEvenly]; infer_instance

instance (source : Source) :
    Corresponds C (advanceOver m address source) (advanceOver m' address source) := by
  refine .read (fun w => ?_) fun _ _ _ => rfl
  cases source
  case given rest => cases rest <;> infer_instance
  case list list next => dsimp only; cases (w.listArray list)[next]? <;> infer_instance
  case listBack list before =>
    cases before with
    | zero => infer_instance
    | succ before => dsimp only; cases (w.listArray list)[before]? <;> infer_instance
  case integers next step left => cases left <;> infer_instance
  case keys dict next size =>
    refine .then fun _ => ?_
    cases (w.dictEntries dict)[next]? <;> infer_instance
  case keysBack dict before size =>
    cases before with
    | zero => infer_instance
    | succ before =>
        refine .then fun _ => ?_
        cases (w.dictEntries dict)[before]? <;> infer_instance
  case names space next size =>
    refine .then fun _ => ?_
    cases (w.names space)[next]? <;> infer_instance
  case together iterators strict => cases iterators <;> cases strict <;> infer_instance
  all_goals infer_instance

instance (rounds more : Nat) [h : Rounds C rounds more] (taken : Array Value) :
    Corresponds C (drainWithin m address rounds taken) (drainWithin m' address more taken) := by
  induction rounds generalizing more taken with
  | zero => exact .no_rounds (drainWithin m' address · taken) rfl
  | succ rounds ih =>
      obtain ⟨more, rfl, hmore⟩ := h.exists_succ
      simp only [drainWithin]
      infer_instance

instance : Corresponds C (drain m address) (drain m' address) := by
  unfold drain
  infer_instance

instance : Corresponds C (items? m v) (items? m' v) := by
  refine .read (fun w => ?_) fun _ _ _ => rfl
  cases v <;> infer_instance

instance : Corresponds C (items m v) (items m' v) := by
  unfold items
  infer_instance

instance (count : Nat) :
    Corresponds C (takeItems m address count) (takeItems m' address count) := by
  induction count with
  | zero => simp only [takeItems]; infer_instance
  | succ count ih => simp only [takeItems]; infer_instance

instance (rounds more : Nat) [h : Rounds C rounds more] :
    Corresponds C (searchWithin m address v rounds) (searchWithin m' address v more) := by
  induction rounds generalizing more with
  | zero => exact .no_rounds (searchWithin m' address v) rfl
  | succ rounds ih =>
      obtain ⟨more, rfl, hmore⟩ := h.exists_succ
      simp only [searchWithin]
      infer_instance

/-! ### Parts of values -/

instance : Respects C (lengthOf v) :=
  .read (fun w => by split <;> infer_instance) fun _ _ _ => rfl

instance (index : Int) : Respects C (requireIndex index) := by
  unfold requireIndex
  infer_instance

instance : Respects C (sliceIndex v) := by
  unfold sliceIndex
  split
  · infer_instance
  · split <;> infer_instance

section

variable (low high step : Value)

instance (length : Nat) : Respects C (sliceBounds length low high step) := by
  unfold sliceBounds
  infer_instance

instance (xs : List α) : Respects C (slicedItems xs low high step) := by
  unfold slicedItems
  infer_instance

end

instance (kind title : String) (xs : List Value) (collect : List Value → Run Value) (key : Value)
    [∀ vs, Respects C (collect vs)] : Respects C (lookUpSequence kind title xs collect key) := by
  unfold lookUpSequence
  split
  · infer_instance
  · split
    · exact .then fun _ => by split <;> infer_instance
    · exact .read (fun _ => by dsimp only; infer_instance) fun _ _ _ => rfl

section

variable (entries : List (Value × Value)) (object key : Value)

instance : Respects C (findEntry entries key) := by
  unfold findEntry
  infer_instance

instance : Respects C (lookUp object key) := by
  refine .read (fun w => ?_) fun _ _ _ => rfl
  split
  case h_5 | h_7 => (repeat' split) <;> infer_instance
  all_goals infer_instance

instance : Respects C (setEntry key v entries) := by
  fun_induction setEntry key v entries <;> infer_instance

instance : Corresponds C (putAt m object key v) (putAt m' object key v) := by
  refine .read (fun w => ?_) fun _ _ _ => rfl
  cases object
  case list address =>
    dsimp only
    cases key.integer? with
    | none => infer_instance
    | some i => exact .then fun _ => by split <;> infer_instance
  case names => cases key <;> infer_instance
  all_goals infer_instance

instance : Respects C (refuseRemoval object key) := by
  unfold refuseRemoval
  split <;> infer_instance

instance : Corresponds C (removeAt m object key) (removeAt m' object key) := by
  refine .read (fun w => ?_) fun _ _ _ => rfl
  cases object
  case list address =>
    dsimp only
    cases key.integer? with
    | none => infer_instance
    | some i => exact .then fun _ => by split <;> infer_instance
  case names => exact .then fun _ => by cases key <;> infer_instance
  all_goals infer_instance

end

instance (container : Value) :
    Corresponds C (holdsValue m container v) (holdsValue m' container v) := by
  refine .read (fun w => ?_) fun _ _ _ => rfl
  cases container
  case text s => cases v <;> infer_instance
  case names space => exact .then fun _ => by cases v <;> infer_instance
  case range => (repeat' split) <;> infer_instance
  all_goals infer_instance

instance (a b : Value) : Respects C (isVery a b) := by
  unfold isVery
  infer_instance

instance (op : CompareOp) (a b : Value) :
    Corresponds C (applyCompare m op a b) (applyCompare m' op a b) := by
  cases op <;> simp only [applyCompare] <;> infer_instance

end

end Codeweave.Script
