import Codeweave.Script.Arithmetic
import Codeweave.Script.Iterate

/-!
Values that hold others: their length, look-up by position, by slice and by key, and membership.
-/

namespace Codeweave.Script

def World.length? (w : World) : Value → Option Nat
  | .text s => some s.length
  | .tuple xs | .varargs xs => some xs.length
  | .list address => some (w.listItems address).length
  | .dict address => some (w.dictEntries address).length
  | .names space => some (w.names space).length
  | .range start stop step => some (rangeLength start stop step)
  | _ => none

def lengthOf (v : Value) : Run Nat := do
  let w ← get
  match w.length? v with
  | some n =>
    if n < indexBound then pure n
    else raiseWith .overflow "Python int too large to convert to C ssize_t"
  | none => raiseWith .wrongType ("object of type '" ++ w.typeName v ++ "' has no len()")

/-! ### Positions and slices -/

def requireIndex (index : Int) : Run Unit := do
  if index ≥ indexBound || index < -(indexBound : Int) then
    raiseWith .outOfRange "cannot fit 'int' into an index-sized integer"

/-- The position that an index means in a sequence of the given length; a negative index counts from
the end. -/
def position? (length : Nat) (index : Int) : Option Nat :=
  let i := if index < 0 then index + length else index
  if 0 ≤ i ∧ i < length then some i.toNat else none

def clamp (lower upper length : Int) (i : Int) : Int :=
  let j := if i < 0 then i + length else i
  if j < lower then lower else if j > upper then upper else j

def sliceIndex (v : Value) : Run (Option Int) := do
  match v with
  | .none => pure none
  | _ =>
    match v.integer? with
    | some n => pure (some n)
    | none =>
      raiseWith .wrongType
        "slice indices must be integers or None or have an __index__ method"

/-- First position, end and stride of a slice of a sequence of the given length. The stride is read
first. -/
def sliceBounds (length : Nat) (low high step : Value) : Run (Int × Int × Int) := do
  let stride := (← sliceIndex step).getD 1
  if stride == 0 then raiseWith .badValue "slice step cannot be zero"
  else
    let lowIndex ← sliceIndex low
    let highIndex ← sliceIndex high
    let n : Int := length
    if stride > 0 then
      pure ((lowIndex.map (clamp 0 n n)).getD 0, (highIndex.map (clamp 0 n n)).getD n, stride)
    else
      pure ((lowIndex.map (clamp (-1) (n - 1) n)).getD (n - 1),
        (highIndex.map (clamp (-1) (n - 1) n)).getD (-1), stride)

def slicedItems {α : Type} (xs : List α) (low high step : Value) : Run (List α) := do
  let (start, stop, stride) ← sliceBounds xs.length low high step
  pure ((List.range (rangeLength start stop stride)).filterMap fun (i : Nat) =>
    xs[(start + stride * (i : Int)).toNat]?)

/-- Looks up a position or a slice of a sequence; `kind` and `title` name it in messages. -/
def lookUpSequence (kind title : String) (xs : List Value) (collect : List Value → Run Value)
    (key : Value) : Run Value := do
  match key with
  | .slice low high step => collect (← slicedItems xs low high step)
  | _ =>
    match key.integer? with
    | some i => do
      requireIndex i
      match (position? xs.length i).bind (xs[·]?) with
      | some v => pure v
      | none => raiseWith .outOfRange (title ++ " index out of range")
    | none =>
      let found := (← get).typeName key
      if kind == "str" then
        raiseWith .wrongType ("string indices must be integers, not '" ++ found ++ "'")
      else
        raiseWith .wrongType (kind ++ " indices must be integers or slices, not " ++ found)

def joinCharacters (vs : List Value) : String :=
  String.join (vs.map fun | .text s => s | _ => "")

def findEntry (entries : List (Value × Value)) (key : Value) : Run (Option Value) := do
  let found ← entries.findM? fun (k, _) => sameOrEqual k key
  pure (found.map Prod.snd)

def lookUp (object key : Value) : Run Value := do
  let w ← get
  match object with
  | .text s =>
    lookUpSequence "str" "string" (characters s) (fun vs => pure (.text (joinCharacters vs))) key
  | .tuple xs | .varargs xs =>
    lookUpSequence "tuple" "tuple" xs (fun vs => pure (.tuple vs)) key
  | .list address => lookUpSequence "list" "list" (w.listItems address) newList key
  | .range start stop step =>
    match key with
    | .slice low high stride => do
      let (i, j, k) ← sliceBounds (rangeLength start stop step) low high stride
      pure (.range (start + i * step) (start + j * step) (step * k))
    | _ =>
      match key.integer? with
      | some i =>
        match position? (rangeLength start stop step) i with
        | some p => pure (.integer (start + step * (p : Int)))
        | none => raiseWith .outOfRange "range object index out of range"
      | none =>
        raiseWith .wrongType ("range indices must be integers or slices, not " ++ w.typeName key)
  | .dict address => do
    requireKey key
    match ← findEntry (w.dictEntries address) key with
    | some v => pure v
    | none => raiseProblem (.plain .missingKey [key] none)
  | .names space =>
    match key with
    | .text name =>
      match (w.names space).lookup name with
      | some v => pure v
      | none => raiseProblem (.plain .missingKey [key] none)
    | _ => do
      requireKey key
      raiseProblem (.plain .missingKey [key] none)
  | _ =>
    if object.isType then giveUp
    else raiseWith .wrongType ("'" ++ w.typeName object ++ "' object is not subscriptable")

/-- Sets the entry of a dictionary, in place if an equal key is there. -/
def setEntry (key value : Value) : List (Value × Value) → Run (List (Value × Value))
  | [] => pure [(key, value)]
  | (k, v) :: rest => do
    if ← sameOrEqual k key then pure ((k, value) :: rest)
    else
      let more ← setEntry key value rest
      pure ((k, v) :: more)

def Value.isSlice : Value → Bool
  | .slice _ _ _ => true
  | _ => false

/-- Sets the value at a position or a key. Slices are not set, and names are texts. -/
def putAt (m : Machine) (object key value : Value) : Run Unit := do
  let w ← get
  match object with
  | .list address =>
    let xs := w.listArray address
    match key.integer? with
    | some i => do
      requireIndex i
      match position? xs.size i with
      | some p => store address (.list (xs.setIfInBounds p value))
      | none => raiseWith .outOfRange "list assignment index out of range"
    | none =>
      if key.isSlice then giveUp
      else raiseWith .wrongType ("list indices must be integers or slices, not " ++ w.typeName key)
  | .dict address => do
    requireKey key
    store address (.dict (← setEntry key value (w.dictEntries address)))
  | .names space =>
    match key with
    | .text name => m.rename space (Names.bind name value)
    | _ => do
      requireKey key
      giveUp
  | _ =>
    raiseWith .wrongType ("'" ++ w.typeName object ++ "' object does not support item assignment")

/-- Has the value items at places although none can be taken out? -/
def Value.hasPlaces : Value → Bool
  | .text _ | .tuple _ | .varargs _ | .range _ _ _ => true
  | _ => false

def refuseRemoval (object key : Value) : Run Unit :=
  match object.hasPlaces, key.integer? with
  | true, some i => do
    requireIndex i
    raiseWith .wrongType ("'" ++ (← get).typeName object ++
      "' object doesn't support item deletion")
  | _, _ => do
    raiseWith .wrongType ("'" ++ (← get).typeName object ++
      "' object does not support item deletion")

def removeAt (m : Machine) (object key : Value) : Run Unit := do
  let w ← get
  match object with
  | .list address =>
    let xs := w.listArray address
    match key.integer? with
    | some i => do
      requireIndex i
      match position? xs.size i with
      | some p => store address (.list (xs.eraseIdxIfInBounds p))
      | none => raiseWith .outOfRange "list assignment index out of range"
    | none =>
      if key.isSlice then giveUp
      else raiseWith .wrongType ("list indices must be integers or slices, not " ++ w.typeName key)
  | .dict address => do
    requireKey key
    match ← findEntry (w.dictEntries address) key with
    | some _ =>
      let kept ← (w.dictEntries address).filterM fun (k, _) => do pure !(← sameOrEqual k key)
      store address (.dict kept)
    | none => raiseProblem (.plain .missingKey [key] none)
  | .names space => do
    requireKey key
    match key with
    | .text name =>
      if ((w.names space).lookup name).isSome then m.rename space (Names.unbind name)
      else raiseProblem (.plain .missingKey [key] none)
    | _ => raiseProblem (.plain .missingKey [key] none)
  | _ => refuseRemoval object key

/-! ### Identity -/

/-- Is a value that nothing tells from this one this very value? Numbers and texts that are in
common use are kept but once. -/
def Value.isOnce : Value → Bool
  | .integer n => -5 ≤ n && n ≤ 256
  | .text s => s.toList.isEmpty || (s.toList.length == 1 && s.toList.all fun c => c.toNat < 256)
  | .tuple items => items.isEmpty
  | .float _ | .complex _ _ | .varargs _ | .range _ _ _ | .slice _ _ _ | .action _
  | .method _ _ => false
  | _ => true

/-- Can two values be one although what they hold does not tell? -/
def Value.mayBe : Value → Value → Bool
  | .tuple as, .tuple bs => !as.isEmpty && as.length == bs.length
  | .varargs as, .varargs bs => as.length == bs.length
  | .range _ _ _, .range _ _ _ | .slice _ _ _, .slice _ _ _ | .method _ _, .method _ _ => true
  | a, b => a.isSame b && !a.isOnce

/-- Are two values one and the same? -/
def isVery (a b : Value) : Run Bool := do
  if a.mayBe b then giveUp else pure (a.isSame b)

/-! ### Membership -/

def occursIn (part : List Char) : List Char → Bool
  | [] => part.isEmpty
  | c :: rest => part.isPrefixOf (c :: rest) || occursIn part rest

section

variable (m : Machine)

def holdsValue (container v : Value) : Run Bool := do
  let w ← get
  match container with
  | .text s =>
    match v with
    | .text part => pure (occursIn part.toList s.toList)
    | _ =>
      raiseWith .wrongType ("'in <string>' requires string as left operand, not " ++ w.typeName v)
  | .dict address => do
    requireKey v
    pure (← findEntry (w.dictEntries address) v).isSome
  | .names space => do
    requireKey v
    match v with
    | .text name => pure ((w.names space).lookup name).isSome
    | _ => pure false
  | .range start stop step =>
    match v.number? with
    | some (.integer n) => pure (rangeHolds start stop step n)
    | some (.float x) =>
      match Decimal.valueOf? x with
      | some e =>
        pure (e.compareInt e.truncate == .eq && rangeHolds start stop step e.truncate)
      | none => pure false
    | none => pure false
  | .iterator address => searchWithin m address v m.rounds
  | _ =>
    match ← items? m container with
    | some xs => pure (← xs.findM? fun x => sameOrEqual x v).isSome
    | none =>
      raiseWith .wrongType ("argument of type '" ++ w.typeName container ++ "' is not iterable")

def applyCompare (op : CompareOp) (a b : Value) : Run Bool := do
  match op with
  | .equal => valuesEqual a b
  | .notEqual => pure !(← valuesEqual a b)
  | .less => inOrder "<" (· == .lt) a b
  | .lessEqual => inOrder "<=" (· != .gt) a b
  | .greater => inOrder ">" (· == .gt) a b
  | .greaterEqual => inOrder ">=" (· != .lt) a b
  | .contained => holdsValue m b a
  | .notContained => pure !(← holdsValue m b a)
  | .same => isVery a b
  | .notSame => pure !(← isVery a b)

end

end Codeweave.Script
