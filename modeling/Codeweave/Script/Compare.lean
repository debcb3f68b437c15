import Codeweave.Decimal.Exact
import Codeweave.Script.Shown

/-!
Truth, equality and order of values. Truth values count as the integers zero and one, numbers of
different kinds are compared by their exact values, and sequences item by item.
-/

namespace Codeweave.Script

/-- How an integer compares with a float; `none` if the float is no number. -/
def compareMixed (n : Int) (x : Float) : Option Ordering :=
  match Decimal.valueOf? x with
  | some e => some (e.compareInt n).swap
  | none => if x > 0.0 then some .lt else if x < 0.0 then some .gt else none

def Number.compare : Number → Number → Option Ordering
  | .integer a, .integer b => some (Ord.compare a b)
  | .integer a, .float b => compareMixed a b
  | .float a, .integer b => (compareMixed b a).map Ordering.swap
  | .float a, .float b =>
    if a < b then some .lt else if a > b then some .gt else if a == b then some .eq else none

def rangeLength (start stop step : Int) : Nat :=
  if step > 0 then ((stop - start + step - 1) / step).toNat
  else if step < 0 then ((start - stop - step - 1) / (-step)).toNat
  else 0

/-- So many integers at a distance from each other. -/
def progression (first step : Int) (count : Nat) : List Value :=
  (List.range count).map fun (i : Nat) => .integer (first + step * (i : Int))

def rangeHolds (start stop step n : Int) : Bool :=
  if step > 0 then start ≤ n && n < stop && (n - start) % step == 0
  else if step < 0 then stop < n && n ≤ start && (start - n) % (-step) == 0
  else false

/-- Do two ranges have the same items? -/
def rangesEqual (start stop step start' stop' step' : Int) : Bool :=
  let n := rangeLength start stop step
  n == rangeLength start' stop' step' &&
    (n == 0 || (start == start' && (n == 1 || step == step')))

def World.isTrue (w : World) : Value → Bool
  | .none => false
  | .bool b => b
  | .integer n => n != 0
  | .float x => !(x == 0.0)
  | .complex x y => !(x == 0.0 && y == 0.0)
  | .text s => !s.isEmpty
  | .tuple items | .varargs items => !items.isEmpty
  | .list address => !(w.listItems address).isEmpty
  | .dict address => !(w.dictEntries address).isEmpty
  | .range start stop step => rangeLength start stop step != 0
  | _ => true

/-- Are two values one and the same? Values that live outside the store are the same if nothing
tells them apart. -/
def Value.isSame : Value → Value → Bool
  | .none, .none | .ellipsis, .ellipsis => true
  | .bool a, .bool b => a == b
  | .integer a, .integer b => a == b
  | .float a, .float b => a.toBits == b.toBits
  | .complex a b, .complex a' b' => a.toBits == a'.toBits && b.toBits == b'.toBits
  | .text a, .text b => a == b
  | .list a, .list b | .dict a, .dict b | .iterator a, .iterator b | .function a, .function b
  | .procedure a, .procedure b | .template a, .template b | .names a, .names b
  | .error a, .error b | .output a, .output b | .class_ a, .class_ b => a == b
  | .runtime, .runtime => true
  | .module a, .module b => a == b
  | .builtin a, .builtin b => a == b
  | .action a, .action b => a == b
  | .errorClass a, .errorClass b => a == b
  | .tuple as, .tuple bs | .varargs as, .varargs bs => sameItems as bs
  | _, _ => false
where
  sameItems : List Value → List Value → Bool
    | [], [] => true
    | a :: as, b :: bs => a.isSame b && sameItems as bs
    | _, _ => false

/-- Are two values known to be the same without a look at what they hold? -/
def Value.isPlainlySame : Value → Value → Bool
  | .tuple as, .tuple bs | .varargs as, .varargs bs => as.isEmpty && bs.isEmpty
  | a, b => a.isSame b

def pairwise (equal : Value → Value → Option Bool) : List Value → List Value → Option Bool
  | [], [] => some true
  | a :: as, b :: bs =>
    match equal a b with
    | some true => pairwise equal as bs
    | other => other
  | _, _ => some false

/-- Does each entry of the first have an equal one among the second? -/
def entriesWithin (equal : Value → Value → Option Bool) (others : List (Value × Value)) :
    List (Value × Value) → Option Bool
  | [] => some true
  | (k, v) :: rest => do
    let found ← others.findM? fun (k', _) => equal k k'
    match found with
    | some (_, v') => if ← equal v v' then entriesWithin equal others rest else some false
    | none => some false

/-- Is a complex number equal to a value that is none? -/
def equalsReal (real imaginary : Float) (v : Value) : Bool :=
  match v.number? with
  | some n => imaginary == 0.0 && n.compare (.float real) == some .eq
  | none => false

/-- Are two values equal? `none` if they nest too deep to tell. What sequences and dictionaries hold
is also equal if it is the same. -/
def World.equalWithin (w : World) : Nat → Value → Value → Option Bool
  | 0, _, _ => none
  | fuel + 1, a, b =>
    match a.number?, b.number? with
    | some m, some n => some (m.compare n == some .eq)
    | _, _ =>
      let equal (x y : Value) := if x.isPlainlySame y then some true else w.equalWithin fuel x y
      match a, b with
      | .tuple xs, .tuple ys | .tuple xs, .varargs ys | .varargs xs, .tuple ys
      | .varargs xs, .varargs ys =>
        if xs.length == ys.length then pairwise equal xs ys else some false
      | .list x, .list y =>
        let (xs, ys) := (w.listItems x, w.listItems y)
        if xs.length == ys.length then pairwise equal xs ys else some false
      | .dict x, .dict y =>
        let (xs, ys) := (w.dictEntries x, w.dictEntries y)
        if xs.length == ys.length then entriesWithin equal ys xs else some false
      | .range a₁ a₂ a₃, .range b₁ b₂ b₃ => some (rangesEqual a₁ a₂ a₃ b₁ b₂ b₃)
      | .slice a₁ a₂ a₃, .slice b₁ b₂ b₃ => pairwise equal [a₁, a₂, a₃] [b₁, b₂, b₃]
      | .method x f, .method y g => some (x.isSame y && f == g)
      | .output x, .output y => some (w.outputAt x == w.outputAt y)
      | .complex x y, .complex x' y' => some (x == x' && y == y')
      | .complex x y, v | v, .complex x y => some (equalsReal x y v)
      | _, _ => some (a.isSame b)

def valuesEqual (a b : Value) : Run Bool := do
  let w ← get
  match w.equalWithin w.room a b with
  | some answer => pure answer
  | none => raiseTooDeep " in comparison"

def sameOrEqual (a b : Value) : Run Bool :=
  if a.isPlainlySame b then pure true else valuesEqual a b

inductive OrderError where
  | types (left right : String)
  | tooDeep

def compareTexts (s t : String) : Ordering :=
  compareOfLessAndEq s t

/-- How two lists compare: as the first items that are not equal. -/
def orderItems (equal : Value → Value → Option Bool)
    (order : Value → Value → Except OrderError (Option Ordering)) :
    List Value → List Value → Except OrderError (Option Ordering)
  | [], [] => .ok (some .eq)
  | [], _ => .ok (some .lt)
  | _, [] => .ok (some .gt)
  | x :: xs, y :: ys =>
    match equal x y with
    | some true => orderItems equal order xs ys
    | some false => order x y
    | none => .error .tooDeep

/-- How two values of one order compare; `none` inside if one is no number. -/
def World.orderWithin (w : World) : Nat → Value → Value → Except OrderError (Option Ordering)
  | 0, _, _ => .error .tooDeep
  | fuel + 1, a, b =>
    match a.number?, b.number? with
    | some m, some n => .ok (m.compare n)
    | _, _ =>
      let equal (x y : Value) := if x.isPlainlySame y then some true else w.equalWithin fuel x y
      let items := orderItems equal (w.orderWithin fuel)
      match a, b with
      | .text s, .text t => .ok (some (compareTexts s t))
      | .tuple xs, .tuple ys | .tuple xs, .varargs ys | .varargs xs, .tuple ys
      | .varargs xs, .varargs ys => items xs ys
      | .list x, .list y => items (w.listItems x) (w.listItems y)
      | _, _ => .error (.types (w.typeName a) (w.typeName b))

/-- Does an order hold between two values? `symbol` names it in messages. -/
def inOrder (symbol : String) (holds : Ordering → Bool) (a b : Value) : Run Bool := do
  let w ← get
  match w.orderWithin w.room a b with
  | .ok (some o) => pure (holds o)
  | .ok none => pure false
  | .error (.types left right) =>
    raiseWith .wrongType ("'" ++ symbol ++ "' not supported between instances of '" ++ left ++
      "' and '" ++ right ++ "'")
  | .error .tooDeep => raiseTooDeep " in comparison"

def floatOfInteger (n : Int) : Run Float := do
  let x := Decimal.ofInteger n
  if x.isInf then raiseWith .overflow "int too large to convert to float" else pure x

def floatOfNumber : Number → Run Float
  | .integer n => floatOfInteger n
  | .float x => pure x

/-- A float rounded towards zero. -/
def truncateFloat (x : Float) : Run Int :=
  match Decimal.valueOf? x with
  | some e => pure e.truncate
  | none =>
    if x.isNaN then raiseWith .badValue "cannot convert float NaN to integer"
    else raiseWith .overflow "cannot convert float infinity to integer"

/-- The character with a number; half of a pair that stands for one character is no character. -/
def characterOf (n : Int) : Run Char :=
  if 0xD800 ≤ n ∧ n < 0xE000 then giveUp else pure (Char.ofNat n.toNat)

/-- The part of a value that keeps it from being a key. -/
def World.unhashable? (w : World) : Nat → Value → Option Value
  | 0, _ => none
  | fuel + 1, v =>
    match v with
    | .list _ | .dict _ | .names _ | .slice _ _ _ | .output _ => some v
    | .tuple items | .varargs items => items.findSome? (w.unhashable? fuel)
    | _ => none

def requireKey (v : Value) : Run Unit := do
  match (← get).unhashable? maxDepth v with
  | some bad => raiseWith .wrongType ("unhashable type: '" ++ (← get).typeName bad ++ "'")
  | none => pure ()

end Codeweave.Script
