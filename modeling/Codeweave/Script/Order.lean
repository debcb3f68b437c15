import Codeweave.Script.Binding

/-!
Values in order: sorting, and the least and the greatest of several values. A key function may stand
between the values and what is compared.
-/

namespace Codeweave.Script

def keyBefore (x y : Value × Value) : Run Bool :=
  inOrder "<" (· == .lt) x.1 y.1

/-- Goes on with a run of values that each stand to the one before as the first two do: `falling` if
each goes before it. Gives the run, the last value first, and what is left. -/
def takeRun (falling : Bool) (last : Value × Value) (taken : List (Value × Value)) :
    List (Value × Value) → Run (List (Value × Value) × List (Value × Value))
  | [] => pure (last :: taken, [])
  | x :: rest => do
    if (← keyBefore x last) == falling then takeRun falling x (last :: taken) rest
    else pure (last :: taken, x :: rest)

/-- The rising or strictly falling run that values begin with, in rising order, and what is left. -/
def leadingRun : List (Value × Value) → Run (List (Value × Value) × List (Value × Value))
  | [] => pure ([], [])
  | [x] => pure ([x], [])
  | x :: y :: rest => do
    let falling ← keyBefore y x
    let (run, left) ← takeRun falling y [x] rest
    pure (if falling then run else run.reverse, left)

/-- The position between two bounds where a value goes, found by halving: behind all values that it
does not go before. -/
def insertionPoint (xs : Array (Value × Value)) (x : Value × Value) (low high : Nat) : Run Nat := do
  if _h : low < high then
    let middle := low + (high - low) / 2
    match xs[middle]? with
    | some y =>
      if ← keyBefore x y then insertionPoint xs x low middle
      else insertionPoint xs x (middle + 1) high
    | none => pure low
  else pure low
termination_by high - low

/-- Puts a value among ordered ones, behind all that it does not go before. -/
def insertOrdered (xs : Array (Value × Value)) (x : Value × Value) :
    Run (Array (Value × Value)) := do
  pure (xs.insertIdxIfInBounds (← insertionPoint xs x 0 xs.size) x)

/-- Values in the order of their keys; those of equal keys stay as they stood. -/
def orderByKey (xs : List (Value × Value)) : Run (List Value) := do
  let (run, rest) ← leadingRun xs
  let ordered ← rest.foldlM insertOrdered run.toArray
  pure (ordered.toList.map Prod.snd)

/-- The integer of a switch, of which only zero is off. -/
def switchArgument (v : Value) : Run Bool := do
  match v.integer? with
  | some n =>
    if n ≥ Int.pow 2 31 || n < -Int.pow 2 31 then
      raiseWith .overflow "Python int too large to convert to C int"
    else pure (n != 0)
  | none =>
    raiseWith .wrongType ("'" ++ (← get).typeName v ++
      "' object cannot be interpreted as an integer")

section

variable (m : Machine)

def keyOf (key : Value) (v : Value) : Run Value := do
  match key with
  | .none => pure v
  | f => deeper 1 (m.call f ⟨[v], []⟩)

def callSorted (args : Arguments) : Run Value := do
  match ← args.between "sorted" 1 1 with
  | v :: _ => do
    let xs ← items m v
    let given ← args.unpackNamed "sort" ["key", "reverse"]
    let key := (given.head?.join).getD .none
    let descending ← match (given[1]?).join with
      | some v => switchArgument v
      | none => pure false
    let keyed ← xs.mapM fun x => do pure (← keyOf m key x, x)
    let ordered ← orderByKey (if descending then keyed.reverse else keyed)
    newList (if descending then ordered.reverse else ordered)
  | [] => throw .abandoned

/-- The best of the items that an iterator has left and one before them, each with its key. -/
def bestOf (key : Value) (better : Value → Value → Run Bool) (address : Nat) :
    Nat → Option (Value × Value) → Run (Option (Value × Value))
  | 0, _ => throw .abandoned
  | rounds + 1, best => do
    match ← m.advance address with
    | none => pure best
    | some x => do
      let k ← keyOf m key x
      match best with
      | none => bestOf key better address rounds (some (k, x))
      | some (known, _) =>
        if ← better k known then bestOf key better address rounds (some (k, x))
        else bestOf key better address rounds best

/-- The first value that no other goes before. -/
def callExtreme (title symbol : String) (goesBefore : Ordering → Bool) (args : Arguments) :
    Run Value := do
  if args.positional.isEmpty then
    raiseWith .wrongType (title ++ " expected at least 1 argument, got 0")
  let given ← args.unpackNamed title ["key", "default"]
  let key := (given.head?.join).getD .none
  let fallback := (given[1]?).join
  let iterator ← match args.positional with
    | [v] => iteratorOf v
    | vs => do
      if fallback.isSome then
        raiseWith .wrongType ("Cannot specify a default for " ++ title ++
          "() with multiple positional arguments")
      newIterator "tuple_iterator" (.given vs)
  match ← bestOf m key (inOrder symbol goesBefore) iterator m.rounds none, fallback with
  | some (_, v), _ => pure v
  | none, some v => pure v
  | none, none => raiseWith .badValue (title ++ "() arg is an empty sequence")

end

end Codeweave.Script
