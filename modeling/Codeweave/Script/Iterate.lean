import Codeweave.Script.Compare

/-!
Going through values. Everything that holds items has an iterator, which gives them out one by one
when it is asked. An iterator over a list or a dictionary looks at it only when it is asked, so it
sees what was changed meanwhile.
-/

namespace Codeweave.Script

def characters (s : String) : List Value :=
  s.toList.map fun c => .text (String.singleton c)

def World.nameCount (w : World) (space : Nat) : Nat :=
  (w.names space).length

/-- A new iterator over a value, `none` if there is none. An iterator is its own. -/
def iteratorOf? (v : Value) : Run (Option Nat) := do
  let w ← get
  let made (kind : String) (source : Source) : Run (Option Nat) := some <$> newIterator kind source
  match v with
  | .text s =>
    made (if s.toList.all fun c => c.toNat < 128 then "str_ascii_iterator" else "str_iterator")
      (.given (characters s))
  | .tuple xs | .varargs xs => made "tuple_iterator" (.given xs)
  | .list address => made "list_iterator" (.list address 0)
  | .dict address => made "dict_keyiterator" (.keys address 0 (w.dictEntries address).length)
  | .names space => made "dict_keyiterator" (.names space 0 (w.nameCount space))
  | .range start stop step =>
    made "range_iterator" (.integers start step (rangeLength start stop step))
  | .iterator address => pure (some address)
  | _ => pure none

def raiseNotIterable {α : Type} (v : Value) : Run α := do
  raiseWith .wrongType ("'" ++ (← get).typeName v ++ "' object is not iterable")

def iteratorOf (v : Value) : Run Nat := do
  match ← iteratorOf? v with
  | some address => pure address
  | none => raiseNotIterable v

def setSource (address : Nat) (source : Source) : Run Unit :=
  modify fun w => { w with objects := w.objects.modify address fun
    | .iterator kind _ => .iterator kind source
    | object => object }

def World.sourceAt (w : World) (address : Nat) : Source :=
  match w.objects[address]? with
  | some (.iterator _ source) => source
  | _ => .done

/-- Gives an item out and notes where the iterator stands then. -/
def giveOut (address : Nat) (source : Source) (v : Value) : Run (Option Value) := do
  setSource address source
  pure (some v)

def exhaust (address : Nat) : Run (Option Value) := do
  setSource address .done
  pure none

/-- Refuses to go on when a dictionary does not have the size it had. -/
def requireSize (size now : Nat) : Run Unit := do
  if size != now then raiseWith .runtime "dictionary changed size during iteration"

section

variable (m : Machine)

/-- The next items of several iterators, `none` if one of them has no more. -/
def advanceAll : List Nat → Run (Option (List Value))
  | [] => pure (some [])
  | i :: rest => do
    match ← m.advance i with
    | none => pure none
    | some v => do pure ((← advanceAll rest).map (v :: ·))

/-- Refuses iterators of which the one at a position has fewer or more items than those before. -/
def raiseUneven {α : Type} (position : Nat) (how : String) : Run α :=
  raiseWith .badValue ("zip() argument " ++ toString (position + 1) ++ " is " ++ how ++
    " than argument" ++ (if position == 1 then " " else "s 1-") ++ toString position)

def requireEnded (position : Nat) : List Nat → Run Unit
  | [] => pure ()
  | i :: rest => do
    match ← m.advance i with
    | some _ => raiseUneven position "longer"
    | none => requireEnded (position + 1) rest

/-- The next items of several iterators from a position on, which have to end together. -/
def advanceEvenly (position : Nat) : List Nat → Run (Option (List Value))
  | [] => pure (some [])
  | i :: rest => do
    match ← m.advance i with
    | some v => do pure ((← advanceEvenly (position + 1) rest).map (v :: ·))
    | none =>
      if position == 0 then
        requireEnded m 1 rest
        pure none
      else raiseUneven position "shorter"

/-- The next item of an iterator that gives out what is there. Comprehensions are left to the
caller, as their items have to be evaluated. -/
def advanceOver (address : Nat) (source : Source) : Run (Option Value) := do
  let w ← get
  match source with
  | .done | .elements _ => pure none
  | .busy => raiseWith .badValue "generator already executing"
  | .given [] => exhaust address
  | .given (v :: rest) => giveOut address (.given rest) v
  | .list list next =>
    match (w.listArray list)[next]? with
    | some v => giveOut address (.list list (next + 1)) v
    | none => exhaust address
  | .listBack _ 0 => exhaust address
  | .listBack list (before + 1) =>
    match (w.listArray list)[before]? with
    | some v => giveOut address (.listBack list before) v
    | none => exhaust address
  | .integers _ _ 0 => exhaust address
  | .integers next step (left + 1) =>
    giveOut address (.integers (next + step) step left) (.integer next)
  | .keys dict next size => do
    let entries := w.dictEntries dict
    requireSize size entries.length
    match entries[next]? with
    | some (k, _) => giveOut address (.keys dict (next + 1) size) k
    | none => exhaust address
  | .keysBack _ 0 _ => exhaust address
  | .keysBack dict (before + 1) size => do
    let entries := w.dictEntries dict
    requireSize size entries.length
    match entries[before]? with
    | some (k, _) => giveOut address (.keysBack dict before size) k
    | none => exhaust address
  | .names space next size => do
    requireSize size (w.nameCount space)
    match (w.names space)[next]? with
    | some (n, _) => giveOut address (.names space (next + 1) size) (.text n)
    | none => exhaust address
  | .numbered iterator next => do
    match ← m.advance iterator with
    | some v =>
      giveOut address (.numbered iterator (next + 1)) (.tuple [.integer next, v])
    | none => pure none
  | .together [] _ => pure none
  | .together iterators false => do pure ((← advanceAll m iterators).map .tuple)
  | .together iterators true => do pure ((← advanceEvenly m 0 iterators).map .tuple)

def drainWithin (address : Nat) : Nat → Array Value → Run (List Value)
  | 0, _ => throw .abandoned
  | rounds + 1, taken => do
    match ← m.advance address with
    | some v => drainWithin address rounds (taken.push v)
    | none => pure taken.toList

def drain (address : Nat) : Run (List Value) :=
  drainWithin m address m.rounds #[]

def items? (v : Value) : Run (Option (List Value)) := do
  let w ← get
  match v with
  | .text s => pure (some (characters s))
  | .tuple xs | .varargs xs => pure (some xs)
  | .list address => pure (some (w.listItems address))
  | .dict address => pure (some ((w.dictEntries address).map Prod.fst))
  | .names space => pure (some ((w.names space).map fun (n, _) => .text n))
  | .range start stop step => do
    let count := rangeLength start stop step
    if count ≥ indexBound then
      raiseWith .overflow "Python int too large to convert to C ssize_t"
    requireMemory count
    pure (some (progression start step count))
  | .iterator address => do pure (some (← drain m address))
  | _ => pure none

def items (v : Value) : Run (List Value) := do
  match ← items? m v with
  | some xs => pure xs
  | none => raiseNotIterable v

def takeItems (address : Nat) : Nat → Run (List Value)
  | 0 => pure []
  | count + 1 => do
    match ← m.advance address with
    | some v => do pure (v :: (← takeItems address count))
    | none => pure []

/-- Does an iterator still have an item that is the same as or equal to a value? It is asked for no
more than that takes. -/
def searchWithin (address : Nat) (v : Value) : Nat → Run Bool
  | 0 => throw .abandoned
  | rounds + 1 => do
    match ← m.advance address with
    | some x => if ← sameOrEqual x v then pure true else searchWithin address v rounds
    | none => pure false

end

end Codeweave.Script
