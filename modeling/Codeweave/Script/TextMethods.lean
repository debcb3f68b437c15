import Codeweave.Script.Arguments
import Codeweave.Script.Sequence
import Codeweave.Text.LetterCase

/-!
Operations on texts: parts of a text, replacement and counting of parts, and the methods that give
them to scripts.
-/

namespace Codeweave.Script

namespace Parts

def cut? (part : List Char) : List Char → Option (List Char × List Char)
  | [] => if part.isEmpty then some ([], []) else none
  | c :: rest =>
    if part.isPrefixOf (c :: rest) then some ([], (c :: rest).drop part.length)
    else (cut? part rest).map fun (before, after) => (c :: before, after)

/-- The pieces between the occurrences of a part that is not empty; no more than `limit` cuts are
made, if there is a limit. -/
def splitAt (part : List Char) : Nat → Option Nat → List Char → List (List Char)
  | 0, _, text => [text]
  | fuel + 1, limit, text =>
    if limit == some 0 then [text]
    else
      match cut? part text with
      | some (before, after) => before :: splitAt part fuel (limit.map (· - 1)) after
      | none => [text]

/-- The pieces between runs of blanks. What is left when no more cuts are made keeps the blanks at
its end. -/
def splitBlank : Nat → Option Nat → List Char → List (List Char)
  | 0, _, _ => []
  | fuel + 1, limit, text =>
    let text := Text.trimLeft Text.isBlank text
    if text.isEmpty then []
    else if limit == some 0 then [text]
    else
      let word := text.takeWhile fun c => !Text.isBlank c
      word :: splitBlank fuel (limit.map (· - 1)) (text.drop word.length)

/-- Puts a text in front of every character and at the end, at most so many times. -/
def interleave (new : List Char) : Option Nat → List Char → List Char
  | some 0, text => text
  | _, [] => new
  | limit, c :: rest => new ++ c :: interleave new (limit.map (· - 1)) rest

def replace (old new : List Char) (limit : Option Nat) (text : List Char) : List Char :=
  if old.isEmpty then interleave new limit text
  else List.intercalate new (splitAt old (text.length + 1) limit text)

def count (part text : List Char) : Nat :=
  if part.isEmpty then text.length + 1
  else (splitAt part (text.length + 1) none text).length - 1

end Parts

def textMethods : List (String × Method) :=
  [("upper", .upper), ("lower", .lower), ("strip", .strip), ("lstrip", .stripLeft),
   ("rstrip", .stripRight), ("replace", .replace), ("split", .split), ("count", .count),
   ("join", .join), ("startswith", .startsWith), ("endswith", .endsWith)]

def textMethodName (method : Method) : String :=
  ((textMethods.find? fun (_, m) => m == method).map Prod.fst).getD ""

def textArgument (message : String → String) (v : Value) : Run (List Char) := do
  match v with
  | .text s => pure s.toList
  | _ => raiseWith .wrongType (message ((← get).typeName v))

def requireInteger (v : Value) : Run Int := do
  match v.integer? with
  | some n => pure n
  | none =>
    raiseWith .wrongType ("'" ++ (← get).typeName v ++
      "' object cannot be interpreted as an integer")

/-- A limit on the number of changes; a negative one is none. -/
def limitArgument (v : Value) : Run (Option Nat) := do
  let n ← requireInteger v
  if n ≥ indexBound || n < -(indexBound : Int) then
    raiseWith .overflow "Python int too large to convert to C ssize_t"
  else pure (if n < 0 then none else some n.toNat)

/-- Removes blanks, or the given characters, at the ends that a method is for. -/
def stripMethod (title : String) (trim : (Char → Bool) → List Char → List Char)
    (text : List Char) (args : Arguments) : Run Value := do
  match ← args.between title 0 1 with
  | .text chars :: _ => pure (.text (String.ofList (trim (chars.toList.contains ·) text)))
  | [] | .none :: _ => pure (.text (String.ofList (trim Text.isBlank text)))
  | _ => raiseWith .wrongType (title ++ " arg must be None or str")

/-- The part of a text between the positions that two arguments mean; `none` if the first lies
behind the second. -/
def between? (text : List Char) (low high : Value) : Run (Option (List Char)) := do
  let n : Int := text.length
  let start ← sliceIndex low
  let stop ← sliceIndex high
  let place (i : Int) : Int := if i < 0 then max (i + n) 0 else i
  let first := (start.map place).getD 0
  let last := min ((stop.map place).getD n) n
  if first > last then pure none
  else pure (some ((text.take last.toNat).drop first.toNat))

/-- The first argument of a method that looks for parts, and the part of the text it looks at. -/
def searched (title : String) (text : List Char) (args : Arguments) :
    Run (Value × Option (List Char)) := do
  match ← args.counting title 1 3 with
  | v :: rest => do
    pure (v, ← between? text (rest.head?.getD .none) (rest.tail.head?.getD .none))
  | [] => throw .abandoned

/-- Does one of several texts pass a test? The first that does decides; before it, all have to be
texts. -/
def anyText (title : String) (test : List Char → Bool) : List Value → Run Bool
  | [] => pure false
  | v :: rest => do
    let part ← textArgument
      (fun found => "tuple for " ++ title ++ " must only contain str, not " ++ found) v
    if test part then pure true else anyText title test rest

def affixMethod (title : String) (fits : List Char → List Char → Bool) (text : List Char)
    (args : Arguments) : Run Value := do
  let (v, place) ← searched title text args
  let test (part : List Char) : Bool := (place.map (fits part)).getD false
  match v with
  | .tuple options | .varargs options => do pure (.bool (← anyText title test options))
  | _ => do
    let part ← textArgument
      (fun found => title ++ " first arg must be str or a tuple of str, not " ++ found) v
    pure (.bool (test part))

def countMethod (text : List Char) (args : Arguments) : Run Value := do
  let (v, place) ← searched "count" text args
  let part ← textArgument (fun found => "must be str, not " ++ found) v
  pure (.integer ((place.map (Parts.count part)).getD 0))

def splitMethod (text : List Char) (args : Arguments) : Run Value := do
  let given ← args.unpack "split" 0 ["sep", "maxsplit"]
  let part := (given.head?.join).getD .none
  let limit ← match (given[1]?).join with
    | some v => limitArgument v
    | none => pure none
  let pieces ← match part with
    | .none => pure (Parts.splitBlank (text.length + 1) limit text)
    | v => do
      let part ← textArgument (fun found => "must be str or None, not " ++ found) v
      if part.isEmpty then raiseWith .badValue "empty separator"
      else pure (Parts.splitAt part (text.length + 1) limit text)
  newList (pieces.map fun p => .text (String.ofList p))

def replaceMethod (text : List Char) (args : Arguments) : Run Value := do
  match ← args.between "replace" 2 3 with
  | old :: new :: rest => do
    let old ← textAt "replace() " 1 old
    let new ← textAt "replace() " 2 new
    let limit ← match rest with
      | [] => pure none
      | v :: _ => limitArgument v
    pure (.text (String.ofList (Parts.replace old.toList new.toList limit text)))
  | _ => throw .abandoned

section

variable (m : Machine)

def joinMethod (part : List Char) (args : Arguments) : Run Value := do
  let v ← args.only "str.join"
  match ← items? m v with
  | none => raiseWith .wrongType "can only join an iterable"
  | some xs =>
    let texts ← (xs.zipIdx).mapM fun (x, i) =>
      textArgument (fun found => "sequence item " ++ toString i ++
        ": expected str instance, " ++ found ++ " found") x
    pure (.text (String.ofList (List.intercalate part texts)))

def callTextMethod (method : Method) (text : List Char) (args : Arguments) : Run Value := do
  let name := textMethodName method
  if method != .split then args.refuseNamed ("str." ++ name)
  match method with
  | .upper => do
    args.refuse "str.upper"
    pure (.text (String.ofList (Text.upper text)))
  | .lower => do
    args.refuse "str.lower"
    pure (.text (String.ofList (Text.lower text)))
  | .strip => stripMethod name Text.trim text args
  | .stripLeft => stripMethod name Text.trimLeft text args
  | .stripRight => stripMethod name Text.trimRight text args
  | .replace => replaceMethod text args
  | .split => splitMethod text args
  | .count => countMethod text args
  | .join => joinMethod m text args
  | .startsWith => affixMethod name List.isPrefixOf text args
  | .endsWith => affixMethod name List.isSuffixOf text args
  | _ => throw .abandoned

end

end Codeweave.Script
