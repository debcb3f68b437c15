import Codeweave.Text.DecimalDigit
import Codeweave.Text.Quoted

/-!
Reading of command-line words. A grammar has switches, some of which take a value, and one operand:
either the words up to the next switch or all that follow. Long switches may be abbreviated and take
their value behind an equals sign; short ones without a value may be run together. After a double
dash no word is a switch. Words that fit nowhere are kept for the caller.
-/

namespace Codeweave.Command

structure Switch (κ : Type) where
  key : κ
  names : List String
  takesValue : Bool := false

structure Grammar (κ : Type) where
  switches : List (Switch κ)
  /-- does the operand take all that follows, switches included? -/
  takesRest : Bool := false

inductive Kind (κ : Type) where
  | word
  | dashes
  /-- a switch spelled with one dash or two, with the value attached to it -/
  | switch (found : Switch κ) (short : Bool) (attached : Option (List Char))
  /-- a switch that the grammar does not have -/
  | stranger

structure Item (κ : Type) where
  text : String
  kind : Kind κ

inductive Request (κ : Type) where
  /-- an option, with its value if it takes one; a double dash is no value -/
  | option (key : κ) (value : Option String)
  | operand (words : List String)

/-- The requests of some words, and then either what is wrong or the words that fit nowhere. -/
structure Reading (κ : Type) where
  requests : List (Request κ)
  ending : Except String (List String)

namespace Reading

variable {κ : Type}

def done : Reading κ := ⟨[], .ok []⟩

def fail (message : String) : Reading κ := ⟨[], .error message⟩

def after (requests : List (Request κ)) (r : Reading κ) : Reading κ :=
  { r with requests := requests ++ r.requests }

def leftOver (words : List String) (r : Reading κ) : Reading κ :=
  { r with ending := r.ending.map (words ++ ·) }

end Reading

section

variable {κ : Type}

def complaint (s : Switch κ) (message : String) : String :=
  "argument " ++ String.intercalate "/" s.names ++ ": " ++ message

def ignoredValue (s : Switch κ) (value : List Char) : String :=
  complaint s ("ignored explicit argument " ++ String.ofList (Text.quoted value))

namespace Grammar

def find? (g : Grammar κ) (name : String) : Option (Switch κ) :=
  g.switches.find? fun s => s.names.contains name

def names (g : Grammar κ) : List (String × Switch κ) :=
  g.switches.flatMap fun s => s.names.map fun n => (n, s)

end Grammar

/-- Does the word write a negative number? A newline at its end does no harm. -/
def isNegativeNumber (word : List Char) : Bool :=
  match word with
  | '-' :: rest =>
    let number := match rest.getLast? with
      | some '\n' => rest.dropLast
      | _ => rest
    let whole := number.takeWhile Text.isDecimalDigit
    match number.drop whole.length with
    | [] => !whole.isEmpty
    | '.' :: places => !places.isEmpty && places.all Text.isDecimalDigit
    | _ => false
  | _ => false

/-- The text before the first equals sign, and the text after it if there is one. -/
def partAtEquals (word : List Char) : List Char × Option (List Char) :=
  let name := word.takeWhile (· != '=')
  match word.drop name.length with
  | [] => (name, none)
  | _ :: value => (name, some value)

/-- How a word with a dash in front reads that is no switch or abbreviation. -/
def kindOfStranger (word : List Char) : Kind κ :=
  if isNegativeNumber word || word.contains ' ' then .word else .stranger

/-- How a word with two dashes in front reads: as the switch whose name it starts. -/
def kindOfLong (g : Grammar κ) (word : List Char) : Except String (Kind κ) :=
  let (name, value) := partAtEquals word
  match g.names.filter fun (n, _) => name.isPrefixOf n.toList with
  | [] => .ok (kindOfStranger word)
  | [(_, s)] => .ok (.switch s false value)
  | several =>
    .error ("ambiguous option: " ++ String.ofList word ++ " could match " ++
      String.intercalate ", " (several.map Prod.fst))

/-- How a word with one dash in front reads: as the short switch it starts with. -/
def kindOfShort (g : Grammar κ) (word : List Char) : Kind κ :=
  match g.find? (String.ofList (word.take 2)) with
  | some s => .switch s true (some (word.drop 2))
  | none => kindOfStranger word

def kindOf (g : Grammar κ) (word : String) : Except String (Kind κ) :=
  match word.toList with
  | '-' :: second :: rest =>
    let short := second != '-'
    match g.find? word with
    | some s => .ok (.switch s short none)
    | none =>
      let characters := '-' :: second :: rest
      let (name, value) := partAtEquals characters
      match value, g.find? (String.ofList name) with
      | some value, some s => .ok (.switch s short (some value))
      | _, _ => if short then .ok (kindOfShort g characters) else kindOfLong g characters
  | _ => .ok .word

def classify (g : Grammar κ) : List String → Except String (List (Item κ))
  | [] => .ok []
  | word :: rest =>
    if word == "--" then .ok (⟨word, .dashes⟩ :: rest.map fun w => ⟨w, .word⟩)
    else do
      let kind ← kindOf g word
      .ok (⟨word, kind⟩ :: (← classify g rest))

def Item.isSwitch (i : Item κ) : Bool :=
  match i.kind with
  | .switch _ _ _ | .stranger => true
  | _ => false

def Item.isWord (i : Item κ) : Bool :=
  match i.kind with
  | .word => true
  | _ => false

def Item.isDashes (i : Item κ) : Bool :=
  match i.kind with
  | .dashes => true
  | _ => false

/-- How many items the operand takes, `none` if it does not find a word. -/
def operandLength? (g : Grammar κ) (items : List (Item κ)) : Option Nat :=
  if (items.dropWhile Item.isDashes).head?.any Item.isWord then
    if g.takesRest then some items.length
    else some (items.takeWhile fun i => !i.isSwitch).length
  else none

/-- The words of the operand. One that does not take the rest is not told of the double dash. -/
def operandWords (g : Grammar κ) (items : List (Item κ)) : List String :=
  let words := items.map Item.text
  if g.takesRest then words else words.erase "--"

/-- The value that is attached to a switch. -/
def attachedValue (value : List Char) : Option String :=
  if value == ['-', '-'] then none else some (String.ofList value)

/-- Reads what is attached to a short switch without a value as more such switches. -/
def readCluster (g : Grammar κ) (s : Switch κ) : List Char → Except String (List (Request κ))
  | [] => .error (ignoredValue s [])
  | c :: rest =>
    match g.find? (String.ofList ['-', c]) with
    | none => .error (ignoredValue s (c :: rest))
    | some next =>
      match rest with
      | [] => .ok [.option s.key none, .option next.key none]
      | d :: more =>
        if next.takesValue then
          .ok [.option s.key none, .option next.key (attachedValue (d :: more))]
        else (readCluster g next (d :: more)).map (.option s.key none :: ·)

/-- Reads items one after the other; `taken` tells whether the operand was found already. -/
def readItems (g : Grammar κ) (taken : Bool) (items : List (Item κ)) : Reading κ :=
  match items with
  | [] => .done
  | item :: rest =>
    match item.kind with
    | .stranger => (readItems g taken rest).leftOver [item.text]
    | .switch s short (some attached) =>
      if s.takesValue then
        (readItems g taken rest).after [.option s.key (attachedValue attached)]
      else if short then
        match readCluster g s attached with
        | .error message => .fail message
        | .ok requests => (readItems g taken rest).after requests
      else .fail (ignoredValue s attached)
    | .switch s _ none =>
      if s.takesValue then
        match rest with
        | value :: rest =>
          if value.isWord then (readItems g taken rest).after [.option s.key (some value.text)]
          else .fail (complaint s "expected one argument")
        | [] => .fail (complaint s "expected one argument")
      else (readItems g taken rest).after [.option s.key none]
    | .word | .dashes =>
      match (if taken then none else operandLength? g items) with
      | none => (readItems g taken rest).leftOver [item.text]
      | some n =>
        (readItems g true (rest.drop (n - 1))).after [.operand (operandWords g (items.take n))]
termination_by items.length
decreasing_by all_goals simp only [List.length_cons, List.length_drop]; omega

def Grammar.read (g : Grammar κ) (words : List String) : Reading κ :=
  match classify g words with
  | .error message => .fail message
  | .ok items => readItems g false items

end

end Codeweave.Command
