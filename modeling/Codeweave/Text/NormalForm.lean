import Codeweave.Text.CombiningClass
import Codeweave.Text.Composition
import Codeweave.Text.Decomposition

/-!
The normal form of a name. Names that differ only in how their characters are put together, or in
variant forms of characters, are the same name. All characters are taken apart, the marks of each
letter are put in order, and what makes one character is put together again.
-/

namespace Codeweave.Text

/-! ### Hangul -/

/-- The first leading consonant, vowel, place before the first trailing consonant, and syllable. -/
def firstLead : Nat := 0x1100
def firstVowel : Nat := 0x1161
def beforeTrail : Nat := 0x11a7
def firstSyllable : Nat := 0xac00

/-- How many leading consonants, vowels and trailing consonants, none included, there are. -/
def leadCount : Nat := 19
def vowelCount : Nat := 21
def trailCount : Nat := 28

def syllableParts? (c : Nat) : Option (List Nat) :=
  let i := c - firstSyllable
  if c < firstSyllable || i ≥ leadCount * vowelCount * trailCount then none
  else
    let lead := firstLead + i / (vowelCount * trailCount)
    let vowel := firstVowel + i % (vowelCount * trailCount) / trailCount
    let trail := beforeTrail + i % trailCount
    some (if trail == beforeTrail then [lead, vowel] else [lead, vowel, trail])

/-- The syllable that a leading consonant and a vowel make, or a syllable without a trailing
consonant and one. -/
def syllable? (first second : Nat) : Option Nat :=
  let lead := first - firstLead
  let vowel := second - firstVowel
  let open_ := first - firstSyllable
  let trail := second - beforeTrail
  if firstLead ≤ first && lead < leadCount && firstVowel ≤ second && vowel < vowelCount then
    some (firstSyllable + (lead * vowelCount + vowel) * trailCount)
  else if firstSyllable ≤ first && open_ < leadCount * vowelCount * trailCount &&
      open_ % trailCount == 0 && beforeTrail < second && trail < trailCount then
    some (first + trail)
  else none

/-! ### Taking apart, ordering and putting together -/

def partsOf (c : Nat) : List Nat :=
  ((syllableParts? c).orElse fun _ => listedParts? c).getD [c]

/-- Puts a character behind those of the same or a lower class, as far as marks reach. The
characters are given from the last to the first. -/
def insertMark (c : Nat) : List Nat → List Nat
  | [] => [c]
  | last :: before =>
    if combiningClass c != 0 && combiningClass c < combiningClass last then
      last :: insertMark c before
    else c :: last :: before

def orderMarks (cs : List Nat) : List Nat :=
  (cs.foldl (fun reversed c => insertMark c reversed) []).reverse

def whole? (first second : Nat) : Option Nat :=
  (syllable? first second).orElse fun _ => listedWhole? first second

/-- A letter, the marks behind it that it did not take, the last first, and what came before. -/
structure Pending where
  before : List Nat := []
  letter : Option Nat := none
  marks : List Nat := []

def Pending.reversed (p : Pending) : List Nat :=
  p.marks ++ p.letter.toList ++ p.before

/-- Takes one more character: the letter takes it if both make one and no mark of the same class, or
of a higher one, stands between. -/
def Pending.take (p : Pending) (c : Nat) : Pending :=
  let class_ := combiningClass c
  let isBlocked := match p.marks with
    | [] => false
    | last :: _ => combiningClass last ≥ class_
  match p.letter.bind fun letter => if isBlocked then none else whole? letter c with
  | some whole => { p with letter := some whole }
  | none =>
    if class_ == 0 then { before := p.reversed, letter := some c, marks := [] }
    else { p with marks := c :: p.marks }

def putTogether (cs : List Nat) : List Nat :=
  (cs.foldl Pending.take {}).reversed.reverse

def normalForm (name : List Char) : List Char :=
  if name.all fun c => c.toNat < 0x80 then name
  else (putTogether (orderMarks (name.flatMap fun c => partsOf c.toNat))).map Char.ofNat

end Codeweave.Text
