import Codeweave.Text.Ranges

/-!
Blank characters and the removal of blanks at the ends of a text. The class is wider than the
Unicode property of that name: it also holds the four information separators.
-/

namespace Codeweave.Text

def blankRanges : List (Nat × Nat) :=
  [(0x9, 0xd), (0x1c, 0x20), (0x85, 0x85), (0xa0, 0xa0), (0x1680, 0x1680), (0x2000, 0x200a),
   (0x2028, 0x2029), (0x202f, 0x202f), (0x205f, 0x205f), (0x3000, 0x3000)]

def isBlank (c : Char) : Bool :=
  inRanges blankRanges c

def trimLeft (p : Char → Bool) (text : List Char) : List Char :=
  text.dropWhile p

def trimRight (p : Char → Bool) (text : List Char) : List Char :=
  (text.reverse.dropWhile p).reverse

def trim (p : Char → Bool) (text : List Char) : List Char :=
  trimRight p (trimLeft p text)

/-- The text without blanks at either end. -/
def strip (text : List Char) : List Char :=
  trim isBlank text

/-- The blanks that a text starts with. -/
def margin (text : List Char) : List Char :=
  text.takeWhile isBlank

end Codeweave.Text
