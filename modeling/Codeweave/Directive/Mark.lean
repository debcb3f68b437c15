import Codeweave.Text.Blank
import Codeweave.Text.DecimalDigit
import Codeweave.Text.Dedent

/-!
The lines that mark a directive in a source: its opener and its closer, and the two sentinels around
the region that is generated for it. A mark is recognised by its line without the blanks around it.
-/

namespace Codeweave.Directive

/-- A line of a source with its terminator. -/
abbrev Line := List Char

def opener : List Char := "/*!!".toList

def beginSentinel : List Char :=
  "/* ################# !! GENERATED CODE -- DO NOT MODIFY !! ################# */".toList

def endSentinel : List Char :=
  "/* ######################### END OF GENERATED CODE ######################### */".toList

/-- Does the line hold the mark, and nothing else but blanks around it? -/
def isMark (mark : List Char) (line : Line) : Bool :=
  Text.strip line == mark

def isOpener (line : Line) : Bool :=
  isMark opener line

def isBegin (line : Line) : Bool :=
  isMark beginSentinel line

def isEnd (line : Line) : Bool :=
  isMark endSentinel line

/-- The digits between the marks of a closer: spaces and tabs may stand around them. -/
def countDigits? (mark : List Char) : Option (List Char) :=
  match mark with
  | '!' :: '!' :: rest =>
    let rest := rest.dropWhile Text.isIndent
    let digits := rest.takeWhile Text.isDecimalDigit
    if (rest.drop digits.length).dropWhile Text.isIndent == ['*', '/'] then some digits else none
  | _ => none

/-- The digits, perhaps none, of a line that closes a directive; `none` for any other line. -/
def closerDigits? (line : Line) : Option (List Char) :=
  countDigits? (Text.strip line)

def isCloser (line : Line) : Bool :=
  (closerDigits? line).isSome

end Codeweave.Directive
