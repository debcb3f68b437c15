/-!
Tokens of the script language, each with the line on which it starts.
-/

namespace Codeweave.Script

/-- How a text literal is written: raw literals keep their backslashes, formatted literals hold
expressions in braces, and what literals of bytes stand for is no text. -/
structure LiteralForm where
  raw : Bool := false
  formatted : Bool := false
  bytes : Bool := false
deriving Repr, DecidableEq

inductive TokenKind where
  | word (text : String)
  | integer (value : Nat)
  /-- an integer with more digits than a number may be read from -/
  | hugeInteger
  | decimal (digits : Nat) (exponent : Int)
  /-- a number of which a letter says that it is imaginary -/
  | imaginary
  /-- a text literal; `source` is what stands between the quotes -/
  | literal (form : LiteralForm) (source : List Char)
  /-- a formatted literal of which only the sources of its expressions are looked at -/
  | embedding (values : List (List Char))
  | mark (text : String)
  /-- end of a logical line -/
  | newline
  | indent
  | dedent
  | finish
  /-- a place from which no token can be read -/
  | unreadable
deriving Repr, DecidableEq

structure Token where
  kind : TokenKind
  line : Nat
  /-- does anything part it from the token before? -/
  spaced : Bool := false
deriving Repr, DecidableEq

def keywords : List String :=
  ["False", "None", "True", "and", "as", "assert", "async", "await", "break", "class", "continue",
   "def", "del", "elif", "else", "except", "finally", "for", "from", "global", "if", "import", "in",
   "is", "lambda", "nonlocal", "not", "or", "pass", "raise", "return", "try", "while", "with",
   "yield"]

inductive FailureKind where
  | malformed
  /-- a line is indented deeper than its block for no reason -/
  | unexpectedIndent
  | missingBlock
  /-- a line returns to a depth that no enclosing block has -/
  | unevenIndent
  | tooDeep
  /-- tabs and spaces are mixed so that the depth of a line depends on the width of a tab -/
  | tabs
deriving Repr, DecidableEq

structure Failure where
  line : Nat
  kind : FailureKind := .malformed
deriving Repr, DecidableEq

end Codeweave.Script
