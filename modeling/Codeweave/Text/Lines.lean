/-!
Lines of a text. Two notions are in use. A *row* ends at a newline only; it is what a builder and a
dedent work on. A *line* ends at any of eleven line boundaries and keeps its terminator; it is what
the directive grammar is written over.
-/

namespace Codeweave.Text

/-- Does the character end a line? A carriage return and a newline together end one line. -/
def isBoundary (c : Char) : Bool :=
  c == '\n' || c == '\r' || c == '\x0b' || c == '\x0c' || c == '\x1c' || c == '\x1d' ||
    c == '\x1e' || c == '\x85' || c == '\u2028' || c == '\u2029'

def consHead (c : Char) : List (List Char) → List (List Char)
  | [] => [[c]]
  | line :: rest => (c :: line) :: rest

/-- The lines of a text, each with its terminator. -/
def lines : List Char → List (List Char)
  | [] => []
  | '\r' :: '\n' :: rest => ['\r', '\n'] :: lines rest
  | c :: rest => if isBoundary c then [c] :: lines rest else consHead c (lines rest)

def body (line : List Char) : List Char :=
  line.takeWhile fun c => !isBoundary c

def bodies (text : List Char) : List (List Char) :=
  (lines text).map body

/-- The rows of a text, split at each newline: one more than there are newlines. -/
def rows : List Char → List (List Char)
  | [] => [[]]
  | c :: rest => if c == '\n' then [] :: rows rest else consHead c (rows rest)

def unrows (rs : List (List Char)) : List Char :=
  List.intercalate ['\n'] rs

@[simp]
theorem flatten_consHead (c : Char) (ls : List (List Char)) :
    (consHead c ls).flatten = c :: ls.flatten := by
  cases ls <;> rfl

@[simp]
theorem flatten_lines (text : List Char) : (lines text).flatten = text := by
  fun_induction lines text with
  | case1 => rfl
  | case2 rest ih => simp [ih]
  | case3 c rest _ h ih => simp [ih]
  | case4 c rest _ h ih => simp [ih]

theorem rows_ne_nil (text : List Char) : rows text ≠ [] := by
  fun_cases rows text with
  | case1 => simp
  | case2 => simp
  | case3 c rest _ => cases h : rows rest <;> simp [consHead]

end Codeweave.Text
