import Codeweave.Text.Lines

/-!
Removal of the margin that all rows of a text share. Only spaces and tabs make a margin. A row of
nothing else becomes empty and does not count; the margin is the longest lead that all other rows
have in common.
-/

namespace Codeweave.Text

def isIndent (c : Char) : Bool :=
  c == ' ' || c == '\t'

/-- The longest text that both start with. -/
def commonLead : List Char → List Char → List Char
  | a :: as, b :: bs => if a == b then a :: commonLead as bs else []
  | _, _ => []

/-- Empties a row that holds nothing but indentation. -/
def clearBlank (row : List Char) : List Char :=
  if row.all isIndent then [] else row

/-- The margin shared by the rows that are not blank, `none` when all are. -/
def sharedMargin (rs : List (List Char)) : Option (List Char) :=
  (rs.filter fun row => !row.all isIndent).foldl
    (fun acc row =>
      let lead := row.takeWhile isIndent
      some (match acc with
        | none => lead
        | some m => commonLead m lead))
    none

def dropMargin (m row : List Char) : List Char :=
  if m.isPrefixOf row then row.drop m.length else row

/-- The text with its shared margin removed and its blank rows emptied. -/
def dedent (text : List Char) : List Char :=
  let rs := (rows text).map clearBlank
  unrows (rs.map (dropMargin ((sharedMargin rs).getD [])))

end Codeweave.Text
