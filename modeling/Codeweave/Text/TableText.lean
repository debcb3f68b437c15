/-!
Tables of characters written as text. A table is a row of entries parted by blanks or line ends,
each of them `key=value`. Numbers are hexadecimal, points part the numbers of a row, and a key
`n+k` stands for the numbers from `n` to `n + k`.
-/

namespace Codeweave.Text

def hexDigit (c : Char) : Nat :=
  if c.isDigit then c.toNat - '0'.toNat else c.toNat - 'a'.toNat + 10

def hexNumber (digits : List Char) : Nat :=
  digits.foldl (fun acc c => 16 * acc + hexDigit c) 0

def partsBetween (mark : Char) (text : List Char) : List (List Char) :=
  text.foldr (fun c parts =>
    if c == mark then [] :: parts
    else
      match parts with
      | [] => [[c]]
      | part :: rest => (c :: part) :: rest) [[]]

def splitOnce (mark : Char) (text : List Char) : List Char × List Char :=
  (text.takeWhile (· != mark), (text.dropWhile (· != mark)).drop 1)

def hexNumbers (text : List Char) : List Nat :=
  (partsBetween '.' text).map hexNumber

/-- An entry of a table: the numbers from `first` to `last` have a value. -/
structure TableEntry where
  first : Nat
  last : Nat
  value : List Nat

def tableWords (text : String) : List (List Char) :=
  (partsBetween ' ' (text.toList.map fun c => if c == '\n' then ' ' else c)).filter
    fun entry => !entry.isEmpty

/-- The entries of a table whose keys are numbers or rows of successive numbers. -/
def tableEntries (text : String) : Array TableEntry :=
  ((tableWords text).map fun entry =>
    let (key, value) := splitOnce '=' entry
    let (first, more) := splitOnce '+' key
    ⟨hexNumber first, hexNumber first + hexNumber more, hexNumbers value⟩).toArray

def entryOf? (table : Array TableEntry) (n : Nat) : Option TableEntry :=
  table.find? fun e => e.first ≤ n && n ≤ e.last

end Codeweave.Text
