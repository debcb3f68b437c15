import Codeweave.Text.Lines

/-!
Paths: names separated by slashes. Empty names and single dots mean nothing and are dropped; double
dots are kept, since what they mean depends on the tree.
-/

namespace Codeweave

/-- A path as the list of its parts. The first part of an absolute path is its root. -/
structure Path where
  parts : List String
deriving Repr, DecidableEq

namespace Path

def namesBetween : List Char → List (List Char)
  | [] => [[]]
  | c :: rest =>
    if c == '/' then [] :: namesBetween rest else Text.consHead c (namesBetween rest)

/-- The root that a text starts with: one slash, or two if there are exactly two. -/
def rootOf : List Char → List String
  | '/' :: '/' :: '/' :: _ => ["/"]
  | '/' :: '/' :: _ => ["//"]
  | '/' :: _ => ["/"]
  | _ => []

def ofString (s : String) : Path :=
  let names := (namesBetween s.toList).filter fun name => !name.isEmpty && name != ['.']
  ⟨rootOf s.toList ++ names.map String.ofList⟩

def isRoot (part : String) : Bool :=
  part == "/" || part == "//"

def text (p : Path) : String :=
  match p.parts with
  | [] => "."
  | part :: rest =>
    if isRoot part then part ++ String.intercalate "/" rest
    else String.intercalate "/" (part :: rest)

/-- The last name of a path, empty if there is none. -/
def name (p : Path) : String :=
  match p.parts.getLast? with
  | none => ""
  | some part => if isRoot part then "" else part

/-- The part of a name from its last dot on; neither the first nor the last character counts as that
dot. -/
def suffixOf (name : List Char) : List Char :=
  let stem := (name.reverse.dropWhile (· != '.')).reverse
  let after := name.drop stem.length
  if stem.length ≤ 1 || after.isEmpty then [] else '.' :: after

def suffix (p : Path) : String :=
  String.ofList (suffixOf p.name.toList)

def append (p : Path) (parts : List String) : Path :=
  ⟨p.parts ++ parts⟩

def withEnding (p : Path) (ending : String) : Path :=
  ⟨p.parts.dropLast ++ [p.name ++ ending]⟩

end Path

end Codeweave
