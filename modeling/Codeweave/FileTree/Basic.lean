import Codeweave.Escape
import Codeweave.FileTree.Path

/-!
Trees of files. An entry of a tree has an address, the list of names that lead to it from the root
of the tree; the root itself is always a directory. A path is walked through the tree, as a double
dot leads to the directory above the one that was reached.
-/

namespace Codeweave

inductive Content where
  | text (characters : List Char)
  /-- bytes that are no text -/
  | binary (bytes : List UInt8)
deriving Repr, DecidableEq

/-- What bytes are: a text if they are UTF-8. -/
def Content.ofBytes (bytes : List UInt8) : Content :=
  match String.fromUTF8? (ByteArray.mk bytes.toArray) with
  | some s => .text s.toList
  | none => .binary bytes

def Content.bytes : Content → List UInt8
  | text characters => (String.ofList characters).toUTF8.toList
  | binary bytes => bytes

inductive Entry where
  | file (content : Content)
  | directory
deriving Repr, DecidableEq

/-- The names that lead to an entry. -/
abbrev Address := List String

structure FileTree where
  entries : List (Address × Entry) := []
deriving Repr, DecidableEq

namespace FileTree

def get? (t : FileTree) (address : Address) : Option Entry :=
  if address.isEmpty then some .directory else t.entries.lookup address

def erase (t : FileTree) (address : Address) : FileTree :=
  ⟨t.entries.filter fun (a, _) => a != address⟩

def put (t : FileTree) (address : Address) (entry : Entry) : FileTree :=
  ⟨(address, entry) :: (t.erase address).entries⟩

/-- The address that a name leads to from another address. Above the root there is nothing to go
back to, so that a double dot is a name like any other there. -/
def stepTo (here : Address) (name : String) : Address :=
  if name == ".." && !here.isEmpty && here.getLast? != some ".." then here.dropLast
  else here ++ [name]

def maxNameBytes : Nat := 255

def maxPathBytes : Nat := 4095

/-- The address to which names lead from another; the last name need not exist. -/
def walk (t : FileTree) (here : Address) : List String → Except FileError Address
  | [] => .ok here
  | name :: rest =>
    match t.get? here with
    | none => .error .notFound
    | some (.file _) => .error .notDirectory
    | some .directory =>
      if name.utf8ByteSize > maxNameBytes then .error .tooLong
      else t.walk (stepTo here name) rest

def locate (t : FileTree) (p : Path) : Except FileError Address :=
  if p.text.toList.contains '\x00' then .error .nullCharacter
  else if p.text.utf8ByteSize > maxPathBytes then .error .tooLong
  else t.walk [] p.parts

/-- The entry that a path leads to. -/
def entry (t : FileTree) (p : Path) : Except FileError Entry :=
  match t.locate p with
  | .error e => .error e
  | .ok address =>
    match t.get? address with
    | none => .error .notFound
    | some e => .ok e

/-- Does the path lead to a file? There is no answer for a path that is too long. -/
def isFile (t : FileTree) (p : Path) : Except FileError Bool :=
  match t.entry p with
  | .ok (.file _) => .ok true
  | .error .tooLong => .error .tooLong
  | _ => .ok false

def read (t : FileTree) (p : Path) : Except FileError Content :=
  match t.entry p with
  | .error e => .error e
  | .ok .directory => .error .isDirectory
  | .ok (.file content) => .ok content

def readText (t : FileTree) (p : Path) : Except FileError (List Char) :=
  match t.read p with
  | .error e => .error e
  | .ok (.binary _) => .error .undecodable
  | .ok (.text characters) => .ok characters

/-- Writes a file, which may be new but whose directory is not. -/
def write (t : FileTree) (p : Path) (content : Content) : Except FileError FileTree :=
  match t.locate p with
  | .error e => .error e
  | .ok address =>
    match t.get? address with
    | some .directory => .error .isDirectory
    | _ => .ok (t.put address (.file content))

/-- Removes the file of a path, if there is one. -/
def remove (t : FileTree) (p : Path) : FileTree :=
  match t.locate p with
  | .ok address => t.erase address
  | .error _ => t

/-- The tree with an entry and with all directories above it. -/
def plant (t : FileTree) (address : Address) (entry : Entry) : FileTree :=
  let parents := (List.range address.length).tail.map address.take
  (parents.foldl (fun t parent => t.put parent .directory) t).put address entry

/-- Does the first list come before the second, or is it the same? -/
def addressLe : Address → Address → Bool
  | [], _ => true
  | _ :: _, [] => false
  | a :: as, b :: bs => a < b || (a == b && addressLe as bs)

/-- The files below the directory of a path, by their names from there on, in order. -/
def filesBelow (t : FileTree) (p : Path) : List Path :=
  match t.locate p with
  | .error _ => []
  | .ok address =>
    match t.get? address with
    | some .directory =>
      let below := t.entries.filterMap fun (a, e) =>
        match e with
        | .file _ => if address.isPrefixOf a then some (a.drop address.length) else none
        | .directory => none
      (below.mergeSort addressLe).map p.append
    | _ => []

end FileTree

end Codeweave
