import Codeweave.Command.Run

/-!
The program. The files that a command may touch are read into a tree, the command is carried out on
the tree, and what it changed is written back.
-/

namespace Codeweave.Command

/-- The file or directory of a path, with all below it, as it is on disk. -/
partial def load (t : FileTree) (p : Path) : IO FileTree := do
  let place := (← IO.currentDir) / p.text
  match t.locate p with
  | .error _ => pure t
  | .ok address =>
    if ← place.isDir then
      let names := (← place.readDir).toList.map fun e => e.fileName
      names.foldlM (fun t name => load t (p.append [name])) (t.plant address .directory)
    else if ← place.pathExists then
      let bytes ← IO.FS.readBinFile place
      pure (t.plant address (.file (Content.ofBytes bytes.toList)))
    else pure t

def loadPath (t : FileTree) (p : Path) : IO FileTree := do
  let ways := (List.range p.parts.length).tail.map fun n => (⟨p.parts.take n⟩ : Path)
  let t ← ways.foldlM (fun t way => do
    match t.locate way with
    | .ok address =>
      if ← ((← IO.currentDir) / way.text).isDir then pure (t.plant address .directory) else pure t
    | .error _ => pure t) t
  let t ← load t p
  if p.name.isEmpty then pure t else load t (FileTree.draftOf p)

/-- Writes the files that differ from those before, and removes those that are gone. -/
def save (before after : FileTree) : IO Unit := do
  for (address, entry) in after.entries do
    match entry with
    | .file content =>
      if before.get? address != some entry then
        let place := (Path.mk address).text
        let draft := (FileTree.draftOf ⟨address⟩).text
        IO.FS.writeBinFile draft (ByteArray.mk content.bytes.toArray)
        IO.FS.rename draft place
    | .directory => pure ()
  for (address, entry) in before.entries do
    match entry, after.get? address with
    | .file _, none =>
      let place := (← IO.currentDir) / (Path.mk address).text
      if ← place.pathExists then IO.FS.removeFile place
    | _, _ => pure ()

def usage : String :=
  "usage: " ++ program ++ " [-h] [-v] [-q] " ++ verbChoice ++ " ..."

def lastWords : Escape → String
  | .fault fault => fault.describe ""
  | .raised errorClass message => errorClass.name ++ ": " ++ message
  | .file error => error.name
  | .abandoned => "a script goes on for too long"

def execute (words : List String) : IO UInt32 := do
  let out ← IO.getStdout
  let err ← IO.getStderr
  match Invocation.ofWords words with
  | .error .help => do
    out.putStrLn usage
    pure 0
  | .error refusal => do
    err.putStrLn usage
    err.putStrLn refusal.message
    pure 2
  | .ok inv => do
    let before ← (inv.paths.map Path.ofString).foldlM loadPath {}
    let (result, after, said) := run before inv
    save before after
    out.putStr (Journal.outputText said)
    err.putStr (Journal.errorText inv.threshold said)
    match result with
    | .ok status => pure (UInt32.ofNat status)
    | .error escape => do
      err.putStrLn (lastWords escape)
      pure 1

end Codeweave.Command

def main (words : List String) : IO UInt32 :=
  Codeweave.Command.execute words
