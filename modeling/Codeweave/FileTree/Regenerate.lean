import Codeweave.Directive.Report
import Codeweave.FileTree.Basic
import Codeweave.Text.Quoted

/-!
Regeneration of a file in its tree. A changed file is written beside its place first and then moved
there, so that the place never holds half a file.
-/

namespace Codeweave.FileTree

open Directive

/-- The name beside a file under which its new content is written first. -/
def draftOf (p : Path) : Path :=
  p.withEnding ".litgen.tmp"

/-- Puts a text into the place of a file that exists. The draft is gone afterwards, whatever
happened, unless it could not even be written. -/
def replaceText (t : FileTree) (p : Path) (text : List Char) : Except Escape Unit × FileTree :=
  if p.name.isEmpty then
    (.error (.raised .badValue ("PosixPath(" ++ Text.quote p.text ++ ") has an empty name")), t)
  else
    let draft := draftOf p
    match t.write draft (.text text) with
    | .error e => (.error (.ofFile e), t)
    | .ok drafted =>
      match drafted.entry p with
      | .error e => (.error (.ofFile e), drafted.remove draft)
      | .ok .directory => (.error (.ofFile .isDirectory), drafted.remove draft)
      | .ok (.file _) =>
        -- moving the draft: it is gone, and its text is in the place
        match (drafted.remove draft).write p (.text text) with
        | .error e => (.error (.ofFile e), drafted.remove draft)
        | .ok replaced => (.ok (), replaced)

/-- Regenerates a file. With `check` the tree stays as it is; `known` is the text of the file if it
was read before. -/
def regenerateFile (t : FileTree) (config : Config) (p : Path) (check : Bool)
    (known : Option (List Char)) : Except Escape Report × FileTree × List Remark :=
  let source : Except FileError (List Char) :=
    match known with
    | some text => .ok text
    | none => t.readText p
  match source with
  | .error e => (.error (.ofFile e), t, [])
  | .ok source =>
    match regenerateSource config p.text source with
    | (.error escape, said) => (.error escape, t, said)
    | (.ok report, said) =>
      if report.changed && !check then
        match t.replaceText p report.text with
        | (.error escape, t) => (.error escape, t, said)
        | (.ok _, t) =>
          (.ok report, t, said ++ [Remark.log .info .regeneration ("rewrote " ++ p.text)])
      else (.ok report, t, said)

end Codeweave.FileTree
