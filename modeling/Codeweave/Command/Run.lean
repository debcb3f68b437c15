import Codeweave.Command.Options
import Codeweave.FileTree.Regenerate

/-!
The commands, carried out on a tree of files. Every file that holds an opener is worked on; what is
wrong with one file does not keep the others from their turn.
-/

namespace Codeweave.Command

open Directive

/-- What a command works on: the files, and what was said so far. -/
structure Desk where
  tree : FileTree
  said : Journal := []

/-- A step of a command. -/
abbrev Work := ExceptT Escape (StateM Desk)

def report (events : Journal) : Work Unit :=
  modify fun d => { d with said := d.said ++ events }

/-- Names of directories whose files are not looked at. -/
def skipped : List String :=
  [".git", ".venv", "venv", "__pycache__", "node_modules"]

/-- Is the file left out because of its place or its suffix? -/
def isLeftOut (suffixes : List (Option String)) (p : Path) : Bool :=
  p.parts.any skipped.contains || (!suffixes.isEmpty && !suffixes.contains (some p.suffix))

/-- Does a text hold a piece? -/
def holds (piece : List Char) : List Char → Bool
  | [] => piece.isEmpty
  | c :: rest => piece.isPrefixOf (c :: rest) || holds piece rest

/-- The files that a path stands for: itself, or all files below it. -/
def candidates (t : FileTree) (p : Path) : Except FileError (List Path) :=
  (t.isFile p).map fun isFile => if isFile then [p] else t.filesBelow p

/-- The text of a file, unless it is not worth looking at. -/
def textOf (p : Path) : Work (Option (List Char)) := do
  match (← get).tree.readText p with
  | .ok text => pure (if holds opener text then some text else none)
  | .error .undecodable => do
    report [.remark (.log .debug .commandLine ("skipping " ++ p.text ++ ": not UTF-8"))]
    pure none
  | .error e => throw (.ofFile e)

/-- Does a step for a text that cannot be scanned: the fault is told, and the status is bad. -/
def tolerant (p : Path) (step : Work Bool) : Work Bool :=
  tryCatchThe Escape step fun
    | .fault fault => do
      report [.err (fault.describe p.text)]
      pure false
    | escape => throw escape

/-- Regenerates a file, or finds out whether it is up to date. The result tells whether all is
well. -/
def regenerateStep (config : Config) (check : Bool) (p : Path) (text : List Char) : Work Bool := do
  let desk ← get
  let (result, tree, said) := desk.tree.regenerateFile config p check (some text)
  set { desk with tree := tree, said := desk.said ++ said.map Event.remark }
  match result with
  | .error escape => throw escape
  | .ok r => do
    report (r.results.filterMap fun (_, outcome) =>
      outcome.fault?.map fun fault => .err (fault.describe p.text))
    if r.changed then
      report [.out ((if check then "Out of date: " else "Rewrote ") ++ p.text)]
    pure (r.ok && !(check && r.changed))

def spanText (s : Span) : String :=
  "[" ++ toString s.start ++ ", " ++ toString s.stop ++ "]"

def listing (p : Path) (b : Block) : String :=
  let field (name value : String) : String := "'" ++ name ++ "': " ++ value
  let orNone (value : Option String) : String := value.getD "None"
  "\x7b" ++ String.intercalate ", "
    [field "path" (Text.quote p.text), field "line" (toString b.line),
     field "declared_line_count" (orNone (b.declared.map toString)),
     field "actual_line_count" (toString b.lineCount), field "source_span" (spanText b.source),
     field "generated_span" (orNone (b.generated.map spanText))] ++ "\x7d"

def scanStep (p : Path) (text : List Char) : Work Bool := do
  match scan text with
  | .error broken => throw broken.escape
  | .ok blocks => do
    report (.remark (found blocks) :: blocks.map fun b => .out (listing p b))
    pure true

def onFile (suffixes : List (Option String)) (step : Path → List Char → Work Bool) (p : Path) :
    Work Bool := do
  if isLeftOut suffixes p then pure true
  else
    match ← textOf p with
    | none => pure true
    | some text => tolerant p (step p text)

def onFiles (work : Path → Work Bool) : List Path → Work Bool
  | [] => pure true
  | p :: rest => do
    let well ← work p
    -- the others have their turn whether or not all is well with this one
    let others ← onFiles work rest
    pure (well && others)

/-- Works on all files that the paths stand for; the files of a path are listed when its turn
comes. -/
def onPaths (work : Path → Work Bool) : List Path → Work Bool
  | [] => pure true
  | p :: rest => do
    match candidates (← get).tree p with
    | .error e => throw (.ofFile e)
    | .ok paths => do
      let well ← onFiles work paths
      let others ← onPaths work rest
      pure (well && others)

/-- How the lack of a value is told where a value is told. -/
def lacking : String := "[]"

/-- The settings of an invocation. The width is looked at last. -/
def configOf (inv : Invocation) : Work Config :=
  let drift := (inv.drift.map Drift.name).getD lacking
  match Config.make (inv.width.getD 0) drift inv.updateCounts with
  | .error e => throw (.raised .badValue e.message)
  | .ok config =>
    if inv.width.isSome then pure config
    else throw (.raised .wrongType "'<' not supported between instances of 'list' and 'int'")

def perform (inv : Invocation) : Work Nat := do
  let step ← match inv.verb with
    | .scan => pure scanStep
    | .regen => do pure (regenerateStep (← configOf inv) false)
    | .check => do pure (regenerateStep (← configOf inv) true)
  let well ← onPaths (onFile inv.suffixes step) (inv.paths.map Path.ofString)
  pure (if well then 0 else 1)

/-- Carries out a command on a tree: its exit status or what ended it, the tree afterwards, and what
was said. -/
def run (tree : FileTree) (inv : Invocation) : Except Escape Nat × FileTree × Journal :=
  let (result, desk) := (perform inv).run.run { tree := tree }
  (result, desk.tree, desk.said)

end Codeweave.Command
