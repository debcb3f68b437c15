import Codeweave.Directive.Outline
import Codeweave.Escape
import Codeweave.Journal
import Codeweave.Text.Lines

/-!
Directives with their places in a source. All places count characters from the start of the source;
a span reaches from its start up to, and not including, its stop.
-/

namespace Codeweave

/-- What a directive asks for: a script to run, and where it stands. -/
structure Directive where
  script : List Char
  /-- the number of script lines that the directive says it has -/
  declared : Option Int
  /-- the blanks before its opener -/
  margin : List Char := []
  /-- the line of its opener -/
  line : Int := 1
  /-- the first line of its script -/
  scriptLine : Int := 2
deriving Repr, DecidableEq

namespace Directive

def lineCount (d : Directive) : Nat :=
  (Text.lines d.script).length

/-- Does the directive say that its script has the lines that it has? -/
def countHolds (d : Directive) : Bool :=
  d.declared == some (d.lineCount : Int)

structure Span where
  start : Nat
  stop : Nat
deriving Repr, DecidableEq

structure Block extends Directive where
  /-- from the opener to the end of the region, or of the closer if there is no region -/
  source : Span
  /-- the lines between the sentinels -/
  generated : Option Span
  /-- the closer without its carriage return and newline -/
  closer : Span
  /-- where a region is put if there is none -/
  insertAt : Nat
deriving Repr, DecidableEq

/-- The characters that a closer's span leaves out at its end. -/
def isReturn (c : Char) : Bool :=
  c == '\r' || c == '\n'

/-- A directive found at a place. -/
def Written.blockAt (w : Written) (p : Place) : Block :=
  let closerStart := p.offset + (w.opener :: w.script).flatten.length
  let closerStop := closerStart + w.closer.length
  { script := w.script.flatten
    declared := w.count.map Int.ofNat
    margin := Text.margin w.opener
    line := p.lines + 1
    scriptLine := p.lines + 2
    source := ⟨p.offset, p.offset + w.lines.flatten.length⟩
    generated := w.region.map fun r =>
      let start := closerStop + r.first.length
      ⟨start, start + r.body.flatten.length⟩
    closer := ⟨closerStart, closerStart + (Text.trimRight isReturn w.closer).length⟩
    insertAt := closerStop }

/-- The directives of an outline that starts at a place. -/
def blocksFrom (p : Place) : List Passage → List Block
  | [] => []
  | .plain line :: rest => blocksFrom (p.after [line]) rest
  | .directive w :: rest => w.blockAt p :: blocksFrom (p.after w.lines) rest

/-- The directives of a source, in order. -/
def scan (source : List Char) : Except Broken (List Block) :=
  (outline (Text.lines source)).map (blocksFrom {})

/-- What a log says of a source that was scanned. -/
def found (blocks : List Block) : Remark :=
  .log .debug .scanner ("found " ++ toString blocks.length ++ " directive(s)")

def Broken.fault (b : Broken) (message : String) : Fault :=
  { cause := .unterminatedDirective message
    offset := some b.place.offset
    line := some (b.place.lines + 1) }

/-- How a source with a broken directive ends the operation. -/
def Broken.escape (b : Broken) : Escape :=
  let line := toString (b.place.lines + 1)
  match b.defect with
  | .unclosed =>
    .fault (b.fault
      ("directive opened at line " ++ line ++ " has no closing \x60!! N */\x60 marker"))
  | .endless =>
    .fault (b.fault
      ("generated region of directive at line " ++ line ++ " has no end sentinel"))
  | .countTooLong digits => .raised .badValue (Text.tooLongMessage digits)

end Directive

end Codeweave
