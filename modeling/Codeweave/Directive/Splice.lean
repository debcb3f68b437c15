import Codeweave.Directive.Regenerate

/-!
Edits of a source: the text of a regenerated directive goes between its sentinels, which are put in
where there are none, and the number on its closer is set right if that is asked for. What no edit
covers is copied.
-/

namespace Codeweave.Directive

structure Edit where
  span : Span
  text : List Char
deriving Repr, DecidableEq

/-- Applies edits, in the order of their spans, to the rest of a source that starts at an offset. -/
def applyFrom (offset : Nat) (rest : List Char) : List Edit → List Char
  | [] => rest
  | e :: edits =>
    rest.take (e.span.start - offset) ++ e.text ++
      applyFrom e.span.stop (rest.drop (e.span.stop - offset)) edits

/-- Does the text have a carriage return with a newline after it? -/
def hasReturnNewline : List Char → Bool
  | '\r' :: '\n' :: _ => true
  | _ :: rest => hasReturnNewline rest
  | [] => false

/-- The line ending for lines that are put into a source: that of the source. -/
def newlineOf (source : List Char) : List Char :=
  if hasReturnNewline source then ['\r', '\n'] else ['\n']

/-- The lines of a region: those of the generated text behind the margin, empty ones without it, and
one blank line at the end. -/
def regionText (margin newline artifact : List Char) : List Char :=
  ((Text.bodies artifact).flatMap fun line =>
    if line.isEmpty then newline else margin ++ line ++ newline) ++ newline

def framedRegion (margin newline artifact : List Char) : List Char :=
  margin ++ beginSentinel ++ newline ++ regionText margin newline artifact ++
    margin ++ endSentinel ++ newline

def closerText (margin : List Char) (count : Nat) : List Char :=
  margin ++ "!! ".toList ++ Nat.toDigits 10 count ++ " */".toList

def endsInReturn (text : List Char) : Bool :=
  (text.getLast?).any isReturn

/-- The edit that sets the number on a closer right. -/
def countEdit? (config : Config) (b : Block) : Option Edit :=
  if config.updateCounts && !b.countHolds then
    some ⟨b.closer, closerText b.margin b.lineCount⟩
  else none

/-- Does the number that is to be put on a closer have more digits than are written? -/
def countTooLong (config : Config) (b : Block) : Bool :=
  (countEdit? config b).isSome && (Nat.toDigits 10 b.lineCount).length > Text.maxIntegerDigits

def regionEdit (source newline : List Char) (b : Block) (artifact : List Char) : Edit :=
  match b.generated with
  | some span => ⟨span, regionText b.margin newline artifact⟩
  | none =>
    -- a closer may end in a line boundary that is no return, or not at all
    let gap := if endsInReturn (source.take b.insertAt) then [] else newline
    ⟨⟨b.insertAt, b.insertAt⟩, gap ++ framedRegion b.margin newline artifact⟩

def edits (config : Config) (source newline : List Char) (b : Block)
    (artifact : Option (List Char)) : List Edit :=
  (countEdit? config b).toList ++ (artifact.map (regionEdit source newline b)).toList

/-- The source with all edits for its directives. -/
def splice (config : Config) (source : List Char)
    (blocks : List (Block × Option (List Char))) : List Char :=
  applyFrom 0 source
    (blocks.flatMap fun (b, artifact) => edits config source (newlineOf source) b artifact)

end Codeweave.Directive
