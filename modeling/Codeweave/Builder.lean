import Codeweave.Text.Lines

/-!
Line-oriented output with explicit indentation. The indentation of a line is fixed when the line is
started, so a change of level shows from the next line on, and a line on which nothing was written
is flushed without its indentation.
-/

namespace Codeweave

/-- The least integer that is too large to be a size or a position. -/
def indexBound : Nat := Nat.pow 2 63

/-- The memory of a machine: how many items are too many for it. -/
structure Memory where
  bound : Nat
  bound_pos : 0 < bound
  bound_le : bound ≤ indexBound
deriving Repr, DecidableEq

def Memory.usual : Memory := ⟨Nat.pow 10 10, by decide, by decide⟩

/-- Output under construction: the flushed lines and the line being written. -/
structure Builder where
  /-- spaces per level; a negative width indents nothing -/
  width : Int
  lines : List (List Char) := []
  level : Nat := 0
  /-- indentation of the current line -/
  lead : List Char := []
  /-- what was written on the current line -/
  pending : List Char := []
deriving Repr, DecidableEq

namespace Builder

def defaultWidth : Int := 4

def fresh (width : Int) : Builder := { width := width }

def currentLine (b : Builder) : List Char :=
  b.lead ++ b.pending

/-- The current line as it would be flushed: nothing at all when nothing was written. -/
def flushedLine (b : Builder) : List Char :=
  if b.pending.isEmpty then [] else b.currentLine

/-- Appends to the current line, newlines included. -/
def write (b : Builder) (text : List Char) : Builder :=
  { b with pending := b.pending ++ text }

def nextLead (b : Builder) : Int :=
  b.width * b.level

/-- Flushes the current line without starting another. -/
def breakOff (b : Builder) : Builder :=
  { b with lines := b.lines ++ [b.flushedLine] }

/-- Flushes the current line and starts another at the present level. -/
def newline (b : Builder) : Builder :=
  { b with
    lines := b.lines ++ [b.flushedLine]
    lead := List.replicate b.nextLead.toNat ' '
    pending := [] }

/-- Writes a text, starting a new line at each newline in it. -/
def writeText (b : Builder) (text : List Char) : Builder :=
  match Text.rows text with
  | [] => b
  | first :: rest => rest.foldl (fun b row => b.newline.write row) (b.write first)

def indent (b : Builder) : Builder :=
  { b with level := b.level + 1 }

/-- One level less for the lines to come; `none` at level zero. -/
def unindent? (b : Builder) : Option Builder :=
  match b.level with
  | 0 => none
  | level + 1 => some { b with level := level }

/-- All text written so far, the current line included. -/
def content (b : Builder) : List Char :=
  Text.unrows (b.lines ++ [b.flushedLine])

/-- Flushes the current line if anything was written on it. -/
def flush (b : Builder) : Builder :=
  if b.pending.isEmpty then b else b.newline

/-- The flushed lines, each ended by a newline. -/
def flushedText (b : Builder) : List Char :=
  b.lines.flatMap (· ++ ['\n'])

end Builder

end Codeweave
