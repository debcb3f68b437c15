import Codeweave.Fault
import Codeweave.Script.Code
import Codeweave.Text.Quoted

/-!
Templates. A pattern is literal text with segments of code between backticks; a doubled backtick is
a backtick of the literal text. A template is compiled once, and nothing in it is evaluated before
it is rendered.
-/

namespace Codeweave

def delimiter : Char := '\x60'

inductive Segment where
  | literal (text : List Char)
  /-- code with its source and the offset of the source in the pattern -/
  | code (source : List Char) (offset : Nat) (code : Script.Code)

def Segment.isLiteral : Segment → Bool
  | literal _ => true
  | code _ _ _ => false

structure Template where
  pattern : List Char
  segments : List Segment

namespace Template

inductive Error where
  /-- the backtick at the offset has no partner -/
  | unterminated (offset : Nat)
  /-- the segment whose source starts at the offset has no code -/
  | segment (offset : Nat) (why : Script.SegmentError)
deriving Repr, DecidableEq

/-- Puts a character in front of the literal text that segments start with. -/
def consLiteral (c : Char) : List Segment → List Segment
  | .literal text :: rest => .literal (c :: text) :: rest
  | segments => .literal [c] :: segments

/-- The segments of the rest of a pattern that starts at an offset. -/
def segmentsFrom (offset : Nat) (pattern : List Char) : Except Error (List Segment) :=
  match pattern with
  | [] => .ok []
  | c :: rest =>
    if c != delimiter then (segmentsFrom (offset + 1) rest).map (consLiteral c)
    else if rest.head? == some delimiter then
      (segmentsFrom (offset + 2) rest.tail).map (consLiteral delimiter)
    else
      match h : rest.dropWhile (· != delimiter) with
      | [] => .error (.unterminated offset)
      | _ :: after =>
        have : after.length < rest.length := by
          have := (List.dropWhile_sublist (l := rest) (· != delimiter)).length_le
          rw [h] at this
          exact this
        let source := rest.takeWhile (· != delimiter)
        match Script.Code.ofSource source with
        | .error why => .error (.segment (offset + 1) why)
        | .ok code =>
          (segmentsFrom (offset + source.length + 2) after).map
            (.code source (offset + 1) code :: ·)
termination_by pattern.length

def compile (pattern : List Char) : Except Error Template :=
  (segmentsFrom 0 pattern).map (Template.mk pattern)

def encodeSegment : Segment → List Char
  | .literal text => text.flatMap fun c => if c == delimiter then [c, c] else [c]
  | .code source _ _ => delimiter :: source ++ [delimiter]

/-- The pattern of a list of segments. -/
def encode (segments : List Segment) : List Char :=
  segments.flatMap encodeSegment

/-- How a template is shown: the kinds of its segments and the start of its pattern. -/
def shown (t : Template) : String :=
  let kinds := t.segments.map fun s => if s.isLiteral then 'L' else 'E'
  "Template('" ++ String.ofList kinds ++ "', " ++
    String.ofList (Text.quoted (t.pattern.take 30)) ++ ")"

/-- What a pattern that is no template is told as. `none` where the pattern cannot even be read. -/
def Error.fault? : Error → Option Fault
  | .unterminated offset =>
    some
      { cause := .unterminatedExpression
          ("unterminated expression opened at offset " ++ toString offset)
        offset := some offset }
  | .segment offset .empty =>
    some { cause := .malformedTemplate "empty expression segment", offset := some offset }
  | .segment offset .unreadable =>
    some
      { cause := .malformedTemplate "segment is neither an expression nor a statement block"
        offset := some offset }
  | .segment offset .illegal =>
    some { cause := .malformedTemplate "invalid segment", offset := some offset }
  | .segment _ (.irregular _) | .segment _ .nullCharacter => none

end Template

end Codeweave
