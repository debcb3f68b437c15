import Codeweave.Script.Legality
import Codeweave.Script.Parser.Statement
import Codeweave.Text.Blank
import Codeweave.Text.Dedent

/-!
Code that can be run: the script of a directive, and the segments of a template. A segment that is
one expression has a value; any other segment is a block of statements.
-/

namespace Codeweave.Script

inductive ScriptError where
  | unreadable (failure : Failure)
  | illegal (line : Nat)
  | nullCharacter
  /-- the label by which the script is known holds a null character -/
  | nullInLabel
deriving Repr, DecidableEq

def compileScript (source : List Char) : Except ScriptError (List Stmt) :=
  if source.contains '\x00' then .error .nullCharacter
  else
    match parseProgram source with
    | .error failure => .error (.unreadable failure)
    | .ok program =>
      match illegalLine? program with
      | some line => .error (.illegal line)
      | none => .ok program

inductive Code where
  | value (expression : Expr)
  | action (program : List Stmt)

inductive SegmentError where
  /-- nothing but blanks -/
  | empty
  /-- looks neither like an expression nor like a block of statements -/
  | unreadable
  /-- looks right but has a word too close to an expression, or a handler out of order -/
  | irregular (message : String)
  /-- looks right but cannot be read or breaks a rule -/
  | illegal
  | nullCharacter
deriving Repr, DecidableEq

/-- The source of a block of statements: without the margin its rows share, and without newlines
at its ends. -/
def blockSource (source : List Char) : List Char :=
  Text.trim (· == '\n') (Text.dedent source)

def Code.ofExpression? (source : List Char) : Option Code :=
  match parseExpression source with
  | some e => if e.starred || !e.value.isLegal then none else some (.value e.value)
  | none => none

def Code.ofBlock? (source : List Char) : Option Code :=
  match parseProgram source with
  | .ok program => if (illegalLine? program).isSome then none else some (.action program)
  | .error _ => none

/-- The code of a segment whose source could be compiled to the given code. -/
def Code.ofRegular (source : List Char) (code : Option Code) : Except SegmentError Code :=
  if source.contains '\x00' then .error .nullCharacter
  else
    match code with
    | some c => .ok c
    | none => .error .illegal

/-- The code of a segment: an expression if the text without the blanks around it looks like one,
else a block of statements. -/
def Code.ofSource (source : List Char) : Except SegmentError Code :=
  let stripped := Text.strip source
  let block := blockSource source
  if stripped.isEmpty then .error .empty
  else
    match lookAtExpression stripped with
    | .irregular message => .error (.irregular message)
    | .regular => ofRegular source (ofExpression? stripped)
    | .other =>
      match lookAtProgram block with
      | .irregular message => .error (.irregular message)
      | .regular => ofRegular source (ofBlock? block)
      | .other => .error .unreadable

end Codeweave.Script
