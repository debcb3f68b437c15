import Codeweave.Script.Lexer
import Std.Data.HashMap

/-!
Finding the place to blame in a text that is no script. The grammar is walked in attempts: an
attempt takes tokens or fails, alternatives are tried in order, and how far all attempts together
looked is the place to blame if nothing better is known. The walk is done twice. The second time
the rules for common mistakes are in force, which blame a place of their own.

What rules find is kept by place, so that no rule is tried twice at one place.
-/

namespace Codeweave.Script.Diagnosis

/-! ### What is found -/

/-- A piece of text that a rule has found: the line on which it starts, and as much of its shape as
decides what may be done with it. -/
inductive Node where
  | name (line : Nat) (id : String)
  /-- an attribute or an item -/
  | place (line : Nat)
  /-- a tuple, a list, or the positional arguments of a call -/
  | row (line : Nat) (items : List Node)
  | star (line : Nat) (value : Node)
  /-- a comparison that starts with `in`, by its left side -/
  | membership (line : Nat) (left : Node)
  | comparison (line : Nat)
  | other (line : Nat)

def Node.line : Node → Nat
  | .name line _ | .place line | .row line _ | .star line _ | .membership line _
  | .comparison line | .other line => line

def Node.items : Node → List Node
  | .row _ items => items
  | _ => []

/-- Is this a name that looks like a statement when an operand follows it? -/
def Node.isStatementWord : Node → Bool
  | .name _ id => id == "print" || id == "exec"
  | _ => false

inductive TargetUse where
  | assigned
  | looped
  | deleted
deriving DecidableEq

/-- The first part of a piece that cannot be a target. Of a comparison that starts with `in`, a loop
takes the left side, and it leaves other comparisons alone. -/
def Node.badTarget? (use : TargetUse) : Node → Option Node
  | .name _ _ | .place _ => none
  | .row _ items => items.attach.findSome? fun ⟨item, _⟩ => item.badTarget? use
  | .star line value => if use == .deleted then some (.star line value) else value.badTarget? use
  | .membership line left =>
    if use == .looped then left.badTarget? use else some (.membership line left)
  | .comparison line => if use == .looped then none else some (.comparison line)
  | .other line => some (.other line)

/-! ### Attempts -/

structure Rejection where
  failure : Failure
  reached : Nat
  /-- did the walk come to a part of the text from which no token can be read? -/
  unread : Bool := false

/-- A token with the number of brackets that are open behind it. -/
structure Item where
  token : Token
  depth : Nat

def itemsFrom (depth : Nat) : List Token → List Item
  | [] => []
  | t :: rest =>
    let depth := match t.kind with
      | .mark m =>
        if ["(", "[", "\x7b"].contains m then depth + 1
        else if [")", "]", "\x7d"].contains m then depth - 1
        else depth
      | _ => depth
    ⟨t, depth⟩ :: itemsFrom depth rest

/-- Rules whose findings are kept, or that refer to themselves. -/
inductive Rule where
  | expression
  | starExpression
  | badBinding
  | disjunction
  | conjunction
  | inversion
  | bitOr
  | bitXor
  | bitAnd
  | shift
  | sum
  | term
  | factor
  | awaited
  | primary
  | strings
  | arguments
  | starTarget
  | targetWithStars
  | targetPrimary
  | singleTarget
  | annotatedRow
  | delTarget
  | simpleStatement
  | block
  | otherBranch
  | pattern
  | closedPattern
deriving DecidableEq, Hashable

/-- Are the findings of the rule kept, whether or not the rules for mistakes were in force? -/
def Rule.isKept : Rule → Bool
  | .singleTarget | .annotatedRow | .otherBranch | .pattern => false
  | _ => true

structure Walk where
  place : Nat := 0
  seen : Nat := 0
  /-- are the rules for mistakes in force? -/
  explains : Bool := false
  /-- what rules found at a place, and the place behind it -/
  kept : Std.HashMap (Rule × Nat) (Option (Node × Nat)) := {}

/-- An attempt at some tokens. Failure leaves what was seen and kept; a rejection ends the walk. -/
def Attempt (α : Type) : Type :=
  Array Item → Walk → Except Rejection (Option α × Walk)

namespace Attempt

variable {α β : Type}

instance : Monad Attempt where
  pure a := fun _ w => .ok (some a, w)
  bind p f := fun items w =>
    match p items w with
    | .error r => .error r
    | .ok (none, w) => .ok (none, w)
    | .ok (some a, w) => f a items w

def fail : Attempt α := fun _ w => .ok (none, w)

def walk : Attempt Walk := fun _ w => .ok (some w, w)

def lastLine (items : Array Item) (w : Walk) : Nat :=
  ((items[w.seen - 1]?).map fun i => i.token.line).getD 1

def blame (line : Nat) (kind : FailureKind := .malformed) : Attempt α := fun items w =>
  .error { failure := ⟨line, kind⟩, reached := lastLine items w }

def blameLast (kind : FailureKind := .malformed) : Attempt α := fun items w =>
  .error { failure := ⟨lastLine items w, kind⟩, reached := lastLine items w }

def look : Attempt Token := fun items w =>
  match items[w.place]? with
  | none => .ok (none, w)
  | some item =>
    let w := { w with seen := max w.seen (w.place + 1) }
    match item.token.kind with
    | .unreadable =>
      .error
        { failure := ⟨item.token.line, .malformed⟩, reached := lastLine items w, unread := true }
    | _ => .ok (some item.token, w)

def accept (test : TokenKind → Bool) : Attempt Token := do
  let t ← look
  if test t.kind then fun _ w => .ok (some t, { w with place := w.place + 1 }) else fail

def line : Attempt Nat := do
  pure (← look).line

/-- How many brackets are open behind the last token that was taken. -/
def depth : Attempt Nat := fun items w =>
  .ok (some (((items[w.place - 1]?).map Item.depth).getD 0), w)

def attempt (p : Attempt α) : Attempt (Option α) := fun items w =>
  match p items w with
  | .error r => .error r
  | .ok (none, w') => .ok (some none, { w' with place := w.place })
  | .ok (some a, w') => .ok (some (some a), w')

def firstOf : List (Attempt α) → Attempt α
  | [] => fail
  | p :: rest => do
    match ← attempt p with
    | some a => pure a
    | none => firstOf rest

/-- Finds out whether an attempt would succeed, and takes nothing. -/
def succeeds (p : Attempt α) : Attempt Bool := fun items w =>
  match p items w with
  | .error r => .error r
  | .ok (found, w') => .ok (some found.isSome, { w' with place := w.place })

def ahead (p : Attempt α) : Attempt Unit := do
  if ← succeeds p then pure () else fail

def notAhead (p : Attempt α) : Attempt Unit := do
  if ← succeeds p then fail else pure ()

/-- Repeats an attempt until it fails, at most as often as given. -/
def collect (p : Attempt α) : Nat → Attempt (List α)
  | 0 => pure []
  | fuel + 1 => do
    match ← attempt p with
    | none => pure []
    | some a => do
      let rest ← collect p fuel
      pure (a :: rest)

/-- Repeats an attempt until it fails. Each time takes a token, so the tokens bound the times. -/
def many (p : Attempt α) : Attempt (List α) := fun items w =>
  collect p items.size items w

def some1 (p : Attempt α) : Attempt (List α) := do
  let first ← p
  let rest ← many p
  pure (first :: rest)

def parted (separator : Attempt β) (p : Attempt α) : Attempt (List α) := do
  let first ← p
  let rest ← many (do let _ ← separator; p)
  pure (first :: rest)

/-- Tries an attempt if the rules for mistakes are in force, and fails. -/
def explain (p : Attempt Unit) : Attempt α := do
  if (← walk).explains then p
  fail

def blameIf (p : Attempt Node) : Attempt Unit := do
  match ← attempt p with
  | some node => blame node.line
  | none => pure ()

def blameLastIf (p : Attempt α) (kind : FailureKind := .malformed) : Attempt Unit := do
  match ← attempt p with
  | some _ => blameLast kind
  | none => pure ()

/-- Does an attempt without the rules for mistakes. -/
def plainly (p : Attempt α) : Attempt α := fun items w =>
  match p items { w with explains := false } with
  | .error r => .error r
  | .ok (found, w') => .ok (found, { w' with explains := w.explains })

def within (others : Array Item) (p : Attempt α) : Attempt (Except Rejection (Option α × Walk)) :=
  fun _ w => .ok (some (p others {}), w)

/-- What a rule finds, if it is not known yet. -/
def keep (rule : Rule) (p : Attempt Node) : Attempt Node := fun items w =>
  if rule.isKept then
    match w.kept[(rule, w.place)]? with
    | some none => .ok (none, w)
    | some (some (node, place)) => .ok (some node, { w with place := place })
    | none =>
      match p items w with
      | .error r => .error r
      | .ok (found, w') =>
        let entry := found.map fun node => (node, w'.place)
        .ok (found, { w' with kept := w'.kept.insert (rule, w.place) entry })
  else p items w

/-! ### Tokens -/

def mark (m : String) : Attempt Node := do
  pure (.other (← accept fun k => k == .mark m).line)

def oneOf (ms : List String) : Attempt Node := do
  let t ← accept fun
    | .mark m => ms.contains m
    | _ => false
  pure (.other t.line)

def word (w : String) : Attempt Node := do
  pure (.other (← accept fun k => k == .word w).line)

def name : Attempt Node := do
  let t ← accept fun
    | .word w => !keywords.contains w
    | _ => false
  match t.kind with
  | .word w => pure (.name t.line w)
  | _ => fail

/-- Takes a word that is a keyword in some places only. -/
def nameOnly (w : String) : Attempt Node := do
  match ← name with
  | .name line id => if id == w then pure (.other line) else fail
  | _ => fail

/-- Takes a name that starts a word which is a keyword in some places only. -/
def softWord : Attempt Node := do
  let n ← name
  match n with
  | .name _ id => if ["_", "case", "match"].any fun w => id.isPrefixOf w then pure n else fail
  | _ => fail

def literal : Attempt Token :=
  accept fun
    | .literal _ _ => true
    | _ => false

def newline : Attempt Node := do
  pure (.other (← accept fun k => k == .newline).line)

def indent : Attempt Node := do
  pure (.other (← accept fun k => k == .indent).line)

def dedent : Attempt Node := do
  pure (.other (← accept fun k => k == .dedent).line)

def required (m : String) : Attempt Node := do
  let t ← look
  if t.kind == .mark m then mark m else blame t.line

end Attempt

end Codeweave.Script.Diagnosis
