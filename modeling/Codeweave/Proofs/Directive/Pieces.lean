import Codeweave.Directive.Splice
import Mathlib.Data.List.Basic

/-!
A source cut into pieces, each of which is kept or replaced. Two ways to edit a source come to the
same: one pass over it, and one replacement after the other from the last edit to the first. Every
character outside the edited spans is copied once and in its place.
-/

namespace Codeweave.Directive

/-- A piece of a source, and the text put in its place, if one is. -/
structure Piece where
  old : List Char
  new : Option (List Char) := none
deriving Repr, DecidableEq

def Piece.result (piece : Piece) : List Char :=
  piece.new.getD piece.old

def original (pieces : List Piece) : List Char :=
  pieces.flatMap Piece.old

def edited (pieces : List Piece) : List Char :=
  pieces.flatMap Piece.result

/-- The edits that replace pieces, the first of which stands at an offset. -/
def editsFrom : Nat → List Piece → List Edit
  | _, [] => []
  | offset, piece :: pieces =>
      (piece.new.map fun new => ⟨⟨offset, offset + piece.old.length⟩, new⟩).toList ++
        editsFrom (offset + piece.old.length) pieces

def replaceSpan (span : Span) (new text : List Char) : List Char :=
  text.take span.start ++ new ++ text.drop span.stop

@[simp] theorem original_nil : original [] = [] := rfl

@[simp] theorem original_cons (piece : Piece) (pieces : List Piece) :
    original (piece :: pieces) = piece.old ++ original pieces := rfl

@[simp] theorem original_append (ps qs : List Piece) :
    original (ps ++ qs) = original ps ++ original qs := by
  simp [original]

@[simp] theorem edited_nil : edited [] = [] := rfl

@[simp] theorem edited_cons (piece : Piece) (pieces : List Piece) :
    edited (piece :: pieces) = piece.result ++ edited pieces := rfl

@[simp] theorem edited_append (ps qs : List Piece) :
    edited (ps ++ qs) = edited ps ++ edited qs := by
  simp [edited]

@[simp] theorem result_kept (text : List Char) : Piece.result ⟨text, none⟩ = text := rfl

@[simp] theorem result_replaced (old new : List Char) : Piece.result ⟨old, some new⟩ = new := rfl

@[simp] theorem editsFrom_nil (offset : Nat) : editsFrom offset [] = [] := rfl

@[simp] theorem editsFrom_kept (offset : Nat) (text : List Char) (pieces : List Piece) :
    editsFrom offset (⟨text, none⟩ :: pieces) = editsFrom (offset + text.length) pieces := rfl

@[simp] theorem editsFrom_replaced (offset : Nat) (old new : List Char) (pieces : List Piece) :
    editsFrom offset (⟨old, some new⟩ :: pieces) =
      ⟨⟨offset, offset + old.length⟩, new⟩ :: editsFrom (offset + old.length) pieces := rfl

theorem editsFrom_append (offset : Nat) (ps qs : List Piece) :
    editsFrom offset (ps ++ qs) =
      editsFrom offset ps ++ editsFrom (offset + (original ps).length) qs := by
  induction ps generalizing offset with
  | nil => simp
  | cons piece ps ih =>
      simp only [List.cons_append, editsFrom, ih, original_cons, List.length_append,
        List.append_assoc, Nat.add_assoc]

/-- One pass over a source makes all replacements. What is kept before the cursor's next edit is
carried along in `kept`. -/
theorem applyFrom_editsFrom (pieces : List Piece) (cursor : Nat) (kept : List Char) :
    applyFrom cursor (kept ++ original pieces) (editsFrom (cursor + kept.length) pieces) =
      kept ++ edited pieces := by
  induction pieces generalizing cursor kept with
  | nil => simp [applyFrom]
  | cons piece pieces ih =>
      obtain ⟨old, new⟩ := piece
      cases new with
      | none =>
          have := ih cursor (kept ++ old)
          simp only [List.length_append, List.append_assoc, ← Nat.add_assoc] at this
          simp [this]
      | some new =>
          have hrest := ih (cursor + kept.length + old.length) []
          simp only [List.nil_append, List.length_nil, Nat.add_zero] at hrest
          rw [editsFrom_replaced, applyFrom, original_cons, edited_cons, result_replaced]
          rw [show cursor + kept.length - cursor = kept.length by omega,
            show cursor + kept.length + old.length - cursor = kept.length + old.length by omega]
          rw [List.take_left, ← List.append_assoc kept old, ← List.length_append,
            List.drop_left, hrest, List.append_assoc]

theorem replaceSpan_append (before old new after : List Char) :
    replaceSpan ⟨before.length, before.length + old.length⟩ new (before ++ old ++ after) =
      before ++ new ++ after := by
  rw [replaceSpan, ← List.length_append, List.drop_left, List.append_assoc before old,
    List.take_left]

/-- Replacements made one after the other, from the last to the first, do not get into each other's
way. -/
theorem foldr_replaceSpan_editsFrom (pieces : List Piece) (before : List Char) :
    (editsFrom before.length pieces).foldr (fun e text => replaceSpan e.span e.text text)
      (before ++ original pieces) = before ++ edited pieces := by
  induction pieces generalizing before with
  | nil => simp
  | cons piece pieces ih =>
      obtain ⟨old, new⟩ := piece
      have hrest := ih (before ++ old)
      rw [List.length_append] at hrest
      cases new with
      | none => simpa using hrest
      | some new =>
          rw [editsFrom_replaced, List.foldr_cons, original_cons, ← List.append_assoc, hrest,
            replaceSpan_append]
          simp

end Codeweave.Directive
