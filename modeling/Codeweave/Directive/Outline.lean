import Codeweave.Directive.Mark
import Codeweave.Text.Integer

/-!
The outline of a source: its lines parted into plain lines and directives. A directive is an opener,
the lines of its script, a closer, and the generated region if one follows at once. Lines of a
region are never looked at for marks of their own, except for the one that ends it.
-/

namespace Codeweave.Directive

/-- A generated region with its two sentinels. -/
structure Region where
  first : Line
  body : List Line
  last : Line
deriving Repr, DecidableEq

def Region.lines (r : Region) : List Line :=
  r.first :: r.body ++ [r.last]

/-- A directive as it stands in a source. -/
structure Written where
  opener : Line
  script : List Line
  closer : Line
  /-- the number on the closer -/
  count : Option Nat
  region : Option Region
deriving Repr, DecidableEq

def Written.lines (w : Written) : List Line :=
  w.opener :: w.script ++ w.closer :: (w.region.map Region.lines).getD []

/-- A part of a source. -/
inductive Passage where
  | plain (line : Line)
  | directive (written : Written)
deriving Repr, DecidableEq

def Passage.lines : Passage → List Line
  | plain line => [line]
  | directive written => written.lines

/-- How much of a source lies before a point. -/
structure Place where
  offset : Nat := 0
  lines : Nat := 0
deriving Repr, DecidableEq

def Place.after (p : Place) (ls : List Line) : Place :=
  { offset := p.offset + ls.flatten.length, lines := p.lines + ls.length }

/-- The place when as much as lies before `q` is put in front. -/
def Place.behind (p q : Place) : Place :=
  { offset := q.offset + p.offset, lines := q.lines + p.lines }

inductive Defect where
  /-- the end of the source or another opener comes before a closer -/
  | unclosed
  /-- the generated region has no end -/
  | endless
  /-- the number on the closer has more digits than are read -/
  | countTooLong (digits : Nat)
deriving Repr, DecidableEq

/-- A defect and the place of the opener of its directive. -/
structure Broken where
  defect : Defect
  place : Place := {}
deriving Repr, DecidableEq

/-- Lines up to a closer, the closer with its digits, and the lines after it. -/
structure Closing where
  script : List Line
  closer : Line
  digits : List Char
  rest : List Line

/-- Parts lines at the first closer; `none` when an opener or the end comes first. -/
def splitAtCloser : List Line → Option Closing
  | [] => none
  | l :: rest =>
    -- directives do not nest: a second opener leaves the first one unclosed
    if isOpener l then none
    else
      match closerDigits? l with
      | some digits => some ⟨[], l, digits, rest⟩
      | none => (splitAtCloser rest).map fun c => { c with script := l :: c.script }

/-- Parts lines at the first that ends a region. -/
def splitAtEnd : List Line → Option (List Line × Line × List Line)
  | [] => none
  | l :: rest =>
    -- nothing but an end stops a region, so one that has lost it goes on to the next
    if isEnd l then some ([], l, rest)
    else (splitAtEnd rest).map fun (body, last, after) => (l :: body, last, after)

/-- The region that lines start with, and the lines after it. -/
def readRegion : List Line → Except Defect (Option Region × List Line)
  | [] => .ok (none, [])
  | l :: rest =>
    if isBegin l then
      match splitAtEnd rest with
      | none => .error .endless
      | some (body, last, after) => .ok (some ⟨l, body, last⟩, after)
    else .ok (none, l :: rest)

/-- The number of a closer's digits, if there are any. -/
def readCount (digits : List Char) : Except Defect (Option Nat) :=
  if digits.isEmpty then .ok none
  else if digits.length > Text.maxIntegerDigits then .error (.countTooLong digits.length)
  else .ok (some (Text.digitsValue digits))

/-- The directive that an opener and the lines after it make, and the lines after the directive. -/
def readDirective (first : Line) (ls : List Line) : Except Defect (Written × List Line) :=
  match splitAtCloser ls with
  | none => .error .unclosed
  | some c =>
    match readRegion c.rest with
    | .error defect => .error defect
    | .ok (region, after) =>
      match readCount c.digits with
      | .error defect => .error defect
      | .ok count => .ok (⟨first, c.script, c.closer, count, region⟩, after)

/-- Splitting at a closer loses nothing. -/
theorem eq_append_of_splitAtCloser {ls : List Line} {c : Closing} (h : splitAtCloser ls = some c) :
    ls = c.script ++ c.closer :: c.rest := by
  induction ls generalizing c with
  | nil => simp [splitAtCloser] at h
  | cons l rest ih =>
    rw [splitAtCloser] at h
    split at h
    · simp at h
    · split at h
      · simp only [Option.some.injEq] at h
        subst h
        simp
      · obtain ⟨d, hd, rfl⟩ := Option.map_eq_some_iff.1 h
        simp [← ih hd]

theorem eq_append_of_splitAtEnd {ls body after : List Line} {last : Line}
    (h : splitAtEnd ls = some (body, last, after)) : ls = body ++ last :: after := by
  induction ls generalizing body with
  | nil => simp [splitAtEnd] at h
  | cons l rest ih =>
    rw [splitAtEnd] at h
    split at h
    · simp only [Option.some.injEq, Prod.mk.injEq] at h
      obtain ⟨rfl, rfl, rfl⟩ := h
      simp
    · obtain ⟨⟨b, e, a⟩, hd, h⟩ := Option.map_eq_some_iff.1 h
      simp only [Prod.mk.injEq] at h
      obtain ⟨rfl, rfl, rfl⟩ := h
      simp [← ih hd]

theorem eq_append_of_readRegion {ls after : List Line} {region : Option Region}
    (h : readRegion ls = .ok (region, after)) :
    ls = (region.map Region.lines).getD [] ++ after := by
  cases ls with
  | nil =>
    simp only [readRegion, Except.ok.injEq, Prod.mk.injEq] at h
    obtain ⟨rfl, rfl⟩ := h
    rfl
  | cons l rest =>
    rw [readRegion] at h
    split at h
    · split at h
      · simp at h
      · rename_i hd
        simp only [Except.ok.injEq, Prod.mk.injEq] at h
        obtain ⟨rfl, rfl⟩ := h
        simp [Region.lines, eq_append_of_splitAtEnd hd]
    · simp only [Except.ok.injEq, Prod.mk.injEq] at h
      obtain ⟨rfl, rfl⟩ := h
      rfl

theorem eq_append_of_readDirective {first : Line} {ls after : List Line} {w : Written}
    (h : readDirective first ls = .ok (w, after)) : first :: ls = w.lines ++ after := by
  rw [readDirective] at h
  split at h
  · simp at h
  · rename_i c hc
    split at h
    · simp at h
    · rename_i region rest hr
      split at h
      · simp at h
      · simp only [Except.ok.injEq, Prod.mk.injEq] at h
        obtain ⟨rfl, rfl⟩ := h
        simp [Written.lines, eq_append_of_splitAtCloser hc, eq_append_of_readRegion hr]

/-- Puts a part in front of an outline; a defect of the rest is found that much later. -/
def prepend (p : Passage) : Except Broken (List Passage) → Except Broken (List Passage)
  | .ok ps => .ok (p :: ps)
  | .error b => .error { b with place := b.place.behind (Place.after {} p.lines) }

def outline (ls : List Line) : Except Broken (List Passage) :=
  match ls with
  | [] => .ok []
  | l :: rest =>
    if isOpener l then
      match h : readDirective l rest with
      | .error defect => .error { defect := defect }
      | .ok (w, after) =>
        have : after.length < rest.length + 1 := by
          have := congrArg List.length (eq_append_of_readDirective h)
          simp only [List.length_cons, List.length_append, Written.lines] at this
          omega
        prepend (.directive w) (outline after)
    else prepend (.plain l) (outline rest)
termination_by ls.length

end Codeweave.Directive
