import Codeweave.Directive.Outline
import Mathlib.Data.List.Basic

/-!
The grammar of outlines. A directive is well formed when each of its lines carries the mark that it
should and no other, and an outline is a list of plain lines and well-formed directives in which no
region follows a directive without one. Reading lines gives exactly the outline that they spell.
-/

namespace Codeweave.Directive

/-- Each sentinel of the region is one, and no line between them ends the region. -/
structure Region.WellFormed (r : Region) : Prop where
  first : isBegin r.first = true
  body : ∀ l ∈ r.body, isEnd l = false
  last : isEnd r.last = true

/-- Each line of the directive carries the mark that it should and no other. -/
structure Written.WellFormed (w : Written) : Prop where
  opener : isOpener w.opener = true
  script : ∀ l ∈ w.script, isOpener l = false ∧ isCloser l = false
  closer : ∃ digits, closerDigits? w.closer = some digits ∧ readCount digits = .ok w.count
  region : ∀ r ∈ w.region, r.WellFormed

def startsRegion (ls : List Line) : Bool :=
  ls.head?.any isBegin

def linesOf (ps : List Passage) : List Line :=
  ps.flatMap Passage.lines

/-- The outline holds plain lines and well-formed directives, and no directive leaves out a region
that follows it. -/
def Outlined : List Passage → Prop
  | [] => True
  | .plain l :: ps => isOpener l = false ∧ Outlined ps
  | .directive w :: ps =>
      w.WellFormed ∧ (w.region = none → startsRegion (linesOf ps) = false) ∧ Outlined ps

@[simp] theorem linesOf_nil : linesOf [] = [] := rfl

@[simp] theorem linesOf_plain (l : Line) (ps : List Passage) :
    linesOf (.plain l :: ps) = l :: linesOf ps := rfl

@[simp] theorem linesOf_directive (w : Written) (ps : List Passage) :
    linesOf (.directive w :: ps) = w.lines ++ linesOf ps := rfl

theorem isOpener_eq_false_of_closer {l : Line} {digits : List Char}
    (h : closerDigits? l = some digits) : isOpener l = false := by
  rw [isOpener, isMark, beq_eq_false_iff_ne]
  intro hopener
  have hnone : countDigits? opener = none := by decide
  rw [closerDigits?, hopener, hnone] at h
  simp at h

theorem isCloser_eq_false_iff {l : Line} : isCloser l = false ↔ closerDigits? l = none := by
  rw [isCloser, Option.isSome_eq_false_iff, Option.isNone_iff_eq_none]

/-! ### Closers -/

theorem splitAtCloser_append {script : List Line} {closer : Line} {digits : List Char}
    (hscript : ∀ l ∈ script, isOpener l = false ∧ isCloser l = false)
    (hcloser : closerDigits? closer = some digits) (rest : List Line) :
    splitAtCloser (script ++ closer :: rest) = some ⟨script, closer, digits, rest⟩ := by
  induction script with
  | nil =>
      rw [List.nil_append, splitAtCloser, if_neg (by simp [isOpener_eq_false_of_closer hcloser]),
        hcloser]
  | cons l script ih =>
      obtain ⟨hopener, hmark⟩ := hscript l (List.mem_cons_self ..)
      rw [List.cons_append, splitAtCloser, if_neg (by simp [hopener]),
        isCloser_eq_false_iff.mp hmark, ih fun m hm => hscript m (List.mem_cons_of_mem _ hm)]
      rfl

theorem marks_of_splitAtCloser {ls : List Line} {c : Closing} (h : splitAtCloser ls = some c) :
    (∀ l ∈ c.script, isOpener l = false ∧ isCloser l = false) ∧
      closerDigits? c.closer = some c.digits := by
  induction ls generalizing c with
  | nil => simp [splitAtCloser] at h
  | cons l ls ih =>
      rw [splitAtCloser] at h
      split at h
      · simp at h
      · rename_i hopener
        split at h
        · rename_i digits hdigits
          simp only [Option.some.injEq] at h
          subst h
          exact ⟨by simp, hdigits⟩
        · rename_i hdigits
          obtain ⟨d, hd, rfl⟩ := Option.map_eq_some_iff.mp h
          obtain ⟨hscript, hcloser⟩ := ih hd
          refine ⟨?_, hcloser⟩
          intro m hm
          rcases List.mem_cons.mp hm with rfl | hm
          · exact ⟨by simpa using hopener, isCloser_eq_false_iff.mpr hdigits⟩
          · exact hscript m hm

/-! ### Regions -/

theorem splitAtEnd_append {body : List Line} {last : Line}
    (hbody : ∀ l ∈ body, isEnd l = false) (hlast : isEnd last = true) (after : List Line) :
    splitAtEnd (body ++ last :: after) = some (body, last, after) := by
  induction body with
  | nil => rw [List.nil_append, splitAtEnd, if_pos hlast]
  | cons l body ih =>
      rw [List.cons_append, splitAtEnd, if_neg (by simp [hbody l (List.mem_cons_self ..)]),
        ih fun m hm => hbody m (List.mem_cons_of_mem _ hm)]
      rfl

theorem marks_of_splitAtEnd {ls body after : List Line} {last : Line}
    (h : splitAtEnd ls = some (body, last, after)) :
    (∀ l ∈ body, isEnd l = false) ∧ isEnd last = true := by
  induction ls generalizing body with
  | nil => simp [splitAtEnd] at h
  | cons l ls ih =>
      rw [splitAtEnd] at h
      split at h
      · rename_i hend
        simp only [Option.some.injEq, Prod.mk.injEq] at h
        obtain ⟨rfl, rfl, rfl⟩ := h
        exact ⟨by simp, hend⟩
      · rename_i hend
        obtain ⟨⟨b, e, a⟩, hd, h⟩ := Option.map_eq_some_iff.mp h
        simp only [Prod.mk.injEq] at h
        obtain ⟨rfl, rfl, rfl⟩ := h
        obtain ⟨hbody, hlast⟩ := ih hd
        refine ⟨?_, hlast⟩
        intro m hm
        rcases List.mem_cons.mp hm with rfl | hm
        · simpa using hend
        · exact hbody m hm

theorem readRegion_lines {r : Region} (h : r.WellFormed) (after : List Line) :
    readRegion (r.lines ++ after) = .ok (some r, after) := by
  rw [Region.lines, List.cons_append, List.cons_append, List.append_assoc, List.singleton_append,
    readRegion, if_pos h.first, splitAtEnd_append h.body h.last]

theorem readRegion_none {ls : List Line} (h : startsRegion ls = false) :
    readRegion ls = .ok (none, ls) := by
  cases ls with
  | nil => rfl
  | cons l ls =>
      have hbegin : ¬ isBegin l = true := by simpa [startsRegion] using h
      rw [readRegion, if_neg hbegin]

theorem marks_of_readRegion {ls after : List Line} {region : Option Region}
    (h : readRegion ls = .ok (region, after)) :
    (∀ r ∈ region, r.WellFormed) ∧ (region = none → startsRegion after = false) := by
  cases ls with
  | nil =>
      simp only [readRegion, Except.ok.injEq, Prod.mk.injEq] at h
      obtain ⟨rfl, rfl⟩ := h
      exact ⟨by simp, fun _ => rfl⟩
  | cons l ls =>
      rw [readRegion] at h
      split at h
      · rename_i hbegin
        split at h
        · simp at h
        · rename_i body last rest hd
          simp only [Except.ok.injEq, Prod.mk.injEq] at h
          obtain ⟨rfl, rfl⟩ := h
          obtain ⟨hbody, hlast⟩ := marks_of_splitAtEnd hd
          refine ⟨?_, by simp⟩
          rintro r ⟨rfl⟩
          exact ⟨hbegin, hbody, hlast⟩
      · rename_i hbegin
        simp only [Except.ok.injEq, Prod.mk.injEq] at h
        obtain ⟨rfl, rfl⟩ := h
        exact ⟨by simp, fun _ => by simpa [startsRegion] using hbegin⟩

/-! ### Directives -/

/-- A well-formed directive is read back, whatever follows it. -/
theorem readDirective_lines {w : Written} (h : w.WellFormed) {after : List Line}
    (hafter : w.region = none → startsRegion after = false) :
    ∃ rest, w.lines ++ after = w.opener :: rest ∧
      readDirective w.opener rest = .ok (w, after) := by
  obtain ⟨digits, hdigits, hcount⟩ := h.closer
  refine ⟨w.script ++ w.closer :: ((w.region.map Region.lines).getD [] ++ after), ?_, ?_⟩
  · simp [Written.lines]
  · have hregion : readRegion ((w.region.map Region.lines).getD [] ++ after) =
        .ok (w.region, after) := by
      cases hr : w.region with
      | none => exact readRegion_none (hafter hr)
      | some r => exact readRegion_lines (h.region r hr) after
    rw [readDirective, splitAtCloser_append h.script hdigits]
    simp only [hregion, hcount]

theorem wellFormed_of_readDirective {first : Line} {ls after : List Line} {w : Written}
    (hfirst : isOpener first = true) (h : readDirective first ls = .ok (w, after)) :
    w.WellFormed ∧ (w.region = none → startsRegion after = false) := by
  rw [readDirective] at h
  split at h
  · simp at h
  · rename_i c hc
    split at h
    · simp at h
    · rename_i region rest hr
      split at h
      · simp at h
      · rename_i count hcount
        simp only [Except.ok.injEq, Prod.mk.injEq] at h
        obtain ⟨rfl, rfl⟩ := h
        obtain ⟨hscript, hcloser⟩ := marks_of_splitAtCloser hc
        obtain ⟨hregion, hnone⟩ := marks_of_readRegion hr
        exact ⟨⟨hfirst, hscript, ⟨_, hcloser, hcount⟩, hregion⟩, hnone⟩

/-! ### Outlines -/

theorem prepend_eq_ok_iff {p : Passage} {x : Except Broken (List Passage)} {ps : List Passage} :
    prepend p x = .ok ps ↔ ∃ qs, x = .ok qs ∧ ps = p :: qs := by
  cases x with
  | error b => simp [prepend]
  | ok qs => simp [prepend, eq_comm]

theorem outline_plain {l : Line} (h : isOpener l = false) (ls : List Line) :
    outline (l :: ls) = prepend (.plain l) (outline ls) := by
  rw [outline, if_neg (by simp [h])]

theorem outline_directive {w : Written} (h : w.WellFormed) {after : List Line}
    (hafter : w.region = none → startsRegion after = false) :
    outline (w.lines ++ after) = prepend (.directive w) (outline after) := by
  obtain ⟨rest, hlines, hread⟩ := readDirective_lines h hafter
  rw [hlines, outline, if_pos h.opener]
  split
  · rename_i defect hdefect
    rw [hread] at hdefect
    simp at hdefect
  · rename_i w' after' hok
    rw [hread] at hok
    simp only [Except.ok.injEq, Prod.mk.injEq] at hok
    obtain ⟨rfl, rfl⟩ := hok
    rfl

theorem outline_linesOf {ps : List Passage} (h : Outlined ps) :
    outline (linesOf ps) = .ok ps := by
  induction ps with
  | nil => rw [linesOf_nil, outline]
  | cons p ps ih =>
      cases p with
      | plain l => rw [linesOf_plain, outline_plain h.1, ih h.2, prepend]
      | directive w =>
          rw [linesOf_directive, outline_directive h.1 h.2.1, ih h.2.2, prepend]

theorem outlined_of_outline {ls : List Line} {ps : List Passage} (h : outline ls = .ok ps) :
    Outlined ps ∧ linesOf ps = ls := by
  fun_induction outline ls generalizing ps with
  | case1 =>
      simp only [Except.ok.injEq] at h
      subst h
      exact ⟨trivial, rfl⟩
  | case2 l rest hopener defect hread => simp at h
  | case3 l rest hopener w after hread _ ih =>
      obtain ⟨qs, hqs, rfl⟩ := prepend_eq_ok_iff.mp h
      obtain ⟨houtlined, hlines⟩ := ih hqs
      obtain ⟨hw, hnone⟩ := wellFormed_of_readDirective hopener hread
      refine ⟨⟨hw, ?_, houtlined⟩, ?_⟩
      · rw [hlines]
        exact hnone
      · rw [linesOf_directive, hlines, eq_append_of_readDirective hread]
  | case4 l rest hopener ih =>
      obtain ⟨qs, hqs, rfl⟩ := prepend_eq_ok_iff.mp h
      obtain ⟨houtlined, hlines⟩ := ih hqs
      exact ⟨⟨by simpa using hopener, houtlined⟩, by rw [linesOf_plain, hlines]⟩

/-- Lines have exactly the outline that they spell. -/
theorem outline_eq_ok_iff {ls : List Line} {ps : List Passage} :
    outline ls = .ok ps ↔ Outlined ps ∧ linesOf ps = ls := by
  constructor
  · exact outlined_of_outline
  · rintro ⟨h, rfl⟩
    exact outline_linesOf h

end Codeweave.Directive
