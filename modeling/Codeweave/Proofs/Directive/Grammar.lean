import Codeweave.Proofs.Directive.Blocks

/-!
The grammar of sources. Lines decompose into plain lines and directives in at most one way, and a
source is scanned exactly when its lines do and the numbers on the closers can be read. Otherwise
there is a first opener that starts no directive, and that opener is blamed.
-/

namespace Codeweave.Directive

open Text (isDecimalDigit isIndent strip)

/-- The line closes a directive: without the blanks around it, it is two exclamation marks, digits
with spaces and tabs around them, and the end of a comment. -/
def Closes (l : Line) (digits : List Char) : Prop :=
  ∃ lead tail : List Char, (∀ c ∈ lead, isIndent c = true) ∧
    (∀ c ∈ digits, isDecimalDigit c = true) ∧ (∀ c ∈ tail, isIndent c = true) ∧
    strip l = ['!', '!'] ++ lead ++ digits ++ tail ++ ['*', '/']

/-- Each line of the directive carries the mark that it should and no other; the digits on the
closer may be any number. -/
structure Written.Spelled (w : Written) : Prop where
  opener : isOpener w.opener = true
  script : ∀ l ∈ w.script, isOpener l = false ∧ ∀ digits, ¬ Closes l digits
  closer : ∃ digits, Closes w.closer digits ∧
    w.count = if digits = [] then none else some (Text.digitsValue digits)
  region : ∀ r ∈ w.region, r.WellFormed

/-- The number on the closer has no more digits than are read. -/
def Written.CountFits (w : Written) : Prop :=
  ∀ digits, Closes w.closer digits → digits.length ≤ Text.maxIntegerDigits

/-- The lines are plain lines and directives, and further lines that are left over. A directive
takes the region that follows it. -/
inductive Decomposes : List Line → List Passage → List Line → Prop
  | stop (ls : List Line) : Decomposes ls [] ls
  | plain {l : Line} {ls rest : List Line} {ps : List Passage} (hplain : isOpener l = false)
      (htail : Decomposes ls ps rest) : Decomposes (l :: ls) (.plain l :: ps) rest
  | directive {w : Written} {ls rest : List Line} {ps : List Passage} (hspelled : w.Spelled)
      (hregion : w.region = none → startsRegion ls = false) (htail : Decomposes ls ps rest) :
      Decomposes (w.lines ++ ls) (.directive w :: ps) rest

def StartsDirective (ls : List Line) : Prop :=
  ∃ w after, Written.Spelled w ∧ ls = w.lines ++ after ∧
    (w.region = none → startsRegion after = false)

/-- After the given passages comes an opener that starts no directive. -/
structure Stuck (ls : List Line) (ps : List Passage) (rest : List Line) : Prop where
  before : Decomposes ls ps rest
  opener : ∃ l ∈ rest.head?, isOpener l = true
  broken : ¬ StartsDirective rest

/-! ### Closers -/

theorem isIndent_eq_false_of_digit {c : Char} (h : isDecimalDigit c = true) :
    isIndent c = false := by
  rw [isIndent, Bool.or_eq_false_iff, beq_eq_false_iff_ne, beq_eq_false_iff_ne]
  constructor
  · rintro rfl
    exact absurd h (by decide)
  · rintro rfl
    exact absurd h (by decide)

theorem isDecimalDigit_eq_false_of_indent {c : Char} (h : isIndent c = true) :
    isDecimalDigit c = false := by
  by_contra hdigit
  rw [isIndent_eq_false_of_digit (by simpa using hdigit)] at h
  simp at h

theorem drop_length_takeWhile (p : Char → Bool) (text : List Char) :
    text.drop (text.takeWhile p).length = text.dropWhile p := by
  have hdrop : (text.takeWhile p ++ text.dropWhile p).drop (text.takeWhile p).length =
      text.dropWhile p := List.drop_left
  rwa [List.takeWhile_append_dropWhile] at hdrop

theorem closes_of_closerDigits? {l : Line} {digits : List Char}
    (h : closerDigits? l = some digits) : Closes l digits := by
  rw [closerDigits?, countDigits?.eq_def] at h
  split at h
  · rename_i rest hmark
    simp only at h
    split at h
    · rename_i hend
      simp only [Option.some.injEq] at h
      rw [drop_length_takeWhile, beq_iff_eq] at hend
      refine ⟨rest.takeWhile isIndent,
        ((rest.dropWhile isIndent).dropWhile isDecimalDigit).takeWhile isIndent,
        fun c hc => List.mem_takeWhile_imp hc, ?_, fun c hc => List.mem_takeWhile_imp hc, ?_⟩
      · rw [← h]
        exact fun c hc => List.mem_takeWhile_imp hc
      · rw [hmark, ← h, ← hend]
        simp [List.takeWhile_append_dropWhile]
    · simp at h
  · simp at h

theorem dropWhile_isIndent_digits {digits tail : List Char}
    (hdigits : ∀ c ∈ digits, isDecimalDigit c = true) (htail : ∀ c ∈ tail, isIndent c = true) :
    (digits ++ (tail ++ ['*', '/'])).dropWhile isIndent =
      digits ++ if digits = [] then ['*', '/'] else tail ++ ['*', '/'] := by
  cases digits with
  | nil => rw [List.nil_append, List.dropWhile_append_of_pos htail, if_pos rfl]; rfl
  | cons d digits =>
      have hindent := isIndent_eq_false_of_digit (hdigits d (List.mem_cons_self ..))
      rw [List.cons_append, List.dropWhile_cons_of_neg (by simp [hindent]), if_neg (by simp)]
      rfl

theorem takeWhile_isDecimalDigit_digits {digits tail : List Char}
    (hdigits : ∀ c ∈ digits, isDecimalDigit c = true) (htail : ∀ c ∈ tail, isIndent c = true) :
    (digits ++ (tail ++ ['*', '/'])).takeWhile isDecimalDigit = digits := by
  rw [List.takeWhile_append_of_pos hdigits]
  cases tail with
  | nil => rw [List.nil_append, List.takeWhile_cons_of_neg (by decide), List.append_nil]
  | cons c tail =>
      have hdigit := isDecimalDigit_eq_false_of_indent (htail c (List.mem_cons_self ..))
      rw [List.cons_append, List.takeWhile_cons_of_neg (by simp [hdigit]), List.append_nil]

theorem closerDigits?_of_closes {l : Line} {digits : List Char} (h : Closes l digits) :
    closerDigits? l = some digits := by
  obtain ⟨lead, tail, hlead, hdigits, htail, hstrip⟩ := h
  have hrest : (lead ++ (digits ++ (tail ++ ['*', '/']))).dropWhile isIndent =
      digits ++ if digits = [] then ['*', '/'] else tail ++ ['*', '/'] := by
    rw [List.dropWhile_append_of_pos hlead, dropWhile_isIndent_digits hdigits htail]
  have hmark : strip l = '!' :: '!' :: (lead ++ (digits ++ (tail ++ ['*', '/']))) := by
    rw [hstrip]
    simp
  rw [closerDigits?, hmark, countDigits?]
  simp only [hrest]
  split
  · subst digits
    rfl
  · rw [takeWhile_isDecimalDigit_digits hdigits htail, List.drop_left,
      List.dropWhile_append_of_pos htail]
    rfl

theorem closerDigits?_eq_some_iff {l : Line} {digits : List Char} :
    closerDigits? l = some digits ↔ Closes l digits :=
  ⟨closes_of_closerDigits?, closerDigits?_of_closes⟩

theorem isCloser_eq_false_iff_forall {l : Line} :
    isCloser l = false ↔ ∀ digits, ¬ Closes l digits := by
  rw [isCloser_eq_false_iff, Option.eq_none_iff_forall_ne_some]
  exact forall_congr' fun digits => not_congr closerDigits?_eq_some_iff

theorem readCount_eq_ok_iff {digits : List Char} {count : Option Nat} :
    readCount digits = .ok count ↔
      digits.length ≤ Text.maxIntegerDigits ∧
        count = if digits = [] then none else some (Text.digitsValue digits) := by
  rw [readCount]
  cases digits with
  | nil => simp [eq_comm]
  | cons d digits =>
      rw [if_neg (by simp), if_neg (by simp : d :: digits ≠ [])]
      split
      · rename_i hlong
        simp only [reduceCtorEq, false_iff, not_and]
        omega
      · rename_i hshort
        rw [Except.ok.injEq, eq_comm]
        exact ⟨fun h => ⟨by omega, h⟩, fun h => h.2⟩

/-! ### Directives -/

/-- A directive is read when it is spelled as the grammar asks and its number can be read. -/
theorem wellFormed_iff {w : Written} : w.WellFormed ↔ w.Spelled ∧ w.CountFits := by
  constructor
  · intro h
    obtain ⟨digits, hdigits, hcount⟩ := h.closer
    obtain ⟨hshort, hvalue⟩ := readCount_eq_ok_iff.mp hcount
    refine ⟨⟨h.opener, ?_, ⟨digits, closes_of_closerDigits? hdigits, hvalue⟩, h.region⟩, ?_⟩
    · exact fun l hl => ⟨(h.script l hl).1, isCloser_eq_false_iff_forall.mp (h.script l hl).2⟩
    · intro others hothers
      rw [closerDigits?_of_closes hothers, Option.some.injEq] at hdigits
      rwa [hdigits]
  · rintro ⟨h, hfits⟩
    obtain ⟨digits, hcloses, hvalue⟩ := h.closer
    refine ⟨h.opener, ?_, ⟨digits, closerDigits?_of_closes hcloses,
      readCount_eq_ok_iff.mpr ⟨hfits digits hcloses, hvalue⟩⟩, h.region⟩
    exact fun l hl => ⟨(h.script l hl).1, isCloser_eq_false_iff_forall.mpr (h.script l hl).2⟩

theorem Written.Spelled.read {w : Written} (h : w.Spelled) {after : List Line}
    (hafter : w.region = none → startsRegion after = false) :
    ∃ ls digits, w.lines ++ after = w.opener :: ls ∧
      splitAtCloser ls =
        some ⟨w.script, w.closer, digits, (w.region.map Region.lines).getD [] ++ after⟩ ∧
      readRegion ((w.region.map Region.lines).getD [] ++ after) = .ok (w.region, after) ∧
      w.count = if digits = [] then none else some (Text.digitsValue digits) := by
  obtain ⟨digits, hcloses, hvalue⟩ := h.closer
  refine ⟨w.script ++ w.closer :: ((w.region.map Region.lines).getD [] ++ after), digits,
    by simp [Written.lines], ?_, ?_, hvalue⟩
  · refine splitAtCloser_append ?_ (closerDigits?_of_closes hcloses) _
    exact fun l hl => ⟨(h.script l hl).1, isCloser_eq_false_iff_forall.mpr (h.script l hl).2⟩
  · cases hregion : w.region with
    | none => exact readRegion_none (hafter hregion)
    | some r => exact readRegion_lines (h.region r hregion) after

theorem startsDirective_of_read {l : Line} {ls after : List Line} {c : Closing}
    {region : Option Region} (hopener : isOpener l = true) (hsplit : splitAtCloser ls = some c)
    (hregion : readRegion c.rest = .ok (region, after)) : StartsDirective (l :: ls) := by
  obtain ⟨hscript, hcloser⟩ := marks_of_splitAtCloser hsplit
  obtain ⟨hregions, hnone⟩ := marks_of_readRegion hregion
  refine ⟨⟨l, c.script, c.closer,
    if c.digits = [] then none else some (Text.digitsValue c.digits), region⟩, after,
    ⟨hopener, ?_, ⟨c.digits, closes_of_closerDigits? hcloser, rfl⟩, hregions⟩, ?_, hnone⟩
  · exact fun m hm => ⟨(hscript m hm).1, isCloser_eq_false_iff_forall.mp (hscript m hm).2⟩
  · rw [eq_append_of_splitAtCloser hsplit, eq_append_of_readRegion hregion]
    simp [Written.lines]

theorem Written.Spelled.unique {w w' : Written} {after after' : List Line} (h : w.Spelled)
    (h' : w'.Spelled) (hafter : w.region = none → startsRegion after = false)
    (hafter' : w'.region = none → startsRegion after' = false)
    (hlines : w.lines ++ after = w'.lines ++ after') : w = w' ∧ after = after' := by
  obtain ⟨ls, digits, hcons, hsplit, hregion, hcount⟩ := h.read hafter
  obtain ⟨ls', digits', hcons', hsplit', hregion', hcount'⟩ := h'.read hafter'
  rw [hcons, hcons', List.cons.injEq] at hlines
  obtain ⟨hopener, rfl⟩ := hlines
  rw [hsplit, Option.some.injEq, Closing.mk.injEq] at hsplit'
  obtain ⟨hscript, hcloser, rfl, hrest⟩ := hsplit'
  rw [← hrest, hregion, Except.ok.injEq, Prod.mk.injEq] at hregion'
  refine ⟨?_, hregion'.2⟩
  cases w
  cases w'
  simp_all

theorem Written.Spelled.opener_head {w : Written} (h : w.Spelled) (after : List Line) :
    ∃ l ls, w.lines ++ after = l :: ls ∧ isOpener l = true :=
  ⟨w.opener, _, rfl, h.opener⟩

/-! ### Decompositions -/

/-- Of two decompositions one goes on where the other stops. -/
theorem Decomposes.linear {ls rest rest' : List Line} {ps qs : List Passage}
    (hps : Decomposes ls ps rest) (hqs : Decomposes ls qs rest') :
    (∃ more, qs = ps ++ more ∧ Decomposes rest more rest') ∨
      ∃ more, ps = qs ++ more ∧ Decomposes rest' more rest := by
  -- the next line tells whether a plain line or a directive comes, and the directive is unique
  induction hps generalizing qs with
  | stop ls => exact .inl ⟨qs, rfl, hqs⟩
  | @plain l ls rest ps hplain htail ih =>
      generalize hlines : l :: ls = ms at hqs
      cases hqs with
      | stop ms => exact .inr ⟨_, rfl, hlines ▸ .plain hplain htail⟩
      | plain hplain' htail' =>
          obtain ⟨rfl, rfl⟩ := List.cons.inj hlines
          rcases ih htail' with ⟨more, rfl, hmore⟩ | ⟨more, rfl, hmore⟩
          · exact .inl ⟨more, rfl, hmore⟩
          · exact .inr ⟨more, rfl, hmore⟩
      | directive hspelled _ _ =>
          obtain ⟨m, ms, hhead, hopener⟩ := hspelled.opener_head _
          rw [hhead, List.cons.injEq] at hlines
          rw [← hlines.1, hplain] at hopener
          simp at hopener
  | @directive w ls rest ps hspelled hregion htail ih =>
      generalize hlines : w.lines ++ ls = ms at hqs
      cases hqs with
      | stop ms => exact .inr ⟨_, rfl, hlines ▸ .directive hspelled hregion htail⟩
      | plain hplain' _ =>
          obtain ⟨m, ms, hhead, hopener⟩ := hspelled.opener_head ls
          rw [hhead, List.cons.injEq] at hlines
          rw [hlines.1, hplain'] at hopener
          simp at hopener
      | directive hspelled' hregion' htail' =>
          obtain ⟨rfl, rfl⟩ := hspelled.unique hspelled' hregion hregion' hlines
          rcases ih htail' with ⟨more, rfl, hmore⟩ | ⟨more, rfl, hmore⟩
          · exact .inl ⟨more, rfl, hmore⟩
          · exact .inr ⟨more, rfl, hmore⟩

theorem Decomposes.eq_nil_of_nil {ps : List Passage} {rest : List Line}
    (h : Decomposes [] ps rest) : ps = [] := by
  generalize hnil : ([] : List Line) = ls at h
  cases h with
  | stop ls => rfl
  | plain _ _ => simp at hnil
  | directive hspelled _ _ => simp [Written.lines] at hnil

theorem Decomposes.unique {ls : List Line} {ps qs : List Passage} (hps : Decomposes ls ps [])
    (hqs : Decomposes ls qs []) : ps = qs := by
  rcases hps.linear hqs with ⟨more, rfl, hmore⟩ | ⟨more, rfl, hmore⟩ <;>
    simp [hmore.eq_nil_of_nil]

theorem Stuck.eq_nil {ls rest rest' : List Line} {ps more : List Passage} (h : Stuck ls ps rest)
    (hmore : Decomposes rest more rest') : more = [] := by
  obtain ⟨l, hl, hopener⟩ := h.opener
  have hbroken := h.broken
  cases hmore with
  | stop rest => rfl
  | plain hplain _ =>
      obtain rfl : _ = l := by simpa using hl
      rw [hplain] at hopener
      simp at hopener
  | directive hspelled hregion _ => exact absurd ⟨_, _, hspelled, rfl, hregion⟩ hbroken

theorem Stuck.unique {ls rest rest' : List Line} {ps qs : List Passage} (h : Stuck ls ps rest)
    (h' : Stuck ls qs rest') : ps = qs := by
  rcases h.before.linear h'.before with ⟨more, rfl, hmore⟩ | ⟨more, rfl, hmore⟩
  · simp [h.eq_nil hmore]
  · simp [h'.eq_nil hmore]

theorem decomposes_or_stuck (ls : List Line) :
    (∃ ps, Decomposes ls ps []) ∨ ∃ ps rest, Stuck ls ps rest := by
  -- a directive takes more than one line, so the induction is on their number
  induction hn : ls.length using Nat.strong_induction_on generalizing ls with
  | _ n ih =>
      cases ls with
      | nil => exact .inl ⟨[], .stop []⟩
      | cons l ls =>
          by_cases hopener : isOpener l = true
          · by_cases hstarts : StartsDirective (l :: ls)
            · obtain ⟨w, after, hspelled, hlines, hregion⟩ := hstarts
              have hshorter : after.length < n := by
                rw [← hn, hlines, Written.lines, List.length_append, List.cons_append,
                  List.length_cons]
                omega
              rw [hlines]
              rcases ih _ hshorter after rfl with ⟨ps, hps⟩ | ⟨ps, rest, hstuck⟩
              · exact .inl ⟨_, .directive hspelled hregion hps⟩
              · exact .inr ⟨_, rest, .directive hspelled hregion hstuck.before, hstuck.opener,
                  hstuck.broken⟩
            · exact .inr ⟨[], l :: ls, .stop _, ⟨l, rfl, hopener⟩, hstarts⟩
          · have hplain : isOpener l = false := by simpa using hopener
            rcases ih ls.length (by simp [← hn]) ls rfl with ⟨ps, hps⟩ | ⟨ps, rest, hstuck⟩
            · exact .inl ⟨_, .plain hplain hps⟩
            · exact .inr ⟨_, rest, .plain hplain hstuck.before, hstuck.opener, hstuck.broken⟩

/-! ### Outlines -/

/-- A full decomposition with numbers that can be read is an outline, and conversely. -/
theorem outlined_iff_decomposes {ps : List Passage} {ls : List Line} :
    Outlined ps ∧ linesOf ps = ls ↔
      Decomposes ls ps [] ∧ ∀ w ∈ writtenOf ps, w.CountFits := by
  constructor
  · rintro ⟨houtlined, rfl⟩
    induction ps with
    | nil => exact ⟨.stop [], by simp [writtenOf]⟩
    | cons p ps ih =>
        cases p with
        | plain l =>
            obtain ⟨hdecomposes, hfits⟩ := ih houtlined.2
            exact ⟨.plain houtlined.1 hdecomposes, hfits⟩
        | directive w =>
            obtain ⟨hw, hregion, htail⟩ := houtlined
            obtain ⟨hspelled, hfit⟩ := wellFormed_iff.mp hw
            obtain ⟨hdecomposes, hfits⟩ := ih htail
            exact ⟨.directive hspelled hregion hdecomposes,
              by simpa [writtenOf] using ⟨hfit, hfits⟩⟩
  · rintro ⟨hdecomposes, hfits⟩
    generalize hnil : ([] : List Line) = rest at hdecomposes
    induction hdecomposes with
    | stop ls => exact ⟨trivial, hnil⟩
    | plain hplain _ ih =>
        obtain ⟨houtlined, hlines⟩ := ih hfits hnil
        exact ⟨⟨hplain, houtlined⟩, by rw [linesOf_plain, hlines]⟩
    | directive hspelled hregion _ ih =>
        simp only [writtenOf, List.forall_mem_cons] at hfits
        obtain ⟨houtlined, rfl⟩ := ih hfits.2 hnil
        exact ⟨⟨wellFormed_iff.mpr ⟨hspelled, hfits.1⟩, hregion, houtlined⟩, rfl⟩

theorem prepend_error (p : Passage) (b : Broken) :
    prepend p (.error b) = .error ⟨b.defect, b.place.behind (Place.after {} p.lines)⟩ := rfl

/-- What is left over decides the outline; its defects are found behind what was decomposed. -/
theorem outline_error_of_decomposes {ls rest : List Line} {ps : List Passage} {defect : Defect}
    (h : Decomposes ls ps rest) (hfits : ∀ w ∈ writtenOf ps, w.CountFits)
    (hrest : outline rest = .error { defect := defect }) :
    outline ls = .error ⟨defect, Place.after {} (linesOf ps)⟩ := by
  induction h with
  | stop ls => exact hrest
  | plain hplain _ ih =>
      rw [outline_plain hplain, ih hfits hrest, prepend_error]
      simp [Place.behind, Place.after, Passage.lines, Nat.add_comm]
  | directive hspelled hregion _ ih =>
      simp only [writtenOf, List.forall_mem_cons] at hfits
      rw [outline_directive (wellFormed_iff.mpr ⟨hspelled, hfits.1⟩) hregion,
        ih hfits.2 hrest, prepend_error]
      simp [Place.behind, Place.after, Passage.lines]

/-- An opener that starts no directive is unclosed or has a region without an end. -/
theorem outline_of_broken {l : Line} {ls : List Line} (hopener : isOpener l = true)
    (hbroken : ¬ StartsDirective (l :: ls)) :
    outline (l :: ls) = .error { defect := .unclosed } ∨
      outline (l :: ls) = .error { defect := .endless } := by
  have hread : readDirective l ls = .error .unclosed ∨ readDirective l ls = .error .endless := by
    rw [readDirective]
    split
    · exact .inl rfl
    · rename_i c hsplit
      split
      · rename_i defect hregion
        refine .inr ?_
        cases hrest : c.rest with
        | nil => simp [hrest, readRegion] at hregion
        | cons m rest =>
            rw [hrest, readRegion] at hregion
            split at hregion
            · split at hregion
              · simpa [eq_comm] using hregion
              · simp at hregion
            · simp at hregion
      · rename_i region after hregion
        exact absurd (startsDirective_of_read hopener hsplit hregion) hbroken
  rw [outline, if_pos hopener]
  split
  · rename_i defect hdefect
    rcases hread with hread | hread
    · rw [hdefect, Except.error.injEq] at hread
      exact .inl (by rw [hread])
    · rw [hdefect, Except.error.injEq] at hread
      exact .inr (by rw [hread])
  · rename_i w after hok
    rcases hread with hread | hread <;> simp [hok] at hread

/-! ### Sources -/

theorem scan_of_stuck {source : List Char} {ps : List Passage} {rest : List Line}
    (h : Stuck (Text.lines source) ps rest) (hfits : ∀ w ∈ writtenOf ps, w.CountFits) :
    ∃ broken message, scan source = .error broken ∧
      broken.escape = .fault
        { cause := .unterminatedDirective message
          offset := some (linesOf ps).flatten.length
          line := some ((linesOf ps).length + 1) } := by
  obtain ⟨l, hl, hopener⟩ := h.opener
  obtain ⟨ls, rfl⟩ := List.head?_eq_some_iff.mp hl
  have hscan : ∀ defect, outline (l :: ls) = .error { defect := defect } →
      scan source = .error ⟨defect, ⟨(linesOf ps).flatten.length, (linesOf ps).length⟩⟩ := by
    intro defect hrest
    rw [scan, outline_error_of_decomposes h.before hfits hrest, Place.after, Nat.zero_add,
      Nat.zero_add]
    rfl
  rcases outline_of_broken hopener h.broken with hrest | hrest
  · exact ⟨_, _, hscan .unclosed hrest, rfl⟩
  · exact ⟨_, _, hscan .endless hrest, rfl⟩

/-- A source is scanned exactly when its lines decompose into plain lines and directives whose
numbers can be read, its blocks are then the directives in order, and there is no other
decomposition. A source whose lines do not decompose has exactly one first opener that starts no
directive, and the fault tells its place. -/
theorem scan_accepts_grammar (source : List Char) :
    (∀ blocks, scan source = .ok blocks ↔
      ∃ ps, Decomposes (Text.lines source) ps [] ∧ (∀ w ∈ writtenOf ps, w.CountFits) ∧
        blocks = blocksFrom {} ps) ∧
    (∀ ps qs, Decomposes (Text.lines source) ps [] → Decomposes (Text.lines source) qs [] →
      ps = qs) ∧
    (∀ blocks ps, scan source = .ok blocks → Decomposes (Text.lines source) ps [] →
      List.Forall₂ (Shows source) blocks (writtenOf ps)) ∧
    ((¬ ∃ ps, Decomposes (Text.lines source) ps []) →
      ∃ ps rest, Stuck (Text.lines source) ps rest ∧
        (∀ qs rest', Stuck (Text.lines source) qs rest' → qs = ps) ∧
        ((∀ w ∈ writtenOf ps, w.CountFits) →
          ∃ broken message, scan source = .error broken ∧
            broken.escape = .fault
              { cause := .unterminatedDirective message
                offset := some (linesOf ps).flatten.length
                line := some ((linesOf ps).length + 1) })) := by
  have hscan : ∀ blocks, scan source = .ok blocks ↔
      ∃ ps, Decomposes (Text.lines source) ps [] ∧ (∀ w ∈ writtenOf ps, w.CountFits) ∧
        blocks = blocksFrom {} ps := by
    intro blocks
    rw [scan_eq_ok_iff]
    constructor
    · rintro ⟨ps, hparted, hblocks⟩
      obtain ⟨hdecomposes, hfits⟩ :=
        outlined_iff_decomposes.mp ⟨hparted.outlined, hparted.lines_eq⟩
      exact ⟨ps, hdecomposes, hfits, hblocks⟩
    · rintro ⟨ps, hdecomposes, hfits, hblocks⟩
      obtain ⟨houtlined, hlines⟩ := outlined_iff_decomposes.mpr ⟨hdecomposes, hfits⟩
      exact ⟨ps, ⟨houtlined, hlines⟩, hblocks⟩
  refine ⟨hscan, fun ps qs => Decomposes.unique, ?_, ?_⟩
  · intro blocks ps hblocks hdecomposes
    obtain ⟨qs, hqs, hfits, rfl⟩ := (hscan blocks).mp hblocks
    obtain rfl := hdecomposes.unique hqs
    obtain ⟨houtlined, hlines⟩ := outlined_iff_decomposes.mpr ⟨hqs, hfits⟩
    exact Parted.shows ⟨houtlined, hlines⟩
  · intro hnone
    obtain ⟨ps, rest, hstuck⟩ := (decomposes_or_stuck (Text.lines source)).resolve_left hnone
    exact ⟨ps, rest, hstuck, fun qs rest' h => h.unique hstuck, scan_of_stuck hstuck⟩

end Codeweave.Directive
