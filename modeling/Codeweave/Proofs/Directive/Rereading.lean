import Codeweave.Proofs.Directive.Regeneration
import Codeweave.Proofs.Directive.RenewedLines

/-!
A regenerated source is read as it was written. Each line of a renewed directive carries the mark
that it should have, and so the outline of a regenerated source is the renewed outline.
-/

namespace Codeweave.Directive

open Text (isBlank isBoundary IsLine Lined Breaks lined_append_iff lined_cons_iff lined_lines)

/-- What a directive needs to be read again after its regeneration: a plain end where regeneration
writes behind its closer, a text without sentinels, and a number that can be read. -/
structure Written.Renewable (config : Config) (w : Written) (artifact : Option (List Char)) :
    Prop where
  closer : w.recounted config = true ∨ w.framed artifact = true → EndsPlainly w.closer
  artifact : ∀ text ∈ artifact, sentinelLine? text = none
  count : w.recounted config = true →
    (Nat.toDigits 10 w.lineCount).length ≤ Text.maxIntegerDigits

section

variable {config : Config} {newline : List Char} {w : Written} {artifact : Option (List Char)}

/-! ### Marks of renewed directives -/

theorem isEnd_eq_false_of_mem_regionText (hnewline : IsNewline newline) {margin text : List Char}
    (hmargin : ∀ c ∈ margin, isBoundary c = false) (hblank : ∀ c ∈ margin, isBlank c = true)
    (htext : sentinelLine? text = none) :
    ∀ l ∈ Text.lines (regionText margin newline text), isEnd l = false := by
  intro l hl
  rw [lines_regionText hnewline hmargin] at hl
  rcases mem_regionLines hl with rfl | ⟨body, hbody, rfl⟩
  · exact isMark_eq_false_of_blank endSentinel_ne_nil hnewline.isBlank
  · rw [isEnd, isMark_between hblank hnewline.isBlank]
    exact (sentinelLine?_eq_none_iff.mp htext body hbody).2

theorem Region.strip_first_renewed (r : Region) (text : List Char) :
    Text.strip (r.renewed text).first = Text.strip r.first := by
  rw [Region.renewed]
  split
  · rw [Text.strip_append_right (List.all_eq_true.mp rfl)]
  · rfl

theorem Region.wellFormed_renewed {r : Region} {text : List Char} (h : r.WellFormed)
    (htext : ∀ l ∈ Text.lines text, isEnd l = false) : (r.renewed text).WellFormed := by
  have hfirst : isBegin (r.renewed text).first = true := by
    rw [isBegin, isMark, Region.strip_first_renewed]
    exact h.first
  rw [Region.renewed] at hfirst ⊢
  split
  · rename_i hfuses
    rw [if_pos hfuses] at hfirst
    obtain ⟨rest, rfl⟩ := List.head?_eq_some_iff.mp hfuses.2
    refine ⟨hfirst, ?_, h.last⟩
    intro l hl
    refine htext l ?_
    rw [Text.lines_cons (by simp), if_pos (by decide)]
    exact List.mem_cons_of_mem _ hl
  · exact ⟨h.first, htext, h.last⟩

theorem wellFormed_newRegion (hnewline : IsNewline newline) {margin text : List Char}
    (hblank : ∀ c ∈ margin, isBlank c = true)
    (htext : ∀ l ∈ Text.lines (regionText margin newline text), isEnd l = false) :
    (newRegion margin newline text).WellFormed := by
  refine ⟨?_, htext, ?_⟩
  · rw [newRegion, isBegin, isMark_between hblank hnewline.isBlank, ← isBegin,
      isBegin_beginSentinel]
  · rw [newRegion, isEnd, isMark_between hblank hnewline.isBlank, ← isEnd, isEnd_endSentinel]

theorem isBlank_of_mem_closerTail (hnewline : IsNewline newline) (hline : IsLine w.closer)
    (hplain : EndsPlainly w.closer) (artifact : Option (List Char)) :
    ∀ c ∈ w.closerTail newline artifact, isBlank c = true := by
  rcases closerTail_cases hline hplain newline artifact with ⟨-, htail⟩ | ⟨hterminator, -⟩
  · rw [htail]
    split
    · exact hnewline.isBlank
    · simp
  · exact hterminator.isBlank

theorem closerDigits?_renewed (hnewline : IsNewline newline) (hwell : w.WellFormed)
    (hline : IsLine w.closer) (hrenewable : w.Renewable config artifact) :
    ∃ digits, closerDigits? (w.renewed config newline artifact).closer = some digits ∧
      readCount digits = .ok (w.renewed config newline artifact).count := by
  cases hrecounted : w.recounted config with
  | true =>
      have hupdate := updateCounts_of_recounted hrecounted
      have htail := isBlank_of_mem_closerTail hnewline hline
        (hrenewable.closer (Or.inl hrecounted)) artifact
      refine ⟨Nat.toDigits 10 w.lineCount, ?_, ?_⟩
      · rw [renewed_closer, Written.closerBody, if_pos hrecounted]
        exact closerDigits?_closerText _ (fun c hc => Text.isBlank_of_mem_margin hc) htail
      · rw [readCount_toDigits (hrenewable.count hrecounted), count_renewed, if_pos hupdate]
  | false =>
      obtain ⟨digits, hdigits, hread⟩ := hwell.closer
      have hblank : ∀ c ∈ if w.framed artifact then w.gap newline else [], isBlank c = true := by
        simp only [Written.gap]
        split_ifs
        · simp
        · exact hnewline.isBlank
        · simp
      refine ⟨digits, ?_, ?_⟩
      · rw [renewed_closer_of_not hrecounted, closerDigits?, Text.strip_append_right hblank]
        exact hdigits
      · have hcount := recounted_eq_false_iff.mp hrecounted
        rw [hread, count_renewed]
        split
        · rename_i hupdate
          rw [hcount hupdate]
        · rfl

theorem wellFormed_renewed (hnewline : IsNewline newline) (hwell : w.WellFormed)
    (hline : ∀ l ∈ w.lines, IsLine l) (hrenewable : w.Renewable config artifact) :
    (w.renewed config newline artifact).WellFormed := by
  have hcloser : IsLine w.closer := hline _ (by simp [Written.lines])
  have hmargin := hwell.not_boundary_of_mem_margin (hline _ (by simp [Written.lines]))
  have hblank : ∀ c ∈ Text.margin w.opener, isBlank c = true :=
    fun c hc => Text.isBlank_of_mem_margin hc
  refine ⟨hwell.opener, hwell.script,
    closerDigits?_renewed hnewline hwell hcloser hrenewable, ?_⟩
  cases artifact with
  | none => exact hwell.region
  | some text =>
      have htext := isEnd_eq_false_of_mem_regionText hnewline hmargin hblank
        (hrenewable.artifact text rfl)
      rintro r ⟨rfl⟩
      cases hregion : w.region with
      | none =>
          rw [regionWith_none hregion]
          exact wellFormed_newRegion hnewline hblank htext
      | some r =>
          rw [regionWith_some hregion]
          exact Region.wellFormed_renewed (hwell.region r hregion) htext

end

/-! ### Outlines -/

theorem lines_renewed_append (config : Config) (newline : List Char) {w : Written}
    (artifact : Option (List Char)) {after : List Line} (hwell : w.WellFormed)
    (hlined : Lined (w.lines ++ after)) (after' : List Char) :
    ∃ rest, Text.lines ((w.renewed config newline artifact).lines.flatten ++ after') =
      w.opener :: rest := by
  have hcloser : IsLine w.closer := hlined.isLine _ (by simp [Written.lines])
  rw [Written.lines, List.cons_append, List.cons_append, lined_cons_iff] at hlined
  obtain ⟨hopener, hrest, hbreak⟩ := hlined
  have hmargin := hwell.not_boundary_of_mem_margin hopener
  have hmeet : Breaks w.opener
      (w.script.flatten ++ ((w.renewed config newline artifact).closer ++
        ((((w.renewed config newline artifact).region.map Region.lines).getD []).flatten ++
          after'))) := by
    cases hscript : w.script with
    | nil =>
        simp only [hscript, List.nil_append, List.cons_append, List.flatten_cons] at hbreak
        exact breaks_renewed_closer hcloser hmargin hbreak _
    | cons l script =>
        have hl : IsLine l := hrest.isLine _ (by simp [hscript])
        refine hbreak.congr rfl ?_
        simp only [hscript, List.cons_append, List.flatten_cons, List.append_assoc,
          hl.head?_append]
  have hflatten : (w.renewed config newline artifact).lines.flatten ++ after' =
      w.opener ++ (w.script.flatten ++ ((w.renewed config newline artifact).closer ++
        ((((w.renewed config newline artifact).region.map Region.lines).getD []).flatten ++
          after'))) := by
    rw [Written.lines_eq]
    simp only [List.flatten_append, List.flatten_cons, List.flatten_nil, List.append_nil,
      List.append_assoc]
    rfl
  have hlines := Text.lines_append hmeet
  rw [← hflatten, hopener] at hlines
  exact ⟨_, hlines⟩

theorem head?_lines_renew (config : Config) (newline : List Char) {ps : List Passage}
    (houtlined : Outlined ps) (hlined : Lined (linesOf ps))
    (artifacts : List (Option (List Char))) :
    (Text.lines (linesOf (renew config newline ps artifacts)).flatten).head? =
      (linesOf ps).head? := by
  induction ps generalizing artifacts with
  | nil => simp [renew]
  | cons p ps ih =>
      cases p with
      | plain l =>
          rw [linesOf_plain] at hlined
          have hhead := ih houtlined.2 (lined_cons_iff.mp hlined).2.1 artifacts
          rw [renew, linesOf_plain, List.flatten_cons, hlined.lines_cons_append hhead,
            linesOf_plain]
          rfl
      | directive w =>
          rw [linesOf_directive] at hlined
          obtain ⟨rest, hrest⟩ := lines_renewed_append config newline (artifacts.headD none)
            houtlined.1 hlined
            (linesOf (renew config newline ps artifacts.tail)).flatten
          rw [renew, linesOf_directive, List.flatten_append, hrest]
          rfl

theorem lines_renew_plain (config : Config) (newline : List Char) {l : Line} {ps : List Passage}
    (houtlined : Outlined ps) (hlined : Lined (l :: linesOf ps))
    (artifacts : List (Option (List Char))) :
    Text.lines (linesOf (renew config newline (.plain l :: ps) artifacts)).flatten =
      l :: Text.lines (linesOf (renew config newline ps artifacts)).flatten := by
  have hhead := head?_lines_renew config newline houtlined (lined_cons_iff.mp hlined).2.1 artifacts
  rw [renew, linesOf_plain, List.flatten_cons, hlined.lines_cons_append hhead]

theorem startsRegion_congr {ls ms : List Line} (h : ls.head? = ms.head?) :
    startsRegion ls = startsRegion ms := by
  rw [startsRegion, h, startsRegion]

/-- The renewed directives of an outline follow one another as the directives did. -/
theorem outlined_renew {config : Config} {newline : List Char} (hnewline : IsNewline newline)
    {ps : List Passage} {artifacts : List (Option (List Char))} (houtlined : Outlined ps)
    (hlined : Lined (linesOf ps))
    (hrenewable : List.Forall₂ (Written.Renewable config) (writtenOf ps) artifacts) :
    Outlined (renew config newline ps artifacts) ∧
      Lined (linesOf (renew config newline ps artifacts)) := by
  induction ps generalizing artifacts with
  | nil => exact ⟨trivial, hlined⟩
  | cons p ps ih =>
      cases p with
      | plain l =>
          rw [linesOf_plain, ← List.singleton_append] at hlined
          have hrest := (lined_append_iff.mp hlined).2.1
          obtain ⟨houtlined', hlined'⟩ := ih houtlined.2 hrest hrenewable
          have hhead := head?_lines_renew config newline houtlined.2 hrest artifacts
          rw [hlined'.lines_flatten] at hhead
          exact ⟨⟨houtlined.1, houtlined'⟩,
            hlined.append_congr hlined' (hrest.head?_flatten hlined' hhead.symm)⟩
      | directive w =>
          obtain ⟨artifact, artifacts, hw, htail, rfl⟩ := List.forall₂_cons_left_iff.mp hrenewable
          obtain ⟨hwell, hnone, houtlined⟩ := houtlined
          rw [linesOf_directive, lined_append_iff] at hlined
          obtain ⟨hdirective, hrest, hbreak⟩ := hlined
          obtain ⟨houtlined', hlined'⟩ := ih houtlined hrest htail
          have hhead := head?_lines_renew config newline houtlined hrest artifacts
          rw [hlined'.lines_flatten] at hhead
          constructor
          · refine ⟨wellFormed_renewed hnewline hwell hdirective.isLine hw, ?_, houtlined'⟩
            intro hregion
            -- what follows starts with the line it started with, so it starts no region now either
            rw [List.tail_cons, startsRegion_congr hhead]
            cases artifact with
            | none => exact hnone hregion
            | some text => simp [region_renewed_some] at hregion
          · rw [renew, linesOf_directive, lined_append_iff]
            exact ⟨lined_renewed hnewline hwell hdirective hw.closer, hlined',
              breaks_renewed hnewline hwell hdirective hw.closer hbreak
                (hrest.head?_flatten hlined' hhead.symm)⟩

/-- A regenerated source has the renewed outline. -/
theorem parted_renew {config : Config} {newline : List Char} (hnewline : IsNewline newline)
    {source : List Char} {ps : List Passage} {artifacts : List (Option (List Char))}
    (hparted : Parted source ps)
    (hrenewable : List.Forall₂ (Written.Renewable config) (writtenOf ps) artifacts) :
    Parted (linesOf (renew config newline ps artifacts)).flatten
      (renew config newline ps artifacts) := by
  obtain ⟨houtlined, hlined⟩ := outlined_renew hnewline hparted.outlined hparted.lined hrenewable
  exact parted_of_lined houtlined hlined

end Codeweave.Directive
