import Codeweave.Proofs.Directive.ReadBack

/-!
Numbers on closers that are set right. A closer gets its number in place of all that it holds up to
a carriage return or a newline. A closer that ends its line in another way loses that end, and
unless new sentinels bring one along it runs on into the next line, which hides it from the next
reading. Behind all other closers every directive is read again with the number that it should
have.
-/

namespace Codeweave.Directive

open Text (isBlank isBoundary IsLine Lined Breaks strip lined_append_iff lined_cons_iff lined_lines)

/-! ### Directives that are read again -/

/-- The second directive has the script of the first, and its closer has the right number. -/
structure Written.Settled (w v : Written) : Prop where
  script : v.script.flatten = w.script.flatten
  count : v.count = some v.lineCount

/-- The lines are read as the directives with right numbers, and plain lines between them. -/
def Reads (ws : List Written) (ls : List Line) : Prop :=
  ∃ qs, outline ls = .ok qs ∧ List.Forall₂ Written.Settled ws (writtenOf qs)

theorem reads_plain {l : Line} (h : isOpener l = false) (ws : List Written) (ls : List Line) :
    Reads ws (l :: ls) ↔ Reads ws ls := by
  simp only [Reads, outline_plain h, prepend_eq_ok_iff]
  constructor
  · rintro ⟨_, ⟨qs, hqs, rfl⟩, hsettled⟩
    exact ⟨qs, hqs, hsettled⟩
  · rintro ⟨qs, hqs, hsettled⟩
    exact ⟨_, ⟨qs, hqs, rfl⟩, hsettled⟩

theorem reads_plain_append {ls : List Line} (h : ∀ l ∈ ls, isOpener l = false)
    (ws : List Written) (ms : List Line) : Reads ws (ls ++ ms) ↔ Reads ws ms := by
  induction ls with
  | nil => rfl
  | cons l ls ih =>
      rw [List.forall_mem_cons] at h
      rw [List.cons_append, reads_plain h.1, ih h.2]

theorem reads_of_outline {w v : Written} (hsettled : w.Settled v) {ls ms : List Line}
    (h : outline ls = prepend (.directive v) (outline ms)) (ws : List Written) :
    Reads (w :: ws) ls ↔ Reads ws ms := by
  simp only [Reads, h, prepend_eq_ok_iff]
  constructor
  · rintro ⟨_, ⟨qs, hqs, rfl⟩, hall⟩
    exact ⟨qs, hqs, (List.forall₂_cons.mp hall).2⟩
  · rintro ⟨qs, hqs, hall⟩
    exact ⟨_, ⟨qs, hqs, rfl⟩, List.Forall₂.cons hsettled hall⟩

/-- A line behind the script that does not close the directive becomes part of its script. -/
theorem splitAtCloser_of_no_marks {ls ms : List Line} {c : Closing}
    (hmarks : ∀ l ∈ ls, isOpener l = false ∧ isCloser l = false)
    (h : splitAtCloser (ls ++ ms) = some c) : ∃ script, c.script = ls ++ script := by
  induction ls generalizing c with
  | nil => exact ⟨c.script, rfl⟩
  | cons l ls ih =>
      rw [List.forall_mem_cons] at hmarks
      rw [List.cons_append, splitAtCloser, if_neg (by simp [hmarks.1.1]),
        isCloser_eq_false_iff.mp hmarks.1.2] at h
      obtain ⟨d, hd, rfl⟩ := Option.map_eq_some_iff.mp h
      obtain ⟨script, hscript⟩ := ih hmarks.2 hd
      exact ⟨script, by rw [hscript]; rfl⟩

theorem not_reads_of_no_closer {w : Written} (hwell : w.WellFormed) {l : Line}
    (hopener : isOpener l = false) (hcloser : isCloser l = false) (hne : l ≠ [])
    (ws : List Written) (ls : List Line) :
    ¬ Reads (w :: ws) (w.opener :: w.script ++ l :: ls) := by
  rintro ⟨qs, hread, hsettled⟩
  rw [List.cons_append, outline, if_pos hwell.opener] at hread
  split at hread
  · simp at hread
  · rename_i v after hv
    obtain ⟨qs, -, rfl⟩ := prepend_eq_ok_iff.mp hread
    have hscript := (List.forall₂_cons.mp hsettled).1.script
    rw [readDirective] at hv
    split at hv
    · simp at hv
    · rename_i c hc
      have hmarks : ∀ m ∈ w.script ++ [l], isOpener m = false ∧ isCloser m = false := by
        intro m hm
        rcases List.mem_append.mp hm with hm | hm
        · exact hwell.script m hm
        · rw [List.mem_singleton.mp hm]
          exact ⟨hopener, hcloser⟩
      rw [List.append_cons] at hc
      obtain ⟨more, hmore⟩ := splitAtCloser_of_no_marks hmarks hc
      have hlonger : v.script = w.script ++ [l] ++ more := by
        split at hv
        · simp at hv
        · split at hv
          · simp at hv
          · simp only [Except.ok.injEq, Prod.mk.injEq] at hv
            rw [← hv.1, hmore]
      simp [hlonger, hne] at hscript

/-! ### One directive -/

/-- Without what ended its line, the closer runs on into the lines behind it. -/
def Written.RunsOn (config : Config) (w : Written) (artifact : Option (List Char))
    (ls : List Line) : Prop :=
  w.recounted config = true ∧ w.framed artifact = false ∧ ¬ EndsPlainly w.closer ∧
    ∃ l ∈ ls.head?, strip l ≠ []

/-- Lines that no directive was read from come into the reach of one: those of a generated text
whose sentinels are not found, or a region behind a blank line that becomes part of the closer. -/
def Written.Exposes (config : Config) (w : Written) (artifact : Option (List Char))
    (ls : List Line) : Prop :=
  ¬ EndsPlainly w.closer ∧
    (w.recounted config = false ∧ w.framed artifact = true ∧
        (∃ text ∈ artifact, ∃ l ∈ Text.bodies text, isOpener l = true) ∨
      w.recounted config = true ∧ w.framed artifact = false ∧
        (∀ l ∈ ls.head?, strip l = []) ∧ startsRegion ls.tail = true)

section

variable {config : Config} {newline : List Char} {w : Written} {artifact : Option (List Char)}

theorem settled_renewed (hupdate : config.updateCounts = true) (newline : List Char)
    (artifact : Option (List Char)) : w.Settled (w.renewed config newline artifact) :=
  ⟨rfl, by rw [count_renewed, if_pos hupdate]; rfl⟩

theorem settled_self (hupdate : config.updateCounts = true)
    (hrecounted : w.recounted config = false) : w.Settled w :=
  ⟨rfl, recounted_eq_false_iff.mp hrecounted hupdate⟩

/-- A closer that does not end plainly is replaced whole. -/
theorem closer_of_not_endsPlainly (hrecounted : w.recounted config = true)
    (hends : ¬ EndsPlainly w.closer) :
    (w.renewed config newline artifact).closer =
      closerText (Text.margin w.opener) w.lineCount ++
        if w.framed artifact then newline else [] := by
  obtain ⟨c, hc, -, hreturn⟩ :
      ∃ c ∈ w.closer.getLast?, isBoundary c = true ∧ isReturn c = false := by
    simpa [EndsPlainly] using hends
  have htrim : Text.trimRight isReturn w.closer = w.closer := by
    refine List.rdropWhile_eq_self_iff.mpr fun hne => ?_
    rw [Option.mem_def, List.getLast?_eq_some_getLast hne, Option.some.injEq] at hc
    simp [hc, hreturn]
  have hgap : w.gap newline = newline := by
    rw [Written.gap, endsInReturn, Option.mem_def.mp hc]
    simp [hreturn]
  rw [renewed_closer, Written.closerBody, if_pos hrecounted, Written.closerTail, htrim, hgap,
    List.drop_length, List.nil_append]

/-- A closer that is replaced whole leaves the lines in front of it as they are. -/
theorem lines_of_recounted (hwell : w.WellFormed) (hlined : Lined w.lines)
    (hrecounted : w.recounted config = true) (hends : ¬ EndsPlainly w.closer)
    (after : List Char) :
    Text.lines ((w.renewed config newline artifact).lines.flatten ++ after) =
      (w.opener :: w.script) ++ Text.lines (closerText (Text.margin w.opener) w.lineCount ++
        ((if w.framed artifact then newline else []) ++
          ((((w.renewed config newline artifact).region.map
            Region.lines).getD []).flatten ++ after))) := by
  have hmargin := hwell.not_boundary_of_mem_margin (hlined.isLine _ (by simp [Written.lines]))
  rw [Written.lines_eq, lined_append_iff, lined_append_iff, Text.lined_singleton_iff] at hlined
  obtain ⟨⟨hopening, hcloser, hmeet⟩, -⟩ := hlined
  have hbreak (rest : List Char) : Breaks (w.opener :: w.script).flatten
      (closerText (Text.margin w.opener) w.lineCount ++ rest) :=
    Text.breaks_of_isBoundary (hmeet.isBoundary (by simpa using hcloser.ne_nil))
      (head?_ne_newline (closerText_ne_nil _ _)
        (fun c hc => not_boundary_of_mem_closerText hmargin hc) rest)
  rw [Written.lines_eq, closer_of_not_endsPlainly hrecounted hends, ← hopening.lines_flatten,
    ← Text.lines_append (hbreak _)]
  simp [Written.renewed]

theorem reads_reclosed (hwell : w.WellFormed)
    (hcount : (Nat.toDigits 10 w.lineCount).length ≤ Text.maxIntegerDigits) {tail : List Char}
    (htail : ∀ c ∈ tail, isBlank c = true) (region : Option Region)
    (hregion : ∀ r ∈ region, r.WellFormed) {ls : List Line}
    (hnone : region = none → startsRegion ls = false) (ws : List Written) :
    Reads (w :: ws) ((w.opener :: w.script) ++
        (closerText (Text.margin w.opener) w.lineCount ++ tail) ::
          ((region.map Region.lines).getD [] ++ ls)) ↔ Reads ws ls := by
  have hblank : ∀ c ∈ Text.margin w.opener, isBlank c = true :=
    fun _ hc => Text.isBlank_of_mem_margin hc
  have hdigits := closerDigits?_closerText w.lineCount hblank htail
  let v : Written := ⟨w.opener, w.script,
    closerText (Text.margin w.opener) w.lineCount ++ tail, some w.lineCount, region⟩
  have hv : v.WellFormed :=
    ⟨hwell.opener, hwell.script, ⟨_, hdigits, readCount_toDigits hcount⟩, hregion⟩
  have hsettled : w.Settled v := ⟨rfl, rfl⟩
  have hread := reads_of_outline hsettled (outline_directive hv hnone) ws
  simpa [v, Written.lines] using hread

/-- A closer that is replaced whole and followed by new sentinels ends in a newline. -/
theorem reads_recounted_framed (hnewline : IsNewline newline) (hwell : w.WellFormed)
    (hlined : Lined w.lines) (hrecounted : w.recounted config = true) (hregion : w.region = none)
    (hends : ¬ EndsPlainly w.closer)
    (hcount : (Nat.toDigits 10 w.lineCount).length ≤ Text.maxIntegerDigits) {text : List Char}
    (hsentinel : sentinelLine? text = none) (after : List Char) (ws : List Written) :
    Reads (w :: ws)
        (Text.lines ((w.renewed config newline (some text)).lines.flatten ++ after)) ↔
      Reads ws (Text.lines after) := by
  have hmargin := hwell.not_boundary_of_mem_margin (hlined.isLine _ (by simp [Written.lines]))
  have hblank : ∀ c ∈ Text.margin w.opener, isBlank c = true :=
    fun c hc => Text.isBlank_of_mem_margin hc
  have hframe := (lined_newRegion hnewline hmargin text (lined_lines after)).lines_flatten
  rw [List.flatten_append, Text.flatten_lines] at hframe
  have hbehind : Text.lines (newline ++
      ((newRegion (Text.margin w.opener) newline text).lines.flatten ++ after)) =
        newline :: ((newRegion (Text.margin w.opener) newline text).lines ++ Text.lines after) := by
    rw [Text.lines_append (Text.breaks_of_newline (by simpa using hnewline.getLast?_append []) _),
      hnewline.isTerminator.isLine, hframe]
    rfl
  rw [lines_of_recounted hwell hlined hrecounted hends, region_renewed_some,
    regionWith_none hregion, if_pos (by simp [Written.framed, hregion]), Option.map_some,
    Option.getD_some,
    Text.lines_behind (fun c hc => not_boundary_of_mem_closerText hmargin hc) hbehind]
  refine reads_reclosed hwell hcount hnewline.isBlank (some _) ?_ (by simp) ws
  rintro r ⟨rfl⟩
  exact wellFormed_newRegion hnewline hblank
    (isEnd_eq_false_of_mem_regionText hnewline hmargin hblank hsentinel)

theorem isOpener_newRegion (hnewline : IsNewline newline) {margin text : List Char}
    (hmargin : ∀ c ∈ margin, isBoundary c = false) (hblank : ∀ c ∈ margin, isBlank c = true)
    (htext : ∀ l ∈ Text.bodies text, isOpener l = false) :
    ∀ l ∈ (newRegion margin newline text).lines, isOpener l = false := by
  intro l hl
  simp only [newRegion, Region.lines, lines_regionText hnewline hmargin, List.cons_append,
    List.mem_cons, List.mem_append, List.not_mem_nil, or_false] at hl
  rcases hl with rfl | hl | rfl
  · rw [isOpener, isMark_between hblank hnewline.isBlank]
    decide +kernel
  · rcases mem_regionLines hl with rfl | ⟨body, hbody, rfl⟩
    · exact isMark_eq_false_of_blank opener_ne_nil hnewline.isBlank
    · rw [isOpener, isMark_between hblank hnewline.isBlank]
      exact htext body hbody
  · rw [isOpener, isMark_between hblank hnewline.isBlank]
    decide +kernel

/-- Sentinels behind an unknown end are plain lines for the next reading, and so is the text between
them if it opens no directive. -/
theorem reads_framed (hupdate : config.updateCounts = true) (hnewline : IsNewline newline)
    (hwell : w.WellFormed) (hlined : Lined w.lines) (hrecounted : w.recounted config = false)
    (hregion : w.region = none) (hends : ¬ EndsPlainly w.closer) {text : List Char}
    (htext : ∀ l ∈ Text.bodies text, isOpener l = false) (after : List Char)
    (ws : List Written) :
    Reads (w :: ws)
        (Text.lines ((w.renewed config newline (some text)).lines.flatten ++ after)) ↔
      Reads ws (Text.lines after) := by
  have hmargin := hwell.not_boundary_of_mem_margin (hlined.isLine _ (by simp [Written.lines]))
  have hblank : ∀ c ∈ Text.margin w.opener, isBlank c = true :=
    fun c hc => Text.isBlank_of_mem_margin hc
  have hframe := (lined_newRegion hnewline hmargin text (lined_lines after)).lines_flatten
  rw [List.flatten_append, Text.flatten_lines] at hframe
  rw [lines_renewed_of_not_endsPlainly hnewline hlined hrecounted hregion hends, hframe,
    reads_of_outline (settled_self hupdate hrecounted)
      (outline_directive hwell fun _ => startsRegion_newline hnewline _),
    reads_plain (isMark_eq_false_of_blank opener_ne_nil hnewline.isBlank),
    reads_plain_append (isOpener_newRegion hnewline hmargin hblank htext)]

theorem head?_lines_region {r : Region} (hlined : Lined r.lines) (after : List Char) :
    (Text.lines (r.lines.flatten ++ after)).head? = some r.first := by
  rw [Region.lines, List.cons_append, lined_cons_iff] at hlined
  obtain ⟨hfirst, hrest, hbreak⟩ := hlined
  have hne : (r.body ++ [r.last]).flatten ≠ [] := by
    have hlast : r.last ≠ [] := (hrest.isLine r.last (by simp)).ne_nil
    simp [hlast]
  have hmeet : Breaks r.first ((r.body ++ [r.last]).flatten ++ after) :=
    hbreak.congr rfl (List.head?_append_of_ne_nil _ hne).symm
  rw [Region.lines, List.cons_append, List.flatten_cons, List.append_assoc,
    Text.lines_append hmeet, hfirst]
  rfl

variable (config) in
theorem strip_behind_renewed (hwell : w.WellFormed) (hnewline : IsNewline newline) {ls : List Line}
    (hlined : Lined (w.lines ++ ls)) (hframed : w.framed artifact = false) {after : List Char}
    (hhead : (Text.lines after).head? = ls.head?) :
    (Text.lines ((((w.renewed config newline artifact).region.map
        Region.lines).getD []).flatten ++ after)).head?.map strip =
      ((w.region.map Region.lines).getD [] ++ ls).head?.map strip := by
  have hmargin := hwell.not_boundary_of_mem_margin (hlined.isLine _ (by simp [Written.lines]))
  cases hregion : w.region with
  | none =>
      obtain rfl : artifact = none := by simpa [Written.framed, hregion] using hframed
      rw [region_renewed_none, hregion]
      simp [hhead]
  | some r =>
      have hr : ∀ r ∈ w.region, Lined r.lines := by
        rintro r hr
        rw [Written.lines_eq, lined_append_iff, lined_append_iff, Option.mem_def.mp hr] at hlined
        exact hlined.1.2.1
      cases artifact with
      | none =>
          rw [region_renewed_none, hregion, Option.map_some, Option.getD_some,
            head?_lines_region (hr r hregion)]
          rfl
      | some text =>
          rw [region_renewed_some, Option.map_some, Option.getD_some,
            head?_lines_region (lined_regionWith hnewline hmargin hr text),
            regionWith_some hregion, Option.map_some, Region.strip_first_renewed]
          rfl

/-- The line that a closer runs on into does not close the directive. -/
theorem not_reads_of_runsOn (hnewline : IsNewline newline) (hwell : w.WellFormed)
    {ls : List Line} (hlined : Lined (w.lines ++ ls)) {after : List Char}
    (hhead : (Text.lines after).head? = ls.head?)
    (hruns : w.RunsOn config artifact ((w.region.map Region.lines).getD [] ++ ls))
    (ws : List Written) :
    ¬ Reads (w :: ws)
      (Text.lines ((w.renewed config newline artifact).lines.flatten ++ after)) := by
  have hmargin := hwell.not_boundary_of_mem_margin (hlined.isLine _ (by simp [Written.lines]))
  obtain ⟨hrecounted, hframed, hends, l, hl, hstrip⟩ := hruns
  have hbehind := strip_behind_renewed config hwell hnewline hlined hframed hhead
  rw [Option.mem_def.mp hl, Option.map_some] at hbehind
  obtain ⟨m, hm, hsame⟩ := Option.map_eq_some_iff.mp hbehind
  obtain ⟨more, hmore⟩ := List.head?_eq_some_iff.mp hm
  rw [← hsame] at hstrip
  have hblank : ∀ c ∈ Text.margin w.opener, isBlank c = true :=
    fun _ hc => Text.isBlank_of_mem_margin hc
  obtain ⟨hopener, hcloser⟩ := no_mark_of_closerText w.lineCount hblank hstrip
  rw [lines_of_recounted hwell (lined_append_iff.mp hlined).1 hrecounted hends, hframed,
    if_neg (by simp), List.nil_append,
    Text.lines_behind (fun c hc => not_boundary_of_mem_closerText hmargin hc) hmore]
  exact not_reads_of_no_closer hwell hopener hcloser (by simp [closerText]) ws more

/-- A closer that is replaced whole takes a blank line behind it for its end. -/
theorem reads_recounted_blank (hwell : w.WellFormed) (hlined : Lined w.lines)
    (hrecounted : w.recounted config = true) (hregion : w.region = none)
    (hends : ¬ EndsPlainly w.closer)
    (hcount : (Nat.toDigits 10 w.lineCount).length ≤ Text.maxIntegerDigits) {after : List Char}
    (hblank : ∀ l ∈ (Text.lines after).head?, strip l = [])
    (hnone : startsRegion (Text.lines after).tail = false) (ws : List Written) :
    Reads (w :: ws) (Text.lines ((w.renewed config newline none).lines.flatten ++ after)) ↔
      Reads ws (Text.lines after) := by
  have hmargin := hwell.not_boundary_of_mem_margin (hlined.isLine _ (by simp [Written.lines]))
  have htext : ∀ c ∈ closerText (Text.margin w.opener) w.lineCount, isBoundary c = false :=
    fun c hc => not_boundary_of_mem_closerText hmargin hc
  rw [lines_of_recounted hwell hlined hrecounted hends, region_renewed_none, hregion,
    if_neg (by simp [Written.framed]), Option.map_none, Option.getD_none, List.flatten_nil,
    List.nil_append, List.nil_append]
  cases hlines : Text.lines after with
  | nil =>
      have hafter := Text.flatten_lines after
      rw [hlines, List.flatten_nil] at hafter
      rw [← hafter, List.append_nil, Text.isLine_of_not_boundary (closerText_ne_nil _ _) htext]
      have htail : ∀ c ∈ ([] : List Char), isBlank c = true := by simp
      have hstarts : startsRegion [] = false := rfl
      simpa using reads_reclosed hwell hcount htail none (by simp) (fun _ => hstarts) ws
  | cons l ls =>
      have hl : strip l = [] := hblank l (by simp [hlines])
      rw [Text.lines_behind htext hlines, reads_plain (isMark_eq_false_of_strip opener_ne_nil hl)]
      rw [hlines] at hnone
      exact reads_reclosed hwell hcount (Text.isBlank_of_strip_eq_nil hl) none (by simp)
        (fun _ => hnone) ws

/-- A directive that neither runs on nor exposes lines is read again. -/
theorem reads_renewed_iff (hupdate : config.updateCounts = true) (hnewline : IsNewline newline)
    (hwell : w.WellFormed) {ls : List Line} (hlined : Lined (w.lines ++ ls))
    (hnone : w.region = none → startsRegion ls = false)
    (hsentinel : ∀ text ∈ artifact, sentinelLine? text = none)
    (hcount : w.recounted config = true →
      (Nat.toDigits 10 w.lineCount).length ≤ Text.maxIntegerDigits)
    (hexposes : ¬ w.Exposes config artifact ((w.region.map Region.lines).getD [] ++ ls))
    (hruns : ¬ w.RunsOn config artifact ((w.region.map Region.lines).getD [] ++ ls))
    {after : List Char} (hhead : (Text.lines after).head? = ls.head?)
    (hsecond : (∀ l ∈ ls.head?, isOpener l = false) →
      (Text.lines after).tail.head? = ls.tail.head?) (ws : List Written) :
    Reads (w :: ws) (Text.lines ((w.renewed config newline artifact).lines.flatten ++ after)) ↔
      Reads ws (Text.lines after) := by
  -- behind a closer that ends plainly, or that is left alone, all is read as it was written
  by_cases hplain : w.recounted config = true ∨ w.framed artifact = true → EndsPlainly w.closer
  · exact reads_of_outline (settled_renewed hupdate newline artifact)
      (outline_renewed hnewline hwell hlined hnone ⟨hplain, hsentinel, hcount⟩ hhead) ws
  obtain ⟨hedited, hends⟩ := Classical.not_imp.mp hplain
  have hdirective := (lined_append_iff.mp hlined).1
  cases hframed : w.framed artifact with
  | true =>
      obtain ⟨⟨text, rfl⟩, hregion⟩ : (∃ text, artifact = some text) ∧ w.region = none := by
        simpa [Written.framed, Option.isSome_iff_exists] using hframed
      cases hrecounted : w.recounted config with
      | true =>
          exact reads_recounted_framed hnewline hwell hdirective hrecounted hregion hends
            (hcount hrecounted) (hsentinel text rfl) after ws
      | false =>
          refine reads_framed hupdate hnewline hwell hdirective hrecounted hregion hends ?_ after ws
          intro l hl
          by_contra hopener
          exact hexposes ⟨hends, Or.inl
            ⟨hrecounted, hframed, text, rfl, l, hl, by simpa using hopener⟩⟩
  | false =>
      have hrecounted : w.recounted config = true := by simpa [hframed] using hedited
      have hblank : ∀ l ∈ ((w.region.map Region.lines).getD [] ++ ls).head?, strip l = [] := by
        intro l hl
        by_contra hstrip
        exact hruns ⟨hrecounted, hframed, hends, l, hl, hstrip⟩
      have hregion : w.region = none := by
        by_contra hregion
        obtain ⟨r, hr⟩ := Option.ne_none_iff_exists'.mp hregion
        have hfirst := beq_iff_eq.mp (hwell.region r hr).first
        rw [hblank r.first (by simp [hr, Region.lines])] at hfirst
        exact absurd hfirst (by decide +kernel)
      obtain rfl : artifact = none := by simpa [Written.framed, hregion] using hframed
      rw [hregion, Option.map_none, Option.getD_none, List.nil_append] at hblank hexposes
      refine reads_recounted_blank hwell hdirective hrecounted hregion hends (hcount hrecounted)
        (hhead ▸ hblank) ?_ ws
      rw [startsRegion_congr
        (hsecond fun l hl => isMark_eq_false_of_strip opener_ne_nil (hblank l hl))]
      by_contra hstarts
      exact hexposes ⟨hends, Or.inr ⟨hrecounted, hframed, hblank, by simpa using hstarts⟩⟩

end

/-! ### All directives -/

/-- The directives of an outline, each with the lines behind its closer. -/
def closings : List Passage → List (Written × List Line)
  | [] => []
  | .plain _ :: ps => closings ps
  | .directive w :: ps =>
      (w, (w.region.map Region.lines).getD [] ++ linesOf ps) :: closings ps

/-- Where the first line of a source opens no directive, the second is kept as well. -/
theorem head?_tail_lines_renew (config : Config) (newline : List Char) {ps : List Passage}
    (houtlined : Outlined ps) (hlined : Lined (linesOf ps)) (artifacts : List (Option (List Char)))
    (hplain : ∀ l ∈ (linesOf ps).head?, isOpener l = false) :
    (Text.lines (linesOf (renew config newline ps artifacts)).flatten).tail.head? =
      (linesOf ps).tail.head? := by
  cases ps with
  | nil => simp [renew]
  | cons p ps =>
      cases p with
      | plain l =>
          rw [linesOf_plain] at hlined
          rw [lines_renew_plain config newline houtlined.2 hlined, linesOf_plain]
          exact head?_lines_renew config newline houtlined.2 (lined_cons_iff.mp hlined).2.1
            artifacts
      | directive w =>
          have hopener := hplain w.opener (by simp [Written.lines])
          rw [houtlined.1.opener] at hopener
          simp at hopener

/-- Where no directive exposes lines, all directives are read again exactly when none runs on: the
first that does is read as another. -/
theorem reads_renew_iff {config : Config} (hupdate : config.updateCounts = true)
    {newline : List Char} (hnewline : IsNewline newline) {ps : List Passage}
    {artifacts : List (Option (List Char))} (houtlined : Outlined ps)
    (hlined : Lined (linesOf ps)) (hlength : artifacts.length = (writtenOf ps).length)
    (hsentinel : ∀ artifact ∈ artifacts, ∀ text ∈ artifact, sentinelLine? text = none)
    (hcount : ∀ w ∈ writtenOf ps, w.recounted config = true →
      (Nat.toDigits 10 w.lineCount).length ≤ Text.maxIntegerDigits)
    (hexposes : List.Forall₂ (fun x artifact => ¬ Written.Exposes config x.1 artifact x.2)
      (closings ps) artifacts) :
    Reads (writtenOf ps) (Text.lines (linesOf (renew config newline ps artifacts)).flatten) ↔
      List.Forall₂ (fun x artifact => ¬ Written.RunsOn config x.1 artifact x.2)
        (closings ps) artifacts := by
  induction ps generalizing artifacts with
  | nil =>
      obtain rfl := List.eq_nil_of_length_eq_zero hlength
      simp [Reads, renew, closings, writtenOf, outline]
  | cons p ps ih =>
      cases p with
      | plain l =>
          rw [linesOf_plain] at hlined
          rw [lines_renew_plain config newline houtlined.2 hlined, writtenOf,
            reads_plain houtlined.1]
          exact ih houtlined.2 (lined_cons_iff.mp hlined).2.1 hlength hsentinel hcount hexposes
      | directive w =>
          rcases artifacts with _ | ⟨artifact, artifacts⟩
          · simp [writtenOf] at hlength
          obtain ⟨hwell, hnone, houtlined⟩ := houtlined
          rw [linesOf_directive] at hlined
          have hrest := (lined_append_iff.mp hlined).2.1
          rw [List.forall_mem_cons] at hsentinel
          rw [writtenOf, List.forall_mem_cons] at hcount
          obtain ⟨hexposed, hexposes⟩ := List.forall₂_cons.mp hexposes
          have hhead := head?_lines_renew config newline houtlined hrest artifacts
          rw [renew, linesOf_directive, List.flatten_append, List.headD_cons, List.tail_cons,
            writtenOf, closings, List.forall₂_cons]
          -- a directive that runs on is read as another, whatever becomes of those behind it
          by_cases hruns : Written.RunsOn config w artifact
              ((w.region.map Region.lines).getD [] ++ linesOf ps)
          · have hnot := not_reads_of_runsOn hnewline hwell hlined hhead hruns (writtenOf ps)
            exact iff_of_false hnot fun h => h.1 hruns
          · rw [reads_renewed_iff hupdate hnewline hwell hlined hnone hsentinel.1 hcount.1 hexposed
              hruns hhead (head?_tail_lines_renew config newline houtlined hrest artifacts),
              ih houtlined hrest (by simpa [writtenOf] using hlength) hsentinel.2 hcount.2 hexposes]
            exact ⟨fun h => ⟨hruns, h⟩, fun h => h.2⟩

/-! ### Reports -/

/-- The block is that of the result, and its closer has the right number. -/
structure SettledAs (r : Block × Outcome) (b : Block) : Prop where
  script : b.script = r.1.script
  count : b.declared = some (b.lineCount : Int)

/-- The text of a report is scanned to its blocks, each with the right number on its closer. -/
def Settles (report : Report) : Prop :=
  ∃ blocks, scan report.text = .ok blocks ∧ List.Forall₂ SettledAs report.results blocks

def Framed (r : Block × Outcome) : Prop :=
  r.2.artifact?.isSome ∧ r.1.generated = none

/-- The closer gets a number, loses what ended its line, and the line behind it is not blank. -/
def RunsOn (config : Config) (source : List Char) (r : Block × Outcome) : Prop :=
  (countEdit? config r.1).isSome ∧ ¬ Framed r ∧ ¬ EndsPlainly (source.take r.1.insertAt) ∧
    ∃ l ∈ (Text.lines (source.drop r.1.insertAt)).head?, strip l ≠ []

/-- Behind a closer that does not end plainly, lines come to be read that no directive was read
from: an opener in a generated text whose new sentinels are not found, or a region behind a blank
line that becomes the end of the closer. -/
def Exposes (config : Config) (source : List Char) (r : Block × Outcome) : Prop :=
  ¬ EndsPlainly (source.take r.1.insertAt) ∧
    (¬ (countEdit? config r.1).isSome ∧ Framed r ∧
        (∃ text ∈ r.2.artifact?, ∃ l ∈ Text.bodies text, isOpener l) ∨
      (countEdit? config r.1).isSome ∧ ¬ Framed r ∧
        (∀ l ∈ (Text.lines (source.drop r.1.insertAt)).head?, strip l = []) ∧
        startsRegion (Text.lines (source.drop r.1.insertAt)).tail)

/-- The result is that of the directive, which has the lines behind its closer. -/
structure ResultBefore (config : Config) (path : String) (source : List Char)
    (r : Block × Outcome) (x : Written × List Line) : Prop where
  result : ResultOf config path source r x.1
  behind : Text.lines (source.drop r.1.insertAt) = x.2

theorem map_fst_closings (ps : List Passage) : (closings ps).map Prod.fst = writtenOf ps := by
  induction ps with
  | nil => rfl
  | cons p ps ih =>
      cases p with
      | plain l => exact ih
      | directive w => rw [closings, List.map_cons, ih, writtenOf]

theorem drop_insertAt {before : List Char} {w : Written} {p : Place}
    (hbefore : before.length = p.offset) (after : List Char) :
    (before ++ w.lines.flatten ++ after).drop (w.blockAt p).insertAt =
      ((w.region.map Region.lines).getD []).flatten ++ after := by
  have htake := take_insertAt (w := w) hbefore after
  have hsplit := List.take_append_drop (w.blockAt p).insertAt (before ++ w.lines.flatten ++ after)
  rw [htake] at hsplit
  simp only [w.lines_eq, List.flatten_append, List.flatten_singleton, List.append_assoc] at hsplit ⊢
  simpa using hsplit

/-- Behind the closer of a block stand the lines that stand there in the outline. -/
theorem behind_blocksFrom {ps : List Passage} {before : List Char} {p : Place}
    (hlined : Lined (linesOf ps)) (hbefore : before.length = p.offset) :
    List.Forall₂ (fun b x => Text.lines ((before ++ (linesOf ps).flatten).drop (Block.insertAt b)) =
      Prod.snd x) (blocksFrom p ps) (closings ps) := by
  induction ps generalizing before p with
  | nil => exact List.Forall₂.nil
  | cons passage ps ih =>
      cases passage with
      | plain l =>
          rw [linesOf_plain, lined_cons_iff] at hlined
          have hplace : (before ++ l).length = (p.after [l]).offset := by
            simp [Place.after, hbefore]
          have := ih hlined.2.1 hplace
          simpa [blocksFrom, closings] using this
      | directive w =>
          rw [linesOf_directive, lined_append_iff] at hlined
          have hplace : (before ++ w.lines.flatten).length = (p.after w.lines).offset := by
            rw [List.length_append, hbefore]
            rfl
          have htail := ih hlined.2.1 hplace
          have hbehind : Lined ((w.region.map Region.lines).getD [] ++ linesOf ps) := by
            have hall := lined_append_iff.mpr hlined
            rw [Written.lines_eq, List.append_assoc, lined_append_iff] at hall
            exact hall.2.1
          rw [linesOf_directive, List.flatten_append, ← List.append_assoc, blocksFrom, closings]
          refine List.Forall₂.cons ?_ htail
          rw [drop_insertAt hbefore, ← List.flatten_append, hbehind.lines_flatten]

section

variable {config : Config} {path : String} {source : List Char} {r : Block × Outcome}
  {x : Written × List Line}

theorem ResultOf.framed_iff {w : Written} (h : ResultOf config path source r w) :
    Framed r ↔ w.framed r.2.artifact? = true := by
  rw [Framed, h.shows.generated_eq_none_iff, Written.framed, Bool.and_eq_true,
    Option.isNone_iff_eq_none]

theorem ResultBefore.runsOn_iff (h : ResultBefore config path source r x) :
    RunsOn config source r ↔ x.1.RunsOn config r.2.artifact? x.2 := by
  rw [RunsOn, Written.RunsOn, h.result.shows.recounted, h.result.framed_iff,
    h.result.shows.endsPlainly_iff, h.behind, Bool.not_eq_true]

theorem ResultBefore.exposes_iff (h : ResultBefore config path source r x) :
    Exposes config source r ↔ x.1.Exposes config r.2.artifact? x.2 := by
  rw [Exposes, Written.Exposes, h.result.shows.recounted, h.result.framed_iff,
    h.result.shows.endsPlainly_iff, h.behind, Bool.not_eq_true, Bool.not_eq_true]

theorem settledAs_iff {text : List Char} {b : Block} {w v : Written}
    (hr : ResultOf config path source r w) (hb : Shows text b v) :
    SettledAs r b ↔ w.Settled v := by
  constructor
  · rintro ⟨hscript, hcount⟩
    exact ⟨by rw [← hb.script, hscript, hr.shows.script], hb.count_eq_iff.mpr hcount⟩
  · rintro ⟨hscript, hcount⟩
    exact ⟨by rw [hb.script, hscript, hr.shows.script], hb.count_eq_iff.mp hcount⟩

end

theorem resultBefore_of_yields {config : Config} {path : String} {source : List Char}
    {ps : List Passage} {results : List (Block × Outcome)} (hparted : Parted source ps)
    (hyields : List.Forall₂ (Yields config path) (blocksFrom {} ps) results) :
    List.Forall₂ (ResultBefore config path source) results (closings ps) := by
  have hresults := resultOf_of_yields hparted.shows hyields
  rw [← map_fst_closings, List.forall₂_map_right_iff] at hresults
  have hplace : ([] : List Char).length = ({} : Place).offset := rfl
  have hbehind := behind_blocksFrom hparted.lined hplace
  rw [List.nil_append, hparted.flatten_eq, ← map_fst_of_yields hyields,
    List.forall₂_map_left_iff] at hbehind
  exact List.Forall₂.mp (fun _ _ hr hb => ⟨hr, hb⟩) hresults hbehind

theorem forall_right {α β : Type} {R : α → β → Prop} {Q : β → Prop} {xs : List α} {ys : List β}
    (h : List.Forall₂ R xs ys) (hright : ∀ x y, R x y → Q y) : ∀ y ∈ ys, Q y := by
  induction h with
  | nil => simp
  | cons hxy _ ih => exact List.forall_mem_cons.mpr ⟨hright _ _ hxy, ih⟩

theorem Tells.lineCount_written {config : Config} {path : String} {source : List Char}
    {report : Report} {ps : List Passage} (h : Tells config path source report ps) :
    ∀ w ∈ writtenOf ps, w.recounted config = true →
      (Nat.toDigits 10 w.lineCount).length ≤ Text.maxIntegerDigits := by
  have hall := (List.forall₂_and_left _ _).mpr ⟨h.counts, h.results⟩
  exact forall_right hall fun r w hr => length_toDigits_of_countTooLong hr.2.shows hr.1

theorem forall_results_iff {config : Config} {path : String} {source : List Char}
    {results : List (Block × Outcome)} {xs : List (Written × List Line)}
    {P : Block × Outcome → Prop} {Q : Written × List Line → Option (List Char) → Prop}
    (h : List.Forall₂ (ResultBefore config path source) results xs)
    (hiff : ∀ r x, ResultBefore config path source r x → (P r ↔ Q x r.2.artifact?)) :
    (∀ r ∈ results, P r) ↔ List.Forall₂ Q xs (artifactsOf results) := by
  induction h with
  | nil => simp [artifactsOf]
  | cons hr _ ih =>
      rw [artifactsOf, List.map_cons, List.forall₂_cons, List.forall_mem_cons, hiff _ _ hr]
      exact and_congr_right fun _ => ih

theorem settledAs_results_iff {config : Config} {path : String} {source text : List Char}
    {results : List (Block × Outcome)} {ws vs : List Written} {blocks : List Block}
    (hresults : List.Forall₂ (ResultOf config path source) results ws)
    (hshows : List.Forall₂ (Shows text) blocks vs) :
    List.Forall₂ SettledAs results blocks ↔ List.Forall₂ Written.Settled ws vs := by
  induction hresults generalizing blocks vs with
  | nil => cases hshows <;> simp
  | cons hr _ ih =>
      cases hshows with
      | nil => simp
      | cons hb hrest =>
          rw [List.forall₂_cons, List.forall₂_cons, settledAs_iff hr hb]
          exact and_congr_right fun _ => ih hrest

theorem settles_iff_reads {config : Config} {path : String} {source : List Char} {report : Report}
    {ps : List Passage} (h : Tells config path source report ps) :
    Settles report ↔ Reads (writtenOf ps) (Text.lines report.text) := by
  constructor
  · rintro ⟨blocks, hscan, hsettled⟩
    obtain ⟨qs, hparted, rfl⟩ := scan_eq_ok_iff.mp hscan
    exact ⟨qs, outline_eq_ok_iff.mpr ⟨hparted.outlined, hparted.lines_eq⟩,
      (settledAs_results_iff h.results hparted.shows).mp hsettled⟩
  · rintro ⟨qs, hread, hsettled⟩
    obtain ⟨houtlined, hlines⟩ := outline_eq_ok_iff.mp hread
    have hparted : Parted report.text qs := ⟨houtlined, hlines⟩
    exact ⟨_, scan_eq_ok_iff.mpr ⟨qs, hparted, rfl⟩,
      (settledAs_results_iff h.results hparted.shows).mpr hsettled⟩

theorem drift?_eq_none (config : Config) {d : Directive}
    (h : d.declared = some (d.lineCount : Int)) : drift? config d = none := by
  simp [drift?, h]

/-- When numbers are set right, and no closer with an unknown end brings other lines to light, the
text is scanned to the same scripts with right numbers exactly when no closer runs on into the next
line; and a later run finds no wrong number then. -/
theorem settles_iff_not_runsOn {config : Config} (path : String)
    (hupdate : config.updateCounts = true) {source : List Char} {report : Report}
    (hrun : (regenerateSource config path source).1 = .ok report)
    (hexposes : ∀ r ∈ report.results, ¬ Exposes config source r) :
    (Settles report ↔ ∀ r ∈ report.results, ¬ RunsOn config source r) ∧
      (Settles report → ∀ config' path' again,
        (regenerateSource config' path' report.text).1 = .ok again →
          ∀ r ∈ again.results, drift? config' r.1.toDirective = none) := by
  constructor
  · obtain ⟨ps, htells⟩ := exists_tells hrun
    obtain ⟨blocks, results, hscan, hyields, -, rfl⟩ := regenerateSource_eq_ok_iff.mp hrun
    obtain ⟨qs, hparted, rfl⟩ := scan_eq_ok_iff.mp hscan
    obtain rfl := hparted.unique htells.parted
    have hbefore := resultBefore_of_yields hparted hyields
    have hruns : (∀ r ∈ results, ¬ RunsOn config source r) ↔
        List.Forall₂ (fun x artifact => ¬ Written.RunsOn config x.1 artifact x.2) (closings qs)
          (artifactsOf results) :=
      forall_results_iff hbefore fun r x h => not_congr h.runsOn_iff
    rw [settles_iff_reads htells, htells.text_eq, hruns]
    exact reads_renew_iff hupdate (isNewline_newlineOf source) hparted.outlined hparted.lined
      htells.length_artifactsOf htells.sentinelLine? htells.lineCount_written
      ((forall_results_iff hbefore fun r x h => not_congr h.exposes_iff).mp hexposes)
  · rintro ⟨blocks, hscan, hsettled⟩ config' path' again hagain r hr
    obtain ⟨blocks', results, hscan', hyields, -, rfl⟩ := regenerateSource_eq_ok_iff.mp hagain
    obtain rfl : blocks = blocks' := by simpa [hscan] using hscan'
    have hblock : r.1 ∈ blocks := map_fst_of_yields hyields ▸ List.mem_map_of_mem hr
    exact drift?_eq_none config' (forall_right hsettled (fun _ _ h => h.count) r.1 hblock)

/-- A wrong number behind which a vertical tab ends the line is settled with new sentinels, and not
in front of a region that is there already. -/
theorem settles_iff_not_runsOn_samples :
    (∃ report, (regenerateSource { updateCounts := true } "" twoDirectives).1 = .ok report ∧
      Settles report) ∧
    (∃ report, (regenerateSource { updateCounts := true } "" "/*!!\n!! 7 */\x0b".toList).1 =
      .ok report ∧ Settles report) ∧
    ∃ report, (regenerateSource { updateCounts := true } "" ("/*!!\n!! 7 */\x0b".toList ++
      beginSentinel ++ "\n".toList ++ endSentinel)).1 = .ok report ∧ ¬ Settles report := by
  have hpath : '\x00' ∉ "".toList := by decide
  refine ⟨?_, ?_, ?_⟩
  · obtain ⟨report, hrun, hblocks, -⟩ :=
      exists_report_nil { updateCounts := true } hpath rfl scan_twoDirectives (by decide)
    have hplain : ∀ b ∈ twoBlocks, EndsPlainly (twoDirectives.take b.insertAt) := by
      decide +kernel
    have hresults := fun r hr => hplain (Prod.fst r) ((hblocks r.1).mpr ⟨r, hr, rfl⟩)
    refine ⟨report, hrun, (settles_iff_not_runsOn "" rfl hrun ?_).1.mpr ?_⟩
    · exact fun r hr h => h.1 (hresults r hr)
    · exact fun r hr h => h.2.2.1 (hresults r hr)
  · have hscan : scan "/*!!\n!! 7 */\x0b".toList =
        .ok [⟨⟨[], some 7, [], 1, 2⟩, ⟨0, 13⟩, none, ⟨5, 13⟩, 13⟩] := by
      decide +kernel
    obtain ⟨report, hrun, hblocks, hempty⟩ :=
      exists_report_nil { updateCounts := true } hpath rfl hscan (by decide)
    have hframed : ∀ r ∈ report.results, Framed r ∧ r.2.artifact? = some [] ∧
        (countEdit? { updateCounts := true } r.1).isSome := by
      intro r hr
      have hblock := List.mem_singleton.mp ((hblocks r.1).mpr ⟨r, hr, rfl⟩)
      rw [Framed, hempty r hr, hblock]
      exact ⟨⟨rfl, rfl⟩, rfl, by decide +kernel⟩
    refine ⟨report, hrun, (settles_iff_not_runsOn "" rfl hrun ?_).1.mpr ?_⟩
    · rintro r hr ⟨-, ⟨hcount, -⟩ | ⟨-, hnot, -⟩⟩
      · exact hcount (hframed r hr).2.2
      · exact hnot (hframed r hr).1
    · rintro r hr ⟨-, hnot, -⟩
      exact hnot (hframed r hr).1
  · have hscan : scan ("/*!!\n!! 7 */\x0b".toList ++ beginSentinel ++ "\n".toList ++ endSentinel) =
        .ok [⟨⟨[], some 7, [], 1, 2⟩, ⟨0, 172⟩, some ⟨93, 93⟩, ⟨5, 13⟩, 13⟩] := by
      decide +kernel
    obtain ⟨report, hrun, hblocks, hempty⟩ :=
      exists_report_nil { updateCounts := true } hpath rfl hscan (by decide)
    have hblock (r : Block × Outcome) (hr : r ∈ report.results) :=
      List.mem_singleton.mp ((hblocks r.1).mpr ⟨r, hr, rfl⟩)
    refine ⟨report, hrun, fun hsettles => ?_⟩
    have hexposes : ∀ r ∈ report.results, ¬ Exposes { updateCounts := true }
        ("/*!!\n!! 7 */\x0b".toList ++ beginSentinel ++ "\n".toList ++ endSentinel) r := by
      rintro r hr ⟨-, ⟨-, ⟨-, hnone⟩, -⟩ | ⟨-, -, hblank, -⟩⟩
      · rw [hblock r hr] at hnone
        simp at hnone
      · rw [hblock r hr] at hblank
        exact absurd hblank (by decide +kernel)
    obtain ⟨r, hr, hfirst⟩ := (hblocks _).mp (List.mem_singleton_self _)
    refine (settles_iff_not_runsOn "" rfl hrun hexposes).1.mp hsettles r hr ?_
    rw [RunsOn, Framed, hfirst]
    exact ⟨by decide +kernel, by simp, by decide +kernel, by decide +kernel⟩

end Codeweave.Directive
