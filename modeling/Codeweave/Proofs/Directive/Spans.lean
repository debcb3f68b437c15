import Codeweave.Proofs.Directive.Blocks
import Codeweave.Proofs.Directive.Mark

/-!
The places that a scan tells. The spans of a block lie in the source in the order of its parts and
cut out of it what the block says they do, its lines are the lines of the source, and no block
reaches into the next one.
-/

namespace Codeweave.Directive

open Text (isBlank isBoundary IsLine Lined)

def StartsLine (source : List Char) (offset : Nat) : Prop :=
  Text.lines source = Text.lines (source.take offset) ++ Text.lines (source.drop offset)

/-- The number of the line that starts at the offset. -/
def lineAt (source : List Char) (offset : Nat) : Nat :=
  (Text.lines (source.take offset)).length + 1

/-- The places of the block fit one another and the source. -/
structure Coherent (source : List Char) (b : Block) : Prop where
  start_lt : b.source.start < b.closer.start
  closer_lt : b.closer.start < b.closer.stop
  closer_le : b.closer.stop ≤ b.insertAt
  insertAt_le : b.insertAt ≤ b.source.stop
  stop_le : b.source.stop ≤ source.length
  generated : ∀ span ∈ b.generated,
    b.insertAt ≤ span.start ∧ span.start ≤ span.stop ∧ span.stop < b.source.stop
  margin : ∀ c ∈ b.margin, isBlank c = true ∧ isBoundary c = false
  opening : b.margin ++ opener <+: source.drop b.source.start
  /-- the script stands between the line of the opener and the closer -/
  script : ∃ l ∈ (Text.lines (source.drop b.source.start)).head?,
    b.script = Span.cut ⟨b.source.start + l.length, b.closer.start⟩ source
  closing : isCloser (b.closer.cut source) = true
  begins : ∀ span ∈ b.generated, isBegin (Span.cut ⟨b.insertAt, span.start⟩ source) = true
  ends : ∀ span ∈ b.generated, isEnd (Span.cut ⟨span.stop, b.source.stop⟩ source) = true
  line : StartsLine source b.source.start ∧ b.line = lineAt source b.source.start
  closerLine : StartsLine source b.closer.start ∧
    b.scriptLine + b.lineCount = lineAt source b.closer.start

/-! ### Lines of a source -/

theorem startsLine_of_lined {ls ms : List Line} (h : Lined (ls ++ ms)) :
    StartsLine (ls.flatten ++ ms.flatten) ls.flatten.length := by
  obtain ⟨hls, hms, -⟩ := Text.lined_append_iff.mp h
  rw [StartsLine, List.take_left, List.drop_left, hls.lines_flatten, hms.lines_flatten,
    ← List.flatten_append, h.lines_flatten]

theorem lineAt_of_lined {ls ms : List Line} (h : Lined (ls ++ ms)) :
    lineAt (ls.flatten ++ ms.flatten) ls.flatten.length = ls.length + 1 := by
  rw [lineAt, List.take_left, (Text.lined_append_iff.mp h).1.lines_flatten]

/-! ### Marks -/

theorem prefix_of_opener {l : Line} (h : isOpener l = true) :
    Text.margin l ++ opener <+: l := by
  have hopener : Text.trimRight isBlank (l.dropWhile isBlank) = opener := beq_iff_eq.mp h
  have hstarts : opener <+: l.dropWhile isBlank := by
    rw [← hopener]
    exact List.rdropWhile_prefix isBlank _
  have hself : Text.margin l ++ l.dropWhile isBlank = l := List.takeWhile_append_dropWhile
  have hline := (List.prefix_append_right_inj (Text.margin l)).mpr hstarts
  rwa [hself] at hline

theorem isCloser_trimRight {l : Line} (h : isCloser l = true) :
    isCloser (Text.trimRight isReturn l) = true := by
  have hself : Text.trimRight isReturn l ++ l.rtakeWhile isReturn = l :=
    List.rdropWhile_append_rtakeWhile
  have hblank : ∀ c ∈ l.rtakeWhile isReturn, isBlank c = true := by
    intro c hc
    have hreturn := List.mem_rtakeWhile_imp hc
    simp only [isReturn, Bool.or_eq_true, beq_iff_eq] at hreturn
    rcases hreturn with rfl | rfl <;> decide
  rw [isCloser, closerDigits?, ← Text.strip_append_right hblank, hself]
  exact h

theorem ne_nil_of_closer {l : Line} (h : isCloser l = true) : l ≠ [] := by
  rintro rfl
  exact absurd h (by decide)

/-! ### What the spans of a block cut out -/

theorem cut_of_eq (before after : List Char) {source middle : List Char} {start stop : Nat}
    (hsource : source = before ++ middle ++ after) (hstart : start = before.length)
    (hstop : stop = before.length + middle.length) : Span.cut ⟨start, stop⟩ source = middle := by
  rw [hsource, hstart, hstop, cut_append]

section

variable {before : List Char} {w : Written} {p : Place} (hbefore : before.length = p.offset)
  (after : List Char)

include hbefore

theorem cut_script :
    Span.cut ⟨(w.blockAt p).source.start + w.opener.length, (w.blockAt p).closer.start⟩
      (before ++ w.lines.flatten ++ after) = w.script.flatten := by
  apply cut_of_eq (before ++ w.opener)
    (w.closer ++ ((w.region.map Region.lines).getD []).flatten ++ after)
  · simp [Written.lines]
  · simp [Written.blockAt, hbefore]
  · simp [Written.blockAt, hbefore, Nat.add_assoc]

theorem cut_closer :
    (w.blockAt p).closer.cut (before ++ w.lines.flatten ++ after) =
      Text.trimRight isReturn w.closer := by
  have hself : Text.trimRight isReturn w.closer ++ w.closer.rtakeWhile isReturn = w.closer :=
    List.rdropWhile_append_rtakeWhile
  apply cut_of_eq (before ++ (w.opener :: w.script).flatten)
    (w.closer.rtakeWhile isReturn ++ ((w.region.map Region.lines).getD []).flatten ++ after)
  · simp only [w.lines_eq, List.flatten_append, List.flatten_singleton, List.append_assoc]
    rw [← List.append_assoc (Text.trimRight isReturn w.closer), hself]
  · simp [hbefore]
  · simp [hbefore, Nat.add_assoc]

variable {r : Region} (hregion : w.region = some r)

include hregion

theorem cut_first {span : Span} (hspan : (w.blockAt p).generated = some span) :
    Span.cut ⟨(w.blockAt p).insertAt, span.start⟩ (before ++ w.lines.flatten ++ after) =
      r.first := by
  rw [Written.blockAt, hregion, Option.map_some, Option.some.injEq] at hspan
  subst hspan
  apply cut_of_eq (before ++ (w.opener :: w.script).flatten ++ w.closer)
    (r.body.flatten ++ r.last ++ after)
  · simp [w.lines_eq, hregion, Region.lines]
  · simp [Written.blockAt, hbefore, Nat.add_assoc]
  · simp [hbefore, Nat.add_assoc]

theorem cut_last {span : Span} (hspan : (w.blockAt p).generated = some span) :
    Span.cut ⟨span.stop, (w.blockAt p).source.stop⟩ (before ++ w.lines.flatten ++ after) =
      r.last := by
  rw [Written.blockAt, hregion, Option.map_some, Option.some.injEq] at hspan
  subst hspan
  apply cut_of_eq
    (before ++ (w.opener :: w.script).flatten ++ w.closer ++ r.first ++ r.body.flatten) after
  · simp [w.lines_eq, hregion, Region.lines]
  · simp [hbefore, Nat.add_assoc]
  · simp [Written.blockAt, w.lines_eq, hregion, Region.lines, hbefore, Nat.add_assoc]

end

/-! ### Blocks -/

theorem blockAt_start_lt {w : Written} (hopener : w.opener ≠ []) (p : Place) :
    (w.blockAt p).source.start < (w.blockAt p).closer.start := by
  have := List.length_pos_iff.mpr hopener
  simp only [Written.blockAt, List.flatten_cons, List.length_append]
  omega

theorem blockAt_closer_lt {w : Written} (hcloser : isCloser w.closer = true) (p : Place) :
    (w.blockAt p).closer.start < (w.blockAt p).closer.stop := by
  have := List.length_pos_iff.mpr (ne_nil_of_closer (isCloser_trimRight hcloser))
  simp only [Written.blockAt]
  omega

theorem blockAt_generated_lt {w : Written} {r : Region} (hregion : w.region = some r)
    (hlast : r.last ≠ []) {p : Place} {span : Span} (h : (w.blockAt p).generated = some span) :
    span.stop < (w.blockAt p).source.stop := by
  have := List.length_pos_iff.mpr hlast
  rw [blockAt_source_stop]
  rw [Written.blockAt, hregion, Option.map_some, Option.some.injEq] at h
  subst h
  simp only [Written.blockAt, hregion, Region.lines, Option.map_some, Option.getD_some,
    List.flatten_append, List.flatten_cons, List.length_append, List.cons_append,
    List.flatten_nil, List.length_nil]
  omega

theorem lines_blockAt {ls ms : List Line} {w : Written} (h : Lined (ls ++ (w.lines ++ ms))) :
    let source := ls.flatten ++ w.lines.flatten ++ ms.flatten
    let b := w.blockAt (Place.after {} ls)
    (StartsLine source b.source.start ∧ b.line = lineAt source b.source.start) ∧
      (StartsLine source b.closer.start ∧
        b.scriptLine + b.lineCount = lineAt source b.closer.start) := by
  intro source b
  constructor
  · have hsource : source = ls.flatten ++ (w.lines ++ ms).flatten := by
      simp [source]
    have hstart : b.source.start = ls.flatten.length := by
      simp [b, Written.blockAt, Place.after]
    rw [hsource, hstart]
    refine ⟨startsLine_of_lined h, ?_⟩
    rw [lineAt_of_lined h]
    simp [b, Written.blockAt, Place.after]
  -- the closer is the line behind the opener and the script
  · let later := w.closer :: (w.region.map Region.lines).getD [] ++ ms
    have hparts : Lined (ls ++ (w.opener :: w.script) ++ later) := by
      simpa [later, Written.lines] using h
    have hsource : source = (ls ++ (w.opener :: w.script)).flatten ++ later.flatten := by
      simp [source, later, Written.lines]
    have hstart : b.closer.start = (ls ++ (w.opener :: w.script)).flatten.length := by
      simp [b, Written.blockAt, Place.after]
    have hscript : Lined w.script := by
      obtain ⟨hbefore, -, -⟩ := Text.lined_append_iff.mp hparts
      exact (Text.lined_cons_iff.mp (Text.lined_append_iff.mp hbefore).2.1).2.1
    have hcount : b.lineCount = w.script.length := by
      rw [Directive.lineCount, show b.script = w.script.flatten from rfl, hscript.lines_flatten]
    rw [hsource, hstart]
    refine ⟨startsLine_of_lined hparts, ?_⟩
    rw [lineAt_of_lined hparts, hcount]
    simp only [b, Written.blockAt, Place.after, List.length_append, List.length_cons]
    omega

/-- The block of a directive that stands behind some lines is coherent. -/
theorem coherent_blockAt {ls ms : List Line} {w : Written} (hwell : w.WellFormed)
    (h : Lined (ls ++ (w.lines ++ ms))) :
    Coherent (ls.flatten ++ w.lines.flatten ++ ms.flatten) (w.blockAt (Place.after {} ls)) := by
  have hline : ∀ l ∈ w.lines, IsLine l := fun l hl => h.isLine l (by simp [hl])
  have hopener : IsLine w.opener := hline _ (by simp [Written.lines])
  have hcloser : isCloser w.closer = true := by
    obtain ⟨digits, hdigits, -⟩ := hwell.closer
    rw [isCloser, hdigits]
    rfl
  have hbefore : ls.flatten.length = (Place.after {} ls).offset := by simp [Place.after]
  have hdrop : (ls.flatten ++ w.lines.flatten ++ ms.flatten).drop
      (w.blockAt (Place.after {} ls)).source.start = (w.lines ++ ms).flatten := by
    rw [List.append_assoc, ← List.flatten_append]
    exact List.drop_left' hbefore
  have hregion : ∀ span ∈ (w.blockAt (Place.after {} ls)).generated,
      ∃ r, w.region = some r ∧ r.WellFormed ∧ r.last ≠ [] := by
    intro span hspan
    obtain ⟨r, hr, -⟩ := Option.map_eq_some_iff.mp hspan
    refine ⟨r, hr, hwell.region r hr, ?_⟩
    exact (hline r.last (by simp [Written.lines, hr, Region.lines])).ne_nil
  obtain ⟨hfirstLine, hcloserLine⟩ := lines_blockAt h
  constructor
  case start_lt => exact blockAt_start_lt hopener.ne_nil _
  case closer_lt => exact blockAt_closer_lt hcloser _
  case closer_le => exact (blockAt_closer_le w _).2
  case insertAt_le =>
    rw [blockAt_source_stop]
    exact Nat.le_add_right _ _
  case stop_le =>
    simp only [Written.blockAt, List.length_append, hbefore]
    omega
  case generated =>
    intro span hspan
    obtain ⟨r, hr, -, hlast⟩ := hregion span hspan
    obtain ⟨hstart, hstop, -⟩ := blockAt_generated_le hspan
    exact ⟨hstart, hstop, blockAt_generated_lt hr hlast hspan⟩
  case margin =>
    intro c hc
    exact ⟨Text.isBlank_of_mem_margin hc,
      hopener.not_boundary_of_mem_margin (strip_ne_nil_of_opener hwell.opener) c hc⟩
  case opening =>
    rw [hdrop, Written.lines, List.cons_append, List.cons_append, List.flatten_cons]
    exact (prefix_of_opener hwell.opener).trans (List.prefix_append _ _)
  case script =>
    refine ⟨w.opener, ?_, (cut_script hbefore _).symm⟩
    rw [hdrop, (Text.lined_append_iff.mp h).2.1.lines_flatten]
    rfl
  case closing =>
    rw [cut_closer hbefore]
    exact isCloser_trimRight hcloser
  case begins =>
    intro span hspan
    obtain ⟨r, hr, hwellFormed, -⟩ := hregion span hspan
    rw [cut_first hbefore _ hr hspan]
    exact hwellFormed.first
  case ends =>
    intro span hspan
    obtain ⟨r, hr, hwellFormed, -⟩ := hregion span hspan
    rw [cut_last hbefore _ hr hspan]
    exact hwellFormed.last
  case line => exact hfirstLine
  case closerLine => exact hcloserLine

theorem pairwise_blocksFrom (p : Place) (ps : List Passage) :
    (blocksFrom p ps).Pairwise fun b b' => b.source.stop ≤ b'.source.start := by
  induction ps generalizing p with
  | nil => exact List.Pairwise.nil
  | cons passage ps ih =>
      cases passage with
      | plain l => exact ih _
      | directive w =>
          refine List.pairwise_cons.mpr ⟨fun b hb => ?_, ih _⟩
          obtain ⟨qs, v, rs, -, rfl⟩ := exists_directive_of_mem hb
          exact Nat.le_add_right _ _

/-- The blocks of a source are coherent, and each ends before the next one starts. -/
theorem scan_coherent {source : List Char} {blocks : List Block} (h : scan source = .ok blocks) :
    (∀ b ∈ blocks, Coherent source b) ∧
      blocks.Pairwise fun b b' => b.source.stop ≤ b'.source.start := by
  obtain ⟨ps, hparted, rfl⟩ := scan_eq_ok_iff.mp h
  refine ⟨fun b hb => ?_, pairwise_blocksFrom _ ps⟩
  obtain ⟨qs, w, rs, rfl, rfl⟩ := exists_directive_of_mem hb
  have hlines : linesOf (qs ++ .directive w :: rs) = linesOf qs ++ (w.lines ++ linesOf rs) := by
    simp [linesOf, Passage.lines]
  have hlined := hparted.lined
  rw [hlines] at hlined
  have hwell := hparted.outlined.wellFormed w (mem_writtenOf qs w rs)
  rw [← hparted.flatten_eq, hlines, List.flatten_append, List.flatten_append, ← List.append_assoc]
  exact coherent_blockAt hwell hlined

theorem scan_coherent_twoDirectives :
    (∀ b ∈ twoBlocks, Coherent twoDirectives b) ∧
      twoBlocks.Pairwise fun b b' => b.source.stop ≤ b'.source.start :=
  scan_coherent scan_twoDirectives

end Codeweave.Directive
