import Codeweave.Proofs.Directive.EmptyScript
import Codeweave.Proofs.Directive.Newline
import Codeweave.Proofs.Directive.Regeneration

/-!
Carriage returns in regenerated sources. A source without carriage returns gets none, and one in
which they only stand before newlines, and newlines only behind them, stays so: no text that a
directive generates brings in a return of its own, and no edit parts a return from its newline. What
is generated for a source without newlines ends in newlines alone.
-/

namespace Codeweave.Directive

open Text (isBoundary IsLine Lined Breaks)

/-- Each newline has a carriage return before it, and each carriage return a newline behind it. -/
def ReturnsPaired (text : List Char) : Prop :=
  ∀ before c after, text = before ++ c :: after →
    (c = '\n' → before.getLast? = some '\r') ∧ (c = '\r' → after.head? = some '\n')

/-- The text ends its lines as the source does that it is made from. A source without a newline says
nothing of how to end the lines that are generated for it. -/
structure KeepsEndings (source text : List Char) (generates : Bool) : Prop where
  noReturn : '\r' ∉ source → '\r' ∉ text
  paired : ReturnsPaired source → (ReturnsPaired text ↔ '\n' ∈ source ∨ generates = false)

/-- A way to end lines: texts that have it have it together, and it is not touched by characters
other than carriage returns and newlines. -/
structure LineStyle (K : List Char → Prop) : Prop where
  append : ∀ {a b : List Char}, K a → K b → K (a ++ b)
  plain : ∀ {a : List Char}, (∀ c ∈ a, isReturn c = false) → K a
  behind : ∀ {a b : List Char}, (∀ c ∈ a, isReturn c = false) → K (a ++ b) → K b

/-! ### Paired returns -/

theorem isReturn_eq_false_iff {c : Char} : isReturn c = false ↔ c ≠ '\r' ∧ c ≠ '\n' := by
  simp [isReturn]

theorem ReturnsPaired.append {a b : List Char} (ha : ReturnsPaired a) (hb : ReturnsPaired b) :
    ReturnsPaired (a ++ b) := by
  intro before c after h
  -- the character stands in the second text, or in the first with `m` behind it there
  rcases List.append_eq_append_iff.mp h with ⟨m, rfl, hm⟩ | ⟨m, rfl, hm⟩
  · obtain ⟨hnewline, hreturn⟩ := hb m c after hm
    refine ⟨fun hc => ?_, hreturn⟩
    rw [List.getLast?_append, hnewline hc]
    rfl
  · rcases m with _ | ⟨d, m⟩
    · obtain ⟨hnewline, hreturn⟩ := hb [] c after hm.symm
      exact ⟨fun hc => absurd (hnewline hc) (by simp), hreturn⟩
    · obtain ⟨rfl, hafter⟩ := List.cons.inj hm
      obtain ⟨hnewline, hreturn⟩ := ha before c m rfl
      refine ⟨hnewline, fun hc => ?_⟩
      rw [hafter, List.append_eq, List.head?_append, hreturn hc]
      rfl

theorem ReturnsPaired.parts {a b : List Char} (hbreak : Breaks a b) (h : ReturnsPaired (a ++ b)) :
    ReturnsPaired a ∧ ReturnsPaired b := by
  have hapart : ¬ (a.getLast? = some '\r' ∧ b.head? = some '\n') := by
    rintro ⟨hlast, hhead⟩
    exact absurd (hbreak '\r' hlast '\n' hhead) (by decide)
  constructor
  · rintro before c after rfl
    obtain ⟨hnewline, hreturn⟩ := h before c (after ++ b) (by simp)
    refine ⟨hnewline, ?_⟩
    rintro rfl
    rcases after with _ | ⟨d, after⟩
    · exact absurd ⟨by simp, hreturn rfl⟩ hapart
    · exact hreturn rfl
  · rintro before c after rfl
    obtain ⟨hnewline, hreturn⟩ := h (a ++ before) c after (by simp)
    refine ⟨?_, hreturn⟩
    rintro rfl
    rcases before.eq_nil_or_concat with rfl | ⟨before, d, rfl⟩
    · exact absurd ⟨by simpa using hnewline rfl, rfl⟩ hapart
    · simpa using hnewline rfl

theorem ReturnsPaired.of_mem {ls : List Line} (hlined : Lined ls)
    (h : ReturnsPaired ls.flatten) : ∀ l ∈ ls, ReturnsPaired l := by
  induction ls with
  | nil => simp
  | cons l ls ih =>
      obtain ⟨-, hrest, hbreak⟩ := Text.lined_cons_iff.mp hlined
      obtain ⟨hl, hls⟩ := ReturnsPaired.parts hbreak h
      exact List.forall_mem_cons.mpr ⟨hl, ih hrest hls⟩

theorem lineStyle_returnsPaired : LineStyle ReturnsPaired where
  append := ReturnsPaired.append
  plain := by
    rintro a h before c after rfl
    obtain ⟨hreturn, hnewline⟩ := isReturn_eq_false_iff.mp (h c (by simp))
    exact ⟨fun hc => absurd hc hnewline, fun hc => absurd hc hreturn⟩
  behind := by
    rintro a b h hab before c after rfl
    obtain ⟨hnewline, hreturn⟩ := hab (a ++ before) c after (by simp)
    refine ⟨fun hc => ?_, hreturn⟩
    have hlast := hnewline hc
    rw [List.getLast?_append] at hlast
    rcases hbefore : before.getLast? with _ | d
    · rw [hbefore, Option.none_or] at hlast
      exact absurd rfl (isReturn_eq_false_iff.mp (h '\r' (List.mem_of_getLast? hlast))).1
    · rw [hbefore, Option.some_or] at hlast
      exact hlast

theorem lineStyle_noReturn : LineStyle fun text => '\r' ∉ text where
  append := fun ha hb h => (List.mem_append.mp h).elim ha hb
  plain := fun h hmem => absurd rfl (isReturn_eq_false_iff.mp (h '\r' hmem)).1
  behind := fun _ h hmem => h (List.mem_append_right _ hmem)

theorem ReturnsPaired.not_mem {text : List Char} (h : ReturnsPaired text) (hnewline : '\n' ∉ text) :
    '\r' ∉ text := by
  intro hmem
  obtain ⟨before, after, rfl⟩ := List.append_of_mem hmem
  have hhead := (h before '\r' after rfl).2 rfl
  exact hnewline (List.mem_append_right _ (List.mem_cons_of_mem _ (List.mem_of_head? hhead)))

theorem not_returnsPaired {text : List Char} (hreturn : '\r' ∉ text) (hnewline : '\n' ∈ text) :
    ¬ ReturnsPaired text := by
  intro h
  obtain ⟨before, after, rfl⟩ := List.append_of_mem hnewline
  have hlast := (h before '\n' after rfl).1 rfl
  exact hreturn (List.mem_append_left _ (List.mem_of_getLast? hlast))

def pairsReturns : List Char → Bool
  | '\r' :: '\n' :: rest => pairsReturns rest
  | c :: rest => !isReturn c && pairsReturns rest
  | [] => true

theorem returnsPaired_returnNewline : ReturnsPaired ['\r', '\n'] := by
  intro before c after h
  rcases before with _ | ⟨d, before⟩
  · obtain ⟨rfl, rfl⟩ := List.cons.inj h
    exact ⟨by decide, fun _ => rfl⟩
  · obtain ⟨rfl, hrest⟩ := List.cons.inj h
    obtain ⟨rfl, hsingle⟩ := List.singleton_eq_append_iff.mp hrest |>.resolve_right (by simp)
    obtain ⟨rfl, -⟩ := List.cons.inj hsingle
    exact ⟨fun _ => rfl, fun hc => absurd hc (by decide)⟩

theorem returnsPaired_iff {text : List Char} :
    ReturnsPaired text ↔ pairsReturns text = true := by
  fun_induction pairsReturns text with
  | case1 rest ih =>
      rw [← ih]
      constructor
      · intro h
        exact (ReturnsPaired.parts (a := ['\r', '\n']) (Text.breaks_of_newline rfl rest) h).2
      · exact returnsPaired_returnNewline.append
  | case2 c rest hpair ih =>
      rw [Bool.and_eq_true, Bool.not_eq_true', ← ih]
      constructor
      · intro h
        obtain ⟨hnewline, hreturn⟩ := h [] c rest rfl
        have hc : isReturn c = false := by
          rw [isReturn_eq_false_iff]
          refine ⟨?_, fun hc => absurd (hnewline hc) (by simp)⟩
          rintro rfl
          obtain ⟨more, rfl⟩ := List.head?_eq_some_iff.mp (hreturn rfl)
          exact hpair more rfl rfl
        exact ⟨hc, lineStyle_returnsPaired.behind (a := [c]) (by simpa using hc) h⟩
      · rintro ⟨hc, hrest⟩
        exact lineStyle_returnsPaired.append (a := [c])
          (lineStyle_returnsPaired.plain (by simpa using hc)) hrest
  | case3 => exact iff_of_true (lineStyle_returnsPaired.plain (by simp)) rfl

instance (text : List Char) : Decidable (ReturnsPaired text) :=
  decidable_of_iff _ returnsPaired_iff.symm

/-! ### Closers without what ends them -/

theorem isReturn_of_mem_trimRight {l : Line} (h : IsLine l) :
    ∀ c ∈ Text.trimRight isReturn l, isReturn c = false := by
  rcases h.cases with hall | ⟨before, t, rfl, hbefore, ht⟩
  · exact fun c hc =>
      isReturn_eq_false (hall c ((List.rdropWhile_prefix isReturn l).subset hc))
  · have hplain : ∀ c ∈ before, isReturn c = false := fun c hc => isReturn_eq_false (hbefore c hc)
    by_cases hreturn : ∀ c ∈ t, isReturn c = true
    · rw [Text.trimRight_append_of_all hreturn, trimRight_isReturn hbefore]
      exact hplain
    · obtain ⟨d, rfl⟩ : ∃ d, t = [d] := by
        rcases ht with rfl | ⟨d, -, rfl⟩
        · exact absurd (List.all_eq_true.mp rfl) hreturn
        · exact ⟨d, rfl⟩
      have hd : isReturn d = false := by simpa using hreturn
      intro c hc
      rcases List.mem_append.mp ((List.rdropWhile_prefix isReturn _).subset hc) with hc | hc
      · exact hplain c hc
      · rwa [List.mem_singleton.mp hc]

/-! ### Regenerated sources -/

namespace LineStyle

variable {K : List Char → Prop} (hK : LineStyle K)

include hK

theorem flatten {ls : List Line} (h : ∀ l ∈ ls, K l) : K ls.flatten := by
  induction ls with
  | nil => exact hK.plain (by simp)
  | cons l ls ih =>
      obtain ⟨hl, hls⟩ := List.forall_mem_cons.mp h
      exact hK.append hl (ih hls)

theorem of_not_boundary {text : List Char} (h : ∀ c ∈ text, isBoundary c = false) : K text :=
  hK.plain fun c hc => isReturn_eq_false (h c hc)

section

variable {margin newline : List Char} (hmargin : ∀ c ∈ margin, isBoundary c = false)
  (hnewline : K newline)

include hmargin hnewline

theorem regionText (artifact : List Char) : K (regionText margin newline artifact) := by
  rw [← flatten_regionLines]
  refine hK.flatten fun l hl => ?_
  rcases mem_regionLines hl with rfl | ⟨body, hbody, rfl⟩
  · exact hnewline
  · exact hK.append (hK.append (hK.of_not_boundary hmargin)
      (hK.of_not_boundary (Text.not_boundary_of_mem_bodies hbody))) hnewline

theorem framedRegion (artifact : List Char) : K (framedRegion margin newline artifact) := by
  have hsentinel : ∀ sentinel : List Char, (∀ c ∈ sentinel, isBoundary c = false) →
      K (margin ++ sentinel ++ newline) := fun sentinel hsentinel =>
    hK.append (hK.append (hK.of_not_boundary hmargin) (hK.of_not_boundary hsentinel)) hnewline
  have hframed : Directive.framedRegion margin newline artifact =
      (margin ++ beginSentinel ++ newline) ++ Directive.regionText margin newline artifact ++
        (margin ++ endSentinel ++ newline) := by
    simp [Directive.framedRegion]
  rw [hframed]
  exact hK.append (hK.append (hsentinel _ not_boundary_of_mem_beginSentinel)
    (hK.regionText hmargin hnewline artifact)) (hsentinel _ not_boundary_of_mem_endSentinel)

end

theorem closerPieces (config : Config) {w : Written} (hline : IsLine w.closer)
    (hmargin : ∀ c ∈ Text.margin w.opener, isBoundary c = false) (h : K w.closer) :
    K (edited (w.closerPieces config)) := by
  rw [Written.closerPieces]
  split
  · rw [edited_cons, edited_cons, edited_nil, List.append_nil, result_replaced, result_kept]
    refine hK.append (hK.of_not_boundary fun c hc => not_boundary_of_mem_closerText hmargin hc) ?_
    -- what ends the closer stays behind the number, whole
    rw [← trimRight_append_drop isReturn w.closer] at h
    exact hK.behind (isReturn_of_mem_trimRight hline) h
  · simpa using h

theorem regionPieces {newline : List Char} {w : Written} {artifact : Option (List Char)}
    (hmargin : ∀ c ∈ Text.margin w.opener, isBoundary c = false)
    (hnewline : artifact.isSome = true → K newline)
    (h : ∀ l ∈ (w.region.map Region.lines).getD [], K l) :
    K (edited (w.regionPieces newline artifact)) := by
  cases artifact with
  | none => simpa [Written.regionPieces] using hK.flatten h
  | some artifact =>
      have hnewline := hnewline rfl
      cases hregion : w.region with
      | none =>
          have hgap : K (w.gap newline) := by
            rw [Written.gap]
            split
            · exact hK.plain (by simp)
            · exact hnewline
          simpa [Written.regionPieces, hregion] using
            hK.append hgap (hK.framedRegion hmargin hnewline artifact)
      | some r =>
          rw [hregion] at h
          have hfirst : K r.first := h _ (by simp [Region.lines])
          have hlast : K r.last := h _ (by simp [Region.lines])
          simpa [Written.regionPieces, hregion] using
            hK.append hfirst (hK.append (hK.regionText hmargin hnewline artifact) hlast)

theorem pieces (config : Config) {newline : List Char} {w : Written}
    {artifact : Option (List Char)} (hwell : w.WellFormed) (hline : ∀ l ∈ w.lines, IsLine l)
    (hnewline : artifact.isSome = true → K newline) (h : ∀ l ∈ w.lines, K l) :
    K (edited (w.pieces config newline artifact)) := by
  have hmargin := hwell.not_boundary_of_mem_margin (hline _ (by simp [Written.lines]))
  rw [Written.lines_eq] at hline h
  simp only [List.forall_mem_append, List.forall_mem_singleton] at hline h
  rw [Written.pieces, edited_cons, edited_append, result_kept]
  exact hK.append (hK.flatten h.1.1)
    (hK.append (hK.closerPieces config hline.1.2 hmargin h.1.2)
      (hK.regionPieces hmargin hnewline h.2))

theorem piecesOf (config : Config) {newline : List Char} {ps : List Passage}
    {artifacts : List (Option (List Char))} (houtlined : Outlined ps)
    (hline : ∀ l ∈ linesOf ps, IsLine l)
    (hnewline : (∃ artifact ∈ artifacts, artifact.isSome = true) → K newline)
    (h : ∀ l ∈ linesOf ps, K l) : K (edited (piecesOf config newline ps artifacts)) := by
  induction ps generalizing artifacts with
  | nil => exact hK.plain (by simp [Directive.piecesOf])
  | cons p ps ih =>
      cases p with
      | plain l =>
          rw [linesOf_plain, List.forall_mem_cons] at hline h
          rw [Directive.piecesOf, edited_cons, result_kept]
          exact hK.append h.1 (ih houtlined.2 hline.2 hnewline h.2)
      | directive w =>
          rw [linesOf_directive, List.forall_mem_append] at hline h
          have hhead : (artifacts.headD none).isSome = true → K newline := by
            intro hsome
            rcases artifacts with _ | ⟨artifact, artifacts⟩
            · simp at hsome
            · exact hnewline ⟨artifact, List.mem_cons_self .., hsome⟩
          have htail : (∃ artifact ∈ artifacts.tail, artifact.isSome = true) → K newline := by
            rintro ⟨artifact, hmem, hsome⟩
            exact hnewline ⟨artifact, List.mem_of_mem_tail hmem, hsome⟩
          rw [Directive.piecesOf, edited_append]
          exact hK.append (hK.pieces config houtlined.1 hline.1 hhead h.1)
            (ih houtlined.2.2 hline.2 htail h.2)

/-- What all lines of a source have, and the line ending too that is put in, the spliced source
has. -/
theorem splice (config : Config) {source : List Char}
    {generated : List (Block × Option (List Char))}
    (hscan : scan source = .ok (generated.map Prod.fst))
    (hnewline : generated.any (·.2.isSome) = true → K (newlineOf source))
    (h : ∀ l ∈ Text.lines source, K l) : K (splice config source generated) := by
  obtain ⟨ps, hparted, hblocks⟩ := scan_eq_ok_iff.mp hscan
  rw [splice_eq_edited config hparted hblocks]
  rw [← hparted.lines_eq] at h
  refine hK.piecesOf config hparted.outlined hparted.lined.isLine ?_ h
  rintro ⟨artifact, hmem, hsome⟩
  obtain ⟨g, hg, rfl⟩ := List.mem_map.mp hmem
  exact hnewline (List.any_eq_true.mpr ⟨g, hg, hsome⟩)

end LineStyle

theorem mem_applyFrom {edits : List Edit} {e : Edit} (he : e ∈ edits) {c : Char}
    (hc : c ∈ e.text) (offset : Nat) (rest : List Char) : c ∈ applyFrom offset rest edits := by
  induction edits generalizing offset rest with
  | nil => simp at he
  | cons e' edits ih =>
      rw [applyFrom, List.mem_append, List.mem_append]
      rcases List.mem_cons.mp he with rfl | he
      · exact Or.inl (Or.inr hc)
      · exact Or.inr (ih he _ _)

theorem newline_mem_splice (config : Config) (source : List Char)
    {generated : List (Block × Option (List Char))} (h : generated.any (·.2.isSome) = true) :
    '\n' ∈ splice config source generated := by
  obtain ⟨⟨b, artifact⟩, hg, hsome⟩ := List.any_eq_true.mp h
  obtain ⟨artifact, rfl⟩ := Option.isSome_iff_exists.mp hsome
  have hregion : '\n' ∈ regionText b.margin (newlineOf source) artifact :=
    List.mem_of_getLast? (getLast?_regionText (isNewline_newlineOf source) b.margin artifact)
  have hedit : '\n' ∈ (regionEdit source (newlineOf source) b artifact).text := by
    rw [regionEdit]
    split
    · exact hregion
    · simp [framedRegion, hregion]
  refine mem_applyFrom (List.mem_flatMap.mpr ⟨_, hg, ?_⟩) hedit 0 source
  exact List.mem_append_right _ (by simp)

/-! ### The line ending of a source -/

theorem hasReturnNewline_iff {text : List Char} :
    hasReturnNewline text = true ↔ ['\r', '\n'] <:+: text := by
  induction text with
  | nil => simp [hasReturnNewline]
  | cons c rest ih =>
      rw [hasReturnNewline_cons, Bool.or_eq_true, ih, List.infix_cons_iff, Bool.and_eq_true,
        beq_iff_eq, beq_iff_eq, List.cons_prefix_cons, List.singleton_prefix_iff_head?_eq_some,
        @eq_comm _ c]

theorem newlineOf_of_noReturn {source : List Char} (h : '\r' ∉ source) :
    newlineOf source = ['\n'] := by
  have hnone : ¬ hasReturnNewline source = true := by
    rw [hasReturnNewline_iff]
    exact fun hpair => h (hpair.subset (List.mem_cons_self ..))
  rw [newlineOf, if_neg hnone]

theorem newlineOf_of_paired {source : List Char} (h : ReturnsPaired source)
    (hnewline : '\n' ∈ source) : newlineOf source = ['\r', '\n'] := by
  obtain ⟨before, after, rfl⟩ := List.append_of_mem hnewline
  obtain ⟨before, rfl⟩ := List.getLast?_eq_some_iff.mp ((h before '\n' after rfl).1 rfl)
  have hsome : hasReturnNewline (before ++ ['\r'] ++ '\n' :: after) = true :=
    hasReturnNewline_iff.mpr ⟨before, after, by simp⟩
  rw [newlineOf, if_pos hsome]

/-- A source keeps its line endings whatever is generated for its directives. -/
theorem splice_keepsEndings (config : Config) {source : List Char}
    {generated : List (Block × Option (List Char))}
    (hscan : scan source = .ok (generated.map Prod.fst)) :
    KeepsEndings source (splice config source generated) (generated.any (·.2.isSome)) := by
  have hlined := Text.lined_lines source
  have hnoReturn : '\r' ∉ source → '\r' ∉ splice config source generated := by
    intro h
    refine lineStyle_noReturn.splice config hscan ?_ ?_
    · rw [newlineOf_of_noReturn h]
      exact fun _ => by decide
    · intro l hl hmem
      refine h ?_
      rw [← Text.flatten_lines source]
      exact List.mem_flatten_of_mem hl hmem
  refine ⟨hnoReturn, fun h => ?_⟩
  have hlines : ∀ l ∈ Text.lines source, ReturnsPaired l := by
    rw [← Text.flatten_lines source] at h
    exact ReturnsPaired.of_mem hlined h
  constructor
  · intro hpaired
    -- without a newline the source has no carriage return either, so lone newlines are written
    by_contra hneither
    simp only [not_or, Bool.not_eq_false] at hneither
    obtain ⟨hnewline, hgenerates⟩ := hneither
    exact not_returnsPaired (hnoReturn (h.not_mem hnewline))
      (newline_mem_splice config source hgenerates) hpaired
  · intro hor
    refine lineStyle_returnsPaired.splice config hscan (fun hgenerates => ?_) hlines
    have hnewline : '\n' ∈ source := by simpa [hgenerates] using hor
    rw [newlineOf_of_paired h hnewline]
    exact returnsPaired_returnNewline

/-- A source that is scanned keeps its line endings, whatever is put into it for its directives, and
so does every source that is regenerated. -/
theorem regenerateSource_keepsEndings {source : List Char} {blocks : List Block}
    (hscan : scan source = .ok blocks) (config : Config) :
    (∀ generated : List (Block × Option (List Char)), generated.map Prod.fst = blocks →
      KeepsEndings source (splice config source generated) (generated.any (·.2.isSome))) ∧
    ∀ path report, (regenerateSource config path source).1 = .ok report →
      KeepsEndings source report.text (report.results.any (·.2.ok)) := by
  refine ⟨fun generated hblocks => splice_keepsEndings config (hblocks ▸ hscan), ?_⟩
  intro path report hrun
  obtain ⟨_, results, hscan, hyields, -, rfl⟩ := regenerateSource_eq_ok_iff.mp hrun
  rw [← map_fst_of_yields hyields, ← map_fst_generatedFor] at hscan
  have hkeeps := splice_keepsEndings config hscan
  have hgenerates : (generatedFor results).any (·.2.isSome) = results.any (·.2.ok) := by
    rw [generatedFor, List.any_map]
    congr 1
    funext r
    obtain ⟨b, fault | artifact, warnings, openIndent⟩ := r <;> rfl
  rw [hgenerates] at hkeeps
  exact hkeeps

/-- In a source with paired returns, a text with a lone carriage return and a line separator is put
between sentinels whose lines end in a carriage return and a newline. -/
theorem regenerateSource_keepsEndings_paired :
    ∃ b, scan "/*!!\r\n!! */".toList = .ok [b] ∧
      ReturnsPaired (splice {} "/*!!\r\n!! */".toList [(b, some ['x', '\r', 'y', '\u2028'])]) ∧
      ∃ report, (regenerateSource {} "" "/*!!\r\n!! */".toList).1 = .ok report ∧
        ReturnsPaired report.text := by
  have hscan : scan "/*!!\r\n!! */".toList =
      .ok [⟨⟨[], none, [], 1, 2⟩, ⟨0, 11⟩, none, ⟨6, 11⟩, 11⟩] := by
    decide +kernel
  have hpath : '\x00' ∉ "".toList := by decide
  have hpaired : ReturnsPaired "/*!!\r\n!! */".toList := by decide
  have hnewline : '\n' ∈ "/*!!\r\n!! */".toList := by decide
  obtain ⟨report, hrun, -⟩ := exists_report_nil {} hpath rfl hscan (by decide)
  obtain ⟨hsplice, hreport⟩ := regenerateSource_keepsEndings hscan {}
  exact ⟨_, hscan, ((hsplice _ rfl).paired hpaired).mpr (Or.inl hnewline), report, hrun,
    ((hreport "" report hrun).paired hpaired).mpr (Or.inl hnewline)⟩

/-- A source without carriage returns and newlines has its returns paired, and gets newlines without
carriage returns. -/
theorem not_returnsPaired_verticalTab :
    ReturnsPaired "/*!!\x0b!! */".toList ∧
      ∃ report, (regenerateSource {} "" "/*!!\x0b!! */".toList).1 = .ok report ∧
        ¬ ReturnsPaired report.text := by
  refine ⟨by decide, ?_⟩
  have htext : (regenerateSource {} "" "/*!!\x0b!! */".toList).1.toOption.map Report.text =
      some ("/*!!\x0b!! */".toList ++ '\n' :: framedRegion [] ['\n'] []) := by
    decide +kernel
  rcases hrun : (regenerateSource {} "" "/*!!\x0b!! */".toList).1 with escape | report
  · rw [hrun] at htext
    simp [Except.toOption] at htext
  · rw [hrun, Except.toOption, Option.map_some, Option.some.injEq] at htext
    refine ⟨report, rfl, ?_⟩
    rw [htext]
    exact not_returnsPaired (by decide +kernel) (by simp)

end Codeweave.Directive
