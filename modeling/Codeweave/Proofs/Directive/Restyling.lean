import Codeweave.Proofs.Directive.RenewedLines
import Codeweave.Proofs.Text.Dedent

/-!
Outlines of sources in another style. Marks are read without the blanks around them, so the outline
of a restyled source is the outline of the source with its lines restyled, and a directive that is
renewed in the other style is the renewed directive in that style.
-/

namespace Codeweave.Directive

open Text (IsLine Lined NewlineOnly isBoundary isIndent restyleLine restyled strip)

def Region.map (f : Line → Line) (r : Region) : Region :=
  ⟨f r.first, r.body.map f, f r.last⟩

def Written.map (f : Line → Line) (w : Written) : Written :=
  ⟨f w.opener, w.script.map f, f w.closer, w.count, w.region.map (Region.map f)⟩

def Passage.map (f : Line → Line) : Passage → Passage
  | plain l => .plain (f l)
  | directive w => .directive (w.map f)

def Closing.map (f : Line → Line) (c : Closing) : Closing :=
  ⟨c.script.map f, f c.closer, c.digits, c.rest.map f⟩

/-- The second outline is the first with its lines changed, or both are broken in the same way at
the same line. -/
inductive SameOutline (f : Line → Line) :
    Except Broken (List Passage) → Except Broken (List Passage) → Prop
  | ok (ps : List Passage) : SameOutline f (.ok ps) (.ok (ps.map (Passage.map f)))
  | error {b b' : Broken} (hdefect : b'.defect = b.defect)
      (hlines : b'.place.lines = b.place.lines) : SameOutline f (.error b) (.error b')

/-- A well-formed directive with whole lines that end in nothing but newlines. -/
structure Written.Plain (w : Written) : Prop where
  wellFormed : w.WellFormed
  lined : Lined w.lines
  newlineOnly : ∀ l ∈ w.lines, NewlineOnly l

/-! ### Lines of changed outlines -/

@[simp] theorem Region.lines_map (f : Line → Line) (r : Region) :
    (r.map f).lines = r.lines.map f := by
  simp [Region.map, Region.lines]

@[simp] theorem Written.lines_map (f : Line → Line) (w : Written) :
    (w.map f).lines = w.lines.map f := by
  cases hregion : w.region <;> simp [Written.map, Written.lines, hregion]

@[simp] theorem Passage.lines_map (f : Line → Line) (p : Passage) :
    (p.map f).lines = p.lines.map f := by
  cases p with
  | plain l => rfl
  | directive w => exact w.lines_map f

theorem linesOf_map (f : Line → Line) (ps : List Passage) :
    linesOf (ps.map (Passage.map f)) = (linesOf ps).map f := by
  induction ps with
  | nil => rfl
  | cons p ps ih =>
      simp only [linesOf, List.map_cons, List.flatMap_cons, List.map_append] at ih ⊢
      rw [ih, Passage.lines_map]

theorem writtenOf_map (f : Line → Line) (ps : List Passage) :
    writtenOf (ps.map (Passage.map f)) = (writtenOf ps).map (Written.map f) := by
  induction ps with
  | nil => rfl
  | cons p ps ih =>
      cases p with
      | plain l => exact ih
      | directive w => exact congrArg (w.map f :: ·) ih

/-! ### Reading changed lines -/

theorem outline_opener {l : Line} (h : isOpener l = true) (ls : List Line) :
    outline (l :: ls) =
      match readDirective l ls with
      | .error defect => .error { defect := defect }
      | .ok (w, after) => prepend (.directive w) (outline after) := by
  rw [outline, if_pos h]
  split
  · rename_i defect hread
    rw [hread]
  · rename_i w after hread
    simp only [hread]

section

variable {f : Line → Line}

theorem isOpener_congr {l : Line} (h : strip (f l) = strip l) : isOpener (f l) = isOpener l := by
  rw [isOpener, isMark, h, isOpener, isMark]

theorem closerDigits?_congr {l : Line} (h : strip (f l) = strip l) :
    closerDigits? (f l) = closerDigits? l := by
  rw [closerDigits?, h, closerDigits?]

theorem splitAtCloser_map {ls : List Line} (h : ∀ l ∈ ls, strip (f l) = strip l) :
    splitAtCloser (ls.map f) = (splitAtCloser ls).map (Closing.map f) := by
  induction ls with
  | nil => rfl
  | cons l ls ih =>
      rw [List.forall_mem_cons] at h
      rw [List.map_cons, splitAtCloser, splitAtCloser, isOpener_congr h.1,
        closerDigits?_congr h.1, ih h.2]
      split
      · rfl
      · cases closerDigits? l with
        | some digits => rfl
        | none => cases splitAtCloser ls <;> rfl

theorem splitAtEnd_map {ls : List Line} (h : ∀ l ∈ ls, strip (f l) = strip l) :
    splitAtEnd (ls.map f) =
      (splitAtEnd ls).map fun (body, last, after) => (body.map f, f last, after.map f) := by
  induction ls with
  | nil => rfl
  | cons l ls ih =>
      rw [List.forall_mem_cons] at h
      have hend : isEnd (f l) = isEnd l := by
        rw [isEnd, isMark, h.1, isEnd, isMark]
      rw [List.map_cons, splitAtEnd, splitAtEnd, hend, ih h.2]
      split
      · rfl
      · cases splitAtEnd ls <;> rfl

theorem readRegion_map {ls : List Line} (h : ∀ l ∈ ls, strip (f l) = strip l) :
    readRegion (ls.map f) =
      (readRegion ls).map fun (region, after) => (region.map (Region.map f), after.map f) := by
  cases ls with
  | nil => rfl
  | cons l ls =>
      rw [List.forall_mem_cons] at h
      have hbegin : isBegin (f l) = isBegin l := by
        rw [isBegin, isMark, h.1, isBegin, isMark]
      rw [List.map_cons, readRegion, readRegion, hbegin, splitAtEnd_map h.2]
      split
      · cases splitAtEnd ls <;> rfl
      · rfl

theorem readDirective_map {ls : List Line} (h : ∀ l ∈ ls, strip (f l) = strip l)
    (first : Line) :
    readDirective (f first) (ls.map f) =
      (readDirective first ls).map fun (w, after) => (w.map f, after.map f) := by
  rw [readDirective, readDirective, splitAtCloser_map h]
  cases hsplit : splitAtCloser ls with
  | none => rfl
  | some c =>
      have hrest : ∀ l ∈ c.rest, strip (f l) = strip l := by
        intro l hl
        apply h
        rw [eq_append_of_splitAtCloser hsplit]
        exact List.mem_append_right _ (List.mem_cons_of_mem _ hl)
      simp only [Option.map_some, Closing.map, readRegion_map hrest]
      cases readRegion c.rest with
      | error defect => rfl
      | ok region => cases readCount c.digits <;> rfl

theorem SameOutline.prepend {x x' : Except Broken (List Passage)} (h : SameOutline f x x')
    (p : Passage) : SameOutline f (prepend p x) (prepend (p.map f) x') := by
  cases h with
  | ok ps => exact SameOutline.ok (p :: ps)
  | error hdefect hlines =>
      refine SameOutline.error hdefect ?_
      simp [Place.behind, Place.after, hlines]

/-- A change of lines that keeps all marks changes the lines of the outline and nothing else. -/
theorem sameOutline_map {ls : List Line} (h : ∀ l ∈ ls, strip (f l) = strip l) :
    SameOutline f (outline ls) (outline (ls.map f)) := by
  fun_induction outline ls with
  | case1 =>
      rw [List.map_nil, outline]
      exact SameOutline.ok []
  | case2 l ls hopener defect hread =>
      rw [List.forall_mem_cons] at h
      rw [List.map_cons, outline_opener (by rwa [isOpener_congr h.1]), readDirective_map h.2,
        hread]
      exact SameOutline.error rfl rfl
  | case3 l ls hopener w after hread _ ih =>
      have hafter : ∀ l ∈ after, strip (f l) = strip l := by
        intro m hm
        apply h
        rw [eq_append_of_readDirective hread]
        exact List.mem_append_right _ hm
      rw [List.forall_mem_cons] at h
      rw [List.map_cons, outline_opener (by rwa [isOpener_congr h.1]), readDirective_map h.2,
        hread]
      exact (ih hafter).prepend (.directive w)
  | case4 l ls hopener ih =>
      rw [List.forall_mem_cons] at h
      rw [List.map_cons, outline_plain (by simpa [isOpener_congr h.1] using hopener)]
      exact (ih h.2).prepend (.plain l)

end

/-! ### Directives whose lines end in newlines -/

theorem mem_linesOf {ps : List Passage} {w : Written} (hw : w ∈ writtenOf ps) {l : Line}
    (hl : l ∈ w.lines) : l ∈ linesOf ps := by
  induction ps with
  | nil => simp [writtenOf] at hw
  | cons p ps ih =>
      cases p with
      | plain m => exact List.mem_cons_of_mem _ (ih hw)
      | directive v =>
          rcases List.mem_cons.mp hw with rfl | hw
          · exact List.mem_append_left _ hl
          · exact List.mem_append_right _ (ih hw)

theorem Parted.plain {source : List Char} {ps : List Passage} (h : Parted source ps)
    (hsource : NewlineOnly source) : ∀ w ∈ writtenOf ps, w.Plain := by
  intro w hw
  refine ⟨h.outlined.wellFormed w hw, h.lined_written w hw, ?_⟩
  intro l hl
  refine hsource.of_mem_lines ?_
  rw [← h.lines_eq]
  exact mem_linesOf hw hl

theorem Written.Plain.not_boundary_of_mem_margin {w : Written} (h : w.Plain) :
    ∀ c ∈ Text.margin w.opener, isBoundary c = false :=
  h.wellFormed.not_boundary_of_mem_margin (h.lined.isLine _ (List.mem_cons_self ..))

theorem Written.Plain.lined_script {w : Written} (h : w.Plain) :
    Lined (w.script ++ [w.closer]) := by
  have hlined := h.lined
  rw [Written.lines, List.cons_append, Text.lined_cons_iff, List.append_cons,
    Text.lined_append_iff] at hlined
  exact hlined.2.1.1

theorem Written.Plain.exists_opener {w : Written} (h : w.Plain) :
    ∃ row, (∀ c ∈ row, isBoundary c = false) ∧ w.opener = row ++ ['\n'] := by
  have hlined := h.lined
  rw [Written.lines, List.cons_append, Text.lined_cons_iff] at hlined
  obtain ⟨hline, hrest, hbreak⟩ := hlined
  have hcloser : w.closer ≠ [] := (hrest.isLine w.closer (by simp)).ne_nil
  exact hline.exists_row (h.newlineOnly _ (List.mem_cons_self ..)) hbreak (by simp [hcloser])

theorem endsPlainly_of_newlineOnly {l : Line} (h : NewlineOnly l) : EndsPlainly l := by
  intro c hc hboundary
  rw [h c (List.mem_of_getLast? hc) hboundary]
  rfl

theorem closer_ne_nil {w : Written} (h : w.WellFormed) : strip w.closer ≠ [] := by
  obtain ⟨digits, hdigits, -⟩ := h.closer
  intro hnil
  rw [closerDigits?, hnil] at hdigits
  simp [countDigits?] at hdigits

theorem Written.Plain.exists_closer {w : Written} (h : w.Plain) :
    ∃ row t, w.closer = row ++ t ∧ row ≠ [] ∧ (∀ c ∈ row, isBoundary c = false) ∧
      (t = [] ∨ t = ['\n']) := by
  have hmem : w.closer ∈ w.lines := by simp [Written.lines]
  obtain ⟨row, hrow, hcloser | ⟨hcloser, hne⟩⟩ :=
    (h.lined.isLine _ hmem).newlineOnly_cases (h.newlineOnly _ hmem)
  · refine ⟨row, ['\n'], hcloser, ?_, hrow, Or.inr rfl⟩
    rintro rfl
    exact closer_ne_nil h.wellFormed (by rw [hcloser]; decide)
  · exact ⟨row, [], by simpa using hcloser, hne, hrow, Or.inl rfl⟩

section

variable {w : Written} {row t : List Char} (hcloser : w.closer = row ++ t)
  (hrow : ∀ c ∈ row, isBoundary c = false) (ht : t = [] ∨ IsNewline t)

include hcloser hrow ht

theorem trimRight_closer : Text.trimRight isReturn w.closer = row := by
  rw [hcloser, Text.trimRight_append_of_all ?_, trimRight_isReturn hrow]
  rcases ht with rfl | rfl | rfl <;> simp [isReturn]

theorem closerBody_append (config : Config) :
    w.closerBody config =
      if w.recounted config then closerText (Text.margin w.opener) w.lineCount else row := by
  rw [Written.closerBody, trimRight_closer hcloser hrow ht]

theorem closerTail_append (newline : List Char) (artifact : Option (List Char)) :
    w.closerTail newline artifact =
      if t = [] then if w.framed artifact then newline else [] else t := by
  have hgap : w.gap newline = if t = [] then newline else [] := by
    rw [Written.gap, hcloser]
    rcases ht with rfl | hnewline
    · have hend : endsInReturn row = false := by
        rw [endsInReturn]
        cases hlast : row.getLast? with
        | none => rfl
        | some c => exact isReturn_eq_false (hrow c (List.mem_of_getLast? hlast))
      simp [hend]
    · have hne := hnewline.isTerminator.ne_nil
      have hend : endsInReturn t = true := by
        rcases hnewline with rfl | rfl <;> rfl
      rw [endsInReturn_append row hne, hend, if_pos rfl, if_neg hne]
  rw [Written.closerTail, trimRight_closer hcloser hrow ht, hgap, hcloser, List.drop_left]
  by_cases hnil : t = [] <;> simp [hnil]

end

theorem Written.Plain.closerBody_row {w : Written} (h : w.Plain) (config : Config) :
    w.closerBody config ≠ [] ∧ ∀ c ∈ w.closerBody config, isBoundary c = false := by
  obtain ⟨row, t, hcloser, hne, hrow, ht⟩ := h.exists_closer
  rw [closerBody_append hcloser hrow (ht.imp_right Or.inl)]
  split
  · exact ⟨closerText_ne_nil _ _,
      fun c hc => not_boundary_of_mem_closerText h.not_boundary_of_mem_margin hc⟩
  · exact ⟨hne, hrow⟩

/-! ### Directives in another style -/

theorem map_regionLines {margin : List Char} (hmargin : ∀ c ∈ margin, isBoundary c = false)
    (lead newline artifact : List Char) :
    (regionLines margin ['\n'] artifact).map (restyleLine lead newline) =
      regionLines (lead ++ margin) newline artifact := by
  have hempty : restyleLine lead newline ['\n'] = newline :=
    @Text.restyleLine_append_newline [] (by simp) lead newline
  rw [regionLines, List.map_append, List.map_map, List.map_singleton, hempty, regionLines]
  refine congrArg (· ++ [newline]) (List.map_congr_left fun body hbody => ?_)
  rw [Function.comp_apply]
  split
  · exact hempty
  · rename_i hne
    have hrow : ∀ c ∈ margin ++ body, isBoundary c = false :=
      List.forall_mem_append.mpr ⟨hmargin, Text.not_boundary_of_mem_bodies hbody⟩
    have hne : margin ++ body ≠ [] := by
      intro hnil
      simp [(List.append_eq_nil_iff.mp hnil).2] at hne
    rw [Text.restyleLine_whole hrow lead newline hne, ← List.append_assoc lead]

section

variable {lead newline : List Char} (hlead : ∀ c ∈ lead, isIndent c = true)
  (hnewline : IsNewline newline)

include hlead hnewline

theorem strip_restyle {l : Line} (hline : IsLine l) (h : NewlineOnly l) :
    strip (restyleLine lead newline l) = strip l :=
  Text.strip_restyleLine (fun c hc => Text.isBlank_of_isIndent (hlead c hc)) hnewline.isBlank
    hline h

theorem lined_map_restyle {ls : List Line} (hlined : Lined ls) (h : ∀ l ∈ ls, NewlineOnly l) :
    Lined (ls.map (restyleLine lead newline)) :=
  Text.lined_restyle (fun c hc => Text.not_boundary_of_isIndent (hlead c hc))
    hnewline.isTerminator (by simpa using hnewline.getLast?_append []) hlined h

theorem getLast?_restyle_ne_return {l : Line} (hline : IsLine l) (h : NewlineOnly l) :
    (restyleLine lead newline l).getLast? ≠ some '\r' := by
  obtain ⟨row, hrow, rfl | ⟨rfl, hne⟩⟩ := hline.newlineOnly_cases h
  · rw [Text.restyleLine_append_newline hrow, hnewline.getLast?_append]
    decide
  · rw [Text.restyleLine_open hrow lead newline hne]
    intro hlast
    rcases List.mem_append.mp (List.mem_of_getLast? hlast) with hmem | hmem
    · exact absurd (hlead _ hmem) (by decide)
    · exact absurd (hrow _ hmem) (by decide)

section

variable {w : Written} (hplain : w.Plain)

include hplain

omit hnewline in
theorem margin_map :
    Text.margin (w.map (restyleLine lead newline)).opener = lead ++ Text.margin w.opener :=
  Text.margin_restyleLine (fun c hc => Text.isBlank_of_isIndent (hlead c hc))
    (hplain.lined.isLine _ (by simp [Written.lines]))
    (hplain.newlineOnly _ (by simp [Written.lines]))
    (strip_ne_nil_of_opener hplain.wellFormed.opener)

theorem lineCount_map : (w.map (restyleLine lead newline)).lineCount = w.lineCount := by
  have hlined := (Text.lined_append_iff.mp hplain.lined_script).1
  have hscript : ∀ l ∈ w.script, NewlineOnly l :=
    fun l hl => hplain.newlineOnly l (by simp [Written.lines, hl])
  rw [Written.lineCount, Written.map,
    (lined_map_restyle hlead hnewline hlined hscript).lines_flatten,
    List.length_map, Written.lineCount, hlined.lines_flatten]

theorem recounted_map (config : Config) :
    (w.map (restyleLine lead newline)).recounted config = w.recounted config := by
  rw [Written.recounted, lineCount_map hlead hnewline hplain]
  rfl

omit hlead hnewline in
theorem exists_closer_map :
    ∃ row t t', w.closer = row ++ t ∧
      (w.map (restyleLine lead newline)).closer = lead ++ row ++ t' ∧
      (∀ c ∈ row, isBoundary c = false) ∧ (t = [] ∧ t' = [] ∨ t = ['\n'] ∧ t' = newline) := by
  obtain ⟨row, t, hcloser, hne, hrow, rfl | rfl⟩ := hplain.exists_closer
  · refine ⟨row, [], [], hcloser, ?_, hrow, Or.inl ⟨rfl, rfl⟩⟩
    rw [Written.map, hcloser, List.append_nil, Text.restyleLine_open hrow lead newline hne,
      List.append_nil]
  · refine ⟨row, ['\n'], newline, hcloser, ?_, hrow, Or.inr ⟨rfl, rfl⟩⟩
    rw [Written.map, hcloser, Text.restyleLine_whole hrow lead newline hne]

theorem closer_renewed_map (config : Config) (artifact : Option (List Char)) :
    ((w.map (restyleLine lead newline)).renewed config newline artifact).closer =
      restyleLine lead newline (w.renewed config ['\n'] artifact).closer := by
  obtain ⟨row, t, t', hcloser, hcloser', hrow, ht⟩ := exists_closer_map hplain
  have hrow' : ∀ c ∈ lead ++ row, isBoundary c = false :=
    List.forall_mem_append.mpr ⟨fun c hc => Text.not_boundary_of_isIndent (hlead c hc), hrow⟩
  have hend : t = [] ∨ IsNewline t := by
    rcases ht with ⟨rfl, -⟩ | ⟨rfl, -⟩
    · exact Or.inl rfl
    · exact Or.inr (Or.inl rfl)
  have hend' : t' = [] ∨ IsNewline t' := by
    rcases ht with ⟨-, rfl⟩ | ⟨-, rfl⟩
    · exact Or.inl rfl
    · exact Or.inr hnewline
  -- the two closers differ in what ends them, and in the lead before them
  have hbody := closerBody_append hcloser hrow hend config
  have hbody' : (w.map (restyleLine lead newline)).closerBody config =
      lead ++ w.closerBody config := by
    rw [closerBody_append hcloser' hrow' hend', recounted_map hlead hnewline hplain,
      margin_map hlead hplain, lineCount_map hlead hnewline hplain, hbody]
    split
    · simp [closerText]
    · rfl
  obtain ⟨hne, hrenewed⟩ := hplain.closerBody_row config
  have hframed : (w.map (restyleLine lead newline)).framed artifact = w.framed artifact := by
    simp [Written.framed, Written.map]
  rw [renewed_closer, renewed_closer, hbody', closerTail_append hcloser hrow hend,
    closerTail_append hcloser' hrow' hend', hframed]
  rcases ht with ⟨rfl, rfl⟩ | ⟨rfl, rfl⟩
  · cases w.framed artifact with
    | true =>
        rw [if_pos rfl, if_pos rfl, if_pos rfl, if_pos rfl,
          Text.restyleLine_whole hrenewed lead newline hne]
    | false =>
        simp only [if_true, Bool.false_eq_true, if_false, List.append_nil]
        rw [Text.restyleLine_open hrenewed lead newline hne]
  · rw [if_neg hnewline.isTerminator.ne_nil, if_neg (by simp),
      Text.restyleLine_whole hrenewed lead t' hne]

theorem map_lines_regionText (artifact : List Char) :
    (Text.lines (regionText (Text.margin w.opener) ['\n'] artifact)).map
        (restyleLine lead newline) =
      Text.lines (regionText (lead ++ Text.margin w.opener) newline artifact) := by
  have hboundary := hplain.not_boundary_of_mem_margin
  have hboundary' : ∀ c ∈ lead ++ Text.margin w.opener, isBoundary c = false :=
    List.forall_mem_append.mpr ⟨fun c hc => Text.not_boundary_of_isIndent (hlead c hc), hboundary⟩
  rw [lines_regionText (Or.inl rfl) hboundary, map_regionLines hboundary,
    lines_regionText hnewline hboundary']

theorem regionWith_map (artifact : List Char) :
    (w.map (restyleLine lead newline)).regionWith newline artifact =
      (w.regionWith ['\n'] artifact).map (restyleLine lead newline) := by
  have hboundary := hplain.not_boundary_of_mem_margin
  have hlines := map_lines_regionText hlead hnewline hplain artifact
  have hmargin : Text.margin (w.map (restyleLine lead newline)).opener =
      lead ++ Text.margin w.opener := margin_map hlead hplain
  cases hregion : w.region with
  | none =>
      have hsentinel : ∀ sentinel : List Char, sentinel ≠ [] →
          (∀ c ∈ sentinel, isBoundary c = false) →
          restyleLine lead newline (Text.margin w.opener ++ sentinel ++ ['\n']) =
            lead ++ Text.margin w.opener ++ sentinel ++ newline := by
        intro sentinel hne hsentinel
        rw [Text.restyleLine_whole (List.forall_mem_append.mpr ⟨hboundary, hsentinel⟩) lead newline
          (List.append_ne_nil_of_right_ne_nil _ hne), ← List.append_assoc]
      have hregion' : (w.map (restyleLine lead newline)).region = none := by
        simp [Written.map, hregion]
      rw [regionWith_none hregion, regionWith_none hregion', hmargin, newRegion, newRegion,
        Region.map, hlines, hsentinel beginSentinel (by decide) not_boundary_of_mem_beginSentinel,
        hsentinel endSentinel (by decide) not_boundary_of_mem_endSentinel]
  | some r =>
      have hmem : r.first ∈ w.lines := by simp [Written.lines, hregion, Region.lines]
      have hfirst := hplain.newlineOnly r.first hmem
      have hapart : r.first.getLast? ≠ some '\r' := by
        intro hlast
        exact absurd (hfirst '\r' (List.mem_of_getLast? hlast) rfl) (by decide)
      have hapart' := getLast?_restyle_ne_return hlead hnewline
        (hplain.lined.isLine r.first hmem) hfirst
      have hregion' : (w.map (restyleLine lead newline)).region =
          some (r.map (restyleLine lead newline)) := by
        simp [Written.map, hregion]
      rw [regionWith_some hregion, regionWith_some hregion', hmargin, Region.renewed,
        if_neg fun h => hapart' h.1, Region.renewed, if_neg fun h => hapart h.1, Region.map,
        Region.map, hlines]

theorem renewed_map (config : Config) (artifact : Option (List Char)) :
    (w.map (restyleLine lead newline)).renewed config newline artifact =
      (w.renewed config ['\n'] artifact).map (restyleLine lead newline) := by
  have hcloser := closer_renewed_map hlead hnewline hplain config artifact
  have hcount : ((w.map (restyleLine lead newline)).renewed config newline artifact).count =
      (w.renewed config ['\n'] artifact).count := by
    rw [count_renewed, count_renewed, lineCount_map hlead hnewline hplain]
    rfl
  have hregion : ((w.map (restyleLine lead newline)).renewed config newline artifact).region =
      (w.renewed config ['\n'] artifact).region.map (Region.map (restyleLine lead newline)) := by
    cases artifact with
    | none => rfl
    | some artifact =>
        rw [region_renewed_some, region_renewed_some, regionWith_map hlead hnewline hplain]
        rfl
  conv_rhs => rw [Written.map, ← hcloser, ← hcount, ← hregion]
  rfl

end

/-- Renewing an outline in another style gives the renewed outline in that style. -/
theorem renew_map (config : Config) {ps : List Passage} (hplain : ∀ w ∈ writtenOf ps, w.Plain)
    (artifacts : List (Option (List Char))) :
    renew config newline (ps.map (Passage.map (restyleLine lead newline))) artifacts =
      (renew config ['\n'] ps artifacts).map (Passage.map (restyleLine lead newline)) := by
  induction ps generalizing artifacts with
  | nil => rfl
  | cons p ps ih =>
      cases p with
      | plain l => exact congrArg (Passage.plain _ :: ·) (ih hplain artifacts)
      | directive w =>
          obtain ⟨hw, hrest⟩ := List.forall_mem_cons.mp hplain
          rw [List.map_cons, Passage.map, renew, renewed_map hlead hnewline hw, ih hrest]
          rfl

/-- The outline of a restyled source is that of the source with its lines restyled, or both are
broken in the same way. -/
theorem sameOutline_restyled {source : List Char} (hsource : NewlineOnly source) :
    SameOutline (restyleLine lead newline) (outline (Text.lines source))
      (outline (Text.lines (restyled lead newline source))) := by
  have hlines : Text.lines (restyled lead newline source) =
      (Text.lines source).map (restyleLine lead newline) :=
    Text.lines_restyled (fun c hc => Text.not_boundary_of_isIndent (hlead c hc))
      hnewline.isTerminator (by simpa using hnewline.getLast?_append []) hsource
  rw [hlines]
  exact sameOutline_map fun l hl => strip_restyle hlead hnewline
    ((Text.lined_lines source).isLine l hl) (hsource.of_mem_lines hl)

theorem parted_restyled {source : List Char} (hsource : NewlineOnly source) {ps : List Passage}
    (hparted : Parted source ps) :
    Parted (restyled lead newline source) (ps.map (Passage.map (restyleLine lead newline))) := by
  have hsame := sameOutline_restyled hlead hnewline hsource
  rw [outline_eq_ok_iff.mpr ⟨hparted.outlined, hparted.lines_eq⟩] at hsame
  generalize houtline : outline (Text.lines (restyled lead newline source)) = restyledOutline
    at hsame
  cases hsame
  obtain ⟨houtlined, hlines⟩ := outline_eq_ok_iff.mp houtline
  exact ⟨houtlined, hlines⟩

end

end Codeweave.Directive
