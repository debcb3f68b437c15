import Codeweave.Proofs.Directive.Containment
import Codeweave.Proofs.Directive.Newline
import Codeweave.Proofs.Directive.Rerun
import Codeweave.Proofs.Directive.Restyling
import Codeweave.Proofs.Script.CodeLines

/-!
Reports on sources in another style. Regeneration asks of a script only which program it is read as,
so a source and its restyled copy have the same results as long as each script of the one is read as
its copy in the other, and then the text of the one report is the restyled text of the other.
-/

namespace Codeweave

/-- What ends an operation, without the offset that a fault is told for. -/
def Escape.unplaced : Escape → Escape
  | .fault f => .fault { f with offset := none }
  | escape => escape

namespace Directive

open Text (IsLine Lined NewlineOnly WholeRows isIndent restyleLine restyled)

def Report.outcomes (r : Report) : List Outcome :=
  r.results.map Prod.snd

/-- The second directive is the first with its lines restyled. -/
structure Restyles (lead newline : List Char) (d d' : Directive) : Prop where
  script : d'.script = restyled lead newline d.script
  declared : d'.declared = d.declared
  line : d'.line = d.line
  scriptLine : d'.scriptLine = d.scriptLine
  lineCount : d'.lineCount = d.lineCount

/-- Both operations end in the same way, or the second report has the changed text of the first and
the same outcome for each directive. -/
inductive SameReport (change : List Char → List Char) :
    Except Escape Report → Except Escape Report → Prop
  | ok {report report' : Report} (htext : report'.text = change report.text)
      (houtcomes : report'.outcomes = report.outcomes) :
      SameReport change (.ok report) (.ok report')
  | error {escape escape' : Escape} (h : escape'.unplaced = escape.unplaced) :
      SameReport change (.error escape) (.error escape')

/-! ### One directive -/

theorem Broken.unplaced_escape {b b' : Broken} (hdefect : b'.defect = b.defect)
    (hlines : b'.place.lines = b.place.lines) : b'.escape.unplaced = b.escape.unplaced := by
  rw [Broken.escape, Broken.escape, hdefect, hlines]
  cases b.defect <;> simp [Escape.unplaced, Broken.fault, hlines]

section

variable {lead newline : List Char} {d d' : Directive} (h : Restyles lead newline d d')

include h

theorem Restyles.drift?_eq (config : Config) : drift? config d' = drift? config d := by
  rw [drift?, drift?, h.declared, h.lineCount, h.line]

section

variable (hread : Script.compileScript (Text.dedent d'.script) =
  Script.compileScript (Text.dedent d.script))

include hread

theorem Restyles.runScript_eq (config : Config) (label : String) :
    runScript config label d' = runScript config label d := by
  rw [runScript, runScript, compileLabelled, compileLabelled, hread]
  simp only [scriptFault, sourceLine_congr h.line h.scriptLine,
    stopFault_congr h.line h.scriptLine]

theorem Restyles.regenerate_eq (config : Config) (path : String) :
    regenerate config path d' = regenerate config path d := by
  have hwith : ∀ warnings,
      regenerateWith config path warnings d' = regenerateWith config path warnings d := by
    intro warnings
    rw [regenerateWith, regenerateWith, h.line]
    simp only [h.runScript_eq hread, finish, h.line]
  rw [regenerate, regenerate, h.drift?_eq]
  simp only [hwith]

end

end

theorem Restyles.countTooLong_eq {lead newline : List Char} {b b' : Block}
    (h : Restyles lead newline b.toDirective b'.toDirective) (config : Config) :
    countTooLong config b' = countTooLong config b := by
  have hholds : b'.countHolds = b.countHolds := by
    rw [countHolds, countHolds, h.declared, h.lineCount]
  have hedit : (countEdit? config b').isSome = (countEdit? config b).isSome := by
    rw [countEdit?, countEdit?, hholds]
    split <;> rfl
  rw [countTooLong, countTooLong, hedit, h.lineCount]

/-! ### All directives -/

section

variable {config : Config} {path : String} {blocks blocks' : List Block}

theorem outcomes_regenerateAll
    (h : List.Forall₂ (fun b b' : Block =>
      regenerate config path b'.toDirective = regenerate config path b.toDirective)
        blocks blocks') :
    (regenerateAll config path blocks').1.map (List.map Prod.snd) =
      (regenerateAll config path blocks).1.map (List.map Prod.snd) := by
  induction h with
  | nil => rfl
  | @cons b b' blocks blocks' hb _ ih =>
      rw [regenerateAll, regenerateAll, hb]
      split
      · rfl
      · simp only
        cases hrest : (regenerateAll config path blocks).1 <;>
          cases hrest' : (regenerateAll config path blocks').1 <;>
          simp_all [Except.map]

end

theorem outcomes_reportOn (config : Config) (path : String) (source : List Char)
    (results : List (Block × Outcome)) :
    (reportOn config path source results).map Report.outcomes =
      if (results.map Prod.fst).any (countTooLong config) then
        .error (textEscape .tooManyDigits)
      else .ok (results.map Prod.snd) := by
  rw [reportOn, List.any_map]
  simp only [Function.comp_def]
  split <;> rfl

theorem any_countTooLong_eq {lead newline : List Char} {blocks blocks' : List Block}
    (h : List.Forall₂ (fun b b' : Block => Restyles lead newline b.toDirective b'.toDirective)
      blocks blocks') (config : Config) :
    blocks'.any (countTooLong config) = blocks.any (countTooLong config) := by
  induction h with
  | nil => rfl
  | cons hb _ ih => rw [List.any_cons, List.any_cons, hb.countTooLong_eq, ih]

theorem outcomes_regenerateSource {lead newline : List Char} {config : Config} {path : String}
    {source source' : List Char} {blocks blocks' : List Block} (hscan : scan source = .ok blocks)
    (hscan' : scan source' = .ok blocks')
    (hrestyles : List.Forall₂
      (fun b b' : Block => Restyles lead newline b.toDirective b'.toDirective) blocks blocks')
    (hsame : List.Forall₂ (fun b b' : Block =>
      regenerate config path b'.toDirective = regenerate config path b.toDirective)
        blocks blocks') :
    (regenerateSource config path source').1.map Report.outcomes =
      (regenerateSource config path source).1.map Report.outcomes := by
  have houtcomes := outcomes_regenerateAll hsame
  have hany := any_countTooLong_eq hrestyles config
  rw [regenerateSource, regenerateSource, hscan, hscan']
  simp only
  cases hresults : (regenerateAll config path blocks).1 with
  | error escape =>
      cases hresults' : (regenerateAll config path blocks').1 with
      | error escape' =>
          rw [hresults, hresults'] at houtcomes
          exact congrArg Except.error (Except.error.inj houtcomes)
      | ok results' => simp [hresults, hresults', Except.map] at houtcomes
  | ok results =>
      cases hresults' : (regenerateAll config path blocks').1 with
      | error escape' => simp [hresults, hresults', Except.map] at houtcomes
      | ok results' =>
          rw [hresults, hresults'] at houtcomes
          have hfst := map_fst_of_yields (regenerateAll_eq_ok_iff.mp hresults)
          have hfst' := map_fst_of_yields (regenerateAll_eq_ok_iff.mp hresults')
          simp only [Except.bind]
          rw [outcomes_reportOn, outcomes_reportOn, hfst, hfst', hany, Except.ok.inj houtcomes]

section

variable {lead newline : List Char} (hlead : ∀ c ∈ lead, isIndent c = true)
  (hnewline : IsNewline newline)

include hlead hnewline

theorem restyles_blockAt {w : Written} (hplain : w.Plain) {p p' : Place}
    (hp : p'.lines = p.lines) :
    Restyles lead newline (w.blockAt p).toDirective
      ((w.map (restyleLine lead newline)).blockAt p').toDirective := by
  have hlined := (Text.lined_append_iff.mp hplain.lined_script).1
  refine ⟨?_, rfl, ?_, ?_, lineCount_map hlead hnewline hplain⟩
  · simp only [Written.blockAt, Written.map]
    rw [restyled, hlined.lines_flatten, List.flatMap]
  · simp only [Written.blockAt, hp]
  · simp only [Written.blockAt, hp]

/-- The blocks of a restyled source are those of the source with their lines restyled. -/
theorem restyles_blocksFrom {ps : List Passage} (hplain : ∀ w ∈ writtenOf ps, w.Plain)
    {p p' : Place} (hp : p'.lines = p.lines) :
    List.Forall₂ (fun b b' : Block => Restyles lead newline b.toDirective b'.toDirective)
      (blocksFrom p ps) (blocksFrom p' (ps.map (Passage.map (restyleLine lead newline)))) := by
  induction ps generalizing p p' with
  | nil => exact List.Forall₂.nil
  | cons passage ps ih =>
      cases passage with
      | plain l => exact ih hplain (congrArg (· + 1) hp)
      | directive w =>
          obtain ⟨hw, hrest⟩ := List.forall_mem_cons.mp hplain
          refine List.Forall₂.cons (restyles_blockAt hlead hnewline hw hp) (ih hrest ?_)
          simp [Place.after, hp]

theorem exists_scan_restyled {source : List Char} (hsource : NewlineOnly source)
    {blocks : List Block} (h : scan source = .ok blocks) :
    ∃ blocks', scan (restyled lead newline source) = .ok blocks' ∧
      List.Forall₂ (fun b b' : Block => Restyles lead newline b.toDirective b'.toDirective)
        blocks blocks' := by
  obtain ⟨ps, hparted, rfl⟩ := scan_eq_ok_iff.mp h
  exact ⟨_, scan_eq_ok_iff.mpr ⟨_, parted_restyled hlead hnewline hsource hparted, rfl⟩,
    restyles_blocksFrom hlead hnewline (hparted.plain hsource) rfl⟩

theorem exists_broken_restyled {source : List Char} (hsource : NewlineOnly source) {b : Broken}
    (h : scan source = .error b) :
    ∃ b', scan (restyled lead newline source) = .error b' ∧ b'.defect = b.defect ∧
      b'.place.lines = b.place.lines := by
  have hsame := sameOutline_restyled hlead hnewline hsource
  rw [scan] at h ⊢
  generalize outline (Text.lines source) = x at hsame h
  generalize outline (Text.lines (restyled lead newline source)) = x' at hsame
  cases hsame with
  | ok ps => simp [Except.map] at h
  | @error c c' hdefect hlines =>
      obtain rfl : c = b := Except.error.inj h
      exact ⟨c', rfl, hdefect, hlines⟩

/-! ### Texts -/

omit hlead hnewline in
theorem newlineOf_of_newlineOnly {text : List Char} (h : NewlineOnly text) :
    newlineOf text = ['\n'] := by
  rw [newlineOf, if_neg]
  rw [Bool.not_eq_true]
  induction text with
  | nil => rfl
  | cons c text ih =>
      obtain ⟨hc, hrest⟩ := List.forall_mem_cons.mp h
      rw [hasReturnNewline_cons, ih hrest, Bool.or_false, Bool.and_eq_false_imp]
      intro hreturn
      rw [beq_iff_eq.mp hreturn] at hc
      exact absurd (hc rfl) (by decide)

theorem newlineOf_restyled {source row : List Char} (hsource : NewlineOnly source)
    (hrow : ∀ c ∈ row, Text.isBoundary c = false) (hmem : row ++ ['\n'] ∈ Text.lines source) :
    newlineOf (restyled lead newline source) = newline := by
  have hboundary : ∀ c ∈ lead, Text.isBoundary c = false :=
    fun c hc => Text.not_boundary_of_isIndent (hlead c hc)
  rcases hnewline with rfl | rfl
  · exact newlineOf_of_newlineOnly (Text.newlineOnly_restyled hboundary source)
  · have hnewline : IsNewline ['\r', '\n'] := Or.inr rfl
    have hline : hasReturnNewline (restyleLine lead ['\r', '\n'] (row ++ ['\n'])) = true := by
      rw [Text.restyleLine_append_newline hrow,
        hasReturnNewline_append_of_not_boundary (Text.not_boundary_of_mem_behind hboundary hrow)]
      rfl
    rw [newlineOf, restyled, List.flatMap, hasReturnNewline_flatten
      (lined_map_restyle hlead hnewline (Text.lined_lines source)
        fun l hl => hsource.of_mem_lines hl),
      if_pos (List.any_eq_true.mpr ⟨_, List.mem_map_of_mem hmem, hline⟩)]

omit hlead hnewline in
theorem renew_of_no_directives (config : Config) (newline newline' : List Char) {ps : List Passage}
    (h : writtenOf ps = []) (artifacts : List (Option (List Char))) :
    renew config newline ps artifacts = renew config newline' ps artifacts := by
  induction ps with
  | nil => rfl
  | cons p ps ih =>
      cases p with
      | plain l => exact congrArg (Passage.plain l :: ·) (ih h)
      | directive w => simp [writtenOf] at h

omit hlead hnewline in
/-- The text of a report has the lines of the renewed outline if newlines are all that ends them. -/
theorem Tells.lines_text {config : Config} {path : String} {source : List Char} {report : Report}
    {ps : List Passage} (h : Tells config path source report ps) (hsource : NewlineOnly source) :
    Text.lines report.text = linesOf (renew config ['\n'] ps (artifactsOf report.results)) := by
  have hparted := h.parted_text fun r _ _ => endsPlainly_of_newlineOnly fun c hc =>
    hsource c (List.mem_of_mem_take hc)
  rw [newlineOf_of_newlineOnly hsource] at hparted
  exact hparted.lines_eq.symm

theorem text_restyled {config : Config} {path : String} {source : List Char}
    {report report' : Report} (hsource : NewlineOnly source)
    (h : (regenerateSource config path source).1 = .ok report)
    (h' : (regenerateSource config path (restyled lead newline source)).1 = .ok report')
    (houtcomes : report'.outcomes = report.outcomes) :
    report'.text = restyled lead newline report.text := by
  obtain ⟨ps, htells⟩ := exists_tells h
  obtain ⟨ps', htells'⟩ := exists_tells h'
  obtain rfl := htells'.parted.unique (parted_restyled hlead hnewline hsource htells.parted)
  have hartifacts : artifactsOf report'.results = artifactsOf report.results := by
    have := congrArg (List.map Outcome.artifact?) houtcomes
    rwa [Report.outcomes, Report.outcomes, List.map_map, List.map_map] at this
  have hplain := htells.parted.plain hsource
  have hnewlines : renew config (newlineOf (restyled lead newline source))
      (ps.map (Passage.map (restyleLine lead newline))) (artifactsOf report.results) =
      renew config newline (ps.map (Passage.map (restyleLine lead newline)))
        (artifactsOf report.results) := by
    rcases hwritten : writtenOf ps with _ | ⟨w, ws⟩
    · exact renew_of_no_directives config _ _ (by rw [writtenOf_map, hwritten]; rfl) _
    · have hw : w ∈ writtenOf ps := by simp [hwritten]
      obtain ⟨row, hrow, hopener⟩ := (hplain w hw).exists_opener
      rw [newlineOf_restyled hlead hnewline hsource hrow]
      rw [← hopener, ← htells.parted.lines_eq]
      exact mem_linesOf hw (List.mem_cons_self ..)
  rw [htells'.text_eq, hartifacts, hnewlines, renew_map hlead hnewline config hplain, linesOf_map,
    restyled, htells.lines_text hsource, List.flatMap]

/-- A source and its restyled copy have the same report if all scripts are read alike. -/
theorem sameReport_restyled (config : Config) (path : String) {source : List Char}
    (hsource : NewlineOnly source)
    (hread : ∀ blocks, scan source = .ok blocks → ∀ b ∈ blocks,
      Script.compileScript (Text.dedent (restyled lead newline b.script)) =
        Script.compileScript (Text.dedent b.script)) :
    SameReport (restyled lead newline) (regenerateSource config path source).1
      (regenerateSource config path (restyled lead newline source)).1 := by
  cases hscan : scan source with
  | error b =>
      obtain ⟨b', hscan', hdefect, hlines⟩ := exists_broken_restyled hlead hnewline hsource hscan
      rw [regenerateSource, hscan, regenerateSource, hscan']
      exact SameReport.error (Broken.unplaced_escape hdefect hlines)
  | ok blocks =>
      obtain ⟨blocks', hscan', hrestyles⟩ := exists_scan_restyled hlead hnewline hsource hscan
      have hsame : List.Forall₂ (fun b b' : Block =>
          regenerate config path b'.toDirective = regenerate config path b.toDirective)
          blocks blocks' := by
        refine ((List.forall₂_and_left _ _).mpr ⟨hread blocks hscan, hrestyles⟩).imp ?_
        rintro b b' ⟨hb, hrestyle⟩
        rw [← hrestyle.script] at hb
        exact hrestyle.regenerate_eq hb config path
      have houtcomes := outcomes_regenerateSource hscan hscan' hrestyles hsame
      cases hreport : (regenerateSource config path source).1 with
      | error escape =>
          cases hreport' : (regenerateSource config path (restyled lead newline source)).1 with
          | error escape' =>
              rw [hreport, hreport'] at houtcomes
              exact SameReport.error (congrArg Escape.unplaced (Except.error.inj houtcomes))
          | ok report' => simp [hreport, hreport', Except.map] at houtcomes
      | ok report =>
          cases hreport' : (regenerateSource config path (restyled lead newline source)).1 with
          | error escape' => simp [hreport, hreport', Except.map] at houtcomes
          | ok report' =>
              rw [hreport, hreport'] at houtcomes
              have houtcomes : report'.outcomes = report.outcomes := Except.ok.inj houtcomes
              exact SameReport.ok
                (text_restyled hlead hnewline hsource hreport hreport' houtcomes) houtcomes

end

/-! ### Scripts of such a source -/

theorem exists_written_of_mem {ps : List Passage} {p : Place} {b : Block}
    (h : b ∈ blocksFrom p ps) : ∃ w ∈ writtenOf ps, b.script = w.script.flatten := by
  obtain ⟨qs, w, rs, rfl, rfl⟩ := exists_directive_of_mem h
  exact ⟨w, mem_writtenOf qs w rs, rfl⟩

theorem wholeRows_script {source : List Char} (hsource : NewlineOnly source)
    {blocks : List Block} (h : scan source = .ok blocks) : ∀ b ∈ blocks, WholeRows b.script := by
  obtain ⟨ps, hparted, rfl⟩ := scan_eq_ok_iff.mp h
  intro b hb
  obtain ⟨w, hw, hscript⟩ := exists_written_of_mem hb
  have hplain := hparted.plain hsource w hw
  rw [hscript]
  exact Text.wholeRows_flatten hplain.lined_script fun l hl =>
    hplain.newlineOnly l (by simp [Written.lines, hl])

theorem newlineOnly_text {config : Config} {path : String} {source : List Char} {report : Report}
    (hsource : NewlineOnly source)
    (h : (regenerateSource config path source).1 = .ok report) : NewlineOnly report.text := by
  -- the style of the source itself changes nothing
  have hsame : (regenerateSource config path (restyled [] ['\n'] source)).1 = .ok report := by
    rw [Text.restyled_self hsource, h]
  rw [text_restyled (by simp) (Or.inl rfl) hsource h hsame rfl]
  exact Text.newlineOnly_restyled (by simp) report.text

theorem SameReport.congr {change change' : List Char → List Char}
    {result result' : Except Escape Report} (h : SameReport change result result')
    (htext : ∀ report, result = .ok report → change' report.text = change report.text) :
    SameReport change' result result' := by
  cases h with
  | ok hreport houtcomes => exact SameReport.ok (hreport.trans (htext _ rfl).symm) houtcomes
  | error hescape => exact SameReport.error hescape

/-! ### The two styles -/

/-- Regeneration commutes with indentation of the whole source. -/
theorem regenerateSource_indented (config : Config) (path : String) {source margin : List Char}
    (hsource : NewlineOnly source) (hmargin : ∀ c ∈ margin, isIndent c = true) :
    SameReport (Text.indented margin) (regenerateSource config path source).1
      (regenerateSource config path (Text.indented margin source)).1 := by
  rw [Text.indented_eq_restyled hsource]
  have hread : ∀ blocks, scan source = .ok blocks → ∀ b ∈ blocks,
      Script.compileScript (Text.dedent (restyled margin ['\n'] b.script)) =
        Script.compileScript (Text.dedent b.script) := by
    intro blocks hscan b hb
    have hwhole := wholeRows_script hsource hscan b hb
    rw [← Text.indented_eq_restyled hwhole.newlineOnly, Text.dedent_indented hmargin hwhole]
  exact (sameReport_restyled hmargin (Or.inl rfl) config path hsource hread).congr fun report h =>
    Text.indented_eq_restyled (newlineOnly_text hsource h) margin

/-! ### Scripts with carriage returns -/

/-- The code of the text is the same if a carriage return stands before each newline. The empty
line that is read behind the last one then makes no difference; it does where an error is told at
the end of the text, or where the last line ends in a backslash. -/
def ReadsReturns (text : List Char) : Prop :=
  Script.compileScript (Text.withReturns text) = Script.compileScript text

/-- A backslash before the last newline joins its line with no other one, but with the empty one
that a carriage return brings along. -/
theorem not_readsReturns_joined : ¬ ReadsReturns "nl()\\\n".toList := by
  intro h
  have hread : (Script.compileScript (Text.withReturns "nl()\\\n".toList)).isOk = true := by
    decide +kernel
  rw [h] at hread
  exact absurd hread (by decide +kernel)

/-- Regeneration treats newlines alike with and without carriage returns, except for what a dedent
makes of blank lines: a script keeps its text if its blank lines are the margin of the others, and
only then. -/
theorem regenerateSource_withReturns (config : Config) (path : String) {source : List Char}
    (hsource : NewlineOnly source) :
    (∀ b, scan source = .error b →
      ∃ b', scan (Text.withReturns source) = .error b' ∧ b'.defect = b.defect ∧
        b'.place.lines = b.place.lines) ∧
      ∀ blocks, scan source = .ok blocks →
        (∃ blocks', scan (Text.withReturns source) = .ok blocks' ∧
          List.Forall₂ (fun b b' : Block => b'.script = Text.withReturns b.script)
            blocks blocks') ∧
        (∀ b ∈ blocks,
          Text.dedent (Text.withReturns b.script) = Text.withReturns (Text.dedent b.script) ↔
            Text.BlanksAtMargin (Text.bodies b.script)) ∧
        ((∀ b ∈ blocks, Text.BlanksAtMargin (Text.bodies b.script) ∧
            ReadsReturns (Text.dedent b.script)) →
          SameReport Text.withReturns (regenerateSource config path source).1
            (regenerateSource config path (Text.withReturns source)).1) := by
  have hlead : ∀ c ∈ ([] : List Char), isIndent c = true := by simp
  have hnewline : IsNewline ['\r', '\n'] := Or.inr rfl
  rw [Text.withReturns_eq_restyled hsource]
  refine ⟨fun b h => exists_broken_restyled hlead hnewline hsource h, ?_⟩
  intro blocks hscan
  have hwhole := wholeRows_script hsource hscan
  have hscript : ∀ b ∈ blocks, Text.withReturns b.script = restyled [] ['\r', '\n'] b.script :=
    fun b hb => Text.withReturns_eq_restyled (hwhole b hb).newlineOnly
  refine ⟨?_, fun b hb => Text.dedent_withReturns_iff (hwhole b hb), ?_⟩
  · obtain ⟨blocks', hscan', hrestyles⟩ := exists_scan_restyled hlead hnewline hsource hscan
    refine ⟨blocks', hscan', ((List.forall₂_and_left _ _).mpr ⟨hscript, hrestyles⟩).imp ?_⟩
    rintro b b' ⟨hb, hrestyle⟩
    rw [hrestyle.script, hb]
  · intro halike
    have hread : ∀ blocks', scan source = .ok blocks' → ∀ b ∈ blocks',
        Script.compileScript (Text.dedent (restyled [] ['\r', '\n'] b.script)) =
          Script.compileScript (Text.dedent b.script) := by
      intro blocks' hscan' b hb
      obtain rfl : blocks = blocks' := by
        rw [hscan] at hscan'
        exact Except.ok.inj hscan'
      obtain ⟨hblank, hreads⟩ := halike b hb
      rw [← hscript b hb, (Text.dedent_withReturns_iff (hwhole b hb)).mpr hblank]
      exact hreads
    exact (sameReport_restyled hlead hnewline config path hsource hread).congr fun report h =>
      Text.withReturns_eq_restyled (newlineOnly_text hsource h)

-- a blank line without the margin of the others keeps the margin where it ends in a return
example : ¬ Text.BlanksAtMargin (Text.bodies "  nl()\n\n  nl()\n".toList) := by decide

/-! ### A source with a blank line in its script -/

/-- A source with one directive, whose script has a blank line. -/
def blankLineSource : List Char :=
  "int a;\n/*!!\n  nl()\n  \n  nl()\n!! */\n".toList

def blankLineBlock : Block :=
  { script := "  nl()\n  \n  nl()\n".toList
    declared := none
    line := 2
    scriptLine := 3
    source := ⟨7, 35⟩
    generated := none
    closer := ⟨29, 34⟩
    insertAt := 35 }

theorem scan_blankLineSource : scan blankLineSource = .ok [blankLineBlock] := by decide +kernel

theorem regenerateSource_indented_blankLineSource :
    NewlineOnly blankLineSource ∧ (∀ c ∈ ['\t', ' '], isIndent c = true) ∧
      SameReport (Text.indented ['\t', ' ']) (regenerateSource {} "" blankLineSource).1
        (regenerateSource {} "" (Text.indented ['\t', ' '] blankLineSource)).1 :=
  have hmargin : ∀ c ∈ ['\t', ' '], isIndent c = true := by simp [isIndent]
  ⟨by decide, hmargin, regenerateSource_indented {} "" (by decide) hmargin⟩

def isBlankLineProgram : Except Script.ScriptError (List Script.Stmt) → Bool
  | .ok [.evaluate (.call 1 (.name 1 nl) []), .evaluate (.call 3 (.name 3 nl') [])] =>
      nl == "nl" && nl' == "nl"
  | _ => false

theorem eq_of_isBlankLineProgram {result result' : Except Script.ScriptError (List Script.Stmt)}
    (h : isBlankLineProgram result = true) (h' : isBlankLineProgram result' = true) :
    result = result' := by
  rw [isBlankLineProgram.eq_def] at h h'
  split at h
  · split at h'
    · simp only [Bool.and_eq_true, beq_iff_eq] at h h'
      obtain ⟨⟨rfl, rfl⟩, rfl, rfl⟩ := And.intro h h'
      rfl
    · simp at h'
  · simp at h

theorem readsReturns_blankLineBlock : ReadsReturns (Text.dedent blankLineBlock.script) :=
  eq_of_isBlankLineProgram (by decide +kernel) (by decide +kernel)

theorem regenerateSource_withReturns_blankLineSource :
    NewlineOnly blankLineSource ∧ scan blankLineSource = .ok [blankLineBlock] ∧
      Text.BlanksAtMargin (Text.bodies blankLineBlock.script) ∧
      SameReport Text.withReturns (regenerateSource {} "" blankLineSource).1
        (regenerateSource {} "" (Text.withReturns blankLineSource)).1 := by
  have hblank : Text.BlanksAtMargin (Text.bodies blankLineBlock.script) := by decide
  refine ⟨by decide, scan_blankLineSource, hblank, ?_⟩
  refine ((regenerateSource_withReturns {} "" (by decide)).2 _ scan_blankLineSource).2.2 ?_
  rw [List.forall_mem_singleton]
  exact ⟨hblank, readsReturns_blankLineBlock⟩

end Directive

end Codeweave
