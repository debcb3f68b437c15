import Codeweave.Proofs.Directive.Containment
import Codeweave.Proofs.Directive.EmptyScript
import Codeweave.Proofs.Directive.Spans
import Codeweave.Proofs.Script.CodeLines

/-!
The line that a fault is told for. The error of a script is told for the line of the source that is
as far below the first line of the script as the line of code is below the first line of code. This
is the line of the source that the line of code stands on as long as no separator stands before it
in the script; each one makes the told line too small by one.
-/

namespace Codeweave.Directive

open Script
open Text (Breaks Lined)

/-- Where a line of the script's code starts in the source. -/
def Block.codeStart (b : Block) (n : Nat) : Nat :=
  b.closer.start - ((codeLines b.script).drop (n - 1)).flatten.length

/-- The number of separators before a line of the script's code. -/
def Block.separatorsBefore (b : Block) (n : Nat) : Nat :=
  ((codeLines b.script).take (n - 1)).flatten.countP isSeparator

/-! ### Where lines of code start -/

theorem exists_around_script {source : List Char} {blocks : List Block}
    (hscan : scan source = .ok blocks) {b : Block} (hb : b ∈ blocks) :
    ∃ (before : List Line) (behind : List Char), Lined before ∧ behind ≠ [] ∧
      Breaks before.flatten (b.script ++ behind) ∧ Breaks b.script behind ∧
      source = before.flatten ++ b.script ++ behind ∧
      b.closer.start = (before.flatten ++ b.script).length ∧ b.scriptLine = before.length + 1 := by
  obtain ⟨ps, hparted, rfl⟩ := scan_eq_ok_iff.mp hscan
  obtain ⟨qs, w, rs, rfl, rfl⟩ := exists_directive_of_mem hb
  let later := w.closer :: (w.region.map Region.lines).getD [] ++ linesOf rs
  have hlines : linesOf (qs ++ .directive w :: rs) =
      (linesOf qs ++ [w.opener]) ++ (w.script ++ later) := by
    simp [later, linesOf, Passage.lines, Written.lines]
  have hlined := hparted.lined
  rw [hlines] at hlined
  obtain ⟨hbefore, hrest, hfront⟩ := Text.lined_append_iff.mp hlined
  obtain ⟨-, hlater, hmeet⟩ := Text.lined_append_iff.mp hrest
  refine ⟨linesOf qs ++ [w.opener], later.flatten, hbefore, ?_, ?_, hmeet, ?_, ?_, ?_⟩
  · have hcloser : w.closer ≠ [] := (hlater.isLine w.closer (by simp [later])).ne_nil
    simp [later, hcloser]
  · have hjoined : (w.script ++ later).flatten = w.script.flatten ++ later.flatten :=
      List.flatten_append
    rwa [hjoined] at hfront
  · rw [← hparted.flatten_eq, hlines]
    simp [Written.blockAt]
  · simp [Written.blockAt, Place.after, Nat.add_assoc]
  · simp [Written.blockAt, Place.after]
    omega

/-- A source is broken into lines above a script and at each line of code in it. -/
theorem breaks_of_codeBreaks {front above below behind : List Char}
    (hfront : Breaks front (above ++ below ++ behind)) (hbreak : CodeBreaks above below)
    (hne : below ≠ []) : Breaks front above ∧ Breaks (front ++ above) (below ++ behind) := by
  by_cases hempty : above = []
  · rw [hempty, List.nil_append] at hfront
    rw [hempty, List.append_nil]
    exact ⟨by simp [Breaks], hfront⟩
  · refine ⟨hfront.congr rfl ?_, hbreak.breaks.congr ?_ ?_⟩
    · rw [List.append_assoc, List.head?_append_of_ne_nil _ hempty]
    · exact (List.getLast?_append_of_ne_nil _ hempty).symm
    · exact (List.head?_append_of_ne_nil _ hne).symm

section

variable {source : List Char} {blocks : List Block} (hscan : scan source = .ok blocks) {b : Block}
  (hb : b ∈ blocks)

include hscan hb

theorem codeLines_dedent_script :
    List.Forall₂ IndentOf (codeLines (Text.dedent b.script)) (codeLines b.script) := by
  obtain ⟨before, behind, -, hbehind, -, hmeet, -⟩ := exists_around_script hscan hb
  exact codeLines_dedent (hmeet.isBoundary hbehind)

/-- A line of code starts where a line of the source does, which is as many lines below the first
one of the script as there are lines of code and separators before it. -/
theorem lineAt_codeStart {n : Nat} (hpos : 0 < n) (hn : n ≤ (codeLines b.script).length) :
    StartsLine source (b.codeStart n) ∧
      Span.cut ⟨b.codeStart n, b.closer.start⟩ source =
        ((codeLines b.script).drop (n - 1)).flatten ∧
      (lineAt source (b.codeStart n) : Int) = b.scriptLine + n - 1 + b.separatorsBefore n := by
  obtain ⟨before, behind, hbefore, -, hfront, -, hsource, hcloser, hline⟩ :=
    exists_around_script hscan hb
  obtain ⟨above, below, hscript, habove, hbelow, hne, hbreak⟩ :=
    exists_codeLines_take b.script (k := n - 1) (by omega)
  have hseparators : b.separatorsBefore n = above.countP isSeparator := by
    rw [Block.separatorsBefore, ← habove, flatten_codeLines]
  have hstart : b.codeStart n = (before.flatten ++ above).length := by
    rw [Block.codeStart, ← hbelow, hcloser, hscript]
    simp only [List.length_append]
    omega
  have htext : source = before.flatten ++ above ++ (below ++ behind) := by
    rw [hsource, hscript]
    simp only [List.append_assoc]
  rw [hscript] at hfront
  obtain ⟨hfirst, hmeet⟩ := breaks_of_codeBreaks hfront hbreak hne
  refine ⟨?_, ?_, ?_⟩
  · rw [StartsLine, hstart, htext, List.take_left, List.drop_left, Text.lines_append hmeet]
  · rw [← hbelow]
    refine cut_of_eq (before.flatten ++ above) behind ?_ hstart ?_
    · rw [htext, List.append_assoc _ below]
    · rw [hcloser, hscript, ← List.length_append, List.append_assoc]
  · have hlength := length_lines (isLineEnd_of_codeBreaks hbreak hne)
    rw [habove, List.length_take] at hlength
    rw [lineAt, hstart, htext, List.take_left, Text.lines_append hfirst, List.length_append,
      hbefore.lines_flatten, hlength, hseparators, hline]
    omega

end

/-! ### Faults and their lines -/

theorem isTrue_of_integer? {w : World} {v : Value} {n : Int} (hinteger : v.integer? = some n)
    (hn : n ≠ 0) : w.isTrue v = true := by
  cases v with
  | bool b => cases b <;> simp_all [Value.integer?, Value.number?, World.isTrue]
  | integer k =>
      obtain rfl : k = n := by simpa [Value.integer?, Value.number?] using hinteger
      simpa [World.isTrue] using hn
  | _ => simp [Value.integer?, Value.number?] at hinteger

theorem isSaid_of_number? {w : World} {told : LineTold} {n : Int} (hnumber : told.number? = some n)
    (hn : n ≠ 0) : told.isSaid w = true := by
  cases told with
  | said line => exact isTrue_of_integer? hnumber hn
  | passed line? =>
      obtain ⟨k, rfl, rfl⟩ := Option.map_eq_some_iff.mp hnumber
      simpa [LineTold.isSaid, Nat.pos_iff_ne_zero] using hn

theorem tellLine_of_number? {d : Directive} {w : World} {told : LineTold} {n line : Int}
    (h : tellLine d w told = .ok line) (hnumber : told.number? = some n) (hn : n ≠ 0) :
    line = d.scriptLine + n - 1 := by
  have hsaid := isSaid_of_number? (w := w) hnumber hn
  cases told with
  | passed line? =>
      simp only [LineTold.number?] at hnumber
      rw [tellLine, if_pos hsaid, hnumber, Except.ok.injEq] at h
      exact h.symm
  | said v =>
      simp only [LineTold.number?] at hnumber
      rw [tellLine, if_pos hsaid, tellSaid, hnumber] at h
      simp only [writableLine] at h
      split at h
      · exact (Except.ok.inj h).symm
      · simp at h

theorem line_of_stopFault {label : String} {d : Directive} {w : World} {e : Raised} {fault : Fault}
    {n : Int} (h : stopFault label d w (.raised e) = .ok fault)
    (hnumber : (toldLine (scriptFile label) w e).number? = some n) (hn : n ≠ 0) :
    fault.line = some (d.scriptLine + n - 1) := by
  rw [stopFault] at h
  cases hblame : blame w e.problem with
  | error escape => simp [hblame, bind, Except.bind] at h
  | ok held =>
      cases hline : tellLine d w (toldLine (scriptFile label) w e) with
      | error escape => simp [hblame, hline, bind, Except.bind] at h
      | ok line =>
          simp only [hblame, hline, bind, Except.bind, Except.ok.injEq] at h
          rw [← h, tellLine_of_number? hline hnumber hn]

theorem exists_outcome_of_ending {config : Config} {path : String} {d : Directive} {stop : Stop}
    {w : World} {fault : Fault} (hending : ending? config path d = some (.error stop, w))
    (hfault : stopFault (labelOf path d) d w stop = .ok fault) :
    ∃ outcome, (regenerate config path d).1 = .ok outcome ∧ outcome.fault? = some fault := by
  rw [ending?] at hending
  split at hending
  · simp at hending
  · rename_i hruns
    split at hending
    · simp at hending
    · rename_i program hprogram
      have hrun : runFrom (World.start config.width (labelOf path d) config.memory)
          (runProgram program) =
          (.error stop, w) := Option.some.inj hending
      have hwith : ∀ warnings, (regenerateWith config path warnings d).1 =
          .ok ⟨.error fault, warnings, 0⟩ := by
        intro warnings
        rw [regenerateWith, runScript, ← labelOf, hprogram]
        simp only [hrun, hfault, Except.map]
      rw [regenerate]
      cases hdrift : drift? config d with
      | none => exact ⟨_, hwith [], rfl⟩
      | some drift =>
          have hpasses : driftFails config = false := by simpa [hdrift] using hruns
          simp only [hpasses, Bool.false_eq_true, if_false]
          exact ⟨_, hwith [drift], rfl⟩

/-- What is read of a script has the lines of code that the script has, without some of their
indentation. The error of a script is told for the line of the source that is as far below the
first line of the script as the line of code that it is told for is below the first line of code. A
line of code stands on the told line exactly if the line of code that the error is told for comes
later than it by the number of separators before it: this line itself, exactly if no separator
stands before it. -/
theorem faultLine_eq_iff {source : List Char} {blocks : List Block}
    (hscan : scan source = .ok blocks) {b : Block} (hb : b ∈ blocks) :
    let code := Text.dedent b.script
    ('\r' ∉ Lexer.normaliseEnds code ∧
      codeLines (Lexer.normaliseEnds code) = (codeLines code).map Lexer.normaliseEnds) ∧
    List.Forall₂ IndentOf (codeLines code) (codeLines b.script) ∧
    (∀ n, 0 < n → n ≤ (codeLines b.script).length →
      StartsLine source (b.codeStart n) ∧
      Span.cut ⟨b.codeStart n, b.closer.start⟩ source =
        ((codeLines b.script).drop (n - 1)).flatten ∧
      (lineAt source (b.codeStart n) : Int) = b.scriptLine + n - 1 + b.separatorsBefore n) ∧
    ∀ config path e w n,
      ending? config path b.toDirective = some (.error (.raised e), w) →
      Containable (labelOf path b.toDirective) b.toDirective w (.error (.raised e)) →
      (toldLine (scriptFile (labelOf path b.toDirective)) w e).number? = some n → n ≠ 0 →
      ∃ outcome fault, (regenerate config path b.toDirective).1 = .ok outcome ∧
        outcome.fault? = some fault ∧ fault.line = some (b.scriptLine + n - 1) ∧
        ∀ m, 0 < m → m ≤ (codeLines b.script).length →
          (fault.line = some (lineAt source (b.codeStart m) : Int) ↔
            n = m + b.separatorsBefore m) := by
  intro code
  refine ⟨⟨not_mem_normaliseEnds code, codeLines_normaliseEnds code⟩,
    codeLines_dedent_script hscan hb, fun n => lineAt_codeStart hscan hb, ?_⟩
  intro config path e w n hending hcontainable htold hn
  obtain ⟨fault, hfault⟩ := exists_stopFault_eq_ok_iff.mpr hcontainable
  obtain ⟨outcome, hregenerate, houtcome⟩ := exists_outcome_of_ending hending hfault
  have hline : fault.line = some (b.scriptLine + n - 1) := line_of_stopFault hfault htold hn
  refine ⟨outcome, fault, hregenerate, houtcome, hline, ?_⟩
  intro m hpos hm
  obtain ⟨-, -, hat⟩ := lineAt_codeStart hscan hb hpos hm
  rw [hline, hat, Option.some.injEq]
  omega

/-! ### A form feed in a comment -/

/-- A source whose script reads a name that is not there, behind a comment with a form feed. -/
def feedSource : List Char :=
  "/*!!\n#\x0c\nx\n!! */\n".toList

def feedBlock : Block :=
  { script := "#\x0c\nx\n".toList
    declared := none
    source := ⟨0, 16⟩
    generated := none
    closer := ⟨10, 15⟩
    insertAt := 16 }

def feedError : Raised :=
  { problem := .plain .undefinedName [.text "name 'x' is not defined"] (some (.name (.text "x")))
    frames := [.script 2] }

def isFeedProgram : Except ScriptError (List Stmt) → Bool
  | .ok [.evaluate (.name 2 name)] => name == "x"
  | _ => false

theorem eq_of_isFeedProgram {result : Except ScriptError (List Stmt)}
    (h : isFeedProgram result = true) : result = .ok [.evaluate (.name 2 "x")] := by
  rw [isFeedProgram.eq_def] at h
  split at h
  · obtain rfl := beq_iff_eq.mp h
    rfl
  · simp at h

theorem runFrom_feedProgram (label : String) :
    runFrom (World.start 4 label) (runProgram [.evaluate (.name 2 "x")]) =
      (.error (.raised feedError), World.start 4 label) := by
  with_unfolding_all rfl

theorem ending?_feedBlock :
    ending? {} "" feedBlock.toDirective =
      some (.error (.raised feedError), World.start 4 (labelOf "" feedBlock.toDirective)) := by
  have hlabel : (labelOf "" feedBlock.toDirective).toList.contains '\x00' = false :=
    contains_null_label (by decide) 0
  have hprogram : compileLabelled (labelOf "" feedBlock.toDirective)
      (Text.dedent feedBlock.script) = .ok [.evaluate (.name 2 "x")] := by
    rw [compileLabelled, hlabel]
    exact eq_of_isFeedProgram (by decide +kernel)
  rw [ending?, hprogram]
  exact congrArg some (runFrom_feedProgram _)

theorem containable_feedError (path : String) :
    Containable (labelOf path feedBlock.toDirective) feedBlock.toDirective
      (World.start 4 (labelOf path feedBlock.toDirective)) (.error (.raised feedError)) := by
  refine ⟨⟨by decide, ?_⟩, fun line hline => nomatch hline⟩
  rintro phrase hphrase
  obtain rfl := List.mem_singleton.mp hphrase
  exact ⟨_, rfl⟩

/-- Behind a form feed in a comment, an error on the fourth line of the source is told for the
third. -/
theorem faultLine_feedSource :
    scan feedSource = .ok [feedBlock] ∧
      lineAt feedSource (feedBlock.codeStart 2) = 4 ∧
      ∃ outcome fault, (regenerate {} "" feedBlock.toDirective).1 = .ok outcome ∧
        outcome.fault? = some fault ∧ scriptLine? feedError.frames = some 2 ∧
        fault.line = some 3 := by
  have hscan : scan feedSource = .ok [feedBlock] := by decide +kernel
  obtain ⟨-, -, hlines, hfaults⟩ := faultLine_eq_iff hscan (List.mem_singleton_self _)
  obtain ⟨outcome, fault, hregenerate, hfault, hline, -⟩ :=
    hfaults {} "" feedError _ 2 ending?_feedBlock (containable_feedError "") rfl (by decide)
  refine ⟨hscan, ?_, outcome, fault, hregenerate, hfault, rfl, hline⟩
  obtain ⟨-, -, hat⟩ := hlines 2 (by decide) (by decide +kernel)
  have hseparators : feedBlock.separatorsBefore 2 = 1 := by decide +kernel
  rw [hseparators] at hat
  exact Int.ofNat_inj.mp hat

end Codeweave.Directive
