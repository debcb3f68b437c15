import Codeweave.Proofs.Directive.SplicedOutput
import Codeweave.Proofs.Script.Writing

/-!
The page that steps of a render fill. It records each line by the level at which it was started and
the text written on it, and only printing turns the level into an indentation. An output whose lines
all have an indentation that a line can be given is such a page in print.
-/

namespace Codeweave.Script

open Text (behind)

/-- Why nothing is unindented at level zero. -/
def levelZeroStop : Stop :=
  .raised { problem := .fault { cause := .levelZero } {}, frames := [.host] }

/-- A line of a page: the level at which it was started, and the text written on it. -/
structure Record where
  level : Nat := 0
  text : List Char := []
deriving Repr, DecidableEq

/-- A record in print: its text behind the indentation of its level, or nothing at all if there is
no text. -/
def Record.printed (width : Int) (r : Record) : List Char :=
  behind (spaces (width * r.level)) r.text

/-- The lines that are finished, the line being written and the level of the lines to come. -/
structure Page where
  above : List Record := []
  current : Record := {}
  level : Nat := 0
deriving Repr, DecidableEq

namespace Page

def records (p : Page) : List Record :=
  p.above ++ [p.current]

def startLine (p : Page) : Page :=
  { p with above := p.records, current := { level := p.level } }

/-- A page with one character more. A newline starts a line. -/
def put (p : Page) (c : Char) : Page :=
  if c = '\n' then p.startLine
  else { p with current := { p.current with text := p.current.text ++ [c] } }

/-- A page after a step of a render. At level zero there is no way to unindent it. -/
def after (p : Page) : Step → Page
  | .writeText text => text.toList.foldl put p
  | .newline => p.startLine
  | .indent => { p with level := p.level + 1 }
  | .unindent => { p with level := p.level - 1 }
  | _ => p

def afterAll (p : Page) (steps : List Step) : Page :=
  steps.foldl after p

/-- What a step of a render gives on a page: nothing, unless it unindents at level zero. -/
def answer (p : Page) : Step → Except Stop Value
  | .unindent => if p.level = 0 then .error levelZeroStop else .ok .none
  | _ => .ok .none

/-- What each of some steps gives on a page. -/
def answers : Page → List Step → List (Except Stop Value)
  | _, [] => []
  | p, s :: steps => p.answer s :: (p.after s).answers steps

def levels (p : Page) : List Nat :=
  p.records.map Record.level

end Page

def Step.isUnindent : Step → Bool
  | .unindent => true
  | _ => false

def Step.isIndent : Step → Bool
  | .indent => true
  | _ => false

/-- How many of the steps unindent the output. -/
def unindents (m : Machine) (w : World) (steps : List Step) : Nat :=
  (steps.zip (answers m w steps)).countP fun done => done.1.isUnindent && done.2.isOk

/-- The output is the page in print. -/
structure Prints (width : Int) (b : Builder) (p : Page) : Prop where
  lines : b.lines = p.above.map (Record.printed width)
  lead : b.lead = spaces (width * p.current.level)
  pending : b.pending = p.current.text
  level : b.level = p.level
  width : b.width = width

/-! ### Levels of lines -/

namespace Page

variable (p : Page)

theorem levels_startLine : p.startLine.levels = p.levels ++ [p.level] := by
  simp [levels, records, startLine]

theorem level_put (c : Char) : (p.put c).level = p.level := by
  rw [put]
  split <;> rfl

theorem levels_put (c : Char) :
    (p.put c).levels = p.levels ++ if c = '\n' then [p.level] else [] := by
  rw [put]
  split
  · exact p.levels_startLine
  · simp [levels, records]

theorem level_foldl_put (text : List Char) : (text.foldl put p).level = p.level := by
  induction text generalizing p with
  | nil => rfl
  | cons c text ih => rw [List.foldl_cons, ih, level_put]

theorem levels_foldl_put (text : List Char) :
    (text.foldl put p).levels = p.levels ++ List.replicate (text.count '\n') p.level := by
  induction text generalizing p with
  | nil => simp
  | cons c text ih =>
      rw [List.foldl_cons, ih, levels_put, level_put, List.append_assoc]
      by_cases hc : c = '\n'
      · subst hc
        rw [if_pos rfl, List.count_cons_self, List.replicate_succ, List.singleton_append]
      · rw [if_neg hc, List.count_cons_of_ne hc, List.nil_append]

theorem level_after (s : Step) : (p.after s).level = levelAfter p.level s := by
  cases s with
  | writeText text => exact p.level_foldl_put text.toList
  | newline | indent | unindent | write | content | finish | currentLine | emit => rfl

theorem levels_after (s : Step) : (p.after s).levels = p.levels ++ startedBy p.level s := by
  cases s with
  | writeText text => exact p.levels_foldl_put text.toList
  | newline => exact p.levels_startLine
  | indent | unindent | write | content | finish | currentLine | emit =>
      exact (List.append_nil _).symm

/-- The lines of a page keep their levels, and steps start others at the levels they come to. -/
theorem levels_afterAll (steps : List Step) :
    (p.afterAll steps).levels = p.levels ++ startLevels p.level steps := by
  induction steps generalizing p with
  | nil => exact (List.append_nil _).symm
  | cons s steps ih =>
      have hstep : p.afterAll (s :: steps) = (p.after s).afterAll steps := rfl
      rw [hstep, ih, levels_after, level_after, startLevels, List.append_assoc]

theorem forall_mem_records {q : Nat → Prop} :
    (∀ r ∈ p.records, q r.level) ↔ ∀ level ∈ p.levels, q level := by
  rw [levels, List.forall_mem_map]

end Page

/-! ### Printing -/

theorem writeText_nil (b : Builder) : b.writeText [] = b := by
  rw [Builder.writeText, Text.rows]
  simp [Builder.write]

theorem writeText_newline (b : Builder) (text : List Char) :
    b.writeText ('\n' :: text) = b.newline.writeText text := by
  obtain ⟨first, rest, hrows, -⟩ := Text.exists_rows text
  rw [Builder.writeText, Builder.writeText, Text.rows, if_pos (by simp), hrows]
  simp [Builder.write, Builder.newline, Builder.flushedLine, Builder.currentLine, Builder.nextLead]

theorem writeText_cons {c : Char} (hc : c ≠ '\n') (b : Builder) (text : List Char) :
    b.writeText (c :: text) = (b.write [c]).writeText text := by
  obtain ⟨first, rest, hrows, -⟩ := Text.exists_rows text
  rw [Builder.writeText, Builder.writeText, Text.rows, if_neg (by simpa using hc), hrows]
  simp [Text.consHead, Builder.write]

namespace Prints

theorem fresh (width : Int) : Prints width (Builder.fresh width) {} :=
  ⟨rfl, by simp [spaces, Builder.fresh], rfl, rfl, rfl⟩

variable {width : Int} {b : Builder} {p : Page} (h : Prints width b p)

include h

theorem flushedLine : b.flushedLine = p.current.printed width := by
  rw [flushedLine_eq, h.lead, h.pending]
  rfl

theorem printed : b.lines ++ [b.flushedLine] = p.records.map (Record.printed width) := by
  rw [h.lines, h.flushedLine, Page.records, List.map_append]
  rfl

theorem nextLead : b.nextLead = width * p.level := by
  rw [Builder.nextLead, h.width, h.level]

theorem newline : Prints width b.newline p.startLine :=
  ⟨h.printed, congrArg spaces h.nextLead, rfl, h.level, h.width⟩

theorem writeText (text : List Char) :
    Prints width (b.writeText text) (text.foldl Page.put p) := by
  induction text generalizing b p with
  | nil => rwa [writeText_nil]
  | cons c text ih =>
      rw [List.foldl_cons, Page.put]
      by_cases hc : c = '\n'
      · subst hc
        rw [if_pos rfl, writeText_newline]
        exact ih h.newline
      · rw [if_neg hc, writeText_cons hc]
        exact ih ⟨h.lines, h.lead, congrArg (· ++ [c]) h.pending, h.level, h.width⟩

end Prints

/-! ### Steps -/

section

variable {m : Machine} {w : World} {width : Int} {p : Page}

theorem after?_unindent {memory : Memory} {b : Builder} {level : Nat} (h : b.level = level + 1) :
    after? memory b .unindent = some { b with level := level } := by
  rw [after?, Builder.unindent?, h]

theorem runFrom_unindent_of_zero (h : w.builder.level = 0) :
    runFrom w (Step.unindent.run m) = (.error levelZeroStop, w) := by
  rw [Step.run, unindentOutput, runFrom_bind, runFrom_bind, runFrom_get]
  simp only [Builder.unindent?, h]
  rfl

/-- A step does to the output what it does to the page, if the lines that it starts fit. -/
theorem exists_step_eq (h : Prints width w.builder p) {s : Step} (hs : s.isRender = true)
    (hfits : ∀ level ∈ startedBy p.level s, Fits w.memory (width * level)) :
    ∃ b, runFrom w (s.run m) = (p.answer s, w.on b) ∧ Prints width b (p.after s) := by
  cases s with
  | writeText text =>
      rw [forall_mem_startedBy_writeText, ← h.nextLead] at hfits
      exact ⟨_, runFrom_step (by rw [after?, if_pos hfits]), h.writeText text.toList⟩
  | newline =>
      rw [startedBy, List.forall_mem_singleton, ← h.nextLead] at hfits
      exact ⟨_, runFrom_step (by rw [after?, if_pos hfits]), h.newline⟩
  | indent =>
      exact ⟨_, runFrom_step rfl, h.lines, h.lead, h.pending, congrArg (· + 1) h.level, h.width⟩
  | unindent =>
      by_cases hzero : p.level = 0
      · refine ⟨w.builder, ?_, h.lines, h.lead, h.pending, ?_, h.width⟩
        · rw [Page.answer, if_pos hzero]
          exact runFrom_unindent_of_zero (h.level.trans hzero)
        · rw [h.level, Page.after, hzero]
      · obtain ⟨level, hlevel⟩ := Nat.exists_eq_succ_of_ne_zero hzero
        refine ⟨{ w.builder with level := level }, ?_, h.lines, h.lead, h.pending, ?_, h.width⟩
        · rw [Page.answer, if_neg hzero]
          exact runFrom_step (after?_unindent (h.level.trans hlevel))
        · rw [Page.after, hlevel]
          rfl
  | write | content | finish | currentLine | emit => simp [Step.isRender] at hs

/-- A step that starts a line that does not fit stops, and on the page it does not. -/
theorem step_ne_answer (h : Prints width w.builder p) {s : Step} (hs : s.isRender = true)
    (hfits : ¬ ∀ level ∈ startedBy p.level s, Fits w.memory (width * level)) :
    (runFrom w (s.run m)).1 ≠ p.answer s := by
  have hstops : after? w.memory w.builder s = none → p.answer s = .ok .none →
      (runFrom w (s.run m)).1 ≠ p.answer s := by
    intro hafter hanswer
    obtain ⟨stop, w', hstop⟩ := exists_step_stop (m := m) hs hafter
    rw [hstop, hanswer]
    simp
  cases s with
  | writeText text =>
      rw [forall_mem_startedBy_writeText, ← h.nextLead] at hfits
      exact hstops (by rw [after?, if_neg hfits]) rfl
  | newline =>
      rw [startedBy, List.forall_mem_singleton, ← h.nextLead] at hfits
      exact hstops (by rw [after?, if_neg hfits]) rfl
  | indent | unindent | write | content | finish | currentLine | emit =>
      exact absurd (List.forall_mem_nil _) hfits

/-- Steps give what they give on the page as long as every line that they start fits, and then the
output is the page in print. -/
theorem answers_eq_iff_fits (h : Prints width w.builder p) {steps : List Step}
    (hsteps : ∀ s ∈ steps, s.isRender = true) :
    (answers m w steps = p.answers steps ↔
      ∀ level ∈ startLevels p.level steps, Fits w.memory (width * level)) ∧
    ((∀ level ∈ startLevels p.level steps, Fits w.memory (width * level)) →
      Prints width (doneAll m w steps).builder (p.afterAll steps)) := by
  induction steps generalizing w p with
  | nil => exact ⟨by simp [answers, Page.answers, startLevels], fun _ => h⟩
  | cons s steps ih =>
      rw [List.forall_mem_cons] at hsteps
      rw [startLevels, List.forall_mem_append, answers, Page.answers, ← Page.level_after,
        List.cons.injEq]
      by_cases hfits : ∀ level ∈ startedBy p.level s, Fits w.memory (width * level)
      · obtain ⟨b, hrun, hprints⟩ := exists_step_eq (m := m) h hsteps.1 hfits
        obtain ⟨hanswers, hpage⟩ := ih (w := w.on b) hprints hsteps.2
        have hdone : doneAll m w (s :: steps) = doneAll m (w.on b) steps := by
          rw [doneAll, List.foldl_cons, hrun]
          rfl
        rw [hrun, hdone]
        exact ⟨and_congr (iff_of_true rfl hfits) hanswers, fun hall => hpage hall.2⟩
      · have hanswer := step_ne_answer (m := m) h hsteps.1 hfits
        exact ⟨iff_of_false (fun heq => hanswer heq.1) (fun hall => hfits hall.1),
          fun hall => absurd hall.1 hfits⟩

end

/-! ### Levels of outputs -/

section

variable {m : Machine} {w : World}

/-- A line is started on the current output, at the level that it has. -/
theorem exists_on_newlineOutput :
    ∃ b, (runFrom w newlineOutput).2 = w.on b ∧ b.level = w.builder.level := by
  rw [runFrom_newlineOutput]
  split
  · exact ⟨_, rfl, rfl⟩
  · exact ⟨_, rfl, rfl⟩

theorem exists_on_writeOutput (text : List Char) :
    ∃ b, (runFrom w (writeOutput text)).2 = w.on b ∧ b.level = w.builder.level := by
  induction text generalizing w with
  | nil =>
      rw [writeOutput_nil]
      exact ⟨w.builder, rfl, rfl⟩
  | cons c text ih =>
      by_cases hc : c = '\n'
      · subst hc
        obtain ⟨b, hb, hlevel⟩ := exists_on_newlineOutput (w := w)
        rw [writeOutput_newline, runFrom_bind]
        rcases hrun : runFrom w newlineOutput with ⟨stop | _, w'⟩ <;> rw [hrun] at hb
        · exact ⟨b, hb, hlevel⟩
        · obtain rfl : w' = w.on b := hb
          obtain ⟨b', hb', hlevel'⟩ := ih (w := w.on b)
          exact ⟨b', hb', hlevel'.trans hlevel⟩
      · rw [writeOutput_cons hc, runFrom_bind, runFrom_change]
        exact ih (w := w.on (w.builder.write [c]))

/-- Indents raise the level by one, unindents that succeed lower it by one, and no other step of a
render changes it, whether or not it succeeds. -/
theorem level_step {s : Step} (hs : s.isRender = true) :
    (runFrom w (s.run m)).2.builder.level +
        (if s.isUnindent && (runFrom w (s.run m)).1.isOk then 1 else 0) =
      w.builder.level + (if s.isIndent then 1 else 0) := by
  cases s with
  | writeText text =>
      obtain ⟨b, hb, hlevel⟩ := exists_on_writeOutput (w := w) text.toList
      rw [Step.run, state_runFrom_bind_pure, hb, World.builder_on, hlevel]
      rfl
  | newline =>
      obtain ⟨b, hb, hlevel⟩ := exists_on_newlineOutput (w := w)
      rw [Step.run, state_runFrom_bind_pure, hb, World.builder_on, hlevel]
      rfl
  | indent => rfl
  | unindent =>
      cases hlevel : w.builder.level with
      | zero =>
          rw [runFrom_unindent_of_zero hlevel, hlevel]
          rfl
      | succ level =>
          rw [runFrom_step (after?_unindent hlevel)]
          rfl
  | write | content | finish | currentLine | emit => simp [Step.isRender] at hs

theorem memory_step {s : Step} (hs : s.isRender = true) :
    (runFrom w (s.run m)).2.memory = w.memory := by
  cases s with
  | writeText text =>
      obtain ⟨b, hb, -⟩ := exists_on_writeOutput (w := w) text.toList
      rw [Step.run, state_runFrom_bind_pure, hb]
      rfl
  | newline =>
      obtain ⟨b, hb, -⟩ := exists_on_newlineOutput (w := w)
      rw [Step.run, state_runFrom_bind_pure, hb]
      rfl
  | indent => rfl
  | unindent =>
      cases hlevel : w.builder.level with
      | zero => rw [runFrom_unindent_of_zero hlevel]
      | succ level =>
          rw [runFrom_step (after?_unindent hlevel)]
          rfl
  | write | content | finish | currentLine | emit => simp [Step.isRender] at hs

theorem memory_doneAll {steps : List Step} (hsteps : ∀ s ∈ steps, s.isRender = true) :
    (doneAll m w steps).memory = w.memory := by
  induction steps generalizing w with
  | nil => rfl
  | cons s steps ih =>
      rw [List.forall_mem_cons] at hsteps
      exact (ih hsteps.2).trans (memory_step hsteps.1)

theorem level_doneAll {steps : List Step} (hsteps : ∀ s ∈ steps, s.isRender = true) :
    (doneAll m w steps).builder.level + unindents m w steps =
      w.builder.level + steps.countP Step.isIndent := by
  induction steps generalizing w with
  | nil => rfl
  | cons s steps ih =>
      rw [List.forall_mem_cons] at hsteps
      have hstep := level_step (m := m) (w := w) hsteps.1
      have hrest := ih (w := (runFrom w (s.run m)).2) hsteps.2
      have hdone : doneAll m w (s :: steps) = doneAll m (runFrom w (s.run m)).2 steps := rfl
      have hunindents : unindents m w (s :: steps) =
          unindents m (runFrom w (s.run m)).2 steps +
            if s.isUnindent && (runFrom w (s.run m)).1.isOk then 1 else 0 := by
        rw [unindents, answers, List.zip_cons_cons, List.countP_cons, unindents]
      rw [hdone, hunindents, List.countP_cons]
      omega

end

/-! ### Finishing -/

section

variable {m : Machine} {w : World}

theorem content_of_pending_eq_nil {b : Builder} (h : b.pending = []) :
    b.content = b.flushedText := by
  rw [Builder.content, flushedLine_eq, h]
  exact Text.unrows_concat_nil b.lines

theorem content_newline (b : Builder) : b.newline.content = b.content ++ ['\n'] := by
  rw [content_of_pending_eq_nil (b := b.newline) rfl]
  exact Text.terminated_eq_unrows (by simp [Builder.newline])

theorem exists_flushedOutput_eq (w : World) :
    ∃ w', runFrom w Directive.flushedOutput = (.ok w.builder.flushedText, w') ∧
      w'.builder = w.builder := by
  obtain ⟨artifact, hartifact⟩ := Directive.exists_flushedOutput_eq_ok w
  have hrun : runFrom w Directive.flushedOutput =
      (.ok artifact, (runFrom w Directive.flushedOutput).2) := Prod.ext hartifact rfl
  obtain ⟨hbuilder, htext⟩ := Directive.flushedOutput_eq_ok hrun
  exact ⟨_, htext ▸ hrun, hbuilder⟩

theorem exists_finish_of_pending_eq_nil (h : w.builder.pending = []) :
    ∃ w', runFrom w (Step.finish.run m) = (.ok (.text (String.ofList w.builder.content)), w') ∧
      w'.builder = w.builder := by
  obtain ⟨w', hrun, hbuilder⟩ := exists_flushedOutput_eq w
  refine ⟨w', ?_, hbuilder⟩
  rw [Step.run, runFrom_bind, Directive.finishOutput_eq, runFrom_bind, runFrom_get]
  simp only [h, List.isEmpty_nil, if_true, hrun]
  rw [content_of_pending_eq_nil h]
  rfl

/-- Finishing a line that is under way starts another one. -/
theorem exists_finish_of_fits (h : w.builder.pending ≠ [])
    (hfits : Fits w.memory w.builder.nextLead) :
    ∃ w', runFrom w (Step.finish.run m) =
        (.ok (.text (String.ofList (w.builder.content ++ ['\n']))), w') ∧
      w'.builder = w.builder.newline := by
  obtain ⟨w', hrun, hbuilder⟩ := exists_flushedOutput_eq (w.on w.builder.newline)
  refine ⟨w', ?_, hbuilder⟩
  have hempty : w.builder.pending.isEmpty = false := by simpa using h
  rw [Step.run, runFrom_bind, Directive.finishOutput_eq, runFrom_bind, runFrom_get]
  simp only [hempty, Bool.false_eq_true, if_false]
  rw [runFrom_bind, runFrom_newlineOutput, if_pos hfits]
  simp only [hrun]
  rw [← content_newline, content_of_pending_eq_nil (b := w.builder.newline) rfl]
  rfl

/-- Finishing gives what was written, with a newline behind text that is under way, and finishing
again gives the same. Only a line that does not fit behind such a text keeps it from that. -/
theorem answers_finish (m : Machine) (w : World) :
    let text := Value.text (String.ofList
      (w.builder.content ++ if w.builder.pending = [] then [] else ['\n']))
    answers m w [.finish, .finish] = [.ok text, .ok text] ↔
      (w.builder.pending ≠ [] → Fits w.memory w.builder.nextLead) := by
  simp only [answers]
  by_cases hpending : w.builder.pending = []
  · obtain ⟨w', hfirst, hbuilder⟩ := exists_finish_of_pending_eq_nil (m := m) hpending
    obtain ⟨w'', hagain, -⟩ := exists_finish_of_pending_eq_nil (m := m) (hbuilder ▸ hpending)
    rw [hfirst, hagain, hbuilder, if_pos hpending, List.append_nil]
    simp [hpending]
  · rw [if_neg hpending]
    by_cases hfits : Fits w.memory w.builder.nextLead
    · obtain ⟨w', hfirst, hbuilder⟩ := exists_finish_of_fits (m := m) hpending hfits
      have hnone : w'.builder.pending = [] := by
        rw [hbuilder]
        rfl
      obtain ⟨w'', hagain, -⟩ := exists_finish_of_pending_eq_nil (m := m) hnone
      rw [hfirst, hagain, hbuilder, content_newline]
      simp [hfits]
    · have hempty : w.builder.pending.isEmpty = false := by simpa using hpending
      have hstop : (runFrom w (Step.finish.run m)).1 = .error (leadStop w.builder.nextLead) := by
        rw [Step.run, runFrom_bind, Directive.finishOutput_eq, runFrom_bind, runFrom_get]
        simp only [hempty, Bool.false_eq_true, if_false]
        rw [runFrom_bind, runFrom_newlineOutput, if_neg hfits]
      rw [hstop]
      simp [hpending, hfits]

end

/-! ### Outputs and pages -/

theorem perform_writeText (m : Machine) (text : String) (steps : List Step) :
    perform m (.writeText text :: steps) =
      writeOutput text.toList >>= fun _ => perform m steps := by
  have hcons : perform m (.writeText text :: steps) =
      ((writeOutput text.toList >>= fun _ => pure Value.none) >>= fun _ => pure ()) >>= fun _ =>
        perform m steps := rfl
  rw [hcons, bind_assoc, bind_assoc]
  rfl

/-- An output on which render steps were done is a page in print, as long as every line of the page
has an indentation that a line can be given. Whatever the steps, no flushed line holds a newline,
and the level is the number of indents without that of the unindents that succeeded. -/
theorem output_prints_iff_fits {m : Machine} {w : World} {width : Int} {steps : List Step}
    (hsteps : ∀ s ∈ steps, s.isRender = true) :
    let start := w.on (Builder.fresh width)
    let done := doneAll m start steps
    let b := done.builder
    let page := Page.afterAll {} steps
    let lines := page.records.map (Record.printed width)
    let finished := Value.text (String.ofList
      (b.content ++ if b.pending = [] then [] else ['\n']))
    (answers m start steps = Page.answers {} steps ∧ b.lines ++ [b.flushedLine] = lines ∧
        b.currentLine = spaces (width * page.current.level) ++ page.current.text ∧
        b.level = page.level ∧
        answers m done [.content] = [.ok (.text (String.ofList (Text.unrows lines)))] ↔
      ∀ r ∈ page.records, Fits w.memory (width * r.level)) ∧
    (∀ l ∈ b.lines, '\n' ∉ l) ∧
    b.level + unindents m start steps = steps.countP Step.isIndent ∧
    (answers m done [.finish, .finish] = [.ok finished, .ok finished] ↔
      (b.pending ≠ [] → Fits w.memory b.nextLead)) ∧
    ∀ (v : World) (text more : String),
      runFrom v (perform m [.writeText text, .writeText more]) =
        runFrom v (perform m [.writeText (text ++ more)]) := by
  intro start done b page lines finished
  have hfresh : Prints width start.builder {} := Prints.fresh width
  obtain ⟨hanswers, hprints⟩ := answers_eq_iff_fits (m := m) hfresh hsteps
  have hlevels : (∀ r ∈ page.records, Fits w.memory (width * r.level)) ↔
      ∀ level ∈ startLevels 0 steps, Fits w.memory (width * level) := by
    have hfirst : Fits w.memory (width * (0 : Nat)) := by
      have hpos := w.memory.bound_pos
      rw [Int.natCast_zero, Int.mul_zero, Fits]
      omega
    rw [page.forall_mem_records (q := fun level => Fits w.memory (width * level)),
      Page.levels_afterAll,
      List.forall_mem_append]
    exact ⟨fun h => h.2, fun h => ⟨List.forall_mem_singleton.mpr hfirst, h⟩⟩
  have hmemory : done.memory = w.memory := memory_doneAll hsteps
  have hfinish := answers_finish m done
  rw [hmemory] at hfinish
  refine ⟨?_, (rowed_doneAll (Builder.Rowed.fresh width) m hsteps).lines, ?_, hfinish, ?_⟩
  · rw [hlevels]
    constructor
    · exact fun h => hanswers.mp h.1
    · intro hfits
      have hpage : Prints width b page := hprints hfits
      refine ⟨hanswers.mpr hfits, hpage.printed, ?_, hpage.level, ?_⟩
      · rw [Builder.currentLine, hpage.lead, hpage.pending]
      · have hcontent : answers m done [.content] =
            [.ok (.text (String.ofList (Text.unrows (b.lines ++ [b.flushedLine]))))] := rfl
        rw [hcontent, hpage.printed]
  · have hlevel := level_doneAll (m := m) (w := start) hsteps
    rwa [World.builder_on, Builder.fresh, Nat.zero_add] at hlevel
  · intro v text more
    rw [perform_writeText, perform_writeText, perform_writeText, String.toList_append,
      writeOutput_append, bind_assoc]

/-- An unindent too many, a line that is left blank, and levels that change within a line. -/
def listedLines : List Step :=
  [.unindent, .writeText "(", .indent, .writeText "\nx,\n", .newline, .writeText "y", .unindent,
    .newline, .writeText ")"]

theorem output_prints_listedLines :
    (∀ s ∈ listedLines, s.isRender = true) ∧
      answers machine (doneAll machine (Directive.freshState.on (Builder.fresh 4)) listedLines)
        [.content] = [.ok (.text "(\n    x,\n\n    y\n)")] := by
  have hsteps : ∀ s ∈ listedLines, s.isRender = true := by decide
  have hfits : ∀ r ∈ (Page.afterAll {} listedLines).records, Fits .usual (4 * r.level) := by decide
  obtain ⟨-, -, -, -, hcontent⟩ :=
    (output_prints_iff_fits (m := machine) (w := Directive.freshState) hsteps).1.mpr hfits
  exact ⟨hsteps, hcontent⟩

/-- The least width that is no size. -/
def boundlessWidth : Int := 9223372036854775808

/-- No line is indented by so much: the line that should end is flushed, but stays under way. -/
theorem not_prints_boundlessWidth :
    let steps := [Step.writeText "a", .indent, .newline]
    let start := Directive.freshState.on (Builder.fresh boundlessWidth)
    let b := (doneAll machine start steps).builder
    answers machine start steps = [.ok .none, .ok .none, .error (leadStop boundlessWidth)] ∧
      b.lines ++ [b.flushedLine] ≠
        (Page.afterAll {} steps).records.map (Record.printed boundlessWidth) := by
  exact ⟨rfl, by decide⟩

end Codeweave.Script
