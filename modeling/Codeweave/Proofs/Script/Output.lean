import Codeweave.Proofs.Script.Run
import Codeweave.Proofs.Text.Dedent

/-!
What the steps of an output do to it. A step that starts lines succeeds exactly when their
indentation fits. Two outputs are alike when they differ at most in how the current line is parted
into its indentation and what was written on it; no step tells such outputs apart.
-/

namespace Codeweave

/-- The outputs differ at most in how their current line is parted. -/
structure Builder.Alike (b c : Builder) : Prop where
  width : b.width = c.width
  lines : b.lines = c.lines
  level : b.level = c.level
  currentLine : b.currentLine = c.currentLine
  isEmpty : b.pending.isEmpty = c.pending.isEmpty

namespace Script

def World.on (w : World) (b : Builder) : World :=
  { w with builder := b }

/-- A line can be given so much indentation. -/
def Fits (memory : Memory) (lead : Int) : Prop :=
  -(indexBound : Int) ≤ lead ∧ lead < memory.bound

instance (memory : Memory) (lead : Int) : Decidable (Fits memory lead) :=
  inferInstanceAs (Decidable (_ ∧ _))

/-- Why no line is started with an indentation that does not fit. -/
def leadStop (lead : Int) : Stop :=
  .raised
    { problem :=
        if lead ≥ indexBound || lead < -(indexBound : Int) then
          .plain .overflow [.text "cannot fit 'int' into an index-sized integer"] none
        else .plain .memory [] none
      frames := [] }

/-- Is the step one of those that only a render takes: it writes a text, starts a line or changes
the level? -/
def Step.isRender : Step → Bool
  | .writeText _ | .newline | .indent | .unindent => true
  | _ => false

/-- Does the step concern the current output and nothing else? -/
def Step.isOutput : Step → Bool
  | .emit _ => false
  | _ => true

def perform (m : Machine) (steps : List Step) : Run Unit :=
  steps.forM fun s => do
    let _ ← s.run m

/-- What each of some steps gives. A step that stops does not keep the next one from being done. -/
def answers (m : Machine) (w : World) : List Step → List (Except Stop Value)
  | [] => []
  | s :: steps => (runFrom w (s.run m)).1 :: answers m (runFrom w (s.run m)).2 steps

/-! ### Lines that are started -/

@[simp] theorem World.builder_on (w : World) (b : Builder) : (w.on b).builder = b := rfl

theorem runFrom_change (w : World) (change : Builder → Builder) :
    runFrom w (modifyBuilder change) = (.ok (), w.on (change w.builder)) := rfl

theorem runFrom_newlineOutput (w : World) :
    runFrom w newlineOutput =
      if Fits w.memory w.builder.nextLead then (.ok (), w.on w.builder.newline)
      else (.error (leadStop w.builder.nextLead), w.on w.builder.breakOff) := by
  have hbounds := w.memory.bound_le
  rw [newlineOutput, runFrom_bind, runFrom_get]
  simp only [leadStop]
  split
  · rename_i houtside
    rw [if_neg]
    · simp only [runFrom_bind, runFrom_change, runFrom_raiseWith]
    · simp only [Bool.or_eq_true, decide_eq_true_eq] at houtside
      simp only [Fits]
      omega
  · rename_i houtside
    simp only [Bool.not_eq_true] at houtside
    split
    · rw [if_neg (by simp only [Fits]; omega)]
      simp only [runFrom_bind, runFrom_change, runFrom_raiseProblem]
    · rw [if_pos, runFrom_change]
      simp only [Bool.or_eq_false_iff, decide_eq_false_iff_not] at houtside
      simp only [Fits]
      omega

theorem runFrom_writeRows {w : World} {rs : List (List Char)}
    (h : rs ≠ [] → Fits w.memory w.builder.nextLead) :
    runFrom w (writeRows rs) =
      (.ok (), w.on (rs.foldl (fun b row => b.newline.write row) w.builder)) := by
  induction rs generalizing w with
  | nil => rfl
  | cons row rs ih =>
      have hfits := h (by simp)
      rw [writeRows, runFrom_bind, runFrom_newlineOutput, if_pos hfits]
      simp only
      rw [runFrom_bind, runFrom_change]
      exact ih fun _ => hfits

theorem runFrom_writeOutput {w : World} {text : List Char}
    (h : '\n' ∈ text → Fits w.memory w.builder.nextLead) :
    runFrom w (writeOutput text) = (.ok (), w.on (w.builder.writeText text)) := by
  obtain ⟨first, rest, hrows, hrest, -⟩ := Text.exists_rows text
  rw [writeOutput, Builder.writeText, hrows]
  simp only
  rw [runFrom_bind, runFrom_change]
  exact runFrom_writeRows fun hne => h (hrest.mp hne)

/-- A text that starts a line stops where no line can be started. -/
theorem exists_writeOutput_stop {w : World} {text : List Char} (hmem : '\n' ∈ text)
    (h : ¬ Fits w.memory w.builder.nextLead) :
    ∃ w', runFrom w (writeOutput text) = (.error (leadStop w.builder.nextLead), w') := by
  obtain ⟨first, rest, hrows, hrest, -⟩ := Text.exists_rows text
  obtain ⟨row, rest, rfl⟩ := List.exists_cons_of_ne_nil (hrest.mpr hmem)
  rw [writeOutput, hrows]
  simp only
  rw [runFrom_bind, runFrom_change]
  simp only
  have hlead : ¬ Fits (w.on (w.builder.write first)).memory
      (w.on (w.builder.write first)).builder.nextLead := h
  rw [writeRows, runFrom_bind, runFrom_newlineOutput, if_neg hlead]
  exact ⟨_, rfl⟩

/-! ### Steps of a render -/

/-- What an output becomes by a step of a render, if the step succeeds. -/
def after? (memory : Memory) (b : Builder) : Step → Option Builder
  | .writeText text =>
      if '\n' ∈ text.toList → Fits memory b.nextLead then some (b.writeText text.toList) else none
  | .newline => if Fits memory b.nextLead then some b.newline else none
  | .indent => some b.indent
  | .unindent => b.unindent?
  | _ => none

def afterAll? (memory : Memory) : Builder → List Step → Option Builder
  | b, [] => some b
  | b, s :: steps => (after? memory b s).bind (afterAll? memory · steps)

section

variable {m : Machine} {w : World}

theorem runFrom_step {s : Step} {b : Builder} (h : after? w.memory w.builder s = some b) :
    runFrom w (s.run m) = (.ok .none, w.on b) := by
  cases s with
  | writeText text =>
      rw [after?] at h
      split at h
      · rename_i hfits
        obtain rfl := Option.some.inj h
        rw [Step.run, runFrom_bind, runFrom_writeOutput hfits]
        rfl
      · simp at h
  | newline =>
      rw [after?] at h
      split at h
      · rename_i hfits
        obtain rfl := Option.some.inj h
        rw [Step.run, runFrom_bind, runFrom_newlineOutput, if_pos hfits]
        rfl
      · simp at h
  | indent =>
      obtain rfl := Option.some.inj h
      rfl
  | unindent =>
      have hunindent : w.builder.unindent? = some b := h
      rw [Step.run, unindentOutput, runFrom_bind, runFrom_bind, runFrom_get]
      simp only [hunindent]
      rfl
  | write | content | finish | currentLine | emit => simp [after?] at h

theorem exists_step_stop {s : Step} (hs : s.isRender = true)
    (h : after? w.memory w.builder s = none) :
    ∃ stop w', runFrom w (s.run m) = (.error stop, w') := by
  cases s with
  | writeText text =>
      rw [after?] at h
      split at h
      · simp at h
      · rename_i hfits
        rw [Classical.not_imp] at hfits
        obtain ⟨w', hstop⟩ := exists_writeOutput_stop hfits.1 hfits.2
        rw [Step.run, runFrom_bind, hstop]
        exact ⟨_, _, rfl⟩
  | newline =>
      rw [after?] at h
      split at h
      · simp at h
      · rename_i hfits
        rw [Step.run, runFrom_bind, runFrom_newlineOutput, if_neg hfits]
        exact ⟨_, _, rfl⟩
  | indent => simp [after?] at h
  | unindent =>
      have hunindent : w.builder.unindent? = none := h
      rw [Step.run, unindentOutput, runFrom_bind, runFrom_bind, runFrom_get]
      simp only [hunindent]
      exact ⟨_, _, rfl⟩
  | write | content | finish | currentLine | emit => simp [Step.isRender] at hs

theorem runFrom_perform_cons (s : Step) (steps : List Step) :
    runFrom w (perform m (s :: steps)) =
      match runFrom w (s.run m) with
      | (.ok _, w') => runFrom w' (perform m steps)
      | (.error stop, w') => (.error stop, w') := by
  have hcons : perform m (s :: steps) =
      (s.run m >>= fun _ => pure ()) >>= fun _ => perform m steps := rfl
  rw [hcons, runFrom_bind, runFrom_bind]
  rcases runFrom w (s.run m) with ⟨_ | _, _⟩ <;> rfl

/-- Steps of a render succeed exactly when each of them leads on to an output. -/
theorem runFrom_perform_eq_ok_iff {steps : List Step} (hsteps : ∀ s ∈ steps, s.isRender = true)
    {w' : World} :
    runFrom w (perform m steps) = (.ok (), w') ↔
      ∃ b, afterAll? w.memory w.builder steps = some b ∧ w' = w.on b := by
  induction steps generalizing w with
  | nil =>
      rw [afterAll?]
      constructor
      · intro h
        obtain rfl : w = w' := congrArg Prod.snd h
        exact ⟨w.builder, rfl, rfl⟩
      · rintro ⟨b, hb, rfl⟩
        obtain rfl := Option.some.inj hb
        rfl
  | cons s steps ih =>
      rw [List.forall_mem_cons] at hsteps
      rw [runFrom_perform_cons, afterAll?]
      cases hafter : after? w.memory w.builder s with
      | none =>
          obtain ⟨stop, v, hstop⟩ := exists_step_stop (m := m) hsteps.1 hafter
          rw [hstop]
          simp
      | some b =>
          rw [runFrom_step hafter]
          exact ih hsteps.2

end

/-! ### Outputs that are alike -/

end Script

namespace Builder

theorem Alike.refl (b : Builder) : Alike b b :=
  ⟨rfl, rfl, rfl, rfl, rfl⟩

variable {b c : Builder} (h : Alike b c)

include h

theorem Alike.flushedLine : b.flushedLine = c.flushedLine := by
  rw [Builder.flushedLine, Builder.flushedLine, h.isEmpty, h.currentLine]

theorem Alike.nextLead : b.nextLead = c.nextLead := by
  rw [Builder.nextLead, Builder.nextLead, h.width, h.level]

theorem Alike.content : b.content = c.content := by
  rw [Builder.content, Builder.content, h.lines, h.flushedLine]

theorem Alike.write (text : List Char) : Alike (b.write text) (c.write text) := by
  refine ⟨h.width, h.lines, h.level, ?_, ?_⟩
  · have hline := congrArg (· ++ text) h.currentLine
    simpa [Builder.write, Builder.currentLine] using hline
  · have hempty := h.isEmpty
    rw [Bool.eq_iff_iff, List.isEmpty_iff, List.isEmpty_iff] at hempty ⊢
    simp [Builder.write, hempty]

theorem Alike.breakOff : Alike b.breakOff c.breakOff := by
  refine ⟨h.width, ?_, h.level, h.currentLine, h.isEmpty⟩
  rw [Builder.breakOff, Builder.breakOff, h.lines, h.flushedLine]

theorem Alike.newline : Alike b.newline c.newline := by
  refine ⟨h.width, ?_, h.level, ?_, rfl⟩
  · simp only [Builder.newline, h.lines, h.flushedLine]
  · simp only [Builder.newline, Builder.currentLine, h.nextLead]

theorem Alike.indent : Alike b.indent c.indent :=
  ⟨h.width, h.lines, congrArg (· + 1) h.level, h.currentLine, h.isEmpty⟩

end Builder

namespace Script

/-- The state with another current output, among other outputs. -/
def World.among (w : World) (b : Builder) (others : Outputs) : World :=
  { w with builder := b, outputs := others }

@[simp] theorem World.builder_among (w : World) (b : Builder) (others : Outputs) :
    (w.among b others).builder = b := rfl

/-- The step does not tell outputs apart that are alike, whatever others there are. -/
def Indistinct {α : Type} (step : Run α) : Prop :=
  ∀ (w : World) (b c : Builder) (others others' : Outputs), b.Alike c → ∃ result w' b' c',
    runFrom (w.among b others) step = (result, World.among w' b' others) ∧
      runFrom (w.among c others') step = (result, World.among w' c' others') ∧
      Builder.Alike b' c'

section

variable {α β : Type}

theorem indistinct_pure (a : α) : Indistinct (pure a : Run α) :=
  fun w b c _ _ h => ⟨.ok a, w, b, c, rfl, rfl, h⟩

theorem indistinct_change {change : Builder → Builder}
    (hchange : ∀ b c, Builder.Alike b c → (change b).Alike (change c)) :
    Indistinct (modifyBuilder change) :=
  fun w b c _ _ h => ⟨.ok (), w, change b, change c, rfl, rfl, hchange b c h⟩

theorem indistinct_say (remark : Remark) : Indistinct (say remark) :=
  fun w b c _ _ h => ⟨.ok (), { w with journal := w.journal.push remark }, b, c, rfl, rfl, h⟩

theorem Indistinct.bind {step : Run α} {next : α → Run β} (h : Indistinct step)
    (hnext : ∀ a, Indistinct (next a)) : Indistinct (step >>= next) := by
  intro w b c others others' halike
  obtain ⟨result, w', b', c', hb, hc, halike'⟩ := h w b c others others' halike
  rw [runFrom_bind, runFrom_bind, hb, hc]
  cases result with
  | error stop => exact ⟨.error stop, w', b', c', rfl, rfl, halike'⟩
  | ok a => exact hnext a w' b' c' others others' halike'

/-- A step that looks at the state may look at what alike outputs have in common. -/
theorem indistinct_get {next : World → Run α}
    (hsame : ∀ (w : World) (b c : Builder) (others others' : Outputs), b.Alike c →
      next (w.among b others) = next (w.among c others'))
    (hnext : ∀ w, Indistinct (next w)) : Indistinct (get >>= next) := by
  intro w b c others others' halike
  rw [runFrom_bind, runFrom_bind, runFrom_get, runFrom_get]
  simp only [← hsame w b c others others' halike]
  exact hnext (w.among b others) w b c others others' halike

end

theorem indistinct_newlineOutput : Indistinct newlineOutput := by
  intro w b c _ _ h
  have hmemory (b : Builder) (others : Outputs) : (w.among b others).memory = w.memory := rfl
  rw [runFrom_newlineOutput, runFrom_newlineOutput, World.builder_among, World.builder_among,
    hmemory,
    hmemory, h.nextLead]
  split
  · exact ⟨_, w, _, _, rfl, rfl, h.newline⟩
  · exact ⟨_, w, _, _, rfl, rfl, h.breakOff⟩

theorem indistinct_write (text : List Char) : Indistinct (modifyBuilder (·.write text)) :=
  indistinct_change fun _ _ h => h.write text

theorem indistinct_writeRows (rs : List (List Char)) : Indistinct (writeRows rs) := by
  induction rs with
  | nil => exact indistinct_pure ()
  | cons row rs ih =>
      exact indistinct_newlineOutput.bind fun _ => (indistinct_write row).bind fun _ => ih

theorem indistinct_writeOutput (text : List Char) : Indistinct (writeOutput text) := by
  rw [writeOutput]
  split
  · exact indistinct_pure ()
  · exact (indistinct_write _).bind fun _ => indistinct_writeRows _

theorem indistinct_unindentOutput : Indistinct unindentOutput := by
  intro w b c _ _ h
  rw [unindentOutput, runFrom_bind, runFrom_bind, runFrom_get, runFrom_get]
  simp only [World.builder_among, Builder.unindent?, ← h.level]
  cases b.level with
  | zero => exact ⟨_, w, b, c, rfl, rfl, h⟩
  | succ level =>
      exact ⟨.ok (), w, { b with level := level }, { c with level := level }, rfl, rfl,
        h.width, h.lines, rfl, h.currentLine, h.isEmpty⟩

theorem indistinct_finishOutput : Indistinct finishOutput := by
  have hflushed : Indistinct (do
      let b := (← get).builder
      if b.level != 0 then
        say (.log .warning .builder
          ("builder finished with " ++ toString b.level ++ " open indent level(s)"))
      pure b.flushedText) := by
    refine indistinct_get ?_ ?_
    · intro w b c _ _ h
      have htext : b.flushedText = c.flushedText := by
        rw [Builder.flushedText, Builder.flushedText, h.lines]
      rw [World.builder_among, World.builder_among]
      simp only
      rw [h.level, htext]
    · intro w
      simp only
      split
      · exact (indistinct_say _).bind fun _ => indistinct_pure _
      · exact indistinct_pure _
  refine indistinct_get ?_ ?_
  · intro w b c _ _ h
    simp only [World.builder_among, h.isEmpty]
  · intro w
    simp only
    split
    · exact hflushed
    · exact indistinct_newlineOutput.bind fun _ => hflushed

theorem indistinct_step (m : Machine) {s : Step} (hs : s.isOutput = true) :
    Indistinct (s.run m) := by
  cases s with
  | write text => exact (indistinct_write _).bind fun _ => indistinct_pure _
  | writeText text => exact (indistinct_writeOutput _).bind fun _ => indistinct_pure _
  | newline => exact indistinct_newlineOutput.bind fun _ => indistinct_pure _
  | indent => exact (indistinct_change fun _ _ h => h.indent).bind fun _ => indistinct_pure _
  | unindent => exact indistinct_unindentOutput.bind fun _ => indistinct_pure _
  | content =>
      refine indistinct_get ?_ fun w => indistinct_pure _
      intro w b c _ _ h
      rw [World.builder_among, World.builder_among, h.content]
  | finish => exact indistinct_finishOutput.bind fun _ => indistinct_pure _
  | currentLine =>
      refine indistinct_get ?_ fun w => indistinct_pure _
      intro w b c _ _ h
      rw [World.builder_among, World.builder_among, h.currentLine]
  | emit => simp [Step.isOutput] at hs

theorem answers_eq (m : Machine) {steps : List Step} (hsteps : ∀ s ∈ steps, s.isOutput = true)
    (w : World) {b c : Builder} (others others' : Outputs) (h : b.Alike c) :
    answers m (w.among b others) steps = answers m (w.among c others') steps := by
  induction steps generalizing w b c with
  | nil => rfl
  | cons s steps ih =>
      rw [List.forall_mem_cons] at hsteps
      obtain ⟨result, w', b', c', hb, hc, halike⟩ :=
        indistinct_step m hsteps.1 w b c others others' h
      rw [answers, answers, hb, hc]
      exact congrArg (result :: ·) (ih hsteps.2 w' halike)

end Script

end Codeweave
