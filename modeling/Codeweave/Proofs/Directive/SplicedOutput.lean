import Codeweave.Proofs.Directive.Containment
import Codeweave.Proofs.Directive.RenewedLines
import Codeweave.Proofs.Script.Capture

/-!
The lines of an output in a region. An output starts lines at newlines only, while what it gives is
parted at every line boundary when it is put into a source. So a region has the lines of the output,
and holds what the output gave, exactly when no line of the output has a boundary in it.
-/

namespace Codeweave

open Text (isBoundary)

/-- No line of the output holds a newline, and neither does the one that is being written. -/
structure Builder.Rowed (b : Builder) : Prop where
  lines : ∀ l ∈ b.lines, '\n' ∉ l
  lead : '\n' ∉ b.lead
  pending : '\n' ∉ b.pending

namespace Builder.Rowed

theorem fresh (width : Int) : (Builder.fresh width).Rowed :=
  ⟨List.forall_mem_nil _, List.not_mem_nil, List.not_mem_nil⟩

variable {b : Builder} (h : b.Rowed)

include h

theorem flushedLine : '\n' ∉ b.flushedLine := by
  rw [Script.flushedLine_eq]
  exact Script.newline_not_mem_behind h.lead h.pending

theorem write {row : List Char} (hrow : '\n' ∉ row) : (b.write row).Rowed := by
  refine ⟨h.lines, h.lead, ?_⟩
  simp only [Builder.write, List.mem_append, not_or]
  exact ⟨h.pending, hrow⟩

theorem flushed : ∀ l ∈ b.lines ++ [b.flushedLine], '\n' ∉ l :=
  List.forall_mem_append.mpr ⟨h.lines, List.forall_mem_singleton.mpr h.flushedLine⟩

theorem breakOff : b.breakOff.Rowed :=
  ⟨h.flushed, h.lead, h.pending⟩

theorem newline : b.newline.Rowed :=
  ⟨h.flushed, Script.newline_not_mem_spaces _, List.not_mem_nil⟩

theorem indent : b.indent.Rowed :=
  ⟨h.lines, h.lead, h.pending⟩

theorem unindent {b' : Builder} (hb' : b.unindent? = some b') : b'.Rowed := by
  rw [Builder.unindent?] at hb'
  split at hb'
  · simp at hb'
  · obtain rfl := Option.some.inj hb'
    exact ⟨h.lines, h.lead, h.pending⟩

end Builder.Rowed

namespace Script

/-- The state after steps, each of which is done whatever became of the one before it. -/
def doneAll (m : Machine) (w : World) (steps : List Step) : World :=
  steps.foldl (fun w s => (runFrom w (s.run m)).2) w

/-! ### Steps of a render -/

section

variable {w : World} (h : w.builder.Rowed)

include h

theorem rowed_newlineOutput : (runFrom w newlineOutput).2.builder.Rowed := by
  rw [runFrom_newlineOutput]
  split
  · exact h.newline
  · exact h.breakOff

theorem rowed_writeRows {rs : List (List Char)} (hrs : ∀ r ∈ rs, '\n' ∉ r) :
    (runFrom w (writeRows rs)).2.builder.Rowed := by
  induction rs generalizing w with
  | nil => exact h
  | cons row rs ih =>
      rw [List.forall_mem_cons] at hrs
      have hnewline := rowed_newlineOutput h
      rw [writeRows, runFrom_bind]
      rcases hrun : runFrom w newlineOutput with ⟨stop | _, w'⟩
      -- a line that cannot be started leaves the rows behind it unwritten
      · rw [hrun] at hnewline
        exact hnewline
      · rw [hrun] at hnewline
        simp only
        rw [runFrom_bind, runFrom_change]
        exact ih (hnewline.write hrs.1) hrs.2

theorem rowed_writeOutput (text : List Char) :
    (runFrom w (writeOutput text)).2.builder.Rowed := by
  obtain ⟨first, rest, hrows, -, hmem⟩ := Text.exists_rows text
  rw [List.forall_mem_cons] at hmem
  rw [writeOutput, hrows]
  simp only
  rw [runFrom_bind, runFrom_change]
  exact rowed_writeRows (h.write hmem.1) hmem.2

/-- No step of a render writes a newline into a line, whether or not it succeeds. -/
theorem rowed_step (m : Machine) {s : Step} (hs : s.isRender = true) :
    (runFrom w (s.run m)).2.builder.Rowed := by
  cases s with
  | writeText text =>
      rw [Step.run, state_runFrom_bind_pure]
      exact rowed_writeOutput h _
  | newline =>
      rw [Step.run, state_runFrom_bind_pure]
      exact rowed_newlineOutput h
  | indent =>
      rw [Step.run, state_runFrom_bind_pure, runFrom_change]
      exact h.indent
  | unindent =>
      rw [Step.run, state_runFrom_bind_pure, unindentOutput, runFrom_bind, runFrom_get]
      simp only
      cases hunindent : w.builder.unindent? with
      | none => exact h
      | some b => exact h.unindent hunindent
  | write | content | finish | currentLine | emit => simp [Step.isRender] at hs

theorem rowed_doneAll (m : Machine) {steps : List Step}
    (hsteps : ∀ s ∈ steps, s.isRender = true) : (doneAll m w steps).builder.Rowed := by
  induction steps generalizing w with
  | nil => exact h
  | cons s steps ih =>
      rw [List.forall_mem_cons] at hsteps
      exact ih (rowed_step h m hsteps.1) hsteps.2

end

/-- Where every step leads on, all of them lead where they do together. -/
theorem doneAll_of_afterAll {m : Machine} {w : World} {steps : List Step} {b : Builder}
    (h : afterAll? w.memory w.builder steps = some b) : doneAll m w steps = w.on b := by
  induction steps generalizing w with
  | nil =>
      obtain rfl := Option.some.inj h
      rfl
  | cons s steps ih =>
      obtain ⟨c, hc, hrest⟩ := Option.bind_eq_some_iff.mp h
      have hstep : doneAll m w (s :: steps) = doneAll m (w.on c) steps := by
        rw [doneAll, List.foldl_cons, runFrom_step hc]
        rfl
      rw [hstep]
      exact ih hrest

end Script

namespace Directive

open Script

/-- A region with rows as its lines: each behind the margin, empty ones without it, and one blank
line at the end. -/
def regionOfRows (margin newline : List Char) (rows : List (List Char)) : List Char :=
  (rows.flatMap fun row => if row.isEmpty then newline else margin ++ row ++ newline) ++ newline

/-! ### Finishing -/

theorem flushedOutput_eq_ok {w w' : World} {artifact : List Char}
    (h : runFrom w flushedOutput = (.ok artifact, w')) :
    w'.builder = w.builder ∧ artifact = w.builder.flushedText := by
  rw [flushedOutput, runFrom_bind, runFrom_get] at h
  simp only at h
  split at h
  · exact ⟨(congrArg (fun r => r.2.builder) h).symm, (Except.ok.inj (congrArg Prod.fst h)).symm⟩
  · exact ⟨(congrArg (fun r => r.2.builder) h).symm, (Except.ok.inj (congrArg Prod.fst h)).symm⟩

/-- What an output gives in the end is its flushed lines, each with a newline. -/
theorem finishOutput_eq_ok {w w' : World} {artifact : List Char} (hrowed : w.builder.Rowed)
    (h : runFrom w finishOutput = (.ok artifact, w')) :
    w'.builder.Rowed ∧ artifact = Text.terminated w'.builder.lines := by
  rw [finishOutput_eq, runFrom_bind, runFrom_get] at h
  simp only at h
  split at h
  · obtain ⟨hbuilder, rfl⟩ := flushedOutput_eq_ok h
    rw [hbuilder]
    exact ⟨hrowed, rfl⟩
  · have hnewline := rowed_newlineOutput hrowed
    rw [runFrom_bind] at h
    rcases hrun : runFrom w newlineOutput with ⟨stop | _, w₁⟩
    · rw [hrun] at h
      simp at h
    · rw [hrun] at h hnewline
      obtain ⟨hbuilder, rfl⟩ := flushedOutput_eq_ok h
      rw [hbuilder]
      exact ⟨hnewline, rfl⟩

/-! ### Regions -/

theorem regionOfRows_terminated (rows : List (List Char)) :
    regionOfRows [] ['\n'] rows = Text.terminated rows ++ ['\n'] := by
  rw [regionOfRows, Text.terminated]
  congr 1
  refine List.flatMap_congr fun row _ => ?_
  split
  · rename_i hempty
    rw [List.isEmpty_iff.mp hempty]
    rfl
  · rfl

theorem countP_regionOfRows {p : Char → Bool} {margin : List Char}
    (hmargin : ∀ c ∈ margin, p c = false) (newline : List Char) (rows : List (List Char)) :
    (regionOfRows margin newline rows).countP p =
      rows.flatten.countP p + (rows.length + 1) * newline.countP p := by
  have hnone : margin.countP p = 0 := by
    rw [List.countP_eq_zero]
    intro c hc
    simp [hmargin c hc]
  rw [regionOfRows, List.countP_append]
  induction rows with
  | nil => simp
  | cons row rows ih =>
      have hrow : (if row.isEmpty then newline else margin ++ row ++ newline).countP p =
          row.countP p + newline.countP p := by
        split
        · rename_i hempty
          simp [List.isEmpty_iff.mp hempty]
        · simp [hnone]
      rw [List.flatMap_cons, List.countP_append, hrow, List.flatten_cons, List.countP_append,
        List.length_cons]
      -- only the product with the number of rows is not linear
      rw [Nat.add_mul, Nat.one_mul] at ih ⊢
      rw [Nat.add_mul, Nat.one_mul]
      omega

/-- A region has rows as its lines only if none has a line boundary in it: the number of newlines
says that it has as many lines, and then that of all boundaries leaves none for the rows. -/
theorem not_boundary_of_regionText_eq {margin newline artifact : List Char}
    {rows : List (List Char)} (hmargin : ∀ c ∈ margin, isBoundary c = false)
    (hnewline : IsNewline newline) (hrows : ∀ row ∈ rows, '\n' ∉ row)
    (h : regionText margin newline artifact = regionOfRows margin newline rows) :
    ∀ row ∈ rows, ∀ c ∈ row, isBoundary c = false := by
  have hregion : regionOfRows margin newline (Text.bodies artifact) =
      regionOfRows margin newline rows := h
  have hbodies : ∀ c ∈ (Text.bodies artifact).flatten, isBoundary c = false := by
    intro c hc
    obtain ⟨body, hbody, hc⟩ := List.mem_flatten.mp hc
    exact Text.not_boundary_of_mem_bodies hbody c hc
  have hlength : (Text.bodies artifact).length = rows.length := by
    have hplain : ∀ c, isBoundary c = false → (c == '\n') = false := by
      intro c hc
      rw [beq_eq_false_iff_ne]
      rintro rfl
      exact absurd hc (by decide)
    have hone : newline.countP (· == '\n') = 1 := by
      rcases hnewline with rfl | rfl <;> rfl
    have hcount := congrArg (List.countP (· == '\n')) hregion
    have hmargin : ∀ c ∈ margin, (c == '\n') = false := fun c hc => hplain c (hmargin c hc)
    have hnone : rows.flatten.countP (· == '\n') = 0 := by
      rw [List.countP_eq_zero]
      intro c hc hnewline
      obtain ⟨row, hrow, hc⟩ := List.mem_flatten.mp hc
      obtain rfl : c = '\n' := by simpa using hnewline
      exact hrows row hrow hc
    rw [countP_regionOfRows hmargin, countP_regionOfRows hmargin, hone, hnone,
      List.countP_eq_zero.mpr fun c hc => by simp [hplain c (hbodies c hc)]] at hcount
    omega
  have hcount := congrArg (List.countP isBoundary) hregion
  rw [countP_regionOfRows hmargin, countP_regionOfRows hmargin, hlength,
    List.countP_eq_zero.mpr fun c hc => by simp [hbodies c hc]] at hcount
  have hnone : rows.flatten.countP isBoundary = 0 := by omega
  intro row hrow c hc
  simpa using List.countP_eq_zero.mp hnone c (List.mem_flatten_of_mem hrow hc)

/-- The region of what an output gives has the lines of the output as long as none has a line
boundary in it. Otherwise it has other lines wherever it is put. -/
theorem regionText_finished {m : Machine} {w w' : World} {width : Int} {steps : List Step}
    {artifact : List Char} (hfresh : w.builder = Builder.fresh width)
    (hsteps : ∀ s ∈ steps, s.isRender = true)
    (hfinish : runFrom (doneAll m w steps) finishOutput = (.ok artifact, w')) :
    artifact = Text.terminated w'.builder.lines ∧
    (∀ margin newline, (∀ l ∈ w'.builder.lines, ∀ c ∈ l, isBoundary c = false) →
      regionText margin newline artifact = regionOfRows margin newline w'.builder.lines) ∧
    (∀ margin newline, (∀ c ∈ margin, isBoundary c = false) → IsNewline newline →
      (regionText margin newline artifact = regionOfRows margin newline w'.builder.lines ↔
        ∀ l ∈ w'.builder.lines, ∀ c ∈ l, isBoundary c = false)) ∧
    (regionText [] ['\n'] artifact = artifact ++ ['\n'] ↔
      ∀ l ∈ w'.builder.lines, ∀ c ∈ l, isBoundary c = false) := by
  have hstart : w.builder.Rowed := hfresh ▸ Builder.Rowed.fresh width
  obtain ⟨hrowed, rfl⟩ := finishOutput_eq_ok (rowed_doneAll hstart m hsteps) hfinish
  have hkept : ∀ margin newline, (∀ l ∈ w'.builder.lines, ∀ c ∈ l, isBoundary c = false) →
      regionText margin newline (Text.terminated w'.builder.lines) =
        regionOfRows margin newline w'.builder.lines := by
    intro margin newline hlines
    exact congrArg (regionOfRows margin newline) (Text.bodies_terminated hlines)
  have hiff : ∀ margin newline, (∀ c ∈ margin, isBoundary c = false) → IsNewline newline →
      (regionText margin newline (Text.terminated w'.builder.lines) =
          regionOfRows margin newline w'.builder.lines ↔
        ∀ l ∈ w'.builder.lines, ∀ c ∈ l, isBoundary c = false) := by
    intro margin newline hmargin hnewline
    exact ⟨not_boundary_of_regionText_eq hmargin hnewline hrowed.lines, hkept margin newline⟩
  refine ⟨rfl, hkept, hiff, ?_⟩
  rw [← regionOfRows_terminated]
  exact hiff [] ['\n'] (List.forall_mem_nil _) (Or.inl rfl)

def freshState : World where
  builder := Builder.fresh 4

/-- A text over several lines is put into a region as it is, one with a vertical tab is not. -/
theorem regionText_finished_samples :
    (∃ w', runFrom (doneAll machine freshState deeperLines) finishOutput =
        (.ok "(\n    x,\n    y\n)\n".toList, w') ∧
      regionText [] ['\n'] "(\n    x,\n    y\n)\n".toList =
        "(\n    x,\n    y\n)\n".toList ++ ['\n']) ∧
    ∃ w', runFrom (doneAll machine freshState [.writeText "a\x0bb"]) finishOutput =
        (.ok "a\x0bb\n".toList, w') ∧
      regionText [] ['\n'] "a\x0bb\n".toList ≠ "a\x0bb\n".toList ++ ['\n'] := by
  have hfresh : freshState.builder = Builder.fresh 4 := rfl
  constructor
  · have hdone : doneAll machine freshState deeperLines = freshState.on
        { width := 4, lines := [['('], "    x,".toList, "    y".toList], pending := [')'] } :=
      doneAll_of_afterAll (by decide)
    have hfinish : runFrom (doneAll machine freshState deeperLines) finishOutput =
        (.ok "(\n    x,\n    y\n)\n".toList, freshState.on
          { width := 4, lines := [['('], "    x,".toList, "    y".toList, [')']] }) := by
      rw [hdone]
      rfl
    have hlines : ∀ l ∈ [['('], "    x,".toList, "    y".toList, [')']],
        l.any isBoundary = false := by
      decide
    obtain ⟨-, -, -, hregion⟩ := regionText_finished hfresh (by decide) hfinish
    exact ⟨_, hfinish, hregion.mpr fun l hl => Text.not_boundary_of_any (hlines l hl)⟩
  · have hdone : doneAll machine freshState [.writeText "a\x0bb"] = freshState.on
        { width := 4, pending := "a\x0bb".toList } :=
      doneAll_of_afterAll (by decide)
    have hfinish : runFrom (doneAll machine freshState [.writeText "a\x0bb"]) finishOutput =
        (.ok "a\x0bb\n".toList, freshState.on { width := 4, lines := ["a\x0bb".toList] }) := by
      rw [hdone]
      rfl
    obtain ⟨-, -, -, hregion⟩ := regionText_finished hfresh (by decide) hfinish
    refine ⟨_, hfinish, fun h => ?_⟩
    exact absurd (hregion.mp h "a\x0bb".toList (by simp) '\x0b' (by decide)) (by decide)

end Directive

end Codeweave
