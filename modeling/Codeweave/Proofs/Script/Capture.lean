import Codeweave.Proofs.Script.Output
import Codeweave.Proofs.Script.Redirection

/-!
Capturing what a render writes, and rendering at once. Done on an output, the steps of a render
start each line as much deeper as the output is indented than they do on a fresh output of the same
width. Writing what was captured puts the same indentation in front of the lines that are there
already. So the two end alike, unless a line has an indentation in the one that no line can be
given, or the last line is all indentation.
-/

namespace Codeweave.Script

open Text (behind)

def spaces (lead : Int) : List Char :=
  List.replicate lead.toNat ' '

/-- The levels at which a step of a render starts lines when it is done at a level. -/
def startedBy (level : Nat) : Step → List Nat
  | .writeText text => List.replicate (text.toList.count '\n') level
  | .newline => [level]
  | _ => []

def levelAfter (level : Nat) : Step → Nat
  | .indent => level + 1
  | .unindent => level - 1
  | _ => level

/-- The levels at which steps of a render start lines, the first step being done at a level. -/
def startLevels : Nat → List Step → List Nat
  | _, [] => []
  | level, s :: steps => startedBy level s ++ startLevels (levelAfter level s) steps

/-- The level at which the last line was started. The first line counts as started at level zero. -/
def lastStart (steps : List Step) : Nat :=
  (startLevels 0 steps).getLast?.getD 0

/-- No line was started since: what is written goes on with the line that `b` was at. -/
structure OnFirstLine (b : Builder) (started : Nat) (scratch direct : Builder) : Prop where
  started : started = 0
  noLines : scratch.lines = []
  lines : direct.lines = b.lines
  lead : direct.lead = b.lead
  pending : direct.pending = b.pending ++ scratch.pending

/-- Lines were started since: behind the first one, all lines of the scratch output stand deeper by
the indentation of `b`. -/
structure OnLaterLine (memory : Memory) (b : Builder) (started : Nat) (scratch direct : Builder) :
    Prop where
  lines : ∃ first rest, scratch.lines = first :: rest ∧
    direct.lines = b.lines ++ (b.write first).flushedLine :: rest.map (behind (spaces b.nextLead))
  lead : direct.lead = spaces (b.width * (b.level + started))
  pending : direct.pending = scratch.pending
  fits : Fits memory b.nextLead

/-- Steps of a render that led a fresh output to `scratch` led `b` to `direct`. The current line of
`scratch` was started at a level. -/
structure Alongside (memory : Memory) (b : Builder) (started : Nat) (scratch direct : Builder) :
    Prop where
  scratchWidth : scratch.width = b.width
  directWidth : direct.width = b.width
  level : direct.level = b.level + scratch.level
  lead : scratch.lead = spaces (b.width * started)
  rows : ∀ r ∈ scratch.lines, '\n' ∉ r
  pending : '\n' ∉ scratch.pending
  text : OnFirstLine b started scratch direct ∨ OnLaterLine memory b started scratch direct

/-! ### Indentation -/

theorem newline_not_mem_spaces (lead : Int) : '\n' ∉ spaces lead := by
  intro h
  exact absurd (List.eq_of_mem_replicate h) (by decide)

theorem spaces_add (width : Int) (m n : Nat) :
    spaces (width * (m + n)) = spaces (width * m) ++ spaces (width * n) := by
  rw [spaces, spaces, spaces, List.replicate_append_replicate, Int.mul_add]
  congr 1
  rcases Int.le_total 0 width with hwidth | hwidth
  · exact Int.toNat_add (Int.mul_nonneg hwidth (by omega)) (Int.mul_nonneg hwidth (by omega))
  · have hm : width * m ≤ 0 := Int.mul_nonpos_of_nonpos_of_nonneg hwidth (by omega)
    have hn : width * n ≤ 0 := Int.mul_nonpos_of_nonpos_of_nonneg hwidth (by omega)
    omega

theorem Fits.of_add {memory : Memory} {width : Int} {m n : Nat}
    (h : Fits memory (width * (m + n))) : Fits memory (width * m) := by
  have hbounds := memory.bound_pos
  rw [Fits, Int.mul_add] at h
  rw [Fits]
  rcases Int.le_total 0 width with hwidth | hwidth
  · have hm : 0 ≤ width * m := Int.mul_nonneg hwidth (by omega)
    have hn : 0 ≤ width * n := Int.mul_nonneg hwidth (by omega)
    omega
  · have hm : width * m ≤ 0 := Int.mul_nonpos_of_nonpos_of_nonneg hwidth (by omega)
    have hn : width * n ≤ 0 := Int.mul_nonpos_of_nonpos_of_nonneg hwidth (by omega)
    omega

theorem behind_behind (lead lead' row : List Char) :
    behind lead (behind lead' row) = behind (lead ++ lead') row := by
  cases row with
  | nil => rfl
  | cons c row =>
      have hne : c :: row ≠ [] := List.cons_ne_nil c row
      rw [Text.behind_of_ne_nil hne, Text.behind_of_ne_nil hne, List.append_assoc,
        Text.behind_of_ne_nil (List.append_ne_nil_of_right_ne_nil lead' hne)]

theorem flushedLine_eq (b : Builder) : b.flushedLine = behind b.lead b.pending := rfl

theorem newline_not_mem_behind {lead row : List Char} (hlead : '\n' ∉ lead) (hrow : '\n' ∉ row) :
    '\n' ∉ behind lead row := by
  rw [behind]
  split
  · simp
  · simp [hlead, hrow]

/-! ### Single steps -/

namespace Alongside

variable {memory : Memory} {b scratch direct : Builder} {started : Nat}
  (h : Alongside memory b started scratch direct)

include h

theorem nextLead_eq : direct.nextLead = b.width * (b.level + scratch.level) := by
  rw [Builder.nextLead, h.directWidth, h.level]
  rfl

theorem newline_not_mem_flushedLine : '\n' ∉ scratch.flushedLine := by
  rw [flushedLine_eq, h.lead]
  exact newline_not_mem_behind (newline_not_mem_spaces _) h.pending

theorem flushedLine_of_first (hfirst : OnFirstLine b started scratch direct) :
    scratch.flushedLine = scratch.pending := by
  rw [flushedLine_eq, h.lead, hfirst.started]
  simp [spaces]

theorem write {row : List Char} (hrow : '\n' ∉ row) :
    Alongside memory b started (scratch.write row) (direct.write row) where
  scratchWidth := h.scratchWidth
  directWidth := h.directWidth
  level := h.level
  lead := h.lead
  rows := h.rows
  pending := by
    simp only [Builder.write, List.mem_append, not_or]
    exact ⟨h.pending, hrow⟩
  text := by
    rcases h.text with hfirst | hlater
    · refine Or.inl ⟨hfirst.started, hfirst.noLines, hfirst.lines, hfirst.lead, ?_⟩
      rw [Builder.write, Builder.write, hfirst.pending, List.append_assoc]
    · refine Or.inr ⟨hlater.lines, hlater.lead, ?_, hlater.fits⟩
      rw [Builder.write, Builder.write, hlater.pending]

/-- A new line stands deeper by the indentation of `b`, and so does the line before it unless that
was the first one. -/
theorem newline (hfits : Fits memory direct.nextLead) :
    Alongside memory b scratch.level scratch.newline direct.newline where
  scratchWidth := h.scratchWidth
  directWidth := h.directWidth
  level := h.level
  lead := by
    rw [← h.scratchWidth]
    rfl
  rows := by
    simp only [Builder.newline, List.forall_mem_append, List.forall_mem_singleton]
    exact ⟨h.rows, h.newline_not_mem_flushedLine⟩
  pending := List.not_mem_nil
  text := by
    rw [h.nextLead_eq] at hfits
    refine Or.inr ⟨?_, congrArg spaces h.nextLead_eq, rfl, hfits.of_add⟩
    rcases h.text with hfirst | hlater
    -- what was written on the fresh output goes behind what was on the line of `b`
    · refine ⟨scratch.flushedLine, [], ?_, ?_⟩
      · rw [Builder.newline, hfirst.noLines]
        rfl
      · rw [Builder.newline, flushedLine_eq, hfirst.lines, hfirst.lead, hfirst.pending,
          h.flushedLine_of_first hfirst]
        rfl
    -- the line is flushed with the indentation of its own level behind that of `b`
    · obtain ⟨first, rest, hscratch, hdirect⟩ := hlater.lines
      refine ⟨first, rest ++ [scratch.flushedLine], ?_, ?_⟩
      · rw [Builder.newline, hscratch, List.cons_append]
      · have hline : direct.flushedLine = behind (spaces b.nextLead) scratch.flushedLine := by
          rw [flushedLine_eq, hlater.lead, hlater.pending, spaces_add, flushedLine_eq, h.lead,
            behind_behind]
          rfl
        rw [Builder.newline, hdirect, hline]
        simp

theorem indent : Alongside memory b started scratch.indent direct.indent :=
  ⟨h.scratchWidth, h.directWidth, congrArg (· + 1) h.level, h.lead, h.rows, h.pending,
    h.text.imp (fun t => ⟨t.started, t.noLines, t.lines, t.lead, t.pending⟩)
      fun t => ⟨t.lines, t.lead, t.pending, t.fits⟩⟩

theorem unindent {scratch' : Builder} (hscratch : scratch.unindent? = some scratch') :
    scratch'.level = scratch.level - 1 ∧
      ∃ direct', direct.unindent? = some direct' ∧ Alongside memory b started scratch' direct' := by
  have hlevel := h.level
  rw [Builder.unindent?] at hscratch
  split at hscratch
  · simp at hscratch
  · rename_i level hscratchLevel
    obtain rfl := Option.some.inj hscratch
    rw [hscratchLevel, Nat.succ_eq_add_one, ← Nat.add_assoc] at hlevel
    refine ⟨by rw [hscratchLevel]; rfl, { direct with level := b.level + level }, ?_, ?_⟩
    · rw [Builder.unindent?, hlevel]
    · exact ⟨h.scratchWidth, h.directWidth, rfl, h.lead, h.rows, h.pending,
        h.text.imp (fun t => ⟨t.started, t.noLines, t.lines, t.lead, t.pending⟩)
          fun t => ⟨t.lines, t.lead, t.pending, t.fits⟩⟩

end Alongside

theorem Alongside.foldl_rows {memory : Memory} {b scratch direct : Builder} {started : Nat}
    {rs : List (List Char)}
    (h : Alongside memory b started scratch direct) (hrs : ∀ r ∈ rs, '\n' ∉ r)
    (hfits : rs ≠ [] → Fits memory direct.nextLead) :
    Alongside memory b (if rs = [] then started else scratch.level)
      (rs.foldl (fun b row => b.newline.write row) scratch)
      (rs.foldl (fun b row => b.newline.write row) direct) := by
  induction rs generalizing started scratch direct with
  | nil => exact h
  | cons row rs ih =>
      rw [List.forall_mem_cons] at hrs
      have hfits := hfits (List.cons_ne_nil row rs)
      have hrest := ih ((h.newline hfits).write hrs.1) hrs.2 fun _ => hfits
      rw [if_neg (List.cons_ne_nil row rs)]
      have hlevel : (if rs = [] then scratch.level else (scratch.newline.write row).level) =
          scratch.level := by
        split <;> rfl
      rwa [hlevel] at hrest

theorem Alongside.writeText {memory : Memory} {b scratch direct : Builder} {started : Nat}
    {text : List Char} (h : Alongside memory b started scratch direct)
    (hfits : '\n' ∈ text → Fits memory direct.nextLead) :
    Alongside memory b (if '\n' ∈ text then scratch.level else started) (scratch.writeText text)
      (direct.writeText text) := by
  obtain ⟨first, rest, hrows, hrest, hmem⟩ := Text.exists_rows text
  rw [List.forall_mem_cons] at hmem
  have hlines := (h.write hmem.1).foldl_rows hmem.2 fun hne => hfits (hrest.mp hne)
  rw [Builder.writeText, Builder.writeText, hrows]
  by_cases hne : rest = []
  · rw [if_neg fun hnewline => hrest.mpr hnewline hne]
    rwa [if_pos hne] at hlines
  · rw [if_pos (hrest.mp hne)]
    rwa [if_neg hne] at hlines

/-! ### All steps -/

section

variable {memory : Memory} {b scratch direct scratch' : Builder} {started : Nat}

theorem level_writeText (b : Builder) (text : List Char) : (b.writeText text).level = b.level := by
  have hrows : ∀ (rs : List (List Char)) (c : Builder),
      (rs.foldl (fun b row => b.newline.write row) c).level = c.level := by
    intro rs
    induction rs with
    | nil => exact fun c => rfl
    | cons row rs ih => exact fun c => ih (c.newline.write row)
  rw [Builder.writeText]
  split
  · rfl
  · exact hrows _ _

theorem levelAfter_of_after? {s : Step} (h : after? memory scratch s = some scratch') :
    scratch'.level = levelAfter scratch.level s := by
  cases s with
  | writeText text =>
      rw [after?, Option.ite_none_right_eq_some] at h
      rw [← Option.some.inj h.2, level_writeText]
      rfl
  | newline =>
      rw [after?, Option.ite_none_right_eq_some] at h
      rw [← Option.some.inj h.2]
      rfl
  | indent =>
      obtain rfl := Option.some.inj h
      rfl
  | unindent =>
      rw [after?, Builder.unindent?] at h
      split at h
      · simp at h
      · rename_i level hlevel
        rw [← Option.some.inj h, levelAfter, hlevel]
        rfl
  | write | content | finish | currentLine | emit => simp [after?] at h

theorem forall_mem_startedBy_writeText {p : Nat → Prop} {level : Nat} {text : String} :
    (∀ l ∈ startedBy level (.writeText text), p l) ↔ ('\n' ∈ text.toList → p level) := by
  rw [startedBy, List.forall_mem_replicate, ← List.count_pos_iff, or_iff_not_imp_left,
    Nat.pos_iff_ne_zero]

/-- A step that succeeds on the scratch output succeeds on the other exactly when the lines that it
starts fit there. -/
theorem Alongside.isSome_after? (h : Alongside memory b started scratch direct) {s : Step}
    (hs : after? memory scratch s = some scratch') :
    (after? memory direct s).isSome = true ↔
      ∀ l ∈ startedBy scratch.level s, Fits memory (b.width * (b.level + l)) := by
  cases s with
  | writeText text =>
      rw [forall_mem_startedBy_writeText, ← h.nextLead_eq]
      exact Option.isSome_ite
  | newline =>
      rw [startedBy, List.forall_mem_singleton, ← h.nextLead_eq]
      exact Option.isSome_ite
  | indent => simp [after?, startedBy]
  | unindent =>
      obtain ⟨-, direct', hdirect, -⟩ := h.unindent hs
      rw [after?, hdirect]
      simp [startedBy]
  | write | content | finish | currentLine | emit => simp [after?] at hs

theorem Alongside.after (h : Alongside memory b started scratch direct) {s : Step}
    (hs : after? memory scratch s = some scratch') {direct' : Builder}
    (hdirect : after? memory direct s = some direct') :
    Alongside memory b ((startedBy scratch.level s).getLast?.getD started) scratch' direct' := by
  cases s with
  | writeText text =>
      rw [after?, Option.ite_none_right_eq_some] at hs hdirect
      have hstarted : (startedBy scratch.level (.writeText text)).getLast?.getD started =
          if '\n' ∈ text.toList then scratch.level else started := by
        rw [startedBy, List.getLast?_replicate]
        by_cases hmem : '\n' ∈ text.toList
        · rw [if_neg fun hcount => List.count_eq_zero.mp hcount hmem, if_pos hmem]
          rfl
        · rw [if_pos (List.count_eq_zero.mpr hmem), if_neg hmem]
          rfl
      rw [hstarted, ← Option.some.inj hs.2, ← Option.some.inj hdirect.2]
      exact h.writeText hdirect.1
  | newline =>
      rw [after?, Option.ite_none_right_eq_some] at hs hdirect
      rw [← Option.some.inj hs.2, ← Option.some.inj hdirect.2]
      exact h.newline hdirect.1
  | indent =>
      obtain rfl := Option.some.inj hs
      obtain rfl := Option.some.inj hdirect
      exact h.indent
  | unindent =>
      obtain ⟨-, next, hnext, halongside⟩ := h.unindent hs
      obtain rfl : next = direct' := Option.some.inj (hnext.symm.trans hdirect)
      exact halongside
  | write | content | finish | currentLine | emit => simp [after?] at hs

theorem getLast?_append_getD (xs ys : List Nat) (n : Nat) :
    (xs ++ ys).getLast?.getD n = ys.getLast?.getD (xs.getLast?.getD n) := by
  rw [List.getLast?_append]
  cases ys.getLast? <;> rfl

/-- Steps that succeed on a fresh output succeed on another exactly when all lines that they start
fit there, and then the two outputs stay alongside. -/
theorem Alongside.afterAll (h : Alongside memory b started scratch direct) {steps : List Step}
    (hsteps : afterAll? memory scratch steps = some scratch') :
    ((afterAll? memory direct steps).isSome = true ↔
      ∀ l ∈ startLevels scratch.level steps, Fits memory (b.width * (b.level + l))) ∧
      ∀ direct', afterAll? memory direct steps = some direct' →
        Alongside memory b ((startLevels scratch.level steps).getLast?.getD started)
          scratch' direct' := by
  induction steps generalizing started scratch direct with
  | nil =>
      obtain rfl := Option.some.inj hsteps
      refine ⟨by simp [afterAll?, startLevels], ?_⟩
      intro direct' hdirect
      obtain rfl := Option.some.inj hdirect
      exact h
  | cons s steps ih =>
      rw [afterAll?] at hsteps
      obtain ⟨next, hnext, hrest⟩ := Option.bind_eq_some_iff.mp hsteps
      rw [startLevels, ← levelAfter_of_after? hnext, afterAll?, List.forall_mem_append,
        ← h.isSome_after? hnext]
      cases hdirect : after? memory direct s with
      | none => simp
      | some direct' =>
          obtain ⟨hfits, halongside⟩ := ih (h.after hnext hdirect) hrest
          refine ⟨by simpa using hfits, ?_⟩
          intro direct'' hdirect''
          rw [getLast?_append_getD]
          exact halongside direct'' hdirect''

end

/-! ### What was captured -/

theorem foldl_rows_concat (b : Builder) (rs : List (List Char)) (last : List Char) :
    (rs ++ [last]).foldl (fun b row => b.newline.write row) b =
      { b with
        lines := b.lines ++ b.flushedLine :: rs.map (behind (spaces b.nextLead))
        lead := spaces b.nextLead
        pending := last } := by
  induction rs generalizing b with
  | nil => rfl
  | cons row rs ih =>
      have hline : (b.newline.write row).flushedLine = behind (spaces b.nextLead) row := rfl
      rw [List.cons_append, List.foldl_cons, ih, hline, List.map_cons]
      simp [Builder.newline, Builder.write, Builder.nextLead]

section

variable {memory : Memory} {b scratch direct : Builder} {started : Nat}
  (h : Alongside memory b started scratch direct)

include h

theorem Alongside.rows_content :
    Text.rows scratch.content = scratch.lines ++ [scratch.flushedLine] := by
  refine Text.rows_unrows (by simp) ?_
  rw [List.forall_mem_append, List.forall_mem_singleton]
  exact ⟨h.rows, h.newline_not_mem_flushedLine⟩

theorem Alongside.fits (hmem : '\n' ∈ scratch.content) : Fits memory b.nextLead := by
  obtain ⟨first, rest, hrows, hrest, -⟩ := Text.exists_rows scratch.content
  rcases h.text with hfirst | hlater
  · rw [h.rows_content, hfirst.noLines] at hrows
    exact absurd (List.cons.inj hrows).2.symm (hrest.mpr hmem)
  · exact hlater.fits

/-- Writing what was captured on an output gives one that is alike. -/
theorem Alongside.alike (hlevel : scratch.level = 0)
    (hlast : scratch.pending ≠ [] ∨ started = 0) : (b.writeText scratch.content).Alike direct := by
  have hdirectLevel : b.level = direct.level := by rw [h.level, hlevel, Nat.add_zero]
  rw [Builder.writeText, h.rows_content]
  rcases h.text with hfirst | hlater
  · rw [hfirst.noLines, h.flushedLine_of_first hfirst]
    refine ⟨h.directWidth.symm, hfirst.lines.symm, hdirectLevel, ?_, ?_⟩
    · rw [Builder.currentLine, Builder.currentLine, hfirst.lead, hfirst.pending]
      rfl
    · rw [hfirst.pending]
      rfl
  · obtain ⟨first, rest, hscratch, hdirect⟩ := hlater.lines
    have hlead : b.nextLead = b.width * b.level := rfl
    have hline : spaces b.nextLead ++ scratch.flushedLine = direct.currentLine ∧
        scratch.flushedLine.isEmpty = scratch.pending.isEmpty := by
      rw [Builder.currentLine, hlater.lead, hlater.pending, flushedLine_eq, h.lead, spaces_add,
        hlead]
      by_cases hempty : scratch.pending = []
      -- an empty last line was started at level zero, so it is indented like the lines of `b`
      · have hzero : started = 0 := hlast.resolve_left fun hne => hne hempty
        rw [hempty, hzero]
        simp [spaces]
      · rw [Text.behind_of_ne_nil hempty]
        refine ⟨(List.append_assoc _ _ _).symm, ?_⟩
        rw [Bool.eq_iff_iff, List.isEmpty_iff, List.isEmpty_iff]
        simp [hempty]
    rw [hscratch, List.cons_append]
    simp only
    rw [foldl_rows_concat]
    refine ⟨h.directWidth.symm, hdirect.symm, hdirectLevel, hline.1, ?_⟩
    rw [hlater.pending]
    exact hline.2

end

/-! ### The two ways to render -/

/-- Steps of a render that succeed on a fresh output are captured: their text is given, and the
output that was current before is current again, among more outputs. -/
theorem exists_runFrom_captured {m : Machine} {w : World} {steps : List Step} {scratch : Builder}
    (hrender : ∀ s ∈ steps, s.isRender = true)
    (h : afterAll? w.memory (Builder.fresh w.builder.width) steps = some scratch) :
    ∃ others, runFrom w (captured (perform m steps)) =
      (.ok scratch.content, w.among w.builder others) := by
  rw [← w.builder_capturing] at h
  have hdone : runFrom w.capturing (perform m steps) = (.ok (), w.capturing.on scratch) :=
    (runFrom_perform_eq_ok_iff hrender).mpr ⟨scratch, h, rfl⟩
  have hscratch : (w.capturing.on scratch).outputAt w.outputs.count = scratch :=
    (w.capturing.on scratch).outputAt_current
  have hbefore : (w.capturing.on scratch).outputAt w.outputs.current = w.builder := by
    rw [← w.outputAt_current, ← w.outputAt_capturing w.outputs.current_lt]
    have hne : w.outputs.current ≠ w.outputs.count := Nat.ne_of_lt w.outputs.current_lt
    exact (if_neg hne).trans (if_neg hne).symm
  refine ⟨((w.capturing.on scratch).turnTo w.outputs.current).outputs, ?_⟩
  rw [runFrom_captured, hdone, hscratch, World.turnTo, hbefore]
  rfl

/-- Done on a fresh output, the steps succeed, the level is zero again, and something was written on
the last line unless that was started at level zero. -/
structure Settles (m : Machine) (w : World) (steps : List Step) (scratch : World) : Prop where
  render : ∀ s ∈ steps, s.isRender = true
  succeeds : runFrom (w.on (Builder.fresh w.builder.width)) (perform m steps) = (.ok (), scratch)
  level : scratch.builder.level = 0
  last : scratch.builder.pending ≠ [] ∨ lastStart steps = 0

/-- Doing the steps, and writing what they write when they are captured, both succeed and end on the
same level with the same text, and no further steps tell the two outputs apart. -/
def CaptureAgrees (m : Machine) (w : World) (steps : List Step) : Prop :=
  ∃ direct emitted : World, runFrom w (perform m steps) = (.ok (), direct) ∧
    runFrom w (captured (perform m steps) >>= writeOutput) = (.ok (), emitted) ∧
    emitted.builder.level = direct.builder.level ∧
    emitted.builder.content = direct.builder.content ∧
    ∀ more, (∀ s ∈ more, s.isOutput = true) → answers m emitted more = answers m direct more

theorem alongside_fresh (memory : Memory) (b : Builder) :
    Alongside memory b 0 (Builder.fresh b.width) b where
  scratchWidth := rfl
  directWidth := rfl
  level := rfl
  lead := by simp [Builder.fresh, spaces]
  rows := by simp [Builder.fresh]
  pending := List.not_mem_nil
  text := Or.inl ⟨rfl, rfl, rfl, rfl, by simp [Builder.fresh]⟩

theorem settles_of_afterAll {m : Machine} {w : World} {steps : List Step} {scratch : Builder}
    (hrender : ∀ s ∈ steps, s.isRender = true)
    (h : afterAll? w.memory (Builder.fresh w.builder.width) steps = some scratch)
    (hlevel : scratch.level = 0) (hlast : scratch.pending ≠ [] ∨ lastStart steps = 0) :
    Settles m w steps (w.on scratch) :=
  ⟨hrender, (runFrom_perform_eq_ok_iff hrender).mpr ⟨scratch, h, rfl⟩, hlevel, hlast⟩

/-- Capturing a render and doing it at once agree exactly when every line that is started at once
has an indentation that a line can be given. -/
theorem captureAgrees_iff_fits {m : Machine} {w : World} {steps : List Step} {scratch : World}
    (h : Settles m w steps scratch) :
    CaptureAgrees m w steps ↔
      ∀ l ∈ startLevels 0 steps, Fits w.memory (w.builder.width * (w.builder.level + l)) := by
  obtain ⟨s, hs, rfl⟩ := (runFrom_perform_eq_ok_iff h.render).mp h.succeeds
  obtain ⟨hfits, halongside⟩ := (alongside_fresh w.memory w.builder).afterAll hs
  rw [← show (Builder.fresh w.builder.width).level = 0 from rfl, ← hfits]
  constructor
  · rintro ⟨direct, -, hdirect, -⟩
    obtain ⟨d, hd, -⟩ := (runFrom_perform_eq_ok_iff h.render).mp hdirect
    rw [hd]
    rfl
  · intro hsome
    obtain ⟨d, hd⟩ := Option.isSome_iff_exists.mp hsome
    have hend := halongside d hd
    have halike := hend.alike h.level h.last
    obtain ⟨others, hcaptured⟩ := exists_runFrom_captured (w := w) h.render hs
    refine ⟨w.on d, w.among (w.builder.writeText s.content) others,
      (runFrom_perform_eq_ok_iff h.render).mpr ⟨d, hd, rfl⟩, ?_, halike.level, halike.content, ?_⟩
    · rw [runFrom_bind, hcaptured]
      exact runFrom_writeOutput hend.fits
    · intro more hmore
      exact answers_eq m hmore w others w.outputs halike

/-- Something written on a line, and two deeper lines. -/
def deeperLines : List Step :=
  [.writeText "(", .indent, .newline, .writeText "x,\ny", .unindent, .newline, .writeText ")"]

/-- A state whose output is one level deep, with a line begun. -/
def begunLine : World where
  builder :=
    { width := 4, level := 1, lines := [['f', ' ', '=']], lead := "    ".toList, pending := ['g'] }

theorem captureAgrees_deeperLines :
    (∃ scratch, Settles machine begunLine deeperLines scratch) ∧
      CaptureAgrees machine begunLine deeperLines := by
  have hsettles : Settles machine begunLine deeperLines
      (begunLine.on
        { width := 4
          lines := [['('], "    x,".toList, "    y".toList]
          pending := [')'] }) :=
    settles_of_afterAll (by decide) (by decide) rfl (Or.inr rfl)
  exact ⟨⟨_, hsettles⟩, (captureAgrees_iff_fits hsettles).mpr (by decide)⟩

/-- With a width so far below zero, no line can be started two levels deep. -/
def wideBackwards : World where
  builder := { width := -5000000000000000000, level := 1 }

def deeperLine : List Step :=
  [.indent, .newline, .writeText "x", .unindent]

/-- On a fresh output the line starts one level deep, but at once it starts two levels deep, and
that stops the render. -/
theorem not_captureAgrees_wideBackwards :
    (∃ scratch, Settles machine wideBackwards deeperLine scratch) ∧
      ¬ CaptureAgrees machine wideBackwards deeperLine := by
  have hrender : ∀ s ∈ deeperLine, s.isRender = true := by decide
  constructor
  · have hscratch : afterAll? wideBackwards.memory (Builder.fresh wideBackwards.builder.width)
        deeperLine =
        some { width := -5000000000000000000, lines := [[]], pending := ['x'] } := by decide
    exact ⟨_, settles_of_afterAll hrender hscratch rfl (Or.inl (by decide))⟩
  · rintro ⟨direct, -, hdirect, -⟩
    obtain ⟨b, hb, -⟩ := (runFrom_perform_eq_ok_iff hrender).mp hdirect
    have hnone : afterAll? wideBackwards.memory wideBackwards.builder deeperLine = none := by decide
    rw [hnone] at hb
    exact Option.some_ne_none b hb.symm

end Codeweave.Script
