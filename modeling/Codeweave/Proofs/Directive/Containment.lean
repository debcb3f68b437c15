import Codeweave.Proofs.Directive.Regeneration
import Codeweave.Proofs.Script.Run

/-!
What a script can do to the operation that runs it. A directive whose script is followed to its end
has an outcome unless the script ends in an error that is nobody's fault, in an error that cannot
be told because a value it tells of has no text or because what it says of its line is no line, or
leaves a last line that cannot be flushed. No directive has a say in the outcome of another.
-/

namespace Codeweave.Directive

open Script

def labelOf (path : String) (d : Directive) : String :=
  Fault.pathOrMemory path ++ ":" ++ toString d.line

/-- How the script of a directive ends, and in which state; `none` if it is not run at all, because
a wrong number is held against the directive or the script has no code. -/
def ending? (config : Config) (path : String) (d : Directive) :
    Option (Except Stop Unit × World) :=
  if driftFails config && (drift? config d).isSome then none
  else
    match compileLabelled (labelOf path d) (Text.dedent d.script) with
    | .error _ => none
    | .ok program =>
      some (runFrom (World.start config.width (labelOf path d) config.memory) (runProgram program))

/-- Each phrase has a text. -/
def Tellable (w : World) (phrases : List Phrase) : Prop :=
  ∀ phrase ∈ phrases, ∃ text, phrase.text w.written w.shown = .ok text

/-- What an error itself says of its line is nothing, or a number that leads to a line whose number
can be written. -/
def Placeable (d : Directive) (w : World) (told : LineTold) : Prop :=
  ∀ line, told = .said line → w.isTrue line = true →
    ∃ n, line.integer? = some n ∧ (sourceLine d (some n)).natAbs < digitBound

/-- The last line can be flushed: there is none, or the next line has an indentation that fits. -/
def Flushable (w : World) : Prop :=
  w.builder.pending = [] ∨
    -(indexBound : Int) ≤ w.builder.nextLead ∧ w.builder.nextLead < w.memory.bound

/-- A problem can be held against a directive: it is a fault, or an error that a script may end with
and that can be told. -/
def Blamable (w : World) : Problem → Prop
  | .fault _ _ => True
  | .plain c arguments detail =>
      (c ≠ .base ∧ c ≠ .baseGroup ∧ c ≠ .interrupt) ∧ Tellable w (errorPhrases c arguments detail)

/-- What a script ends with concerns no one but its directive. -/
def Containable (label : String) (d : Directive) (w : World) : Except Stop Unit → Prop
  | .ok _ => Flushable w
  | .error .abandoned => False
  | .error (.raised e) =>
      Blamable w e.problem ∧ Placeable d w (toldLine (scriptFile label) w e)

/-- The directive ends no operation but its own. -/
def Contained (config : Config) (path : String) (d : Directive) : Prop :=
  ∀ ending ∈ ending? config path d, Containable (labelOf path d) d ending.2 ending.1

/-- The script of the directive is not given up before it is known what becomes of the directive. -/
def Followed (config : Config) (path : String) (d : Directive) : Prop :=
  (regenerate config path d).1 ≠ .error .abandoned

/-! ### Errors and their texts -/

theorem isContained_iff {c : ErrorClass} :
    isContained c = true ↔ c ≠ .base ∧ c ≠ .baseGroup ∧ c ≠ .interrupt := by
  cases c <;> decide

theorem exists_mapM_eq_ok_iff {ε α β : Type} (f : α → Except ε β) (xs : List α) :
    (∃ ys, xs.mapM f = .ok ys) ↔ ∀ x ∈ xs, ∃ y, f x = .ok y := by
  induction xs with
  | nil => simp [pure, Except.pure]
  | cons x xs ih =>
      rw [List.mapM_cons, List.forall_mem_cons, ← ih]
      cases hx : f x with
      | error e => simp [bind, Except.bind]
      | ok y =>
          cases hxs : xs.mapM f with
          | error e => simp [bind, Except.bind]
          | ok ys => simp [bind, Except.bind, pure, Except.pure]

theorem exists_phrasesText_eq_ok_iff {w : World} {phrases : List Phrase} :
    (∃ text, phrasesText w.written w.shown phrases = .ok text) ↔ Tellable w phrases := by
  rw [Tellable, ← exists_mapM_eq_ok_iff, phrasesText]
  cases phrases.mapM (Phrase.text w.written w.shown) with
  | error e => simp [bind, Except.bind]
  | ok texts => simp [bind, Except.bind]

theorem exists_writableLine_eq_ok_iff {n : Int} :
    (∃ line, writableLine n = .ok line) ↔ n.natAbs < digitBound := by
  rw [writableLine, integerText]
  by_cases hlarge : n.natAbs ≥ digitBound
  · simp [hlarge]
  · simp [if_neg hlarge, Nat.lt_of_not_ge hlarge]

theorem exists_tellSaid_eq_ok_iff {d : Directive} {w : World} {line : Value} :
    (∃ n, tellSaid d w line = .ok n) ↔
      ∃ n, line.integer? = some n ∧ (sourceLine d (some n)).natAbs < digitBound := by
  rw [tellSaid]
  cases line.integer? with
  | none => simp
  | some n => simp [exists_writableLine_eq_ok_iff]

theorem exists_tellLine_eq_ok_iff {d : Directive} {w : World} {told : LineTold} :
    (∃ line, tellLine d w told = .ok line) ↔ Placeable d w told := by
  rw [Placeable]
  cases told with
  | passed line? =>
      rw [tellLine]
      simp only [reduceCtorEq, false_implies, implies_true, iff_true]
      split <;> exact ⟨_, rfl⟩
  | said line =>
      rw [tellLine]
      simp only [LineTold.isSaid, LineTold.said.injEq, forall_eq']
      by_cases hsaid : w.isTrue line = true
      · simpa [hsaid] using exists_tellSaid_eq_ok_iff
      · simp [hsaid]

theorem exists_blame_eq_ok_iff {w : World} {problem : Problem} :
    (∃ fault, blame w problem = .ok fault) ↔ Blamable w problem := by
  cases problem with
  | fault fault origin => simp [blame, Blamable]
  | plain c arguments detail =>
      rw [blame, Blamable, ← isContained_iff, ← exists_phrasesText_eq_ok_iff, ← World.plainText]
      cases isContained c with
      | false => simp
      | true => cases w.plainText c arguments detail <;> simp [Except.map]

theorem exists_stopFault_eq_ok_iff {label : String} {d : Directive} {w : World} {stop : Stop} :
    (∃ fault, stopFault label d w stop = .ok fault) ↔ Containable label d w (.error stop) := by
  rcases stop with e | -
  · rw [Containable, ← exists_blame_eq_ok_iff, ← exists_tellLine_eq_ok_iff, stopFault]
    cases blame w e.problem with
    | error escape => simp [bind, Except.bind]
    | ok fault =>
        cases tellLine d w (toldLine (scriptFile label) w e) <;> simp [bind, Except.bind]
  · simp [stopFault, Containable]

/-! ### The last line -/

theorem exists_newlineOutput_eq_ok_iff {w : World} :
    (∃ a, (runFrom w newlineOutput).1 = .ok a) ↔
      -(indexBound : Int) ≤ w.builder.nextLead ∧ w.builder.nextLead < w.memory.bound := by
  have hbounds := w.memory.bound_le
  rw [newlineOutput, runFrom_bind, runFrom_get]
  simp only
  split
  · rename_i houtside
    simp only [runFrom_bind, runFrom_modifyBuilder, runFrom_raiseWith, reduceCtorEq, exists_false,
      false_iff]
    simp only [Bool.or_eq_true, decide_eq_true_eq] at houtside
    omega
  · rename_i houtside
    simp only [Bool.or_eq_true, decide_eq_true_eq, not_or] at houtside
    split
    · simp only [runFrom_bind, runFrom_modifyBuilder, runFrom_raiseProblem, reduceCtorEq,
        exists_false, false_iff]
      omega
    · rw [runFrom_modifyBuilder]
      exact ⟨fun _ => by omega, fun _ => ⟨(), rfl⟩⟩

/-- What is left to do once the last line is flushed. -/
def flushedOutput : Run (List Char) := do
  let b := (← get).builder
  if b.level != 0 then
    say (.log .warning .builder
      ("builder finished with " ++ toString b.level ++ " open indent level(s)"))
  pure b.flushedText

theorem exists_flushedOutput_eq_ok (w : World) :
    ∃ artifact, (runFrom w flushedOutput).1 = .ok artifact := by
  rw [flushedOutput, runFrom_bind, runFrom_get]
  simp only
  split
  · exact ⟨_, rfl⟩
  · exact ⟨_, rfl⟩

theorem finishOutput_eq :
    finishOutput = get >>= fun w =>
      if w.builder.pending.isEmpty then flushedOutput
      else newlineOutput >>= fun _ => flushedOutput := rfl

theorem exists_finishOutput_eq_ok_iff {w : World} :
    (∃ artifact, (runFrom w finishOutput).1 = .ok artifact) ↔ Flushable w := by
  rw [finishOutput_eq, runFrom_bind, runFrom_get, Flushable, ← exists_newlineOutput_eq_ok_iff]
  simp only
  cases hpending : w.builder.pending with
  | nil => simpa [runFrom_bind] using exists_flushedOutput_eq_ok w
  | cons c rest =>
      simp only [List.isEmpty_cons, Bool.false_eq_true, if_false, reduceCtorEq, false_or]
      rw [runFrom_bind]
      rcases runFrom w newlineOutput with ⟨stop | _, w'⟩
      · simp
      · exact ⟨fun _ => ⟨(), rfl⟩, fun _ => exists_flushedOutput_eq_ok w'⟩

/-! ### One directive -/

theorem exists_finish_eq_ok_iff {label path : String} {warnings : List Fault} {d : Directive}
    {w : World} :
    (∃ o, (finish label path warnings d w).1 = .ok o) ↔ Flushable w := by
  have hoverwritten : Flushable { w with journal := #[] } ↔ Flushable w := Iff.rfl
  rw [← hoverwritten, ← exists_finishOutput_eq_ok_iff, finish]
  simp only
  rcases runFrom { w with journal := #[] } finishOutput with ⟨stop | artifact, w'⟩
  · simp
  · simp only
    split
    · simp
    · simp

theorem exists_regenerateWith_eq_ok_iff {config : Config} {path : String}
    {warnings : List Fault} {d : Directive} :
    (∃ o, (regenerateWith config path warnings d).1 = .ok o) ↔
      ∀ program, compileLabelled (labelOf path d) (Text.dedent d.script) = .ok program →
        Containable (labelOf path d) d
          (runFrom (World.start config.width (labelOf path d) config.memory) (runProgram program)).2
          (runFrom (World.start config.width (labelOf path d) config.memory)
            (runProgram program)).1 := by
  rw [regenerateWith, runScript, ← labelOf]
  cases compileLabelled (labelOf path d) (Text.dedent d.script) with
  | error e => simp
  | ok program =>
      simp only [Except.ok.injEq, forall_eq']
      rcases runFrom (World.start config.width (labelOf path d) config.memory) (runProgram program)
        with ⟨stop | _, w⟩
      · rw [← exists_stopFault_eq_ok_iff]
        simp only
        cases stopFault (labelOf path d) d w stop with
        | error escape => simp [Except.map]
        | ok fault => simp [Except.map]
      · exact exists_finish_eq_ok_iff

theorem exists_regenerate_eq_ok_iff {config : Config} {path : String} {d : Directive} :
    (∃ o, (regenerate config path d).1 = .ok o) ↔ Contained config path d := by
  have hcontained : (driftFails config && (drift? config d).isSome) = false →
      (Contained config path d ↔
        ∀ program, compileLabelled (labelOf path d) (Text.dedent d.script) = .ok program →
          Containable (labelOf path d) d
            (runFrom (World.start config.width (labelOf path d) config.memory)
              (runProgram program)).2
            (runFrom (World.start config.width (labelOf path d) config.memory)
              (runProgram program)).1) := by
    intro hdrift
    rw [Contained, ending?, hdrift]
    cases compileLabelled (labelOf path d) (Text.dedent d.script) <;> simp
  rw [regenerate]
  cases hdrift : drift? config d with
  | none =>
      rw [hcontained (by rw [hdrift]; simp)]
      exact exists_regenerateWith_eq_ok_iff
  | some fault =>
      simp only
      split
      · rename_i hfails
        simp [Contained, ending?, hfails, hdrift]
      · rename_i hfails
        rw [hcontained (by simp [hfails])]
        exact exists_regenerateWith_eq_ok_iff

theorem artifact?_xor_fault? (o : Outcome) :
    (∃ artifact, o.artifact? = some artifact ∧ o.fault? = none) ∨
      ∃ fault, o.artifact? = none ∧ o.fault? = some fault := by
  obtain ⟨fault | artifact, warnings, openIndent⟩ := o
  · exact Or.inr ⟨fault, rfl, rfl⟩
  · exact Or.inl ⟨artifact, rfl, rfl⟩

/-! ### What ends an operation -/

theorem newlineOutput_plain {w w' : World} {stop : Stop}
    (h : runFrom w newlineOutput = (.error stop, w')) :
    ∃ c arguments missing frames, stop = .raised
      { problem := .plain c arguments missing, frames := frames } := by
  rw [newlineOutput, runFrom_bind, runFrom_get] at h
  simp only at h
  split at h
  · rw [runFrom_bind, runFrom_modifyBuilder] at h
    simp only [runFrom_raiseWith, Prod.mk.injEq, Except.error.injEq] at h
    exact ⟨_, _, _, _, h.1.symm⟩
  · split at h
    · rw [runFrom_bind, runFrom_modifyBuilder] at h
      simp only [runFrom_raiseProblem, Prod.mk.injEq, Except.error.injEq] at h
      exact ⟨_, _, _, _, h.1.symm⟩
    · simp at h

theorem finishOutput_plain {w w' : World} {stop : Stop}
    (h : runFrom w finishOutput = (.error stop, w')) :
    ∃ c arguments missing frames, stop = .raised
      { problem := .plain c arguments missing, frames := frames } := by
  have hflushed : ∀ w, (runFrom w flushedOutput).1 ≠ .error stop := by
    intro w hstop
    obtain ⟨artifact, hartifact⟩ := exists_flushedOutput_eq_ok w
    simp [hstop] at hartifact
  rw [finishOutput_eq, runFrom_bind, runFrom_get] at h
  simp only at h
  split at h
  · exact absurd (congrArg Prod.fst h) (hflushed w)
  · rw [runFrom_bind] at h
    rcases hnewline : runFrom w newlineOutput with ⟨stop' | _, w₁⟩
    · rw [hnewline] at h
      simp only [Prod.mk.injEq, Except.error.injEq] at h
      obtain ⟨rfl, rfl⟩ := h
      exact newlineOutput_plain hnewline
    · rw [hnewline] at h
      exact absurd (congrArg Prod.fst h) (hflushed w₁)

theorem textEscape_ne_fault (why : TextError) (fault : Fault) : textEscape why ≠ .fault fault := by
  cases why <;> simp [textEscape]

theorem tellSaid_ne_fault (d : Directive) (w : World) (line : Value) (fault : Fault) :
    tellSaid d w line ≠ .error (.fault fault) := by
  rw [tellSaid]
  split
  · rw [writableLine]
    split
    · simp
    · simpa using textEscape_ne_fault _ fault
  · rw [lineEscape.eq_def]
    split <;> simp

theorem tellLine_ne_fault (d : Directive) (w : World) (told : LineTold) (fault : Fault) :
    tellLine d w told ≠ .error (.fault fault) := by
  cases told with
  | passed line? =>
      rw [tellLine]
      split <;> simp
  | said line =>
      rw [tellLine]
      split
      · exact tellSaid_ne_fault d w line fault
      · simp

theorem blame_ne_fault (w : World) (problem : Problem) (fault : Fault) :
    blame w problem ≠ .error (.fault fault) := by
  cases problem with
  | fault fault' origin => simp [blame]
  | plain c arguments detail =>
      rw [blame]
      cases isContained c with
      | false => simp
      | true =>
          cases w.plainText c arguments detail with
          | error why => simpa [Except.map] using textEscape_ne_fault why fault
          | ok text => simp [Except.map]

theorem stopFault_ne_fault (label : String) (d : Directive) (w : World) (stop : Stop)
    (fault : Fault) : stopFault label d w stop ≠ .error (.fault fault) := by
  rcases stop with e | -
  · have hblame := blame_ne_fault w e.problem fault
    have hline := tellLine_ne_fault d w (toldLine (scriptFile label) w e) fault
    rw [stopFault]
    cases hblamed : blame w e.problem with
    | error escape =>
        rw [hblamed] at hblame
        simpa [bind, Except.bind] using hblame
    | ok told =>
        cases htold : tellLine d w (toldLine (scriptFile label) w e) with
        | error escape =>
            rw [htold] at hline
            simpa [bind, Except.bind] using hline
        | ok line => simp [bind, Except.bind]
  · simp [stopFault]

theorem regenerate_ne_fault (config : Config) (path : String) (d : Directive) (fault : Fault) :
    (regenerate config path d).1 ≠ .error (.fault fault) := by
  have hfinish : ∀ label warnings w,
      (finish label path warnings d w).1 ≠ .error (.fault fault) := by
    intro label warnings w
    rw [finish]
    simp only
    rcases hrun : runFrom { w with journal := #[] } finishOutput with ⟨stop | artifact, w'⟩
    · obtain ⟨c, arguments, missing, frames, rfl⟩ := finishOutput_plain hrun
      simp [stopEscape]
    · simp only
      split <;> simp
  -- the script runs with or without a warning about the number on the closer
  have hwith : ∀ warnings, (regenerateWith config path warnings d).1 ≠ .error (.fault fault) := by
    intro warnings
    rw [regenerateWith, runScript]
    cases compileLabelled (Fault.pathOrMemory path ++ ":" ++ toString d.line)
      (Text.dedent d.script) with
    | error e => simp
    | ok program =>
        simp only
        rcases runFrom (World.start config.width
          (Fault.pathOrMemory path ++ ":" ++ toString d.line) config.memory) (runProgram program)
          with ⟨stop | _, w⟩
        · have hstop := stopFault_ne_fault
            (Fault.pathOrMemory path ++ ":" ++ toString d.line) d w stop fault
          simp only
          cases hended : stopFault (Fault.pathOrMemory path ++ ":" ++ toString d.line) d w stop with
          | ok fault' => simp [Except.map]
          | error escape =>
              rw [hended] at hstop
              simpa [Except.map] using hstop
        · exact hfinish _ _ _
  rw [regenerate]
  cases drift? config d with
  | none => exact hwith []
  | some drift =>
      simp only
      split
      · simp
      · exact hwith [drift]

/-! ### All directives -/

theorem Yields.contained {config : Config} {path : String} {blocks : List Block}
    {results : List (Block × Outcome)} (h : List.Forall₂ (Yields config path) blocks results) :
    ∀ b ∈ blocks, Contained config path b.toDirective := by
  induction h with
  | nil => simp
  | cons hr _ ih =>
      rw [List.forall_mem_cons]
      exact ⟨exists_regenerate_eq_ok_iff.mp ⟨_, hr.2⟩, ih⟩

theorem exists_yields {config : Config} {path : String} {blocks : List Block}
    (h : ∀ b ∈ blocks, Contained config path b.toDirective) :
    ∃ results, List.Forall₂ (Yields config path) blocks results := by
  induction blocks with
  | nil => exact ⟨[], List.Forall₂.nil⟩
  | cons b blocks ih =>
      rw [List.forall_mem_cons] at h
      obtain ⟨o, ho⟩ := exists_regenerate_eq_ok_iff.mpr h.1
      obtain ⟨results, hresults⟩ := ih h.2
      exact ⟨(b, o) :: results, List.Forall₂.cons ⟨rfl, ho⟩ hresults⟩

theorem Yields.alone {config : Config} {path : String} {blocks : List Block}
    {results : List (Block × Outcome)} (h : List.Forall₂ (Yields config path) blocks results) :
    ∀ r ∈ results, (regenerate config path r.1.toDirective).1 = .ok r.2 := by
  induction h with
  | nil => simp
  | cons hr _ ih =>
      rw [List.forall_mem_cons]
      exact ⟨by rw [hr.1, hr.2], ih⟩

/-- A source that can be scanned has a report exactly when each of its directives has an outcome and
each number for a closer can be written. -/
theorem exists_report_iff {config : Config} {path : String} {source : List Char}
    {blocks : List Block} (hscan : scan source = .ok blocks) :
    (∃ report, (regenerateSource config path source).1 = .ok report) ↔
      ∀ b ∈ blocks, Contained config path b.toDirective ∧ countTooLong config b = false := by
  simp only [regenerateSource_eq_ok_iff, hscan, Except.ok.injEq]
  constructor
  · rintro ⟨report, _, results, rfl, hyields, hcounts, -⟩ b hb
    refine ⟨Yields.contained hyields b hb, ?_⟩
    rw [← map_fst_of_yields hyields] at hb
    obtain ⟨r, hr, rfl⟩ := List.mem_map.mp hb
    exact hcounts r hr
  · intro h
    obtain ⟨results, hyields⟩ := exists_yields fun b hb => (h b hb).1
    refine ⟨_, blocks, results, rfl, hyields, ?_, rfl⟩
    intro r hr
    refine (h r.1 ?_).2
    rw [← map_fst_of_yields hyields]
    exact List.mem_map_of_mem hr

theorem regenerateAll_ne_fault (config : Config) (path : String) (fault : Fault)
    (blocks : List Block) : (regenerateAll config path blocks).1 ≠ .error (.fault fault) := by
  induction blocks with
  | nil => simp [regenerateAll]
  | cons b rest ih =>
      have hb := regenerate_ne_fault config path b.toDirective fault
      rw [regenerateAll]
      rcases hrun : regenerate config path b.toDirective with ⟨escape | o, said⟩
      · rw [hrun] at hb
        simpa using hb
      · rcases hrest : regenerateAll config path rest with ⟨escape | results, more⟩
        · rw [hrest] at ih
          simpa [Except.map, hrest] using ih
        · simp [Except.map]

/-- A source whose directives cannot be told apart is at fault; no other source is. -/
theorem regenerateSource_eq_fault_iff {config : Config} {path : String} {source : List Char}
    {fault : Fault} :
    (regenerateSource config path source).1 = .error (.fault fault) ↔
      ∃ broken, scan source = .error broken ∧ broken.escape = .fault fault := by
  rw [regenerateSource]
  cases scan source with
  | error broken => simp
  | ok blocks =>
      have hall := regenerateAll_ne_fault config path fault blocks
      simp only [reduceCtorEq, false_and, exists_false, iff_false]
      rcases hrun : regenerateAll config path blocks with ⟨escape | results, said⟩
      · rw [hrun] at hall
        simpa [Except.bind] using hall
      · simp only [Except.bind, reportOn]
        split
        · simp [textEscape]
        · simp

theorem exists_escape_eq_fault_iff {broken : Broken} :
    (∃ fault, broken.escape = .fault fault) ↔ ∀ digits, broken.defect ≠ .countTooLong digits := by
  rw [Broken.escape]
  cases broken.defect <;> simp

/-- A directive that is followed has an outcome exactly when it is contained, and the outcome is
either a text or a fault. So a source that can be scanned and whose directives are followed has a
report exactly when all its directives are contained and their numbers can be written, and then
each directive has the outcome that it has alone. -/
theorem faults_contained_iff (config : Config) (path : String) :
    (∀ d, Followed config path d →
      ((∃ o, (regenerate config path d).1 = .ok o) ↔ Contained config path d)) ∧
      (∀ d o, (regenerate config path d).1 = .ok o →
        (∃ artifact, o.artifact? = some artifact ∧ o.fault? = none) ∨
          ∃ fault, o.artifact? = none ∧ o.fault? = some fault) ∧
      ∀ source blocks, scan source = .ok blocks →
        ((∀ b ∈ blocks, Followed config path b.toDirective) →
          ((∃ report, (regenerateSource config path source).1 = .ok report) ↔
            ∀ b ∈ blocks, Contained config path b.toDirective ∧ countTooLong config b = false)) ∧
        ∀ report, (regenerateSource config path source).1 = .ok report →
          report.results.map Prod.fst = blocks ∧
            ∀ r ∈ report.results, (regenerate config path r.1.toDirective).1 = .ok r.2 := by
  refine ⟨fun d _ => exists_regenerate_eq_ok_iff, fun d o _ => artifact?_xor_fault? o, ?_⟩
  intro source blocks hscan
  refine ⟨fun _ => exists_report_iff hscan, ?_⟩
  intro report hreport
  obtain ⟨blocks', results, hblocks, hyields, -, rfl⟩ := regenerateSource_eq_ok_iff.mp hreport
  obtain rfl : blocks = blocks' := by
    rw [hscan] at hblocks
    exact Except.ok.inj hblocks
  exact ⟨map_fst_of_yields hyields, Yields.alone hyields⟩

/-- Its one script ends in an error. -/
def raisingSource : List Char :=
  "/*!!\nraise ValueError('x')\n!! */\n".toList

def raisingBlock : Block :=
  { script := "raise ValueError('x')\n".toList
    declared := none
    source := ⟨0, 33⟩
    generated := none
    closer := ⟨27, 32⟩
    insertAt := 33 }

theorem followed_raisingBlock : Followed {} "" raisingBlock.toDirective := by
  have hends : (regenerate {} "" raisingBlock.toDirective).1.isOk = true := by decide +kernel
  intro habandoned
  simp [habandoned, Except.isOk, Except.toBool] at hends

theorem faults_contained_raisingSource :
    scan raisingSource = .ok [raisingBlock] ∧ Contained {} "" raisingBlock.toDirective ∧
      ∃ report, (regenerateSource {} "" raisingSource).1 = .ok report ∧
        report.results.map Prod.fst = [raisingBlock] ∧
        ∃ o fault, (regenerate {} "" raisingBlock.toDirective).1 = .ok o ∧
          o.artifact? = none ∧ o.fault? = some fault := by
  have hscan : scan raisingSource = .ok [raisingBlock] := by decide +kernel
  obtain ⟨hone, htext, hall⟩ := faults_contained_iff {} ""
  obtain ⟨hreport, halone⟩ := hall raisingSource [raisingBlock] hscan
  have hnone : ((regenerate {} "" raisingBlock.toDirective).1.toOption.bind
      Outcome.artifact?) = none := by decide +kernel
  have hends : (regenerate {} "" raisingBlock.toDirective).1.isOk = true := by decide +kernel
  rcases ho : (regenerate {} "" raisingBlock.toDirective).1 with escape | o
  · simp [ho, Except.isOk, Except.toBool] at hends
  · have hcontained := (hone _ followed_raisingBlock).mp ⟨o, ho⟩
    obtain ⟨report, hrun⟩ := (hreport (by simpa using followed_raisingBlock)).mpr
      (by simpa using ⟨hcontained, by decide⟩)
    refine ⟨hscan, hcontained, report, hrun, (halone report hrun).1, o, ?_⟩
    rcases htext _ o ho with ⟨artifact, hsome, -⟩ | ⟨fault, hno, hfault⟩
    · simp [ho, Except.toOption, hsome] at hnone
    · exact ⟨fault, rfl, hno, hfault⟩

end Codeweave.Directive
