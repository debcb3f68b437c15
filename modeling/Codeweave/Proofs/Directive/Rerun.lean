import Codeweave.Proofs.Directive.Results

/-!
What a second run of a directive gives. The text generated for a directive depends on its script and
on the line that it stands in; the number on its closer matters only where a wrong one is held
against it.
-/

namespace Codeweave.Directive

open Script

/-- What the script of a directive gives behind a number of lines: the generated text, `some none`
when something is held against the directive, and `none` when the operation ends. -/
def generatedAt (config : Config) (path : String) (script : List Char) (before : Nat) :
    Option (Option (List Char)) :=
  (regenerateWith config path []
    { script := script
      declared := none
      line := before + 1
      scriptLine := before + 2 }).1.toOption.map Outcome.artifact?

/-- The script gives the same wherever its directive stands. -/
def LineIndependent (config : Config) (path : String) (script : List Char) : Prop :=
  ∀ m n, generatedAt config path script m = generatedAt config path script n

section

variable {d d' : Directive} (hscript : d.script = d'.script) (hline : d.line = d'.line)
  (hscriptLine : d.scriptLine = d'.scriptLine)

include hline hscriptLine

theorem sourceLine_congr : sourceLine d = sourceLine d' := by
  funext line?
  cases line? with
  | none => exact hline
  | some line => rw [sourceLine, sourceLine, hscriptLine]

theorem stopFault_congr (label : String) (w : World) (stop : Stop) :
    stopFault label d w stop = stopFault label d' w stop := by
  have hsource := sourceLine_congr hline hscriptLine
  have htell : tellLine d w = tellLine d' w := by
    funext told
    cases told with
    | said line => rw [tellLine, tellLine, tellSaid, tellSaid, hsource]
    | passed line? => rw [tellLine, tellLine, hsource]
  rw [stopFault.eq_def, stopFault.eq_def, htell]

include hscript

theorem runScript_congr (config : Config) (label : String) :
    runScript config label d = runScript config label d' := by
  rw [runScript, runScript, hscript]
  simp only [scriptFault, sourceLine_congr hline hscriptLine, stopFault_congr hline hscriptLine]

end

theorem artifact?_finish (label path : String) (warnings warnings' : List Fault)
    (d d' : Directive) (w : World) :
    (finish label path warnings d w).1.toOption.map Outcome.artifact? =
      (finish label path warnings' d' w).1.toOption.map Outcome.artifact? := by
  rw [finish, finish]
  simp only
  split
  · rfl
  · split <;> rfl

theorem artifact?_regenerateWith {config : Config} {path : String} {d : Directive} {before : Nat}
    (hline : d.line = before + 1) (hscriptLine : d.scriptLine = before + 2)
    (warnings : List Fault) :
    (regenerateWith config path warnings d).1.toOption.map Outcome.artifact? =
      generatedAt config path d.script before := by
  rw [generatedAt, regenerateWith, regenerateWith]
  simp only [hline]
  have hscript : d.script =
      (⟨d.script, none, [], before + 1, before + 2⟩ : Directive).script := rfl
  rw [runScript_congr hscript hline hscriptLine]
  split
  · rfl
  · rfl
  · exact artifact?_finish ..

theorem isSome_drift?_congr {d d' : Directive} (config : Config) (hscript : d.script = d'.script)
    (hdeclared : d.declared = d'.declared) :
    (drift? config d).isSome = (drift? config d').isSome := by
  have hcount : d.lineCount = d'.lineCount := by rw [Directive.lineCount, hscript]; rfl
  rw [drift?, drift?, hdeclared, hcount]
  cases d'.declared with
  | none => rfl
  | some n =>
      simp only
      split <;> rfl

/-- What a directive gives: nothing where a wrong number is held against it, else what its script
gives in its place. -/
theorem artifact?_regenerate (config : Config) (path : String) {d : Directive} {before : Nat}
    (hline : d.line = before + 1) (hscriptLine : d.scriptLine = before + 2) :
    (regenerate config path d).1.toOption.map Outcome.artifact? =
      if driftFails config && (drift? config d).isSome then some none
      else generatedAt config path d.script before := by
  rw [regenerate]
  split
  · rename_i hdrift
    rw [artifact?_regenerateWith hline hscriptLine, hdrift]
    simp
  · rename_i fault hdrift
    rw [hdrift, Option.isSome_some, Bool.and_true]
    split
    · rfl
    · exact artifact?_regenerateWith hline hscriptLine _

theorem exists_ok_of_artifact? {result : Except Escape Outcome} {artifact : Option (List Char)}
    (h : result.toOption.map Outcome.artifact? = some artifact) :
    ∃ o, result = .ok o ∧ o.artifact? = artifact := by
  cases result with
  | error escape => simp [Except.toOption] at h
  | ok o => exact ⟨o, rfl, by simpa [Except.toOption] using h⟩

section

variable {config : Config} {path path' : String} {source text newline : List Char}
  {r : Block × Outcome} {b : Block} {w : Written}

theorem ResultOf.regenerate_renewed (h : ResultOf config path source r w)
    (hindependent : ∀ m n, generatedAt config path' r.1.script m =
      generatedAt config path r.1.script n)
    (hshows : Shows text b (w.renewed config newline r.2.artifact?)) :
    ∃ o, (regenerate config path' b.toDirective).1 = .ok o ∧ o.artifact? = r.2.artifact? := by
  obtain ⟨before, hline, hscriptLine⟩ := h.shows.line
  obtain ⟨before', hline', hscriptLine'⟩ := hshows.line
  have hscript : b.script = r.1.script := hshows.script.trans h.shows.script.symm
  have hdrift : (driftFails config && (drift? config b.toDirective).isSome) =
      (driftFails config && (drift? config r.1.toDirective).isSome) := by
    cases hupdate : config.updateCounts with
    | true => simp [driftFails, hupdate]
    | false =>
        have hdeclared : b.declared = r.1.declared := by
          rw [hshows.declared, h.shows.declared, count_renewed, hupdate]
          rfl
        rw [isSome_drift?_congr config hscript hdeclared]
  apply exists_ok_of_artifact?
  have hfirst := artifact?_regenerate config path hline hscriptLine
  rw [artifact?_regenerate config path' hline' hscriptLine', hdrift, hscript,
    hindependent before' before, ← hfirst, h.outcome]
  rfl

theorem recounted_renewed (artifact : Option (List Char)) :
    (w.renewed config newline artifact).recounted config = false := by
  rw [recounted_eq_false_iff, count_renewed]
  intro hupdate
  rw [if_pos hupdate]
  rfl

theorem countTooLong_renewed {artifact : Option (List Char)}
    (hshows : Shows text b (w.renewed config newline artifact)) :
    countTooLong config b = false := by
  rw [countTooLong, ← hshows.recounted, recounted_renewed, Bool.false_and]

theorem upToDate_renewed (hfirst : ∀ r ∈ w.region, r.first.getLast? ≠ some '\r')
    (artifact : Option (List Char)) :
    (w.renewed config newline artifact).UpToDate config newline artifact := by
  refine ⟨recounted_eq_false_iff.mp (recounted_renewed artifact), ?_⟩
  rintro text ⟨rfl⟩
  refine ⟨w.regionWith newline text, rfl, ?_⟩
  cases hregion : w.region with
  | none =>
      rw [regionWith_none hregion]
      exact Text.flatten_lines _
  | some r =>
      rw [regionWith_some hregion]
      exact Region.flatten_body_renewed fun hfuses => hfirst r hregion hfuses.1

end

/-! ### All directives -/

theorem exists_yields_renewed {config : Config} {path path' : String}
    {source text newline : List Char}
    {results : List (Block × Outcome)} {ws : List Written} {blocks : List Block}
    (h : List.Forall₂ (ResultOf config path source) results ws)
    (hindependent : ∀ r ∈ results, ∀ m n, generatedAt config path' r.1.script m =
      generatedAt config path r.1.script n)
    (hshows : List.Forall₂ (Shows text) blocks
      (List.zipWith (fun w artifact => w.renewed config newline artifact) ws
        (artifactsOf results))) :
    ∃ results', List.Forall₂ (Yields config path') blocks results' ∧
      artifactsOf results' = artifactsOf results ∧
      ∀ r ∈ results', countTooLong config r.1 = false := by
  induction h generalizing blocks with
  | nil =>
      obtain rfl := List.forall₂_nil_right_iff.mp hshows
      exact ⟨[], List.Forall₂.nil, rfl, by simp⟩
  | @cons r w results ws hr _ ih =>
      obtain ⟨b, blocks, hb, hrest, rfl⟩ := List.forall₂_cons_right_iff.mp hshows
      rw [List.forall_mem_cons] at hindependent
      obtain ⟨o, houtcome, hartifact⟩ := hr.regenerate_renewed hindependent.1 hb
      obtain ⟨results', hyields, hartifacts, hcounts⟩ := ih hindependent.2 hrest
      refine ⟨(b, o) :: results', List.Forall₂.cons ⟨rfl, houtcome⟩ hyields, ?_, ?_⟩
      · simp only [artifactsOf, List.map_cons, hartifact] at hartifacts ⊢
        rw [hartifacts]
      · rw [List.forall_mem_cons]
        exact ⟨countTooLong_renewed hb, hcounts⟩

theorem upToDate_renew {config : Config} {newline : List Char} {ws : List Written}
    {artifacts : List (Option (List Char))} (hlength : artifacts.length = ws.length)
    (hfirst : ∀ w ∈ ws, ∀ r ∈ w.region, r.first.getLast? ≠ some '\r') :
    List.Forall₂ (Written.UpToDate config newline)
      (List.zipWith (fun w artifact => w.renewed config newline artifact) ws artifacts)
      artifacts := by
  induction ws generalizing artifacts with
  | nil =>
      obtain rfl := List.eq_nil_of_length_eq_zero hlength
      exact List.Forall₂.nil
  | cons w ws ih =>
      rcases artifacts with _ | ⟨artifact, artifacts⟩
      · simp at hlength
      · rw [List.forall_mem_cons] at hfirst
        exact List.Forall₂.cons (upToDate_renewed hfirst.1 artifact)
          (ih (by simpa using hlength) hfirst.2)

end Codeweave.Directive
