import Codeweave.Directive.Report
import Mathlib.Data.List.Forall2

/-!
What regeneration gives. A generated text never holds a sentinel, directives are regenerated one by
one, and a source has a report exactly when it can be scanned, no directive ends the operation and
every number for a closer can be written.
-/

namespace Codeweave.Directive

open Script

theorem sentinelLine?_eq_none_iff {artifact : List Char} :
    sentinelLine? artifact = none ↔
      ∀ l ∈ Text.bodies artifact, isBegin l = false ∧ isEnd l = false := by
  rw [sentinelLine?, Option.map_eq_none_iff, List.findIdx?_eq_none_iff]
  simp only [Bool.or_eq_false_iff]

theorem artifact?_error (fault : Fault) (warnings : List Fault) (openIndent : Nat) :
    Outcome.artifact? ⟨.error fault, warnings, openIndent⟩ = none := rfl

theorem artifact?_ok (artifact : List Char) (warnings : List Fault) (openIndent : Nat) :
    Outcome.artifact? ⟨.ok artifact, warnings, openIndent⟩ = some artifact := rfl

/-! ### One directive -/

theorem sentinelLine?_of_finish {label path : String} {warnings : List Fault} {d : Directive}
    {w : World} {o : Outcome} {artifact : List Char}
    (h : (finish label path warnings d w).1 = .ok o) (hartifact : o.artifact? = some artifact) :
    sentinelLine? artifact = none := by
  rw [finish] at h
  split at h
  · simp at h
  · split at h
    · simp only [Except.ok.injEq] at h
      rw [← h, artifact?_error] at hartifact
      simp at hartifact
    · rename_i hsentinel
      simp only [Except.ok.injEq] at h
      rw [← h, artifact?_ok, Option.some.injEq] at hartifact
      rwa [← hartifact]

theorem sentinelLine?_of_regenerateWith {config : Config} {path : String}
    {warnings : List Fault} {d : Directive} {o : Outcome} {artifact : List Char}
    (h : (regenerateWith config path warnings d).1 = .ok o)
    (hartifact : o.artifact? = some artifact) : sentinelLine? artifact = none := by
  rw [regenerateWith] at h
  simp only at h
  split at h
  · simp at h
  · simp only [Except.ok.injEq] at h
    rw [← h, artifact?_error] at hartifact
    simp at hartifact
  · exact sentinelLine?_of_finish h hartifact

/-- A generated text holds no line that is a sentinel. -/
theorem sentinelLine?_of_regenerate {config : Config} {path : String} {d : Directive}
    {o : Outcome} {artifact : List Char} (h : (regenerate config path d).1 = .ok o)
    (hartifact : o.artifact? = some artifact) : sentinelLine? artifact = none := by
  rw [regenerate] at h
  split at h
  · exact sentinelLine?_of_regenerateWith h hartifact
  · split at h
    · simp only [Except.ok.injEq] at h
      rw [← h, artifact?_error] at hartifact
      simp at hartifact
    · exact sentinelLine?_of_regenerateWith h hartifact

/-! ### All directives -/

/-- The directive of the block has the outcome. -/
def Yields (config : Config) (path : String) (b : Block) (r : Block × Outcome) : Prop :=
  r.1 = b ∧ (regenerate config path b.toDirective).1 = .ok r.2

theorem regenerateAll_eq_ok_iff {config : Config} {path : String} {blocks : List Block}
    {results : List (Block × Outcome)} :
    (regenerateAll config path blocks).1 = .ok results ↔
      List.Forall₂ (Yields config path) blocks results := by
  induction blocks generalizing results with
  | nil => simp [regenerateAll, eq_comm]
  | cons b blocks ih =>
      rw [regenerateAll]
      split
      · rename_i escape said hregenerate
        constructor
        · intro h
          simp at h
        · intro h
          obtain ⟨r, rest, ⟨-, hr⟩, -, -⟩ := List.forall₂_cons_left_iff.mp h
          rw [hregenerate] at hr
          simp at hr
      · rename_i outcome said hregenerate
        rw [List.forall₂_cons_left_iff]
        simp only
        constructor
        · intro h
          cases hrest : (regenerateAll config path blocks).1 with
          | error escape => simp [hrest, Except.map] at h
          | ok rest =>
              refine ⟨(b, outcome), rest, ⟨rfl, by rw [hregenerate]⟩, ih.mp hrest, ?_⟩
              simpa [hrest, Except.map, eq_comm] using h
        · rintro ⟨⟨b', outcome'⟩, rest, ⟨rfl, hr⟩, hrest, rfl⟩
          rw [hregenerate] at hr
          simp only [Except.ok.injEq] at hr
          rw [ih.mpr hrest, hr]
          rfl

theorem map_fst_of_yields {config : Config} {path : String} {blocks : List Block}
    {results : List (Block × Outcome)} (h : List.Forall₂ (Yields config path) blocks results) :
    results.map Prod.fst = blocks := by
  induction h with
  | nil => rfl
  | cons hr _ ih => rw [List.map_cons, hr.1, ih]

/-! ### A source -/

def artifactsOf (results : List (Block × Outcome)) : List (Option (List Char)) :=
  results.map fun r => r.2.artifact?

def generatedFor (results : List (Block × Outcome)) : List (Block × Option (List Char)) :=
  results.map fun r => (r.1, r.2.artifact?)

theorem map_fst_generatedFor (results : List (Block × Outcome)) :
    (generatedFor results).map Prod.fst = results.map Prod.fst := by
  simp [generatedFor]

theorem map_snd_generatedFor (results : List (Block × Outcome)) :
    (generatedFor results).map Prod.snd = artifactsOf results := by
  simp [generatedFor, artifactsOf]

theorem reportOn_eq_ok_iff {config : Config} {path : String} {source : List Char}
    {results : List (Block × Outcome)} {report : Report} :
    reportOn config path source results = .ok report ↔
      (∀ r ∈ results, countTooLong config r.1 = false) ∧
        report = ⟨Fault.pathOrMemory path, source,
          splice config source (generatedFor results), results⟩ := by
  rw [reportOn]
  split
  · rename_i hany
    obtain ⟨r, hr, hlong⟩ := List.any_eq_true.mp hany
    constructor
    · intro h
      simp at h
    · rintro ⟨hall, -⟩
      simp [hall r hr] at hlong
  · rename_i hany
    have hall : ∀ r ∈ results, countTooLong config r.1 = false := by
      intro r hr
      by_contra hlong
      exact hany (List.any_eq_true.mpr ⟨r, hr, by simpa using hlong⟩)
    rw [Except.ok.injEq, eq_comm]
    exact ⟨fun h => ⟨hall, h⟩, fun h => h.2⟩

/-- When a source has a report, and which one it is. -/
theorem regenerateSource_eq_ok_iff {config : Config} {path : String} {source : List Char}
    {report : Report} :
    (regenerateSource config path source).1 = .ok report ↔
      ∃ blocks results, scan source = .ok blocks ∧
        List.Forall₂ (Yields config path) blocks results ∧
        (∀ r ∈ results, countTooLong config r.1 = false) ∧
        report = ⟨Fault.pathOrMemory path, source,
          splice config source (generatedFor results), results⟩ := by
  rw [regenerateSource]
  cases hscan : scan source with
  | error broken => simp
  | ok blocks =>
      simp only [Except.ok.injEq, exists_and_left, exists_eq_left']
      cases hall : (regenerateAll config path blocks).1 with
      | error escape =>
          constructor
          · intro h
            simp [Except.bind] at h
          · rintro ⟨results, hyields, -⟩
            rw [regenerateAll_eq_ok_iff.mpr hyields] at hall
            simp at hall
      | ok results =>
          have hyields := regenerateAll_eq_ok_iff.mp hall
          rw [Except.bind, reportOn_eq_ok_iff]
          constructor
          · rintro ⟨hcount, rfl⟩
            exact ⟨results, hyields, hcount, rfl⟩
          · rintro ⟨results', hyields', hcount, rfl⟩
            rw [regenerateAll_eq_ok_iff.mpr hyields', Except.ok.injEq] at hall
            subst hall
            exact ⟨hcount, rfl⟩

end Codeweave.Directive
