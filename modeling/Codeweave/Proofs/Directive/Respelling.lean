import Codeweave.Proofs.Directive.Idempotence

/-!
One source under two paths. Where the scripts give the same under both, the reports agree on whether
the text changes and on which directives succeed, and a source regenerated under one path is left
alone under the other.
-/

namespace Codeweave.Directive

/-- The script gives the same under both paths, wherever its directive stands. -/
def AlikeUnder (config : Config) (path path' : String) (script : List Char) : Prop :=
  ∀ m n, generatedAt config path script m = generatedAt config path' script n

variable {config : Config} {path path' : String} {source : List Char} {report : Report}

theorem AlikeUnder.symm {script : List Char} (h : AlikeUnder config path path' script) :
    AlikeUnder config path' path script :=
  fun m n => (h n m).symm

theorem exists_yields_respelled {blocks : List Block} {ws : List Written}
    {results : List (Block × Outcome)} (hshows : List.Forall₂ (Shows source) blocks ws)
    (hyields : List.Forall₂ (Yields config path) blocks results)
    (halike : ∀ b ∈ blocks, AlikeUnder config path path' b.script) :
    ∃ results', List.Forall₂ (Yields config path') blocks results' ∧
      generatedFor results' = generatedFor results := by
  induction hyields generalizing ws with
  | nil => exact ⟨[], List.Forall₂.nil, rfl⟩
  | @cons b r blocks results hr _ ih =>
      obtain ⟨w, ws, hw, hrest, rfl⟩ := List.forall₂_cons_left_iff.mp hshows
      rw [List.forall_mem_cons] at halike
      obtain ⟨before, hline, hscriptLine⟩ := hw.line
      have hgives := artifact?_regenerate config path hline hscriptLine
      rw [hr.2, halike.1 before before,
        ← artifact?_regenerate config path' hline hscriptLine] at hgives
      obtain ⟨o, houtcome, hartifact⟩ := exists_ok_of_artifact? hgives.symm
      obtain ⟨results', hyields', hgenerated⟩ := ih hrest halike.2
      refine ⟨(b, o) :: results', List.Forall₂.cons ⟨rfl, houtcome⟩ hyields', ?_⟩
      simp only [generatedFor, List.map_cons, hartifact, hr.1] at hgenerated ⊢
      rw [hgenerated]

theorem map_ok_of_generatedFor {results results' : List (Block × Outcome)}
    (h : generatedFor results' = generatedFor results) :
    results'.map (·.2.ok) = results.map (·.2.ok) := by
  rw [map_ok_eq, map_ok_eq, ← map_snd_generatedFor, ← map_snd_generatedFor, h]

theorem exists_report_respelled (hrun : (regenerateSource config path source).1 = .ok report)
    (halike : ∀ r ∈ report.results, AlikeUnder config path path' r.1.script) :
    ∃ report', (regenerateSource config path' source).1 = .ok report' ∧
      report'.changed = report.changed ∧
      report'.results.map (·.2.ok) = report.results.map (·.2.ok) := by
  obtain ⟨blocks, results, hscan, hyields, hcounts, rfl⟩ := regenerateSource_eq_ok_iff.mp hrun
  obtain ⟨ps, hparted, rfl⟩ := scan_eq_ok_iff.mp hscan
  have hblocks := map_fst_of_yields hyields
  have hsame : ∀ b ∈ blocksFrom {} ps, AlikeUnder config path path' b.script := by
    intro b hb
    rw [← hblocks] at hb
    obtain ⟨r, hr, rfl⟩ := List.mem_map.mp hb
    exact halike r hr
  obtain ⟨results', hyields', hgenerated⟩ := exists_yields_respelled hparted.shows hyields hsame
  refine ⟨_, regenerateSource_eq_ok_iff.mpr ⟨_, results', hscan, hyields', ?_, rfl⟩, ?_,
    map_ok_of_generatedFor hgenerated⟩
  · intro r hr
    have hmem : r.1 ∈ results.map Prod.fst := by
      rw [hblocks, ← map_fst_of_yields hyields']
      exact List.mem_map_of_mem hr
    obtain ⟨r', hr', hfst⟩ := List.mem_map.mp hmem
    rw [← hfst]
    exact hcounts r' hr'
  · simp only [Report.changed, hgenerated]

theorem exists_unchanged_respelled (hrun : (regenerateSource config path source).1 = .ok report)
    (hplain : ∀ r ∈ report.results, EndsPlainly (source.take r.1.insertAt))
    (hbegin : ∀ r ∈ report.results, ∀ span ∈ r.1.generated,
      (source.take span.start).getLast? ≠ some '\r')
    (halike : ∀ r ∈ report.results, AlikeUnder config path path' r.1.script) :
    ∃ again, (regenerateSource config path' report.text).1 = .ok again ∧
      again.changed = false ∧
      again.results.map (·.2.ok) = report.results.map (·.2.ok) := by
  obtain ⟨ps, htells⟩ := exists_tells hrun
  have hlength := htells.length_artifactsOf
  have hfirst := first_of_results htells.results hbegin
  have hparted := htells.parted_text fun r hr _ => hplain r hr
  have hshows := hparted.shows
  rw [writtenOf_renew _ _ hlength] at hshows
  obtain ⟨results, hyields, hartifacts, hcounts⟩ :=
    exists_yields_renewed htells.results (fun r hr => (halike r hr).symm) hshows
  -- the renewed directives are up to date, so splicing their texts in once more changes nothing
  have hcurrent : List.Forall₂ (Written.UpToDate config (newlineOf report.text))
      (writtenOf (renew config (newlineOf source) ps (artifactsOf report.results)))
      (artifactsOf results) := by
    rw [htells.newlineOf_text hplain hfirst, hartifacts, writtenOf_renew _ _ hlength]
    exact upToDate_renew hlength hfirst
  have hsame : splice config report.text (generatedFor results) = report.text := by
    rw [splice_eq_renew config hparted (map_fst_of_yields hyields),
      (renew_eq_self_iff hparted.lined_region hcurrent.length_eq.symm).mpr hcurrent,
      hparted.flatten_eq]
  refine ⟨_, regenerateSource_eq_ok_iff.mpr
    ⟨_, results, scan_eq_ok_iff.mpr ⟨_, hparted, rfl⟩, hyields, hcounts, rfl⟩, ?_, ?_⟩
  · simp [Report.changed, hsame]
  · rw [map_ok_eq, map_ok_eq, hartifacts]

end Codeweave.Directive
