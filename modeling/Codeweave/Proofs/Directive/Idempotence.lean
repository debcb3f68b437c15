import Codeweave.Proofs.Directive.EmptyScript
import Codeweave.Proofs.Directive.Newline

/-!
Regeneration is done after one run. The second run reads the renewed outline, its scripts give the
texts that stand in it already, and so it changes nothing.
-/

namespace Codeweave.Directive

theorem Shows.first_of_generated {source : List Char} {b : Block} {w : Written}
    (h : Shows source b w)
    (hbegin : ∀ span ∈ b.generated, (source.take span.start).getLast? ≠ some '\r') :
    ∀ r ∈ w.region, r.first.getLast? ≠ some '\r' := by
  intro r hr hlast
  have hopening := h.opening
  rw [Option.mem_def.mp hr, Option.map_some, hlast] at hopening
  obtain ⟨span, hspan, hreturn⟩ := Option.map_eq_some_iff.mp hopening
  exact hbegin span hspan hreturn

theorem first_of_results {config : Config} {path : String} {source : List Char}
    {results : List (Block × Outcome)} {ws : List Written}
    (h : List.Forall₂ (ResultOf config path source) results ws)
    (hbegin : ∀ r ∈ results, ∀ span ∈ r.1.generated,
      (source.take span.start).getLast? ≠ some '\r') :
    ∀ w ∈ ws, ∀ r ∈ w.region, r.first.getLast? ≠ some '\r' := by
  induction h with
  | nil => simp
  | cons hr _ ih =>
      rw [List.forall_mem_cons] at hbegin ⊢
      exact ⟨hr.shows.first_of_generated hbegin.1, ih hbegin.2⟩

theorem map_ok_eq (results : List (Block × Outcome)) :
    results.map (·.2.ok) = (artifactsOf results).map Option.isSome := by
  rw [artifactsOf, List.map_map]
  refine List.map_congr_left ?_
  rintro ⟨b, ⟨fault | artifact, warnings, openIndent⟩⟩ _ <;> rfl

theorem Tells.newlineOf_text {config : Config} {path : String} {source : List Char}
    {report : Report} {ps : List Passage} (h : Tells config path source report ps)
    (hplain : ∀ r ∈ report.results, EndsPlainly (source.take r.1.insertAt))
    (hfirst : ∀ w ∈ writtenOf ps, ∀ r ∈ w.region, r.first.getLast? ≠ some '\r') :
    newlineOf report.text = newlineOf source := by
  have hparted := h.parted_text fun r hr _ => hplain r hr
  have hsource := hasReturnNewline_flatten h.parted.lined
  rw [h.parted.flatten_eq, ← hasReturnNewline_newlineOf] at hsource
  have htext := any_renew (isNewline_newlineOf source) h.parted.outlined h.parted.lined.isLine
    ((h.renewable fun r hr _ => hplain r hr).imp fun _ _ hw => hw.closer) hfirst hsource.symm
  rw [← hasReturnNewline_flatten hparted.lined, ← h.text_eq,
    hasReturnNewline_newlineOf] at htext
  rw [newlineOf, htext, newlineOf]

/-- Regenerating a regenerated source changes nothing, and the same directives succeed. -/
theorem regenerateSource_idempotent (config : Config) (path : String) {source : List Char}
    {report : Report} (hrun : (regenerateSource config path source).1 = .ok report)
    (hplain : ∀ r ∈ report.results, EndsPlainly (source.take r.1.insertAt))
    (hbegin : ∀ r ∈ report.results, ∀ span ∈ r.1.generated,
      (source.take span.start).getLast? ≠ some '\r')
    (hindependent : ∀ r ∈ report.results, LineIndependent config path r.1.script) :
    ∃ again, (regenerateSource config path report.text).1 = .ok again ∧
      again.text = report.text ∧ again.changed = false ∧
      again.results.map (·.2.ok) = report.results.map (·.2.ok) := by
  obtain ⟨ps, htells⟩ := exists_tells hrun
  have hlength := htells.length_artifactsOf
  have hfirst := first_of_results htells.results hbegin
  have hparted := htells.parted_text fun r hr _ => hplain r hr
  have hshows := hparted.shows
  rw [writtenOf_renew _ _ hlength] at hshows
  obtain ⟨results, hyields, hartifacts, hcounts⟩ :=
    exists_yields_renewed htells.results hindependent hshows
  have hcurrent : List.Forall₂ (Written.UpToDate config (newlineOf source))
      (writtenOf (renew config (newlineOf source) ps (artifactsOf report.results)))
      (artifactsOf report.results) := by
    rw [writtenOf_renew _ _ hlength]
    exact upToDate_renew hlength hfirst
  have hsame : splice config report.text (generatedFor results) = report.text := by
    rw [splice_eq_renew config hparted (map_fst_of_yields hyields),
      htells.newlineOf_text hplain hfirst, hartifacts,
      (renew_eq_self_iff hparted.lined_region hcurrent.length_eq.symm).mpr hcurrent,
      hparted.flatten_eq]
  refine ⟨_, regenerateSource_eq_ok_iff.mpr
    ⟨_, results, scan_eq_ok_iff.mpr ⟨_, hparted, rfl⟩, hyields, hcounts, rfl⟩, hsame, ?_, ?_⟩
  · simp [Report.changed, hsame]
  · rw [map_ok_eq, map_ok_eq, hartifacts]

theorem regenerateSource_idempotent_twoDirectives :
    ∃ report, (regenerateSource { updateCounts := true } "" twoDirectives).1 = .ok report ∧
      ∃ again, (regenerateSource { updateCounts := true } "" report.text).1 = .ok again ∧
        again.text = report.text ∧ again.changed = false ∧
        again.results.map (·.2.ok) = report.results.map (·.2.ok) := by
  have hpath : '\x00' ∉ "".toList := by decide
  obtain ⟨report, hrun, hblocks, -⟩ :=
    exists_report_nil { updateCounts := true } hpath rfl scan_twoDirectives (by decide)
  have hall : ∀ b ∈ twoBlocks, EndsPlainly (twoDirectives.take b.insertAt) ∧
      (∀ span ∈ b.generated, (twoDirectives.take span.start).getLast? ≠ some '\r') ∧
      b.script = [] := by
    decide +kernel
  have hresults := fun r hr => hall (Prod.fst r) ((hblocks r.1).mpr ⟨r, hr, rfl⟩)
  refine ⟨report, hrun, regenerateSource_idempotent _ "" hrun (fun r hr => (hresults r hr).1)
    (fun r hr => (hresults r hr).2.1) ?_⟩
  intro r hr
  rw [(hresults r hr).2.2]
  exact lineIndependent_nil _ hpath

end Codeweave.Directive
