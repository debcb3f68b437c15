import Codeweave.Proofs.Directive.EditsApart
import Codeweave.Proofs.Directive.EmptyScript

/-!
When regeneration changes a source. A renewed outline is read back from the text that it makes, so
the text is the source only if the outline is unchanged, and that it is directive by directive: a
longer region here and a shorter one there cannot make up for each other.
-/

namespace Codeweave.Directive

open Text (Lined)

/-- What was generated for the block stands in the source, and the number on its closer is right if
that is asked for. -/
def UpToDate (config : Config) (source : List Char) (r : Block × Outcome) : Prop :=
  (∀ artifact ∈ r.2.artifact?, ∃ span ∈ r.1.generated,
    span.cut source = regionText r.1.margin (newlineOf source) artifact) ∧
    (config.updateCounts = true → r.1.declared = some (r.1.lineCount : Int))

theorem Shows.generated_iff {source : List Char} {b : Block} {w : Written}
    (h : Shows source b w) (text : List Char) :
    (∃ span ∈ b.generated, span.cut source = text) ↔ ∃ r ∈ w.region, r.body.flatten = text := by
  have hgenerated := h.generated
  cases hspan : b.generated <;> cases hregion : w.region <;> simp_all

theorem ResultOf.upToDate_iff {config : Config} {path : String} {source : List Char}
    {r : Block × Outcome} {w : Written} (h : ResultOf config path source r w) :
    UpToDate config source r ↔ w.UpToDate config (newlineOf source) r.2.artifact? := by
  rw [UpToDate, Written.UpToDate, ← h.shows.count_eq_iff, and_comm]
  simp only [h.shows.generated_iff, h.shows.margin]

theorem upToDate_results_iff {config : Config} {path : String} {source : List Char}
    {results : List (Block × Outcome)} {ws : List Written}
    (h : List.Forall₂ (ResultOf config path source) results ws) :
    List.Forall₂ (Written.UpToDate config (newlineOf source)) ws (artifactsOf results) ↔
      ∀ r ∈ results, UpToDate config source r := by
  induction h with
  | nil => simp [artifactsOf]
  | cons hr _ ih =>
      rw [artifactsOf, List.map_cons, List.forall₂_cons, List.forall_mem_cons, ← hr.upToDate_iff]
      exact and_congr_right fun _ => ih

theorem Tells.text_eq_iff {config : Config} {path : String} {source : List Char}
    {report : Report} {ps : List Passage} (h : Tells config path source report ps)
    (hplain : ∀ r ∈ report.results, EndsPlainly (source.take r.1.insertAt)) :
    report.text = source ↔ ∀ r ∈ report.results, UpToDate config source r := by
  have hrenew : report.text = source ↔
      renew config (newlineOf source) ps (artifactsOf report.results) = ps := by
    constructor
    · intro htext
      have hparted := h.parted_text fun r hr _ => hplain r hr
      rw [htext] at hparted
      exact hparted.unique h.parted
    · intro hsame
      rw [h.text_eq, hsame, h.parted.flatten_eq]
  rw [hrenew, renew_eq_self_iff h.parted.lined_region h.length_artifactsOf,
    upToDate_results_iff h.results]

theorem replaceSpan_cut {span : Span} (h : span.start ≤ span.stop) (source : List Char) :
    replaceSpan span (span.cut source) source = source := by
  have hstart : (source.take span.stop).take span.start = source.take span.start := by
    rw [List.take_take, Nat.min_eq_left h]
  rw [replaceSpan, Span.cut, ← hstart, List.take_append_drop, List.take_append_drop]

theorem edits_of_upToDate {config : Config} {path : String} {source : List Char}
    {r : Block × Outcome} {w : Written} (h : ResultOf config path source r w)
    (hcurrent : UpToDate config source r) :
    withCount config r.1 (withRegion source r.1 r.2.artifact? source) = source := by
  obtain ⟨hregion, hcount⟩ := hcurrent
  have hsame : withRegion source r.1 r.2.artifact? source = source := by
    cases hartifact : r.2.artifact? with
    | none => simp [withRegion]
    | some artifact =>
        obtain ⟨span, hspan, hcut⟩ := hregion artifact hartifact
        have hordered := h.shows.ordered span hspan
        rw [Option.mem_def] at hspan
        simp only [withRegion, hspan]
        rw [← hcut, replaceSpan_cut hordered]
  rw [hsame, withCount, if_neg]
  rintro ⟨hupdate, hdeclared⟩
  exact hdeclared (hcount hupdate)

/-- A report tells of a change unless every block that has a generated text holds it already and,
where numbers are set right, every block has the right one. No block's edits are made up for by
those of another: in an unchanged source each of them changes nothing. -/
theorem changed_eq_false_iff_upToDate (config : Config) (path : String) {source : List Char}
    {report : Report} (hrun : (regenerateSource config path source).1 = .ok report)
    (hplain : ∀ r ∈ report.results, EndsPlainly (source.take r.1.insertAt)) :
    (report.changed = false ↔ ∀ r ∈ report.results,
      (∀ artifact ∈ r.2.artifact?, ∃ span ∈ r.1.generated,
        span.cut source = regionText r.1.margin (newlineOf source) artifact) ∧
      (config.updateCounts = true → r.1.declared = some (r.1.lineCount : Int))) ∧
    (report.changed = false → ∀ r ∈ report.results,
      withCount config r.1 (withRegion source r.1 r.2.artifact? source) = source) := by
  obtain ⟨ps, htells⟩ := exists_tells hrun
  have hchanged : report.changed = false ↔ ∀ r ∈ report.results, UpToDate config source r := by
    rw [← htells.text_eq_iff hplain, Report.changed, bne_eq_false_iff_eq, htells.source_eq]
  refine ⟨hchanged, ?_⟩
  intro hsame r hr
  obtain ⟨w, -, hresult⟩ := exists_resultOf htells.results r hr
  exact edits_of_upToDate hresult (hchanged.mp hsame r hr)

theorem changed_eq_false_iff_upToDate_twoDirectives :
    ∃ report, (regenerateSource {} "" twoDirectives).1 = .ok report ∧
      (∀ r ∈ report.results, EndsPlainly (twoDirectives.take r.1.insertAt)) ∧
      report.changed = true := by
  have hpath : '\x00' ∉ "".toList := by decide
  obtain ⟨report, hrun, hblocks, hempty⟩ :=
    exists_report_nil {} hpath rfl scan_twoDirectives (by decide)
  have hends : ∀ b ∈ twoBlocks, EndsPlainly (twoDirectives.take b.insertAt) := by decide +kernel
  have hplain : ∀ r ∈ report.results, EndsPlainly (twoDirectives.take r.1.insertAt) :=
    fun r hr => hends r.1 ((hblocks r.1).mpr ⟨r, hr, rfl⟩)
  refine ⟨report, hrun, hplain, ?_⟩
  by_contra hchanged
  obtain ⟨second, hsecond, hnone⟩ : ∃ b ∈ twoBlocks, b.generated = none := by decide
  obtain ⟨r, hr, rfl⟩ := (hblocks second).mp hsecond
  have hcurrent := (changed_eq_false_iff_upToDate {} "" hrun hplain).1.mp (by simpa using hchanged)
  obtain ⟨span, hspan, -⟩ := (hcurrent r hr).1 [] (hempty r hr)
  rw [hnone] at hspan
  simp at hspan

end Codeweave.Directive
