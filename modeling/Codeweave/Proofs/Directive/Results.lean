import Codeweave.Proofs.Directive.Rereading

/-!
Reports and outlines. Each result of a report belongs to one directive of the outline of its source,
and the text of the report is the renewed outline. With plain closers the report's text can be read
again, and its outline is the renewed one.
-/

namespace Codeweave.Directive

/-- The result is that of the directive. -/
structure ResultOf (config : Config) (path : String) (source : List Char) (r : Block × Outcome)
    (w : Written) : Prop where
  shows : Shows source r.1 w
  outcome : (regenerate config path r.1.toDirective).1 = .ok r.2

/-- The report tells the results of the outline's directives. -/
structure Tells (config : Config) (path : String) (source : List Char) (report : Report)
    (ps : List Passage) : Prop where
  parted : Parted source ps
  results : List.Forall₂ (ResultOf config path source) report.results (writtenOf ps)
  counts : ∀ r ∈ report.results, countTooLong config r.1 = false
  source_eq : report.source = source
  text_eq : report.text =
    (linesOf (renew config (newlineOf source) ps (artifactsOf report.results))).flatten

/-! ### One result -/

theorem Shows.count_eq_iff {source : List Char} {b : Block} {w : Written}
    (h : Shows source b w) :
    w.count = some w.lineCount ↔ b.declared = some (b.lineCount : Int) := by
  rw [h.declared, h.lineCount, declared_eq_iff]

theorem Shows.recounted {source : List Char} {b : Block} {w : Written} (h : Shows source b w)
    (config : Config) : w.recounted config = (countEdit? config b).isSome := by
  have hholds : b.countHolds = (w.count == some w.lineCount) := by
    rw [Bool.eq_iff_iff, beq_iff_eq, h.count_eq_iff, Directive.countHolds, beq_iff_eq]
  rw [countEdit?, Written.recounted, hholds, bne]
  split
  · rename_i hedit
    rw [hedit]
    rfl
  · rename_i hedit
    rw [Bool.not_eq_true] at hedit
    rw [hedit]
    rfl

theorem Shows.endsPlainly_iff {source : List Char} {b : Block} {w : Written}
    (h : Shows source b w) : EndsPlainly (source.take b.insertAt) ↔ EndsPlainly w.closer := by
  rw [EndsPlainly, h.closing, EndsPlainly]

theorem Shows.generated_eq_none_iff {source : List Char} {b : Block} {w : Written}
    (h : Shows source b w) : b.generated = none ↔ w.region = none := by
  have hgenerated := congrArg Option.isNone h.generated
  simp only [Option.isNone_map] at hgenerated
  rw [← Option.isNone_iff_eq_none, hgenerated, Option.isNone_iff_eq_none]

theorem ResultOf.sentinelLine? {config : Config} {path : String} {source : List Char}
    {r : Block × Outcome} {w : Written} (h : ResultOf config path source r w) :
    ∀ text ∈ r.2.artifact?, sentinelLine? text = none :=
  fun _ htext => sentinelLine?_of_regenerate h.outcome htext

theorem length_toDigits_of_countTooLong {config : Config} {source : List Char} {b : Block}
    {w : Written} (h : Shows source b w) (hshort : countTooLong config b = false)
    (hrecounted : w.recounted config = true) :
    (Nat.toDigits 10 w.lineCount).length ≤ Text.maxIntegerDigits := by
  rw [h.recounted] at hrecounted
  rw [countTooLong, hrecounted, Bool.true_and, h.lineCount] at hshort
  simpa using hshort

/-! ### All results -/

theorem resultOf_of_yields {config : Config} {path : String} {source : List Char}
    {blocks : List Block} {ws : List Written} {results : List (Block × Outcome)}
    (hshows : List.Forall₂ (Shows source) blocks ws)
    (hyields : List.Forall₂ (Yields config path) blocks results) :
    List.Forall₂ (ResultOf config path source) results ws := by
  induction hyields generalizing ws with
  | nil =>
      obtain rfl := List.forall₂_nil_left_iff.mp hshows
      exact List.Forall₂.nil
  | cons hr _ ih =>
      obtain ⟨w, ws, hw, hrest, rfl⟩ := List.forall₂_cons_left_iff.mp hshows
      obtain ⟨rfl, houtcome⟩ := hr
      exact List.Forall₂.cons ⟨hw, houtcome⟩ (ih hrest)

theorem exists_resultOf {config : Config} {path : String} {source : List Char}
    {results : List (Block × Outcome)} {ws : List Written}
    (h : List.Forall₂ (ResultOf config path source) results ws) :
    ∀ r ∈ results, ∃ w ∈ ws, ResultOf config path source r w := by
  induction h with
  | nil => simp
  | @cons r w results ws hr _ ih =>
      intro r' hr'
      rcases List.mem_cons.mp hr' with rfl | hr'
      · exact ⟨w, List.mem_cons_self .., hr⟩
      · obtain ⟨w', hw', hresult⟩ := ih r' hr'
        exact ⟨w', List.mem_cons_of_mem _ hw', hresult⟩

theorem splice_eq_renew (config : Config) {source : List Char} {ps : List Passage}
    {results : List (Block × Outcome)} (hparted : Parted source ps)
    (hblocks : results.map Prod.fst = blocksFrom {} ps) :
    splice config source (generatedFor results) =
      (linesOf (renew config (newlineOf source) ps (artifactsOf results))).flatten := by
  rw [splice_eq_edited config hparted (by rw [map_fst_generatedFor, hblocks]),
    map_snd_generatedFor, edited_piecesOf]

theorem exists_tells {config : Config} {path : String} {source : List Char} {report : Report}
    (h : (regenerateSource config path source).1 = .ok report) :
    ∃ ps, Tells config path source report ps := by
  obtain ⟨blocks, results, hscan, hyields, hcounts, rfl⟩ := regenerateSource_eq_ok_iff.mp h
  obtain ⟨ps, hparted, rfl⟩ := scan_eq_ok_iff.mp hscan
  exact ⟨ps, hparted, resultOf_of_yields hparted.shows hyields, hcounts, rfl,
    splice_eq_renew config hparted (map_fst_of_yields hyields)⟩

section

variable {config : Config} {path : String} {source : List Char} {report : Report}
  {ps : List Passage} (h : Tells config path source report ps)

include h

theorem Tells.length_artifactsOf :
    (artifactsOf report.results).length = (writtenOf ps).length := by
  rw [artifactsOf, List.length_map, h.results.length_eq]

theorem Tells.renewable
    (hplain : ∀ r ∈ report.results,
      config.updateCounts = true ∨ r.2.artifact?.isSome ∧ r.1.generated = none →
        EndsPlainly (source.take r.1.insertAt)) :
    List.Forall₂ (Written.Renewable config) (writtenOf ps) (artifactsOf report.results) := by
  have hall := (List.forall₂_and_left _ _).mpr
    ⟨fun r hr => And.intro (hplain r hr) (h.counts r hr), h.results⟩
  rw [artifactsOf, List.forall₂_map_right_iff]
  refine (hall.imp ?_).flip
  rintro r w ⟨⟨hend, hshort⟩, hresult⟩
  refine ⟨?_, hresult.sentinelLine?, length_toDigits_of_countTooLong hresult.shows hshort⟩
  intro hedited
  refine hresult.shows.endsPlainly_iff.mp (hend (hedited.imp ?_ ?_))
  · exact updateCounts_of_recounted
  · intro hframed
    simp only [Written.framed, Bool.and_eq_true, Option.isNone_iff_eq_none] at hframed
    exact ⟨hframed.1, hresult.shows.generated_eq_none_iff.mpr hframed.2⟩

/-- With plain closers where regeneration writes behind them, the outline of the report's text is
the renewed outline. -/
theorem Tells.parted_text
    (hplain : ∀ r ∈ report.results,
      config.updateCounts = true ∨ r.2.artifact?.isSome ∧ r.1.generated = none →
        EndsPlainly (source.take r.1.insertAt)) :
    Parted report.text
      (renew config (newlineOf source) ps (artifactsOf report.results)) := by
  rw [h.text_eq]
  exact parted_renew (isNewline_newlineOf source) h.parted (h.renewable hplain)

end

end Codeweave.Directive
