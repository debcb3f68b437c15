import Codeweave.Proofs.Directive.Regeneration
import Codeweave.Proofs.Directive.Splice

/-!
Regeneration edits each directive apart from all others. The text of a report is the source with
the replacements for one directive after the other, from the last to the first, each at the place
that it has in the source. Everything outside the replaced spans is copied, and with it the whole
region of a directive that failed.
-/

namespace Codeweave.Directive

/-- The text with the number on the closer of a block set right, if that is asked for. -/
def withCount (config : Config) (b : Block) (text : List Char) : List Char :=
  if config.updateCounts = true ∧ b.declared ≠ some (b.lineCount : Int) then
    replaceSpan b.closer
      (b.margin ++ "!! ".toList ++ Nat.toDigits 10 b.lineCount ++ " */".toList) text
  else text

/-- The text with what was generated for a block: between its sentinels if it has them, else behind
its closer and between new ones, which start on a line of their own. -/
def withRegion (source : List Char) (b : Block) (artifact : Option (List Char))
    (text : List Char) : List Char :=
  let newline := newlineOf source
  match artifact, b.generated with
  | none, _ => text
  | some artifact, some span => replaceSpan span (regionText b.margin newline artifact) text
  | some artifact, none =>
      let last := (source.take b.insertAt).getLast?
      replaceSpan ⟨b.insertAt, b.insertAt⟩
        ((if last = some '\n' ∨ last = some '\r' then [] else newline) ++
          (b.margin ++ beginSentinel ++ newline ++ regionText b.margin newline artifact ++
            b.margin ++ endSentinel ++ newline)) text

/-- The source with the edits for each directive made apart, from the last directive to the
first. -/
def editedApart (config : Config) (source : List Char)
    (results : List (Block × Option (List Char))) : List Char :=
  results.foldr (fun r text => withCount config r.1 (withRegion source r.1 r.2 text)) source

/-- The spans of a source that the edits for one block replace. -/
def editedSpans (config : Config) (b : Block) (artifact : Option (List Char)) : List Span :=
  (if config.updateCounts = true ∧ b.declared ≠ some (b.lineCount : Int) then [b.closer]
    else []) ++
    match artifact, b.generated with
    | none, _ => []
    | some _, some span => [span]
    | some _, none => [⟨b.insertAt, b.insertAt⟩]

/-- Outside the edited spans the source is copied, and so is the region of a block for which
nothing was generated. -/
structure CopiesRest (config : Config) (source : List Char)
    (results : List (Block × Option (List Char))) (text : List Char) : Prop where
  pieces : ∃ pieces, original pieces = source ∧ edited pieces = text ∧
    (editsFrom 0 pieces).map Edit.span = results.flatMap fun r => editedSpans config r.1 r.2
  failed : ∀ r ∈ results, r.2 = none →
    ∀ span ∈ results.flatMap fun r => editedSpans config r.1 r.2,
      span.stop ≤ r.1.insertAt ∨ r.1.source.stop ≤ span.start

/-! ### The edits for one block -/

theorem countHolds_eq_false_iff {b : Block} :
    (!b.countHolds) = true ↔ b.declared ≠ some (b.lineCount : Int) := by
  rw [Directive.countHolds, Bool.not_eq_true', beq_eq_false_iff_ne]

theorem countEdit?_eq (config : Config) (b : Block) :
    countEdit? config b =
      if config.updateCounts = true ∧ b.declared ≠ some (b.lineCount : Int) then
        some ⟨b.closer, closerText b.margin b.lineCount⟩
      else none := by
  rw [countEdit?]
  simp only [Bool.and_eq_true, countHolds_eq_false_iff]

theorem endsInReturn_iff {text : List Char} :
    endsInReturn text = true ↔ text.getLast? = some '\n' ∨ text.getLast? = some '\r' := by
  rw [endsInReturn]
  cases text.getLast? with
  | none => simp
  | some c => simp [isReturn, or_comm]

theorem regionEdit_eq (source : List Char) (b : Block) (artifact text : List Char) :
    replaceSpan (regionEdit source (newlineOf source) b artifact).span
      (regionEdit source (newlineOf source) b artifact).text text =
        withRegion source b (some artifact) text := by
  cases hgenerated : b.generated with
  | some span => simp only [regionEdit, withRegion, hgenerated]
  | none => simp only [regionEdit, withRegion, hgenerated, endsInReturn_iff, framedRegion]

theorem foldr_edits (config : Config) (source : List Char) (b : Block)
    (artifact : Option (List Char)) (text : List Char) :
    (edits config source (newlineOf source) b artifact).foldr
      (fun e text => replaceSpan e.span e.text text) text =
        withCount config b (withRegion source b artifact text) := by
  rw [edits, List.foldr_append]
  have hregion : (artifact.map (regionEdit source (newlineOf source) b)).toList.foldr
      (fun e text => replaceSpan e.span e.text text) text =
        withRegion source b artifact text := by
    cases artifact with
    | none => rfl
    | some artifact => exact regionEdit_eq source b artifact text
  rw [hregion, countEdit?_eq, withCount]
  split <;> rfl

theorem map_span_edits (config : Config) (source newline : List Char) (b : Block)
    (artifact : Option (List Char)) :
    (edits config source newline b artifact).map Edit.span = editedSpans config b artifact := by
  rw [edits, List.map_append, editedSpans.eq_def, countEdit?_eq]
  congr 1
  · split <;> rfl
  · cases artifact with
    | none => rfl
    | some artifact => cases hgenerated : b.generated <;> simp [regionEdit, hgenerated]

/-! ### The edits for all blocks -/

theorem offset_le_insertAt {p : Place} {ps : List Passage} {b : Block}
    (h : b ∈ blocksFrom p ps) : p.offset ≤ b.insertAt := by
  induction ps generalizing p with
  | nil => simp [blocksFrom] at h
  | cons passage ps ih =>
      cases passage with
      | plain l => exact (Nat.le_add_right _ _).trans (ih h)
      | directive w =>
          rcases List.mem_cons.mp h with rfl | h
          · have := blockAt_offset_le w p
            have := blockAt_closer_le w p
            omega
          · exact (Nat.le_add_right _ _).trans (ih h)

theorem editedSpans_within {config : Config} {w : Written} {p : Place}
    {artifact : Option (List Char)} {span : Span}
    (h : span ∈ editedSpans config (w.blockAt p) artifact) :
    p.offset ≤ span.start ∧ span.stop ≤ (w.blockAt p).source.stop ∧
      (artifact = none → span.stop ≤ (w.blockAt p).insertAt) := by
  have hoffset := blockAt_offset_le w p
  have hcloser := blockAt_closer_le w p
  have hstop := blockAt_source_stop w p
  rcases List.mem_append.mp h with hcount | hregion
  · split at hcount
    · obtain rfl := List.mem_singleton.mp hcount
      omega
    · simp at hcount
  · split at hregion
    · simp at hregion
    · rename_i found hgenerated
      obtain rfl := List.mem_singleton.mp hregion
      have := blockAt_generated_le hgenerated
      exact ⟨by omega, by omega, by simp⟩
    · obtain rfl := List.mem_singleton.mp hregion
      simp only
      omega

/-- No edit reaches into the region of a block for which nothing was generated. -/
theorem failed_apart (config : Config) {ps : List Passage} {p : Place}
    {results : List (Block × Option (List Char))}
    (hresults : results.map Prod.fst = blocksFrom p ps) :
    (∀ span ∈ results.flatMap fun r => editedSpans config r.1 r.2, p.offset ≤ span.start) ∧
      ∀ r ∈ results, r.2 = none →
        ∀ span ∈ results.flatMap fun r => editedSpans config r.1 r.2,
          span.stop ≤ r.1.insertAt ∨ r.1.source.stop ≤ span.start := by
  induction ps generalizing p results with
  | nil =>
      obtain rfl : results = [] := by simpa [blocksFrom] using hresults
      simp
  | cons passage ps ih =>
      cases passage with
      | plain l =>
          obtain ⟨hstart, hfailed⟩ := ih (p := p.after [l]) hresults
          exact ⟨fun span hspan => (Nat.le_add_right _ _).trans (hstart span hspan), hfailed⟩
      | directive w =>
          rcases results with _ | ⟨⟨b, artifact⟩, results⟩
          · simp [blocksFrom] at hresults
          simp only [List.map_cons, blocksFrom, List.cons.injEq] at hresults
          obtain ⟨rfl, hresults⟩ := hresults
          obtain ⟨hstart, hfailed⟩ := ih (p := p.after w.lines) hresults
          have hstop : (w.blockAt p).source.stop = (p.after w.lines).offset := rfl
          have hplace : p.offset ≤ (p.after w.lines).offset := Nat.le_add_right _ _
          constructor
          · intro span hspan
            rcases List.mem_append.mp hspan with hspan | hspan
            · exact (editedSpans_within hspan).1
            · exact hplace.trans (hstart span hspan)
          · intro r hr hnone span hspan
            -- an edit of this directive lies before all later ones, and they behind it
            rcases List.mem_cons.mp hr with rfl | hr <;>
              rcases List.mem_append.mp hspan with hspan | hspan
            · exact Or.inl ((editedSpans_within hspan).2.2 hnone)
            · exact Or.inr (hstart span hspan)
            · have hwithin := (editedSpans_within hspan).2.1
              have hmem : r.1 ∈ blocksFrom (p.after w.lines) ps := by
                rw [← hresults]
                exact List.mem_map_of_mem hr
              have hinsert := offset_le_insertAt hmem
              exact Or.inl (by omega)
            · exact hfailed r hr hnone span hspan

/-- The one pass over a source makes the edits that are made apart. -/
theorem splice_eq_editedApart (config : Config) {source : List Char} {ps : List Passage}
    {results : List (Block × Option (List Char))} (hparted : Parted source ps)
    (hresults : results.map Prod.fst = blocksFrom {} ps) :
    splice config source results = editedApart config source results ∧
      CopiesRest config source results (splice config source results) := by
  have hplace : ([] : List Char).length = ({} : Place).offset := rfl
  have hedits := edits_blocksFrom config (newlineOf source)
    (fun l hl => (hparted.lined.isLine l hl).ne_nil) hplace hresults
  rw [List.nil_append, hparted.flatten_eq] at hedits
  have horiginal := original_piecesOf config (newlineOf source) ps (results.map Prod.snd)
  rw [hparted.flatten_eq] at horiginal
  have hsplice := splice_eq_edited config hparted hresults
  refine ⟨?_, ⟨⟨_, horiginal, hsplice.symm, ?_⟩, (failed_apart config hresults).2⟩⟩
  · have hfold := foldr_replaceSpan_editsFrom
      (piecesOf config (newlineOf source) ps (results.map Prod.snd)) []
    rw [List.nil_append, List.nil_append, horiginal] at hfold
    rw [hsplice, ← hfold]
    change (editsFrom (0 : Nat) _).foldr _ source = _
    rw [← hedits, List.foldr_flatMap, editedApart]
    simp only [foldr_edits]
  · rw [← hedits, List.map_flatMap]
    simp only [map_span_edits]

/-- A report's text is the source with the edits for each directive made apart, at the places that
they have in the source, and all else copied. There is a report exactly when no directive ends the
operation and the numbers for the closers can be written. -/
theorem regenerateSource_edits_apart (config : Config) (path : String) {source : List Char}
    {blocks : List Block} (hscan : scan source = .ok blocks) :
    (∀ report, (regenerateSource config path source).1 = .ok report ↔
      ∃ results, List.Forall₂ (Yields config path) blocks results ∧
        (∀ r ∈ results, countTooLong config r.1 = false) ∧
        report = ⟨Fault.pathOrMemory path, source,
          editedApart config source (generatedFor results), results⟩) ∧
      ∀ results : List (Block × Option (List Char)), results.map Prod.fst = blocks →
        splice config source results = editedApart config source results ∧
          CopiesRest config source results (editedApart config source results) := by
  obtain ⟨ps, hparted, rfl⟩ := scan_eq_ok_iff.mp hscan
  have hapart : ∀ results : List (Block × Option (List Char)),
      results.map Prod.fst = blocksFrom {} ps →
        splice config source results = editedApart config source results ∧
          CopiesRest config source results (editedApart config source results) := by
    intro results hresults
    obtain ⟨heq, hcopies⟩ := splice_eq_editedApart config hparted hresults
    rw [← heq]
    exact ⟨rfl, hcopies⟩
  refine ⟨?_, hapart⟩
  intro report
  rw [regenerateSource_eq_ok_iff]
  have htext : ∀ results, List.Forall₂ (Yields config path) (blocksFrom {} ps) results →
      splice config source (generatedFor results) =
        editedApart config source (generatedFor results) := by
    intro results hyields
    refine (hapart _ ?_).1
    rw [map_fst_generatedFor, map_fst_of_yields hyields]
  constructor
  · rintro ⟨blocks, results, hscan', hyields, hcount, rfl⟩
    rw [hscan, Except.ok.injEq] at hscan'
    subst hscan'
    exact ⟨results, hyields, hcount, by rw [htext results hyields]⟩
  · rintro ⟨results, hyields, hcount, rfl⟩
    exact ⟨_, results, hscan, hyields, hcount, by rw [htext results hyields]⟩

/-- Of two directives the first fails and the second does not. -/
theorem regenerateSource_edits_apart_twoDirectives :
    scan twoDirectives = .ok twoBlocks ∧
      splice { updateCounts := true } twoDirectives (twoBlocks.zip [none, some ['x']]) =
        editedApart { updateCounts := true } twoDirectives (twoBlocks.zip [none, some ['x']]) ∧
      CopiesRest { updateCounts := true } twoDirectives (twoBlocks.zip [none, some ['x']])
        (editedApart { updateCounts := true } twoDirectives
          (twoBlocks.zip [none, some ['x']])) :=
  ⟨scan_twoDirectives,
    (regenerateSource_edits_apart { updateCounts := true } "" scan_twoDirectives).2 _ rfl⟩

end Codeweave.Directive
