import Codeweave.Proofs.Directive.EmptyScript

/-!
When a regenerated source is scanned to what was written into it. Two kinds of line ends come in the
way. New sentinels start on a line of their own behind a closer that ends in a carriage return or a
newline; behind any other boundary an empty line is put between, and the sentinels are not found
again. And a region that starts with an empty line loses its first newline to a first sentinel that
ends in a lone carriage return. Everything else is read back.
-/

namespace Codeweave.Directive

open Text (isBlank isBoundary IsLine Lined Breaks lined_append_iff lined_cons_iff lined_lines)

/-- The block takes up the result of a regeneration: it asks for the same, and holds the generated
text, or what it held when nothing was generated. -/
structure TakesUp (source text : List Char) (r : Block × Outcome) (b : Block) : Prop where
  script : b.script = r.1.script
  margin : b.margin = r.1.margin
  declared : b.declared = r.1.declared
  generated : b.generated.map (·.cut text) =
    match r.2.artifact? with
    | some artifact => some (regionText r.1.margin (newlineOf source) artifact)
    | none => r.1.generated.map (·.cut source)

/-- The text of a report is scanned to its results. -/
def ReadsBack (report : Report) : Prop :=
  ∃ blocks, scan report.text = .ok blocks ∧
    List.Forall₂ (TakesUp report.source report.text) report.results blocks

/-- The second directive takes up what was generated for the first. -/
structure Written.TakesUp (newline : List Char) (given : Written × Option (List Char))
    (v : Written) : Prop where
  script : v.script.flatten = given.1.script.flatten
  margin : Text.margin v.opener = Text.margin given.1.opener
  count : v.count = given.1.count
  region : v.region.map (·.body.flatten) =
    match given.2 with
    | some text => some (regionText (Text.margin given.1.opener) newline text)
    | none => given.1.region.map (·.body.flatten)

/-- What is written for the directive meets its neighbours where a line ends. -/
def Written.Safe (newline : List Char) (w : Written) (artifact : Option (List Char)) : Prop :=
  ∀ text ∈ artifact, (w.region = none → EndsPlainly w.closer) ∧
    ∀ r ∈ w.region, ¬ (r.first.getLast? = some '\r' ∧
      (regionText (Text.margin w.opener) newline text).head? = some '\n')

/-! ### One directive -/

section

variable {config : Config} {newline : List Char} {w : Written} {artifact : Option (List Char)}

theorem outline_renewed (hnewline : IsNewline newline) (hwell : w.WellFormed) {ls : List Line}
    (hlined : Lined (w.lines ++ ls)) (hnone : w.region = none → startsRegion ls = false)
    (hrenewable : w.Renewable config artifact) {after : List Char}
    (hhead : (Text.lines after).head? = ls.head?) :
    outline (Text.lines ((w.renewed config newline artifact).lines.flatten ++ after)) =
      prepend (.directive (w.renewed config newline artifact)) (outline (Text.lines after)) := by
  obtain ⟨hdirective, hrest, hbreak⟩ := lined_append_iff.mp hlined
  rw [Text.lines_append (breaks_renewed hnewline hwell hdirective hrenewable.closer hbreak
      (hrest.head?_of_lines hhead)),
    (lined_renewed hnewline hwell hdirective hrenewable.closer).lines_flatten,
    outline_directive (wellFormed_renewed hnewline hwell hdirective.isLine hrenewable)]
  intro hregion
  rw [startsRegion_congr hhead]
  cases artifact with
  | none => exact hnone hregion
  | some text => simp [region_renewed_some] at hregion

/-- Behind a closer with an unknown end, an empty line comes before new sentinels. -/
theorem lines_renewed_of_not_endsPlainly (hnewline : IsNewline newline) (hlined : Lined w.lines)
    (hrecounted : w.recounted config = false) (hregion : w.region = none)
    (hends : ¬ EndsPlainly w.closer) (text after : List Char) :
    Text.lines ((w.renewed config newline (some text)).lines.flatten ++ after) =
      w.lines ++ newline ::
        Text.lines ((newRegion (Text.margin w.opener) newline text).lines.flatten ++ after) := by
  obtain ⟨c, hc, hboundary, hreturn⟩ :
      ∃ c ∈ w.closer.getLast?, isBoundary c = true ∧ isReturn c = false := by
    simpa [EndsPlainly] using hends
  have hgap : w.gap newline = newline := by
    rw [Written.gap, endsInReturn, Option.mem_def.mp hc]
    simp [hreturn]
  have hflatten : (w.renewed config newline (some text)).lines.flatten ++ after =
      w.lines.flatten ++ (newline ++
        ((newRegion (Text.margin w.opener) newline text).lines.flatten ++ after)) := by
    rw [Written.lines_eq, Written.lines_eq, renewed_closer_of_not hrecounted,
      region_renewed_some, regionWith_none hregion, hgap]
    simp [Written.framed, hregion, Written.renewed]
  have hmeet : Breaks w.lines.flatten (newline ++
      ((newRegion (Text.margin w.opener) newline text).lines.flatten ++ after)) := by
    intro d hd e _
    rw [getLast?_flatten_lines hlined, hregion] at hd
    obtain rfl : c = d := by simpa [Option.mem_def.mp hc] using hd
    have hne : c ≠ '\r' := by
      rintro rfl
      exact absurd hreturn (by decide)
    simp [Text.endsBetween, hboundary, hne]
  rw [hflatten, Text.lines_append hmeet, hlined.lines_flatten,
    Text.lines_append (Text.breaks_of_newline (by simpa using hnewline.getLast?_append []) _),
    hnewline.isTerminator.isLine]
  rfl

theorem startsRegion_newline (hnewline : IsNewline newline) (ls : List Line) :
    startsRegion (newline :: ls) = false := by
  simpa [startsRegion, isBegin] using isMark_eq_false_of_blank beginSentinel_ne_nil hnewline.isBlank

/-- Sentinels that are put behind a closer with an unknown end are not found again. -/
theorem outline_of_not_endsPlainly (hnewline : IsNewline newline) (hwell : w.WellFormed)
    (hlined : Lined w.lines) (hrecounted : w.recounted config = false)
    (hregion : w.region = none) (hends : ¬ EndsPlainly w.closer) (text after : List Char) :
    ∃ ls, outline (Text.lines ((w.renewed config newline (some text)).lines.flatten ++ after)) =
      prepend (.directive w) (outline ls) := by
  rw [lines_renewed_of_not_endsPlainly hnewline hlined hrecounted hregion hends]
  exact ⟨_, outline_directive hwell fun _ => startsRegion_newline hnewline _⟩

/-- What is read first of a directive that gets sentinels behind an unknown end is the directive as
it was, which takes nothing up. -/
theorem endsPlainly_of_takesUp (hnewline : IsNewline newline) (hwell : w.WellFormed)
    (hlined : Lined w.lines) (hrecounted : w.recounted config = false)
    (hframed : w.framed artifact = true) {after : List Char} {qs : List Passage}
    (hread : outline (Text.lines ((w.renewed config newline artifact).lines.flatten ++ after)) =
      .ok qs)
    {given : List (Written × Option (List Char))}
    (htakes : List.Forall₂ (Written.TakesUp newline) ((w, artifact) :: given) (writtenOf qs)) :
    EndsPlainly w.closer := by
  obtain ⟨⟨text, rfl⟩, hregion⟩ : (∃ text, artifact = some text) ∧ w.region = none := by
    simpa [Written.framed, Option.isSome_iff_exists] using hframed
  by_contra hends
  -- the directive is read without a region, but the text would have to be in one
  obtain ⟨ls, hls⟩ := outline_of_not_endsPlainly hnewline hwell hlined hrecounted hregion hends
    text after
  rw [hls] at hread
  obtain ⟨qs, -, rfl⟩ := prepend_eq_ok_iff.mp hread
  obtain ⟨hw, -⟩ := List.forall₂_cons.mp htakes
  have hfound := hw.region
  rw [hregion] at hfound
  simp at hfound

theorem takesUp_renewed (hupdate : config.updateCounts = false) (hsafe : w.Safe newline artifact) :
    Written.TakesUp newline (w, artifact) (w.renewed config newline artifact) := by
  refine ⟨rfl, rfl, by rw [count_renewed, hupdate]; rfl, ?_⟩
  cases artifact with
  | none => rfl
  | some text =>
      rw [region_renewed_some, Option.map_some]
      cases hregion : w.region with
      | none =>
          rw [regionWith_none hregion]
          exact congrArg some (Text.flatten_lines _)
      | some r =>
          rw [regionWith_some hregion,
            Region.flatten_body_renewed ((hsafe text rfl).2 r hregion)]

theorem apart_of_takesUp {text : List Char}
    (h : Written.TakesUp newline (w, some text) (w.renewed config newline (some text))) :
    ∀ r ∈ w.region, ¬ (r.first.getLast? = some '\r' ∧
      (regionText (Text.margin w.opener) newline text).head? = some '\n') := by
  intro r hr hfuses
  have hbody := h.region
  rw [region_renewed_some, Option.map_some, regionWith_some hr, Region.renewed, if_pos hfuses,
    Option.some.injEq, Text.flatten_lines] at hbody
  obtain ⟨rest, hrest⟩ := List.head?_eq_some_iff.mp hfuses.2
  have hlength := congrArg List.length hbody
  rw [hrest] at hlength
  simp at hlength

end

/-! ### All directives -/

/-- What is read back was written safely: the first directive that was not is read as another. -/
theorem safe_of_takesUp {config : Config} (hupdate : config.updateCounts = false)
    {newline : List Char} (hnewline : IsNewline newline) {ps qs : List Passage}
    {artifacts : List (Option (List Char))} (houtlined : Outlined ps)
    (hlined : Lined (linesOf ps)) (hlength : artifacts.length = (writtenOf ps).length)
    (hsentinel : ∀ artifact ∈ artifacts, ∀ text ∈ artifact, sentinelLine? text = none)
    (hread : outline (Text.lines (linesOf (renew config newline ps artifacts)).flatten) = .ok qs)
    (htakes : List.Forall₂ (Written.TakesUp newline) ((writtenOf ps).zip artifacts)
      (writtenOf qs)) :
    List.Forall₂ (Written.Safe newline) (writtenOf ps) artifacts := by
  induction ps generalizing qs artifacts with
  | nil =>
      obtain rfl := List.eq_nil_of_length_eq_zero hlength
      exact List.Forall₂.nil
  | cons p ps ih =>
      cases p with
      | plain l =>
          rw [linesOf_plain] at hlined
          rw [lines_renew_plain config newline houtlined.2 hlined, outline_plain houtlined.1]
            at hread
          obtain ⟨qs, hmore, rfl⟩ := prepend_eq_ok_iff.mp hread
          exact ih houtlined.2 (lined_cons_iff.mp hlined).2.1 hlength hsentinel hmore htakes
      | directive w =>
          rcases artifacts with _ | ⟨artifact, artifacts⟩
          · simp [writtenOf] at hlength
          obtain ⟨hwell, hnone, houtlined⟩ := houtlined
          rw [linesOf_directive] at hlined
          obtain ⟨hdirective, hrest, -⟩ := lined_append_iff.mp hlined
          rw [List.forall_mem_cons] at hsentinel
          have hrecounted : w.recounted config = false := by simp [Written.recounted, hupdate]
          rw [renew, linesOf_directive, List.flatten_append, List.headD_cons,
            List.tail_cons] at hread
          have hframed : w.framed artifact = true → EndsPlainly w.closer := fun hframed =>
            endsPlainly_of_takesUp hnewline hwell hdirective hrecounted hframed hread htakes
          have hrenewable : w.Renewable config artifact :=
            ⟨by simpa [hrecounted] using hframed, hsentinel.1, by simp [hrecounted]⟩
          rw [outline_renewed hnewline hwell hlined hnone hrenewable
            (head?_lines_renew config newline houtlined hrest artifacts)] at hread
          obtain ⟨qs, hmore, rfl⟩ := prepend_eq_ok_iff.mp hread
          obtain ⟨hw, htail⟩ := List.forall₂_cons.mp htakes
          refine List.Forall₂.cons ?_ (ih houtlined hrest (by simpa [writtenOf] using hlength)
            hsentinel.2 hmore htail)
          rintro text ⟨rfl⟩
          exact ⟨fun hregion => hframed (by simp [Written.framed, hregion]), apart_of_takesUp hw⟩

/-! ### Reports -/

/-- What is written for the result meets its neighbours in the source where a line ends. -/
def Safe (source : List Char) (r : Block × Outcome) : Prop :=
  ∀ artifact ∈ r.2.artifact?,
    (r.1.generated = none → EndsPlainly (source.take r.1.insertAt)) ∧
    ∀ span ∈ r.1.generated, ¬ ((source.take span.start).getLast? = some '\r' ∧
      (regionText r.1.margin (newlineOf source) artifact).head? = some '\n')

section

variable {config : Config} {path : String} {source text : List Char} {r : Block × Outcome}
  {b : Block} {w v : Written}

theorem takesUp_iff (hr : ResultOf config path source r w) (hb : Shows text b v) :
    TakesUp source text r b ↔ Written.TakesUp (newlineOf source) (w, r.2.artifact?) v := by
  have hcount : b.declared = r.1.declared ↔ v.count = w.count := by
    rw [hb.declared, hr.shows.declared]
    exact (Option.map_injective fun _ _ => Int.ofNat_inj.mp).eq_iff
  constructor
  · rintro ⟨hscript, hmargin, hdeclared, hgenerated⟩
    rw [hb.generated, hr.shows.generated, hr.shows.margin] at hgenerated
    exact ⟨by rw [← hb.script, hscript, hr.shows.script],
      by rw [← hb.margin, hmargin, hr.shows.margin], hcount.mp hdeclared, hgenerated⟩
  · rintro ⟨hscript, hmargin, hdeclared, hgenerated⟩
    refine ⟨by rw [hb.script, hscript, hr.shows.script],
      by rw [hb.margin, hmargin, hr.shows.margin], hcount.mpr hdeclared, ?_⟩
    rw [hb.generated, hr.shows.generated, hr.shows.margin]
    exact hgenerated

theorem safe_iff (hr : ResultOf config path source r w) :
    Safe source r ↔ w.Safe (newlineOf source) r.2.artifact? := by
  have hopening := hr.shows.opening
  rw [Safe, Written.Safe, hr.shows.generated_eq_none_iff, hr.shows.endsPlainly_iff,
    hr.shows.margin]
  refine forall₂_congr fun artifact _ => and_congr_right fun _ => ?_
  cases hspan : r.1.generated <;> cases hregion : w.region <;> simp_all

end

theorem takesUp_results_iff {config : Config} {path : String} {source text : List Char}
    {results : List (Block × Outcome)} {ws vs : List Written} {blocks : List Block}
    (hresults : List.Forall₂ (ResultOf config path source) results ws)
    (hshows : List.Forall₂ (Shows text) blocks vs) :
    List.Forall₂ (TakesUp source text) results blocks ↔
      List.Forall₂ (Written.TakesUp (newlineOf source)) (ws.zip (artifactsOf results)) vs := by
  induction hresults generalizing blocks vs with
  | nil =>
      cases hshows with
      | nil => simp [artifactsOf]
      | cons _ _ => simp [artifactsOf]
  | cons hr _ ih =>
      cases hshows with
      | nil => simp [artifactsOf]
      | cons hb hrest =>
          rw [artifactsOf, List.map_cons, List.zip_cons_cons, List.forall₂_cons,
            List.forall₂_cons, takesUp_iff hr hb]
          exact and_congr_right fun _ => ih hrest

theorem safe_results_iff {config : Config} {path : String} {source : List Char}
    {results : List (Block × Outcome)} {ws : List Written}
    (h : List.Forall₂ (ResultOf config path source) results ws) :
    (∀ r ∈ results, Safe source r) ↔
      List.Forall₂ (Written.Safe (newlineOf source)) ws (artifactsOf results) := by
  induction h with
  | nil => simp [artifactsOf]
  | cons hr _ ih =>
      rw [artifactsOf, List.map_cons, List.forall₂_cons, List.forall_mem_cons, safe_iff hr]
      exact and_congr_right fun _ => ih

theorem takesUp_renew {config : Config} (hupdate : config.updateCounts = false)
    {newline : List Char} {ws : List Written} {artifacts : List (Option (List Char))}
    (h : List.Forall₂ (Written.Safe newline) ws artifacts) :
    List.Forall₂ (Written.TakesUp newline) (ws.zip artifacts)
      (List.zipWith (fun w artifact => w.renewed config newline artifact) ws artifacts) := by
  induction h with
  | nil => exact List.Forall₂.nil
  | cons hw _ ih => exact List.Forall₂.cons (takesUp_renewed hupdate hw) ih

theorem Tells.sentinelLine? {config : Config} {path : String} {source : List Char}
    {report : Report} {ps : List Passage} (h : Tells config path source report ps) :
    ∀ artifact ∈ artifactsOf report.results, ∀ text ∈ artifact, sentinelLine? text = none := by
  intro artifact hartifact
  obtain ⟨r, hr, rfl⟩ := List.mem_map.mp hartifact
  obtain ⟨w, -, hresult⟩ := exists_resultOf h.results r hr
  exact hresult.sentinelLine?

/-- Where numbers on closers are left alone, a regenerated source is scanned to what was written
exactly when every new pair of sentinels follows a closer that ends plainly, and no region that
starts with a newline follows a sentinel that ends in a lone carriage return. -/
theorem readsBack_iff_safe {config : Config} (path : String)
    (hupdate : config.updateCounts = false) {source : List Char} {report : Report}
    (hrun : (regenerateSource config path source).1 = .ok report) :
    ReadsBack report ↔ ∀ r ∈ report.results, Safe source r := by
  obtain ⟨ps, htells⟩ := exists_tells hrun
  have hlength := htells.length_artifactsOf
  rw [ReadsBack, htells.source_eq, safe_results_iff htells.results]
  constructor
  · rintro ⟨blocks, hscan, htakes⟩
    obtain ⟨qs, hparted, rfl⟩ := scan_eq_ok_iff.mp hscan
    have hread := outline_eq_ok_iff.mpr ⟨hparted.outlined, hparted.lines_eq⟩
    rw [htells.text_eq] at hread
    exact safe_of_takesUp hupdate (isNewline_newlineOf source) htells.parted.outlined
      htells.parted.lined hlength htells.sentinelLine? hread
      ((takesUp_results_iff htells.results hparted.shows).mp htakes)
  · intro hsafe
    have hparted := htells.parted_text (by
      intro r hr hwrites
      obtain ⟨hartifact, hnone⟩ : r.2.artifact?.isSome ∧ r.1.generated = none := by
        simpa [hupdate] using hwrites
      obtain ⟨artifact, hartifact⟩ := Option.isSome_iff_exists.mp hartifact
      exact ((safe_results_iff htells.results).mpr hsafe r hr artifact hartifact).1 hnone)
    refine ⟨_, scan_eq_ok_iff.mpr ⟨_, hparted, rfl⟩, ?_⟩
    rw [takesUp_results_iff htells.results hparted.shows, writtenOf_renew _ _ hlength]
    exact takesUp_renew hupdate hsafe

/-- New sentinels are found again behind a newline and not behind a vertical tab, and an empty
region behind a lone carriage return loses its newline. -/
theorem readsBack_iff_safe_samples :
    (∃ report, (regenerateSource {} "" "/*!!\n!! */\n".toList).1 = .ok report ∧
      ReadsBack report) ∧
    (∃ report, (regenerateSource {} "" "/*!!\n!! */\x0b".toList).1 = .ok report ∧
      ¬ ReadsBack report) ∧
    ∃ report, (regenerateSource {} "" ("/*!!\n!! */\n".toList ++ beginSentinel ++ ['\r'] ++
      endSentinel)).1 = .ok report ∧ ¬ ReadsBack report := by
  have hpath : '\x00' ∉ "".toList := by decide
  refine ⟨?_, ?_, ?_⟩
  · have hscan : scan "/*!!\n!! */\n".toList =
        .ok [⟨⟨[], none, [], 1, 2⟩, ⟨0, 11⟩, none, ⟨5, 10⟩, 11⟩] := by
      decide +kernel
    obtain ⟨report, hrun, hblocks, -⟩ :=
      exists_report_nil {} hpath rfl hscan (by decide)
    refine ⟨report, hrun, (readsBack_iff_safe "" rfl hrun).mpr ?_⟩
    intro r hr artifact _
    have hblock := (hblocks r.1).mpr ⟨r, hr, rfl⟩
    rw [List.mem_singleton] at hblock
    rw [hblock]
    exact ⟨fun _ => by decide, by simp⟩
  · have hscan : scan "/*!!\n!! */\x0b".toList =
        .ok [⟨⟨[], none, [], 1, 2⟩, ⟨0, 11⟩, none, ⟨5, 11⟩, 11⟩] := by
      decide +kernel
    obtain ⟨report, hrun, hblocks, hempty⟩ :=
      exists_report_nil {} hpath rfl hscan (by decide)
    refine ⟨report, hrun, fun hreads => ?_⟩
    obtain ⟨r, hr, hblock⟩ := (hblocks _).mp (List.mem_singleton_self _)
    have hsafe := (readsBack_iff_safe "" rfl hrun).mp hreads r hr [] (hempty r hr)
    rw [hblock] at hsafe
    exact absurd (hsafe.1 rfl) (by decide)
  · have hscan : scan ("/*!!\n!! */\n".toList ++ beginSentinel ++ ['\r'] ++ endSentinel) =
        .ok [⟨⟨[], none, [], 1, 2⟩, ⟨0, 170⟩, some ⟨91, 91⟩, ⟨5, 10⟩, 11⟩] := by
      decide +kernel
    obtain ⟨report, hrun, hblocks, hempty⟩ :=
      exists_report_nil {} hpath rfl hscan (by decide)
    refine ⟨report, hrun, fun hreads => ?_⟩
    obtain ⟨r, hr, hblock⟩ := (hblocks _).mp (List.mem_singleton_self _)
    have hsafe := (readsBack_iff_safe "" rfl hrun).mp hreads r hr [] (hempty r hr)
    rw [hblock] at hsafe
    exact hsafe.2 _ rfl (by decide +kernel)

end Codeweave.Directive
