import Codeweave.Proofs.Directive.Mark
import Codeweave.Proofs.Directive.Renewal

/-!
The lines of a renewed directive. Every text that regeneration writes consists of whole lines, and
it meets its neighbours where a line ends, as long as every closer that gets a number or new
sentinels behind it ends in a way that regeneration knows.
-/

namespace Codeweave.Directive

open Text (isBlank isBoundary IsLine IsTerminator Lined Breaks lined_append_iff lined_cons_iff
  lined_lines breaks_of_newline breaks_of_isBoundary)

/-- A line ending that regeneration writes. -/
def IsNewline (newline : List Char) : Prop :=
  newline = ['\n'] ∨ newline = ['\r', '\n']

/-- The line ends in a carriage return, a newline or both, or with the source. -/
def EndsPlainly (l : Line) : Prop :=
  ∀ c ∈ l.getLast?, isBoundary c = true → isReturn c = true

instance (l : Line) : Decidable (EndsPlainly l) :=
  decidable_of_iff (l.getLast?.all (fun c => !isBoundary c || isReturn c) = true) (by
    rw [EndsPlainly]
    cases l.getLast? with
    | none => simp
    | some c => cases hc : isBoundary c <;> simp [hc])

/-! ### Newlines -/

theorem isNewline_newlineOf (source : List Char) : IsNewline (newlineOf source) := by
  rw [newlineOf]
  split
  · exact Or.inr rfl
  · exact Or.inl rfl

namespace IsNewline

variable {newline : List Char} (h : IsNewline newline)

include h

theorem isTerminator : IsTerminator newline := by
  rcases h with rfl | rfl
  · exact Or.inr ⟨'\n', rfl, rfl⟩
  · exact Or.inl rfl

theorem getLast?_append (text : List Char) : (text ++ newline).getLast? = some '\n' := by
  rcases h with rfl | rfl <;> simp

theorem isBlank : ∀ c ∈ newline, isBlank c = true :=
  h.isTerminator.isBlank

theorem isLine_append {text : List Char} (htext : ∀ c ∈ text, isBoundary c = false) :
    IsLine (text ++ newline) :=
  Text.isLine_append_terminator htext h.isTerminator

end IsNewline

/-! ### Closers -/

theorem isReturn_eq_false {c : Char} (h : isBoundary c = false) : isReturn c = false := by
  by_contra hreturn
  simp only [Bool.not_eq_false, isReturn, Bool.or_eq_true, beq_iff_eq] at hreturn
  rcases hreturn with rfl | rfl <;> exact absurd h (by decide)

theorem trimRight_isReturn {l : Line} (h : ∀ c ∈ l, isBoundary c = false) :
    Text.trimRight isReturn l = l :=
  Text.trimRight_eq_self fun c hc => isReturn_eq_false (h c hc)

theorem EndsPlainly.cases {l : Line} (hplain : EndsPlainly l) (hline : IsLine l) :
    (∀ c ∈ Text.trimRight isReturn l, isBoundary c = false) ∧
      (l.drop (Text.trimRight isReturn l).length = [] ∧ endsInReturn l = false ∨
        IsTerminator (l.drop (Text.trimRight isReturn l).length) ∧ endsInReturn l = true) := by
  rcases hline.cases with hall | ⟨before, t, rfl, hbefore, ht⟩
  · rw [trimRight_isReturn hall]
    refine ⟨hall, Or.inl ⟨List.drop_length, ?_⟩⟩
    rw [endsInReturn]
    cases hlast : l.getLast? with
    | none => rfl
    | some c => exact isReturn_eq_false (hall c (List.mem_of_getLast? hlast))
  · have hreturn : ∀ c ∈ t, isReturn c = true := by
      rcases ht with rfl | ⟨c, hc, rfl⟩
      · exact List.all_eq_true.mp rfl
      · intro d hd
        obtain rfl := List.mem_singleton.mp hd
        exact hplain d (by simp) hc
    have htrim : Text.trimRight isReturn (before ++ t) = before := by
      rw [Text.trimRight_append_of_all hreturn, trimRight_isReturn hbefore]
    rw [htrim, List.drop_left]
    refine ⟨hbefore, Or.inr ⟨ht, ?_⟩⟩
    rw [endsInReturn_append before ht.ne_nil, endsInReturn,
      List.getLast?_eq_some_getLast ht.ne_nil]
    exact hreturn _ (List.getLast_mem ht.ne_nil)

/-- The characters that stand for a closer once it has its number, without what ends it. -/
def Written.closerBody (config : Config) (w : Written) : List Char :=
  if w.recounted config then closerText (Text.margin w.opener) w.lineCount
  else Text.trimRight isReturn w.closer

theorem edited_closerPieces (config : Config) (w : Written) :
    edited (w.closerPieces config) =
      w.closerBody config ++ w.closer.drop (Text.trimRight isReturn w.closer).length := by
  rw [Written.closerPieces, Written.closerBody]
  split
  · simp
  · simp [trimRight_append_drop]

/-! ### Regions -/

theorem head?_ne_newline {body : List Char} (hne : body ≠ [])
    (h : ∀ c ∈ body, isBoundary c = false) (rest : List Char) :
    (body ++ rest).head? ≠ some '\n' := by
  obtain ⟨c, more, rfl⟩ := List.exists_cons_of_ne_nil hne
  intro hc
  obtain rfl : c = '\n' := by simpa using hc
  exact absurd (h '\n' (by simp)) (by decide)

theorem not_boundary_of_mem_beginSentinel : ∀ c ∈ beginSentinel, isBoundary c = false :=
  Text.not_boundary_of_any (by decide +kernel)

theorem not_boundary_of_mem_endSentinel : ∀ c ∈ endSentinel, isBoundary c = false :=
  Text.not_boundary_of_any (by decide +kernel)

theorem lined_of_newline {ls : List Line}
    (h : ∀ l ∈ ls, IsLine l ∧ l.getLast? = some '\n') : Lined ls := by
  induction ls with
  | nil => exact ⟨by simp, by simp⟩
  | cons l ls ih =>
      obtain ⟨hline, hlast⟩ := h l (List.mem_cons_self ..)
      exact lined_cons_iff.mpr
        ⟨hline, ih fun m hm => h m (List.mem_cons_of_mem _ hm), breaks_of_newline hlast _⟩

/-- The lines of a generated text in its region. -/
def regionLines (margin newline artifact : List Char) : List Line :=
  ((Text.bodies artifact).map fun l =>
    if l.isEmpty then newline else margin ++ l ++ newline) ++ [newline]

theorem flatten_regionLines (margin newline artifact : List Char) :
    (regionLines margin newline artifact).flatten = regionText margin newline artifact := by
  simp [regionLines, regionText, List.flatMap]

theorem mem_regionLines {margin newline artifact : List Char} {l : Line}
    (h : l ∈ regionLines margin newline artifact) :
    l = newline ∨ ∃ body ∈ Text.bodies artifact, l = margin ++ body ++ newline := by
  rcases List.mem_append.mp h with h | h
  · obtain ⟨body, hbody, rfl⟩ := List.mem_map.mp h
    split
    · exact Or.inl rfl
    · exact Or.inr ⟨body, hbody, rfl⟩
  · exact Or.inl (List.mem_singleton.mp h)

section

variable {margin newline : List Char} (hnewline : IsNewline newline)
  (hmargin : ∀ c ∈ margin, isBoundary c = false)

include hnewline hmargin

theorem isLine_behind_margin {text : List Char} (h : ∀ c ∈ text, isBoundary c = false) :
    IsLine (margin ++ text ++ newline) := by
  refine hnewline.isLine_append ?_
  intro c hc
  rcases List.mem_append.mp hc with hc | hc
  · exact hmargin c hc
  · exact h c hc

theorem lines_regionText (artifact : List Char) :
    Text.lines (regionText margin newline artifact) = regionLines margin newline artifact := by
  rw [← flatten_regionLines]
  refine (lined_of_newline ?_).lines_flatten
  intro l hl
  rcases mem_regionLines hl with rfl | ⟨body, hbody, rfl⟩
  · exact ⟨hnewline.isTerminator.isLine, by simpa using hnewline.getLast?_append []⟩
  · exact ⟨isLine_behind_margin hnewline hmargin (Text.not_boundary_of_mem_bodies hbody),
      hnewline.getLast?_append _⟩

theorem lined_newRegion (artifact : List Char) {rest : List Line} (hrest : Lined rest) :
    Lined ((newRegion margin newline artifact).lines ++ rest) := by
  have hlines : (newRegion margin newline artifact).lines =
      (margin ++ beginSentinel ++ newline) :: regionLines margin newline artifact ++
        [margin ++ endSentinel ++ newline] := by
    rw [newRegion, lines_regionText hnewline hmargin]
    rfl
  refine lined_append_iff.mpr ⟨lined_of_newline ?_, hrest, breaks_of_newline ?_ _⟩
  · rw [hlines]
    intro l hl
    simp only [List.cons_append, List.mem_cons, List.mem_append, List.not_mem_nil,
      or_false] at hl
    rcases hl with rfl | hl | rfl
    · exact ⟨isLine_behind_margin hnewline hmargin not_boundary_of_mem_beginSentinel,
        hnewline.getLast?_append _⟩
    · rw [← lines_regionText hnewline hmargin] at hl
      refine ⟨(lined_lines _).isLine l hl, ?_⟩
      rw [lines_regionText hnewline hmargin] at hl
      rcases mem_regionLines hl with rfl | ⟨body, -, rfl⟩
      · simpa using hnewline.getLast?_append []
      · exact hnewline.getLast?_append _
    · exact ⟨isLine_behind_margin hnewline hmargin not_boundary_of_mem_endSentinel,
        hnewline.getLast?_append _⟩
  · rw [flatten_newRegion, framedRegion]
    exact hnewline.getLast?_append _

end

theorem head?_newRegion {margin : List Char} (hmargin : ∀ c ∈ margin, isBoundary c = false)
    (newline artifact rest : List Char) :
    ((newRegion margin newline artifact).lines.flatten ++ rest).head? ≠ some '\n' := by
  have hlead : ∀ c ∈ margin ++ beginSentinel, isBoundary c = false := by
    intro c hc
    rcases List.mem_append.mp hc with hc | hc
    · exact hmargin c hc
    · exact not_boundary_of_mem_beginSentinel c hc
  have hne : margin ++ beginSentinel ≠ [] := by
    simp only [ne_eq, List.append_eq_nil_iff, not_and]
    intro _
    decide +kernel
  rw [flatten_newRegion, framedRegion]
  simp only [List.append_assoc]
  rw [← List.append_assoc margin]
  exact head?_ne_newline hne hlead _

theorem getLast?_regionText {newline : List Char} (hnewline : IsNewline newline)
    (margin artifact : List Char) :
    (regionText margin newline artifact).getLast? = some '\n' :=
  hnewline.getLast?_append _

/-- Behind a lone carriage return that ends a line, a newline belongs to the same line. -/
theorem isLine_append_newline {l : Line} (h : IsLine l) (hlast : l.getLast? = some '\r') :
    IsLine (l ++ ['\n']) := by
  rcases h.cases with hall | ⟨before, t, rfl, hbefore, ht⟩
  · exact absurd (hall '\r' (List.mem_of_getLast? hlast)) (by decide)
  · obtain rfl : t = ['\r'] := by
      rcases ht with rfl | ⟨c, -, rfl⟩
      · simp at hlast
      · simpa using hlast
    rw [List.append_assoc]
    exact Text.isLine_append_terminator hbefore (Or.inl rfl)

theorem Region.lined_renewed {r : Region} {text : List Char} (h : Lined r.lines)
    (hlast : text.getLast? = some '\n') : Lined (r.renewed text).lines := by
  rw [Region.lines, List.cons_append, lined_cons_iff, lined_append_iff,
    Text.lined_singleton_iff] at h
  obtain ⟨hfirst, ⟨-, hend, -⟩, hbreak⟩ := h
  have hboundary : ∀ c ∈ r.first.getLast?, isBoundary c = true :=
    hbreak.isBoundary (by simp [hend.ne_nil])
  rw [Region.renewed]
  split
  · rename_i hfuses
    obtain ⟨rest, rfl⟩ := List.head?_eq_some_iff.mp hfuses.2
    rw [Region.lines, lined_append_iff, lined_cons_iff, Text.lined_singleton_iff]
    refine ⟨⟨isLine_append_newline hfirst hfuses.1, lined_lines _, ?_⟩, hend, ?_⟩
    · exact breaks_of_newline (by simp) _
    · refine breaks_of_newline ?_ _
      simpa [List.getLast?_append] using hlast
  · rename_i hapart
    have hne : text ≠ [] := by
      rintro rfl
      simp at hlast
    have hmeet : Breaks r.first (text ++ r.last) := by
      intro c hc d hd
      rw [List.head?_append_of_ne_nil _ hne] at hd
      simp only [Text.endsBetween, hboundary c hc, Bool.true_and, Bool.not_eq_true',
        Bool.and_eq_false_iff, beq_eq_false_iff_ne]
      by_contra hpair
      simp only [not_or, not_not] at hpair
      obtain ⟨rfl, rfl⟩ := hpair
      exact hapart ⟨hc, hd⟩
    rw [Region.lines, List.cons_append, lined_cons_iff, lined_append_iff,
      Text.lined_singleton_iff]
    refine ⟨hfirst, ⟨lined_lines _, hend, ?_⟩, ?_⟩
    · rw [Text.flatten_lines]
      exact breaks_of_newline hlast _
    · simpa using hmeet

/-! ### Closers and the regions behind them -/

/-- What ends a closer after regeneration. -/
def Written.closerTail (newline : List Char) (w : Written) (artifact : Option (List Char)) :
    List Char :=
  w.closer.drop (Text.trimRight isReturn w.closer).length ++
    if w.framed artifact then w.gap newline else []

theorem renewed_closer (config : Config) (newline : List Char) (w : Written)
    (artifact : Option (List Char)) :
    (w.renewed config newline artifact).closer =
      w.closerBody config ++ w.closerTail newline artifact := by
  simp [Written.renewed, edited_closerPieces, Written.closerTail]

theorem renewed_closer_of_not {config : Config} {w : Written}
    (h : w.recounted config = false) (newline : List Char) (artifact : Option (List Char)) :
    (w.renewed config newline artifact).closer =
      w.closer ++ if w.framed artifact then w.gap newline else [] := by
  simp [Written.renewed, edited_closerPieces_of_not h]

/-- What ends a renewed closer is what ended the closer, or what regeneration puts there. -/
theorem closerTail_cases {w : Written} (hline : IsLine w.closer) (hplain : EndsPlainly w.closer)
    (newline : List Char) (artifact : Option (List Char)) :
    (∀ c ∈ w.closer, isBoundary c = false) ∧
        w.closerTail newline artifact = (if w.framed artifact then newline else []) ∨
      IsTerminator (w.closerTail newline artifact) ∧
        ∃ before, w.closer = before ++ w.closerTail newline artifact ∧
          ∀ c ∈ before, isBoundary c = false := by
  have hself := trimRight_append_drop isReturn w.closer
  obtain ⟨hbody, ⟨hdrop, hends⟩ | ⟨hterminator, hends⟩⟩ := hplain.cases hline
  · rw [hdrop, List.append_nil] at hself
    rw [hself] at hbody
    refine Or.inl ⟨hbody, ?_⟩
    rw [Written.closerTail, hdrop, List.nil_append, Written.gap, hends]
    rfl
  · have htail : w.closerTail newline artifact =
        w.closer.drop (Text.trimRight isReturn w.closer).length := by
      simp [Written.closerTail, Written.gap, hends]
    rw [htail]
    exact Or.inr ⟨hterminator, _, hself.symm, hbody⟩

section

variable {config : Config} {newline : List Char} {w : Written} {artifact : Option (List Char)}
  (hnewline : IsNewline newline) (hline : IsLine w.closer)
  (hmargin : ∀ c ∈ Text.margin w.opener, isBoundary c = false)
  (hplain : w.recounted config = true ∨ w.framed artifact = true → EndsPlainly w.closer)

include hline

section

include hmargin

/-- A renewed closer may follow whatever the closer followed. -/
theorem breaks_renewed_closer {before after : List Char}
    (h : Breaks before (w.closer ++ after)) (after' : List Char) :
    Breaks before ((w.renewed config newline artifact).closer ++ after') := by
  cases hrecounted : w.recounted config with
  | true =>
      refine breaks_of_isBoundary (h.isBoundary (by simp [hline.ne_nil])) ?_
      rw [renewed_closer, Written.closerBody, if_pos hrecounted, List.append_assoc]
      exact head?_ne_newline (closerText_ne_nil _ _)
        (fun c hc => not_boundary_of_mem_closerText hmargin hc) _
  | false =>
      refine h.congr rfl ?_
      rw [renewed_closer_of_not hrecounted, List.append_assoc, hline.head?_append,
        hline.head?_append]

theorem not_boundary_of_mem_closerBody (config : Config) (hplain : EndsPlainly w.closer) :
    ∀ c ∈ w.closerBody config, isBoundary c = false := by
  rw [Written.closerBody]
  split
  · exact fun c hc => not_boundary_of_mem_closerText hmargin hc
  · exact (hplain.cases hline).1

include hnewline hplain in
theorem isLine_renewed_closer : IsLine (w.renewed config newline artifact).closer := by
  by_cases hedited : w.recounted config = true ∨ w.framed artifact = true
  · have hbody := not_boundary_of_mem_closerBody hline hmargin config (hplain hedited)
    rw [renewed_closer]
    rcases closerTail_cases hline (hplain hedited) newline artifact with
      ⟨-, htail⟩ | ⟨hterminator, -⟩
    · rw [htail]
      cases hframed : w.framed artifact with
      | true => exact hnewline.isLine_append hbody
      | false =>
          have hrecounted : w.recounted config = true := by simpa [hframed] using hedited
          have hne : w.closerBody config ≠ [] := by
            rw [Written.closerBody, if_pos hrecounted]
            exact closerText_ne_nil _ _
          simpa using Text.isLine_of_not_boundary hne hbody
    · exact Text.isLine_append_terminator hbody hterminator
  · simp only [not_or, Bool.not_eq_true] at hedited
    rw [renewed_closer_of_not hedited.1, hedited.2]
    simpa using hline

end

include hplain

theorem getLast?_renewed_closer (newline : List Char) :
    (w.renewed config newline artifact).closer.getLast? = w.closer.getLast? ∨
      ∀ c ∈ w.closer.getLast?, isBoundary c = false := by
  by_cases hedited : w.recounted config = true ∨ w.framed artifact = true
  · rcases closerTail_cases hline (hplain hedited) newline artifact with
      ⟨hall, -⟩ | ⟨hterminator, before, hcloser, -⟩
    · exact Or.inr fun c hc => hall c (List.mem_of_getLast? hc)
    · have hlast := List.getLast?_append_of_ne_nil before hterminator.ne_nil
      rw [← hcloser] at hlast
      refine Or.inl ?_
      rw [renewed_closer, List.getLast?_append_of_ne_nil _ hterminator.ne_nil, hlast]
  · simp only [not_or, Bool.not_eq_true] at hedited
    rw [renewed_closer_of_not hedited.1, hedited.2]
    simp

theorem breaks_behind_renewed_closer {after after' : List Char} (h : Breaks w.closer after)
    (hhead : after.head? = after'.head?) :
    Breaks (w.renewed config newline artifact).closer after' := by
  rcases getLast?_renewed_closer hline hplain newline with hlast | hnot
  · exact h.congr hlast.symm hhead
  · obtain rfl : after = [] := by
      by_contra hne
      obtain ⟨c, hc⟩ := List.getLast?_isSome.mpr hline.ne_nil |> Option.isSome_iff_exists.mp
      have := h.isBoundary hne c hc
      simp [hnot c hc] at this
    obtain rfl : after' = [] := by simpa using hhead.symm
    simp [Breaks]

include hnewline in
theorem breaks_before_sentinel (hframed : w.framed artifact = true) {after : List Char}
    (hhead : after.head? ≠ some '\n') :
    Breaks (w.renewed config newline artifact).closer after := by
  have hplain := hplain (Or.inr hframed)
  refine breaks_of_isBoundary ?_ hhead
  rw [renewed_closer]
  rcases closerTail_cases hline hplain newline artifact with ⟨-, htail⟩ | ⟨hterminator, -⟩
  · rw [htail, if_pos hframed, hnewline.getLast?_append]
    simp [isBoundary]
  · rw [List.getLast?_append_of_ne_nil _ hterminator.ne_nil]
    rcases hterminator with heq | ⟨c, hc, heq⟩
    · simp [heq, isBoundary]
    · simpa [heq] using hc

end

/-! ### Directives -/

section

variable {config : Config} {newline : List Char} {w : Written} {artifact : Option (List Char)}

theorem Written.WellFormed.not_boundary_of_mem_margin (hwell : w.WellFormed)
    (hline : IsLine w.opener) : ∀ c ∈ Text.margin w.opener, isBoundary c = false :=
  hline.not_boundary_of_mem_margin (strip_ne_nil_of_opener hwell.opener)

theorem count_renewed :
    (w.renewed config newline artifact).count =
      if config.updateCounts then some w.lineCount else w.count := rfl

theorem region_renewed_none : (w.renewed config newline none).region = w.region := rfl

theorem region_renewed_some (text : List Char) :
    (w.renewed config newline (some text)).region = some (w.regionWith newline text) := rfl

theorem lined_regionWith (hnewline : IsNewline newline)
    (hmargin : ∀ c ∈ Text.margin w.opener, isBoundary c = false)
    (hlined : ∀ r ∈ w.region, Lined r.lines) (text : List Char) :
    Lined (w.regionWith newline text).lines := by
  cases hregion : w.region with
  | none =>
      rw [regionWith_none hregion]
      have hnil : Lined ([] : List Line) := ⟨by simp, by simp⟩
      simpa using lined_newRegion hnewline hmargin text hnil
  | some r =>
      rw [regionWith_some hregion]
      exact Region.lined_renewed (hlined r hregion) (getLast?_regionText hnewline _ _)

theorem Region.head?_flatten_renewed {r : Region} (hfirst : r.first ≠ []) (text : List Char) :
    (r.renewed text).lines.flatten.head? = r.lines.flatten.head? := by
  rw [Region.flatten_renewed, Region.lines, List.cons_append, List.flatten_cons,
    List.append_assoc, List.head?_append_of_ne_nil _ hfirst, List.head?_append_of_ne_nil _ hfirst]

theorem lined_renewed (hnewline : IsNewline newline) (hwell : w.WellFormed)
    (hlined : Lined w.lines)
    (hplain : w.recounted config = true ∨ w.framed artifact = true → EndsPlainly w.closer) :
    Lined (w.renewed config newline artifact).lines := by
  rw [Written.lines_eq, lined_append_iff, lined_append_iff, Text.lined_singleton_iff] at hlined
  obtain ⟨⟨hscript, hcloser, hmeet⟩, hregion, hbehind⟩ := hlined
  have hmargin := hwell.not_boundary_of_mem_margin (hscript.isLine _ (List.mem_cons_self ..))
  have hlast : Breaks w.closer ((w.region.map Region.lines).getD []).flatten := by
    refine hbehind.congr ?_ rfl
    rw [List.flatten_append, List.flatten_singleton, hcloser.getLast?_append]
  have hmeet' : Breaks (w.opener :: w.script).flatten
      (w.renewed config newline artifact).closer := by
    have hlead : Breaks (w.opener :: w.script).flatten (w.closer ++ []) := by simpa using hmeet
    simpa using breaks_renewed_closer hcloser hmargin hlead []
  have hcloser' := isLine_renewed_closer hnewline hcloser hmargin hplain
  rw [Written.lines_eq, lined_append_iff, lined_append_iff, Text.lined_singleton_iff]
  rw [List.flatten_append, List.flatten_singleton]
  refine ⟨⟨hscript, hcloser', hmeet'⟩, ?_⟩
  -- where the region starts, only the closer before it counts
  suffices hrest : Lined (((w.renewed config newline artifact).region.map Region.lines).getD []) ∧
      Breaks (w.renewed config newline artifact).closer
        (((w.renewed config newline artifact).region.map Region.lines).getD []).flatten from
    ⟨hrest.1, hrest.2.congr (hcloser'.getLast?_append _).symm rfl⟩
  cases artifact with
  | none =>
      rw [region_renewed_none]
      exact ⟨hregion, breaks_behind_renewed_closer hcloser hplain hlast rfl⟩
  | some text =>
      rw [region_renewed_some, Option.map_some, Option.getD_some]
      constructor
      · refine lined_regionWith hnewline hmargin ?_ text
        intro r hr
        simpa [Option.mem_def.mp hr] using hregion
      · cases hr : w.region with
        | none =>
            rw [regionWith_none hr]
            refine breaks_before_sentinel hnewline hcloser hplain (by simp [Written.framed, hr]) ?_
            simpa using head?_newRegion hmargin newline text []
        | some r =>
            have hfirst : r.first ≠ [] := by
              refine (hregion.isLine r.first ?_).ne_nil
              simp [hr, Region.lines]
            rw [regionWith_some hr]
            refine breaks_behind_renewed_closer hcloser hplain hlast ?_
            rw [hr, Option.map_some, Option.getD_some, Region.head?_flatten_renewed hfirst]

theorem Region.last_renewed (r : Region) (text : List Char) : (r.renewed text).last = r.last := by
  rw [Region.renewed]
  split <;> rfl

theorem getLast?_flatten_lines (hlined : Lined w.lines) :
    w.lines.flatten.getLast? = ((w.region.map Region.last).getD w.closer).getLast? := by
  have hcloser : IsLine w.closer := hlined.isLine _ (by simp [Written.lines])
  rw [Written.lines_eq, List.flatten_append, List.flatten_append, List.flatten_singleton]
  cases hregion : w.region with
  | none =>
      rw [Option.map_none, Option.getD_none, List.flatten_nil, List.append_nil,
        hcloser.getLast?_append]
      rfl
  | some r =>
      have hlast : IsLine r.last :=
        hlined.isLine _ (by simp [Written.lines, hregion, Region.lines])
      rw [Option.map_some, Option.getD_some, Region.lines, List.flatten_append,
        List.flatten_singleton, ← List.append_assoc, hlast.getLast?_append]
      rfl

theorem breaks_renewed (hnewline : IsNewline newline) (hwell : w.WellFormed)
    (hlined : Lined w.lines)
    (hplain : w.recounted config = true ∨ w.framed artifact = true → EndsPlainly w.closer)
    {after after' : List Char} (h : Breaks w.lines.flatten after)
    (hhead : after.head? = after'.head?) :
    Breaks (w.renewed config newline artifact).lines.flatten after' := by
  have hcloser : IsLine w.closer := hlined.isLine _ (by simp [Written.lines])
  have hlast := getLast?_flatten_lines hlined
  have hlined' := lined_renewed hnewline hwell hlined hplain
  have hlast' := getLast?_flatten_lines hlined'
  cases hregion : w.region with
  | none =>
      rw [hregion] at hlast
      cases artifact with
      | none =>
          rw [region_renewed_none, hregion] at hlast'
          exact (breaks_behind_renewed_closer hcloser hplain (h.congr hlast rfl) hhead).congr
            hlast'.symm rfl
      | some text =>
          rw [region_renewed_some, regionWith_none hregion] at hlast'
          exact breaks_of_newline (hlast'.trans (hnewline.getLast?_append _)) _
  | some r =>
      rw [hregion] at hlast
      refine h.congr (hlast.trans ?_) hhead
      cases artifact with
      | none => rw [hlast', region_renewed_none, hregion]; rfl
      | some text =>
          rw [hlast', region_renewed_some, regionWith_some hregion]
          simp only [Option.map_some, Option.getD_some, Region.last_renewed]

end

end Codeweave.Directive
