import Codeweave.Directive.Report
import Codeweave.Proofs.Directive.Concatenation
import Codeweave.Proofs.Directive.EmptyScript
import Codeweave.Proofs.Directive.RenewedLines
import Codeweave.Proofs.Directive.Spans

/-!
Sources in which the line that ends a region is missing. The region then goes on to the next line
that ends one, wherever that is: only when there is none behind it does a scan blame the directive.
Otherwise all that stands in between, further directives and what is written by hand, is taken for
generated text.
-/

namespace Codeweave.Directive

open Text (Breaks IsLine Lined isBoundary)

/-- The source without the line that ends the region of the block. -/
def Block.withoutEnd (b : Block) (source : List Char) : List Char :=
  match b.generated with
  | none => source
  | some span => source.take span.stop ++ source.drop b.source.stop

/-- The scan of the source fails because the directive of the block does not end. -/
def Blames (source : List Char) (b : Block) : Prop :=
  ∃ broken message, scan source = .error broken ∧
    broken.escape = .fault
      { cause := .unterminatedDirective message
        offset := some b.source.start
        line := some b.line }

/-- The block with another region and the line that ends it. -/
def Block.reaching (b : Block) (region : Span) (last : Line) : Block :=
  { b with
    source := ⟨b.source.start, region.stop + last.length⟩
    generated := some region }

def Written.reaching (w : Written) (r : Region) : Written :=
  { w with region := some r }

def Written.lead (w : Written) : List Line :=
  w.opener :: w.script ++ [w.closer]

def Region.spanFrom (r : Region) (offset : Nat) : Span :=
  ⟨offset + r.first.length, offset + (r.first :: r.body).flatten.length⟩

/-- What is scanned of a source when these blocks come before `q` and the scan goes on there. -/
def resumed (blocks : List Block) (q : Place) :
    Except Broken (List Block) → Except Broken (List Block)
  | .ok more => .ok (blocks ++ more.map (·.behind q))
  | .error broken => .error (broken.behind q)

/-! ### Regions without an end -/

theorem splitAtEnd_eq_none_iff {ls : List Line} :
    splitAtEnd ls = none ↔ ∀ l ∈ ls, isEnd l = false := by
  induction ls with
  | nil => simp [splitAtEnd]
  | cons l ls ih =>
      rw [splitAtEnd, List.forall_mem_cons]
      split
      · rename_i hend
        simp [hend]
      · rename_i hplain
        rw [Option.map_eq_none_iff, ih]
        simp [hplain]

theorem Written.lines_eq_lead (w : Written) :
    w.lines = w.lead ++ (w.region.map Region.lines).getD [] :=
  w.lines_eq

theorem outline_endless {w : Written} (h : w.WellFormed) {first : Line} {ls : List Line}
    (hfirst : isBegin first = true) (hls : ∀ l ∈ ls, isEnd l = false) :
    outline (w.lead ++ first :: ls) = .error ⟨.endless, {}⟩ := by
  obtain ⟨digits, hdigits, -⟩ := h.closer
  have hread : readDirective w.opener (w.script ++ w.closer :: first :: ls) = .error .endless := by
    rw [readDirective, splitAtCloser_append h.script hdigits]
    simp only [readRegion, if_pos hfirst, splitAtEnd_eq_none_iff.mpr hls]
  have hlines : w.lead ++ first :: ls = w.opener :: (w.script ++ w.closer :: first :: ls) := by
    simp [Written.lead]
  rw [hlines, outline, if_pos h.opener]
  split
  · rename_i defect hdefect
    obtain rfl : Defect.endless = defect := by simpa [hread] using hdefect
    rfl
  · rename_i v after hok
    simp [hread] at hok

/-! ### Outlines up to a directive -/

theorem isBegin_eq_false_of_opener {l : Line} (h : isOpener l = true) : isBegin l = false := by
  rw [isBegin, isMark, beq_iff_eq.mp h]
  decide +kernel

theorem startsRegion_lead {w : Written} (h : w.WellFormed) (ls : List Line) :
    startsRegion (w.lead ++ ls) = false := by
  simp [Written.lead, startsRegion, isBegin_eq_false_of_opener h.opener]

theorem linesOf_append (ps qs : List Passage) : linesOf (ps ++ qs) = linesOf ps ++ linesOf qs :=
  List.flatMap_append

theorem Outlined.left {ps qs : List Passage} (h : Outlined (ps ++ qs)) : Outlined ps := by
  induction ps with
  | nil => trivial
  | cons p ps ih =>
      cases p with
      | plain l => exact ⟨h.1, ih h.2⟩
      | directive w =>
          refine ⟨h.1, fun hnone => ?_, ih h.2.2⟩
          cases ps with
          | nil => rfl
          | cons q ps =>
              have hstarts : startsRegion (linesOf (q :: ps ++ qs)) = false := h.2.1 hnone
              rwa [linesOf_append, startsRegion_append (linesOf_ne_nil q ps)] at hstarts

theorem Outlined.concat {ps : List Passage} (h : Outlined ps) {w : Written} (hw : w.WellFormed) :
    Outlined (ps ++ [.directive w]) := by
  induction ps with
  | nil => exact ⟨hw, fun _ => rfl, trivial⟩
  | cons p ps ih =>
      cases p with
      | plain l => exact ⟨h.1, ih h.2⟩
      | directive v =>
          refine ⟨h.1, fun hnone => ?_, ih h.2.2⟩
          cases ps with
          | nil =>
              change startsRegion (w.lines ++ linesOf []) = false
              rw [w.lines_eq_lead, List.append_assoc]
              exact startsRegion_lead hw _
          | cons q ps =>
              change startsRegion (linesOf (q :: ps ++ [.directive w])) = false
              rw [linesOf_append, startsRegion_append (linesOf_ne_nil q ps)]
              exact h.2.1 hnone

/-! ### Lines that meet -/

theorem eq_newline_of_head? {l : Line} (h : IsLine l) (hhead : l.head? = some '\n') :
    l = ['\n'] := by
  rcases h.cases with hall | ⟨lead, t, rfl, hlead, ht⟩
  · exact absurd (hall '\n' (List.mem_of_mem_head? hhead)) (by decide)
  · cases lead with
    | cons c lead =>
        obtain rfl : c = '\n' := by simpa using hhead
        exact absurd (hlead '\n' (List.mem_cons_self ..)) (by decide)
    | nil =>
        rcases ht with rfl | ⟨c, -, rfl⟩
        · simp at hhead
        · simpa using hhead

/-- Lines that are put behind others stay as they are, unless a newline comes behind a carriage
return: these two end one line. -/
theorem lined_rejoin {ls ms : List Line} {l : Line} (hls : Lined (ls ++ [l])) (hms : Lined ms)
    (hl : ∀ c ∈ l.getLast?, isBoundary c = true) :
    Lined (ls ++ l :: ms) ∨
      ∃ ms', ms = ['\n'] :: ms' ∧ Lined (ls ++ (l ++ ['\n']) :: ms') := by
  obtain ⟨hfront, hline, hmeet⟩ := Text.lined_append_iff.mp hls
  rw [Text.lined_singleton_iff] at hline
  rw [List.flatten_singleton] at hmeet
  by_cases hfuses : l.getLast? = some '\r' ∧ ms.flatten.head? = some '\n'
  · obtain ⟨m, ms', rfl⟩ : ∃ m ms', ms = m :: ms' := by
      cases ms with
      | nil => simp at hfuses
      | cons m ms' => exact ⟨m, ms', rfl⟩
    obtain ⟨hm, hrest, -⟩ := Text.lined_cons_iff.mp hms
    have hhead : m.head? = some '\n' := by
      rw [← hm.head?_append ms'.flatten]
      exact hfuses.2
    obtain rfl := eq_newline_of_head? hm hhead
    refine .inr ⟨ms', rfl, Text.lined_append_iff.mpr ⟨hfront, Text.lined_cons_iff.mpr
      ⟨isLine_append_newline hline hfuses.1, hrest, Text.breaks_of_newline (by simp) _⟩, ?_⟩⟩
    refine hmeet.congr rfl ?_
    rw [List.flatten_cons, List.append_assoc, hline.head?_append]
  · have hbreak : Breaks l ms.flatten := by
      intro c hc d hd
      have hapart : c = '\r' → d ≠ '\n' := by
        rintro rfl rfl
        exact hfuses ⟨hc, hd⟩
      simpa [Text.endsBetween, hl c hc, ← imp_iff_not_or] using hapart
    refine .inl (Text.lined_append_iff.mpr
      ⟨hfront, Text.lined_cons_iff.mpr ⟨hline, hms, hbreak⟩, hmeet.congr rfl ?_⟩)
    rw [List.flatten_cons, hline.head?_append]

theorem isBlank_of_mem_newline : ∀ c ∈ ['\n'], Text.isBlank c = true :=
  Text.IsTerminator.isBlank (.inr ⟨'\n', rfl, rfl⟩)

section

variable {ls rest : List Line} (hls : ∀ l ∈ ls, isEnd l = false)
  (hrest : ∀ l ∈ rest.head?, isEnd l = true)

include hrest in
theorem exists_cons_of_newline {ms : List Line} (h : ls ++ rest = ['\n'] :: ms) :
    ∃ ls', ls = ['\n'] :: ls' ∧ ms = ls' ++ rest := by
  cases ls with
  | nil =>
      rw [List.nil_append] at h
      have hend : isEnd ['\n'] = true := hrest ['\n'] (by simp [h])
      rw [isEnd, isMark_eq_false_of_blank endSentinel_ne_nil isBlank_of_mem_newline] at hend
      exact absurd hend Bool.false_ne_true
  | cons l ls' =>
      obtain ⟨rfl, rfl⟩ := List.cons.inj h
      exact ⟨ls', rfl, rfl⟩

include hls hrest in
/-- The lines of a region that goes on to the next line that ends one. The first of the further
lines may be a newline that belongs to the line before it. -/
theorem exists_region_rejoined {lead : List Line} {first : Line} {body : List Line}
    (hlined : Lined (lead ++ first :: body)) (hbehind : Lined (ls ++ rest))
    (hlast : ∀ c ∈ (lead ++ first :: body).flatten.getLast?, isBoundary c = true)
    (hfirst : isBegin first = true) (hbody : ∀ l ∈ body, isEnd l = false) :
    ∃ first' body', Lined (lead ++ first' :: body' ++ rest) ∧ isBegin first' = true ∧
      (∀ l ∈ body', isEnd l = false) ∧
      (first' :: body').flatten = (first :: body).flatten ++ ls.flatten ∧
      (first' = first ∨ body = [] ∧ first' = first ++ ['\n']) := by
  rcases List.eq_nil_or_concat body with rfl | ⟨body, l, rfl⟩
  · have hline : IsLine first := hlined.isLine first (by simp)
    rw [List.flatten_append, List.flatten_singleton, hline.getLast?_append] at hlast
    rcases lined_rejoin hlined hbehind hlast with hjoined | ⟨ms, heq, hjoined⟩
    · exact ⟨first, ls, by simpa using hjoined, hfirst, hls, by simp, .inl rfl⟩
    · obtain ⟨ls, rfl, rfl⟩ := exists_cons_of_newline hrest heq
      -- the newline goes to the sentinel, which stays one: blanks around a mark do not count
      have hbegin :=
        isMark_between (List.forall_mem_nil _) isBlank_of_mem_newline beginSentinel first
      rw [List.nil_append] at hbegin
      exact ⟨first ++ ['\n'], ls, by simpa using hjoined, hbegin.trans hfirst,
        fun m hm => hls m (List.mem_cons_of_mem _ hm), by simp, .inr ⟨rfl, rfl⟩⟩
  · rw [List.concat_eq_append] at hlined hlast hbody ⊢
    have hparts : lead ++ first :: (body ++ [l]) = (lead ++ first :: body) ++ [l] := by simp
    have hline : IsLine l := hlined.isLine l (by simp)
    rw [hparts] at hlined hlast
    rw [List.flatten_append, List.flatten_singleton, hline.getLast?_append] at hlast
    rcases lined_rejoin hlined hbehind hlast with hjoined | ⟨ms, heq, hjoined⟩
    · refine ⟨first, body ++ [l] ++ ls, by simpa using hjoined, hfirst, ?_, by simp, .inl rfl⟩
      intro m hm
      exact (List.mem_append.mp hm).elim (hbody m) (hls m)
    · obtain ⟨ls, rfl, rfl⟩ := exists_cons_of_newline hrest heq
      have hend := isMark_between (List.forall_mem_nil _) isBlank_of_mem_newline endSentinel l
      rw [List.nil_append] at hend
      refine ⟨first, body ++ (l ++ ['\n']) :: ls, by simpa using hjoined, hfirst, ?_, by simp,
        .inl rfl⟩
      intro m hm
      rcases List.mem_append.mp hm with hm | hm
      · exact hbody m (List.mem_append_left _ hm)
      · rcases List.mem_cons.mp hm with rfl | hm
        · exact hend.trans (hbody l (by simp))
        · exact hls m (List.mem_cons_of_mem _ hm)

end

/-! ### Blocks and their regions -/

theorem insertAt_blockAt (ls : List Line) (w : Written) :
    (w.blockAt (Place.after {} ls)).insertAt = (ls ++ w.lead).flatten.length := by
  simp [Written.blockAt, Written.lead, Place.after, Nat.add_assoc]

theorem generated_eq_spanFrom (w : Written) (p : Place) :
    (w.blockAt p).generated = w.region.map (·.spanFrom (w.blockAt p).insertAt) := by
  simp only [Written.blockAt, Region.spanFrom, List.flatten_cons, List.length_append,
    Nat.add_assoc]

theorem spanFrom_stop (ls : List Line) (w : Written) (r : Region) :
    (r.spanFrom (w.blockAt (Place.after {} ls)).insertAt).stop =
      (ls ++ w.lead ++ r.first :: r.body).flatten.length := by
  rw [List.flatten_append, List.length_append, ← insertAt_blockAt]
  rfl

theorem blockAt_reaching (w : Written) (r : Region) (p : Place) :
    (w.reaching r).blockAt p =
      (w.blockAt p).reaching (r.spanFrom (w.blockAt p).insertAt) r.last := by
  simp only [Written.reaching, Written.blockAt, Block.reaching, Region.spanFrom, Written.lines,
    Region.lines, Option.map_some, Option.getD_some, List.cons_append, List.flatten_cons,
    List.flatten_append, List.length_append, List.flatten_nil, List.append_nil, Nat.add_assoc]

/-! ### Scans of a source without an end -/

/-- Behind lines that are outlined, a scan goes on as if nothing came before. -/
theorem scan_outlined {ps : List Passage} {ms : List Line} (houtlined : Outlined ps)
    (hlined : Lined (linesOf ps ++ ms))
    (hlast : ∀ w, ps.getLast? = some (.directive w) → w.region ≠ none) :
    scan (linesOf ps ++ ms).flatten =
      resumed (blocksFrom {} ps) (Place.after {} (linesOf ps)) (scan ms.flatten) := by
  have hms : Lined ms := (Text.lined_append_iff.mp hlined).2.1
  rw [scan, hlined.lines_flatten, scan, hms.lines_flatten,
    outline_append houtlined fun w hw hnone => absurd hnone (hlast w hw)]
  cases houtline : outline ms with
  | error broken =>
      rw [foldr_prepend_error]
      rfl
  | ok qs =>
      rw [foldr_prepend_ok, Except.map, blocksFrom_append, Except.map, resumed,
        ← blocksFrom_behind, Place.behind]
      rfl

section

variable {source : List Char} {qs rs : List Passage} {w : Written} {r : Region}
  (hparted : Parted source (qs ++ .directive w :: rs)) (hregion : w.region = some r)

include hregion in
theorem linesOf_of_region :
    linesOf (qs ++ .directive w :: rs) =
      (linesOf qs ++ w.lead ++ r.first :: r.body) ++ (r.last :: linesOf rs) := by
  rw [linesOf_append, linesOf_directive, w.lines_eq_lead, hregion]
  simp [Region.lines]

include hparted hregion

theorem lined_of_parted :
    Lined (linesOf qs ++ w.lead ++ r.first :: r.body) ∧ Lined (linesOf rs) ∧
      ∀ c ∈ (linesOf qs ++ w.lead ++ r.first :: r.body).flatten.getLast?, isBoundary c = true := by
  have hlined := hparted.lined
  rw [linesOf_of_region hregion, Text.lined_append_iff, Text.lined_cons_iff] at hlined
  obtain ⟨hfront, ⟨hlast, hrest, -⟩, hmeet⟩ := hlined
  exact ⟨hfront, hrest, hmeet.isBoundary (by simp [hlast.ne_nil])⟩

/-- What is left of the source without the line that ends the region. -/
theorem withoutEnd_of_parted :
    let b := w.blockAt (Place.after {} (linesOf qs))
    Text.lines (source.drop b.source.stop) = linesOf rs ∧
      b.withoutEnd source =
        (linesOf qs ++ w.lead ++ r.first :: r.body).flatten ++ (linesOf rs).flatten := by
  intro b
  let kept := (linesOf qs ++ w.lead ++ r.first :: r.body).flatten
  have hsource : source = kept ++ r.last ++ (linesOf rs).flatten := by
    rw [← hparted.flatten_eq, linesOf_of_region hregion, List.flatten_append, List.flatten_cons,
      List.append_assoc kept]
  have hspan : b.generated = some (r.spanFrom b.insertAt) := by
    rw [generated_eq_spanFrom, hregion, Option.map_some]
  have hstop : b.source.stop = (kept ++ r.last).length := by
    simp [b, kept, Written.blockAt, Written.lines_eq_lead, hregion, Region.lines, Place.after]
  have hdrop : source.drop b.source.stop = (linesOf rs).flatten := by
    rw [hsource, hstop, List.drop_left]
  constructor
  · rw [hdrop, (lined_of_parted hparted hregion).2.1.lines_flatten]
  · rw [Block.withoutEnd, hspan]
    change source.take (r.spanFrom b.insertAt).stop ++ source.drop b.source.stop = _
    rw [spanFrom_stop, hdrop, hsource, List.append_assoc kept, List.take_left]

/-- Without an end, the lines of the region go on to the next line that ends one. -/
theorem lined_withoutEnd {ls rest : List Line} (hbehind : linesOf rs = ls ++ rest)
    (hls : ∀ l ∈ ls, isEnd l = false) (hrest : ∀ l ∈ rest.head?, isEnd l = true) :
    ∃ first body, Lined (linesOf qs ++ (w.lead ++ first :: body) ++ rest) ∧
      isBegin first = true ∧ (∀ l ∈ body, isEnd l = false) ∧
      (first :: body).flatten = (r.first :: r.body).flatten ++ ls.flatten ∧
      (first = r.first ∨ r.body = [] ∧ first = r.first ++ ['\n']) := by
  obtain ⟨hfront, hrs, hlast⟩ := lined_of_parted hparted hregion
  have hwell := hparted.outlined.wellFormed w (mem_writtenOf qs w rs)
  have hr := hwell.region r hregion
  obtain ⟨first, body, hlined, hmarks⟩ := exists_region_rejoined hls hrest hfront
    (hbehind ▸ hrs) hlast hr.first hr.body
  exact ⟨first, body, by simpa using hlined, hmarks⟩

/-- With no other line that ends a region behind it, the directive is endless. -/
theorem scan_withoutEnd_of_all (hrs : ∀ l ∈ linesOf rs, isEnd l = false) :
    scan ((w.blockAt (Place.after {} (linesOf qs))).withoutEnd source) =
      .error ⟨.endless, Place.after {} (linesOf qs)⟩ := by
  have houtlined : Outlined qs := hparted.outlined.left
  have hwell := hparted.outlined.wellFormed w (mem_writtenOf qs w rs)
  obtain ⟨-, hsource⟩ := withoutEnd_of_parted hparted hregion
  obtain ⟨first, body, hlined, hfirst, hbody, hflatten, -⟩ :=
    lined_withoutEnd hparted hregion (List.append_nil _).symm hrs (by simp)
  have htext : (linesOf qs ++ w.lead ++ r.first :: r.body).flatten ++ (linesOf rs).flatten =
      (linesOf qs ++ (w.lead ++ first :: body)).flatten := by
    simp only [List.flatten_append, List.append_assoc, ← hflatten]
  rw [List.append_nil] at hlined
  rw [hsource, htext, scan, hlined.lines_flatten,
    outline_append houtlined fun _ _ _ => startsRegion_lead hwell _,
    outline_endless hwell hfirst hbody, foldr_prepend_error]
  simp [Except.map, Broken.behind, Place.behind]

/-- Otherwise the region goes on to the next line that ends one, and the scan behind it. -/
theorem scan_withoutEnd_of_end {ls ms : List Line} {last : Line}
    (hbehind : linesOf rs = ls ++ last :: ms) (hls : ∀ l ∈ ls, isEnd l = false)
    (hlast : isEnd last = true) :
    ∃ grown : Region, grown.last = last ∧
      (grown.first :: grown.body).flatten = (r.first :: r.body).flatten ++ ls.flatten ∧
      (grown.first = r.first ∨ r.body = [] ∧ grown.first = r.first ++ ['\n']) ∧
      let p := Place.after {} (linesOf qs)
      let lines := linesOf qs ++ (w.reaching grown).lines
      Lined (lines ++ ms) ∧
      (w.blockAt p).withoutEnd source = lines.flatten ++ ms.flatten ∧
      scan ((w.blockAt p).withoutEnd source) =
        resumed (blocksFrom {} qs ++ [(w.reaching grown).blockAt p]) (Place.after {} lines)
          (scan ms.flatten) := by
  have hwell := hparted.outlined.wellFormed w (mem_writtenOf qs w rs)
  obtain ⟨-, hsource⟩ := withoutEnd_of_parted hparted hregion
  obtain ⟨first, body, hlined, hfirst, hbody, hflatten, hsame⟩ :=
    lined_withoutEnd hparted hregion hbehind hls (by simpa using hlast)
  let grown : Region := ⟨first, body, last⟩
  refine ⟨grown, rfl, hflatten, hsame, ?_⟩
  intro p lines
  -- with the region that has grown the directive is well-formed, so it is read whole
  have hgrown : (w.reaching grown).WellFormed := by
    refine ⟨hwell.opener, hwell.script, hwell.closer, ?_⟩
    rintro _ ⟨rfl⟩
    exact ⟨hfirst, hbody, hlast⟩
  have houtlined : Outlined (qs ++ [.directive (w.reaching grown)]) :=
    hparted.outlined.left.concat hgrown
  have hlines : lines = linesOf qs ++ (w.lead ++ first :: body ++ [last]) := by
    simp [lines, grown, Written.reaching, Written.lines, Written.lead, Region.lines]
  have hall : linesOf (qs ++ [.directive (w.reaching grown)]) = lines := by
    simp [lines, linesOf_append]
  have hjoined : Lined (lines ++ ms) := by
    rw [hlines]
    simpa using hlined
  have htext : (w.blockAt p).withoutEnd source = lines.flatten ++ ms.flatten := by
    rw [hsource, hlines, hbehind]
    simp only [List.flatten_append, List.append_assoc, hflatten]
    simp
  refine ⟨hjoined, htext, ?_⟩
  rw [← hall] at hjoined
  rw [htext, ← List.flatten_append, ← hall,
    scan_outlined houtlined hjoined (by simp [Written.reaching]), blocksFrom_append]
  rfl

end

theorem Broken.offset_of_escape {broken : Broken} {message : String} {offset line : Int}
    (h : broken.escape = .fault
      { cause := .unterminatedDirective message, offset := some offset, line := some line }) :
    offset = broken.place.offset := by
  obtain ⟨defect, place⟩ := broken
  cases defect with
  | unclosed | endless =>
      simp only [Broken.escape, Broken.fault, Escape.fault.injEq, Fault.mk.injEq,
        Option.some.injEq] at h
      exact h.2.1.symm
  | countTooLong digits => simp [Broken.escape] at h

theorem not_blames_of_resumed {source : List Char} {blocks : List Block} {b : Block} {q : Place}
    {rest : Except Broken (List Block)} (hscan : scan source = resumed blocks q rest)
    (hq : b.source.start < q.offset) : ¬ Blames source b := by
  rintro ⟨broken, message, herror, hescape⟩
  rw [hscan] at herror
  cases rest with
  | ok more => simp [resumed] at herror
  | error inner =>
      obtain rfl : inner.behind q = broken := by simpa [resumed] using herror
      have hoffset := Broken.offset_of_escape hescape
      simp only [Broken.behind, Place.behind] at hoffset
      omega

section

variable {source : List Char} {before after : List Block} {b : Block} {span : Span}
  (hscan : scan source = .ok (before ++ b :: after)) (hspan : b.generated = some span)

include hscan hspan

theorem exists_parted :
    ∃ qs w rs r, Parted source (qs ++ .directive w :: rs) ∧ w.region = some r ∧
      before = blocksFrom {} qs ∧ b = w.blockAt (Place.after {} (linesOf qs)) ∧
      after = blocksFrom (Place.after {} (linesOf qs ++ w.lines)) rs ∧
      span = r.spanFrom b.insertAt := by
  obtain ⟨ps, hparted, hblocks⟩ := scan_eq_ok_iff.mp hscan
  obtain ⟨qs, w, rs, rfl, rfl, rfl, rfl⟩ := exists_directive_of_blocksFrom hblocks.symm
  rw [generated_eq_spanFrom] at hspan
  obtain ⟨r, hregion, rfl⟩ := Option.map_eq_some_iff.mp hspan
  exact ⟨qs, w, rs, r, hparted, hregion, rfl, rfl, rfl, rfl⟩

/-- The region goes on to the next line that ends one, and the scan behind it. -/
theorem exists_reaching {ls ms : List Line} {last : Line}
    (hbehind : Text.lines (source.drop b.source.stop) = ls ++ last :: ms)
    (hls : ∀ l ∈ ls, isEnd l = false) (hlast : isEnd last = true) :
    ∃ region : Span,
      (region.start = span.start ∨ span.start = span.stop ∧ region.start = span.start + 1) ∧
      region.stop = span.stop + ls.flatten.length ∧
      Span.cut ⟨span.stop, region.stop⟩ (b.withoutEnd source) = ls.flatten ∧
      let c := b.reaching region last
      b.source.start < (placeAfter ((b.withoutEnd source).take c.source.stop)).offset ∧
      scan (b.withoutEnd source) =
        resumed (before ++ [c]) (placeAfter ((b.withoutEnd source).take c.source.stop))
          (scan ((b.withoutEnd source).drop c.source.stop)) := by
  obtain ⟨qs, w, rs, r, hparted, hregion, rfl, rfl, rfl, rfl⟩ := exists_parted hscan hspan
  obtain ⟨hrs, hkept⟩ := withoutEnd_of_parted hparted hregion
  obtain ⟨grown, rfl, hflatten, hfirst, hlined, hsource, hresumed⟩ :=
    scan_withoutEnd_of_end hparted hregion (hrs.symm.trans hbehind) hls hlast
  let p := Place.after {} (linesOf qs)
  let span := r.spanFrom (w.blockAt p).insertAt
  let region := grown.spanFrom (w.blockAt p).insertAt
  let lines := linesOf qs ++ (w.reaching grown).lines
  have hblock : (w.reaching grown).blockAt p = (w.blockAt p).reaching region grown.last :=
    blockAt_reaching w grown p
  have hspanStop : span.stop = (linesOf qs ++ w.lead ++ r.first :: r.body).flatten.length :=
    spanFrom_stop (linesOf qs) w r
  have hstop : region.stop = span.stop + ls.flatten.length := by
    change _ + (grown.first :: grown.body).flatten.length = _ + _ + _
    rw [hflatten, List.length_append, Nat.add_assoc]
  -- the directive with the region that has grown ends where its lines do
  have hsourceStop : ((w.blockAt p).reaching region grown.last).source.stop =
      lines.flatten.length := by
    rw [← hblock, List.flatten_append, List.length_append]
    simp [Written.blockAt, p, Place.after]
  refine ⟨region, ?_, hstop, ?_, ?_, ?_⟩
  · rcases hfirst with hfirst | ⟨hbody, hfirst⟩
    · left
      simp only [region, Region.spanFrom, hfirst, p]
    · right
      simp [region, Region.spanFrom, hbody, hfirst, p, Nat.add_assoc]
  · refine cut_of_eq (linesOf qs ++ w.lead ++ r.first :: r.body).flatten
      (grown.last :: ms).flatten ?_ hspanStop ?_
    · simp only [hkept, ← hrs, hbehind, List.flatten_append, List.append_assoc]
    · rw [hstop, hspanStop]
  · have hopener : 0 < w.opener.length :=
      List.length_pos_iff.mpr (hlined.isLine w.opener (by simp [Written.reaching,
        Written.lines])).ne_nil
    rw [hsource, hsourceStop, List.take_left]
    simp only [placeAfter, Written.blockAt, Place.after, lines, Written.reaching, Written.lines,
      List.flatten_append, List.flatten_cons, List.cons_append, List.length_append]
    omega
  · rw [hsourceStop, hresumed, hsource, List.take_left, List.drop_left, placeAfter_eq,
      (Text.lined_append_iff.mp hlined).1.lines_flatten, ← hblock]

theorem blames_of_all (hbehind : ∀ l ∈ Text.lines (source.drop b.source.stop), isEnd l = false) :
    Blames (b.withoutEnd source) b := by
  obtain ⟨qs, w, rs, r, hparted, hregion, rfl, rfl, rfl, rfl⟩ := exists_parted hscan hspan
  rw [(withoutEnd_of_parted hparted hregion).1] at hbehind
  exact ⟨_, _, scan_withoutEnd_of_all hparted hregion hbehind, rfl⟩

theorem exists_end_of_mem {c : Block} (hc : c ∈ after) (hgenerated : c.generated ≠ none) :
    ∃ l ∈ Text.lines (source.drop b.source.stop), isEnd l = true := by
  obtain ⟨qs, w, rs, r, hparted, hregion, rfl, rfl, rfl, rfl⟩ := exists_parted hscan hspan
  obtain ⟨ts, v, us, rfl, rfl⟩ := exists_directive_of_mem hc
  obtain ⟨later, hlater⟩ := Option.ne_none_iff_exists'.mp hgenerated
  obtain ⟨t, ht, -⟩ := Option.map_eq_some_iff.mp hlater
  have hmem : v ∈ writtenOf (qs ++ .directive w :: (ts ++ .directive v :: us)) := by
    rw [← List.cons_append, ← List.append_assoc]
    exact mem_writtenOf _ v us
  have hwell := hparted.outlined.wellFormed v hmem
  refine ⟨t.last, ?_, (hwell.region t ht).last⟩
  rw [(withoutEnd_of_parted hparted hregion).1]
  simp [linesOf_append, Written.lines, ht, Region.lines]

end

/-- A source in which the line that ends a region is missing. The scan blames the directive of the
region exactly if no line behind it ends a region: never when a later directive has one. Then
nothing is written. Otherwise the region goes on to the first such line, with all that stands in
between, and the scan goes on behind it. -/
theorem blames_withoutEnd_iff {source : List Char} {before after : List Block} {b : Block}
    {span : Span} (hscan : scan source = .ok (before ++ b :: after))
    (hspan : b.generated = some span) :
    let damaged := b.withoutEnd source
    let behind := Text.lines (source.drop b.source.stop)
    (Blames damaged b ↔ ∀ l ∈ behind, isEnd l = false) ∧
    ((∃ c ∈ after, c.generated ≠ none) → ¬ Blames damaged b) ∧
    (Blames damaged b → ∀ config path, ∃ fault,
      regenerateSource config path damaged = (.error (.fault fault), [])) ∧
    ∀ ls last ms, behind = ls ++ last :: ms → (∀ l ∈ ls, isEnd l = false) → isEnd last = true →
      ∃ region : Span,
        (region.start = span.start ∨
          span.start = span.stop ∧ region.start = span.start + 1) ∧
        region.stop = span.stop + ls.flatten.length ∧
        Span.cut ⟨span.stop, region.stop⟩ damaged = ls.flatten ∧
        let c := b.reaching region last
        scan damaged = resumed (before ++ [c]) (placeAfter (damaged.take c.source.stop))
          (scan (damaged.drop c.source.stop)) := by
  intro damaged behind
  have hblames : Blames damaged b ↔ ∀ l ∈ behind, isEnd l = false := by
    refine ⟨fun hblames => ?_, blames_of_all hscan hspan⟩
    rw [← splitAtEnd_eq_none_iff, Option.eq_none_iff_forall_ne_some]
    rintro ⟨ls, last, ms⟩ hsplit
    obtain ⟨hls, hlast⟩ := marks_of_splitAtEnd hsplit
    obtain ⟨region, -, -, -, hlater, hresumed⟩ :=
      exists_reaching hscan hspan (eq_append_of_splitAtEnd hsplit) hls hlast
    exact not_blames_of_resumed hresumed hlater hblames
  refine ⟨hblames, ?_, ?_, ?_⟩
  · rintro ⟨c, hc, hgenerated⟩ hblamed
    obtain ⟨l, hl, hend⟩ := exists_end_of_mem hscan hspan hc hgenerated
    rw [hblames.mp hblamed l hl] at hend
    exact Bool.false_ne_true hend
  · rintro ⟨broken, message, herror, hescape⟩ config path
    simp only [regenerateSource, herror, hescape, Prod.mk.injEq, Except.error.injEq,
      Escape.fault.injEq, and_true, exists_eq']
  · intro ls last ms hbehind hls hlast
    obtain ⟨region, hstart, hstop, hcut, -, hresumed⟩ :=
      exists_reaching hscan hspan hbehind hls hlast
    exact ⟨region, hstart, hstop, hcut, hresumed⟩

def twoBare : List Char :=
  "/*!!\n!! */\nuser();\n/*!!\n!! */\n".toList

def twoRegions : List Char :=
  "/*!!\n!! */\n".toList ++ framedRegion [] ['\n'] [] ++ "user();\n/*!!\n!! */\n".toList ++
    framedRegion [] ['\n'] []

def firstOfTwo : Block :=
  { script := []
    declared := none
    source := ⟨0, 172⟩
    generated := some ⟨91, 92⟩
    closer := ⟨5, 10⟩
    insertAt := 11 }

def secondOfTwo : Block :=
  { script := []
    declared := none
    line := 7
    scriptLine := 8
    source := ⟨180, 352⟩
    generated := some ⟨271, 272⟩
    closer := ⟨185, 190⟩
    insertAt := 191 }

/-- In the text that is generated for two directives, the missing end of the second region is
noticed and that of the first is not: the first region then takes in the line between the two and
the second directive, and neither is left in the text that is generated next. -/
theorem blames_withoutEnd_twoRegions :
    (∃ report, (regenerateSource {} "" twoBare).1 = .ok report ∧ report.text = twoRegions) ∧
    scan twoRegions = .ok [firstOfTwo, secondOfTwo] ∧
    Blames (secondOfTwo.withoutEnd twoRegions) secondOfTwo ∧
    ¬ Blames (firstOfTwo.withoutEnd twoRegions) firstOfTwo ∧
    scan (firstOfTwo.withoutEnd twoRegions) =
      .ok [firstOfTwo.reaching ⟨91, 192⟩ (endSentinel ++ ['\n'])] ∧
    ∃ report, (regenerateSource {} "" (firstOfTwo.withoutEnd twoRegions)).1 = .ok report ∧
      report.text = "/*!!\n!! */\n".toList ++ framedRegion [] ['\n'] [] := by
  have hscan : scan twoRegions = .ok [firstOfTwo, secondOfTwo] := by decide +kernel
  have hbeforeFirst : scan twoRegions = .ok ([] ++ firstOfTwo :: [secondOfTwo]) := hscan
  have hbeforeSecond : scan twoRegions = .ok ([firstOfTwo] ++ secondOfTwo :: []) := hscan
  have hpath : '\x00' ∉ "".toList := by decide
  have hbare : scan twoBare = .ok
      [{ firstOfTwo with source := ⟨0, 11⟩, generated := none },
       { secondOfTwo with
          line := 4
          scriptLine := 5
          source := ⟨19, 30⟩
          generated := none
          closer := ⟨24, 29⟩
          insertAt := 30 }] := by
    decide +kernel
  have hdamaged : scan (firstOfTwo.withoutEnd twoRegions) =
      .ok [firstOfTwo.reaching ⟨91, 192⟩ (endSentinel ++ ['\n'])] := by decide +kernel
  refine ⟨?_, hscan, ?_, ?_, hdamaged, ?_⟩
  · obtain ⟨report, hreport, htext⟩ :=
      exists_text_nil {} hpath rfl hbare (by decide)
    exact ⟨report, hreport, htext.trans (by decide +kernel)⟩
  · exact (blames_withoutEnd_iff hbeforeSecond rfl).1.mpr (by decide +kernel)
  · exact (blames_withoutEnd_iff hbeforeFirst rfl).2.1
      ⟨secondOfTwo, List.mem_singleton_self _, by decide⟩
  · obtain ⟨report, hreport, htext⟩ :=
      exists_text_nil {} hpath rfl hdamaged (by decide)
    exact ⟨report, hreport, htext.trans (by decide +kernel)⟩

end Codeweave.Directive
