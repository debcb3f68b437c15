import Codeweave.Proofs.Directive.Blocks

/-!
Sources that are put together. Behind a source that ends with a newline a new line starts, so what
follows is scanned as if it stood alone, only at later places. There is one exception: a region
right behind a closer belongs to the directive of that closer.
-/

namespace Codeweave.Directive

open Text (Breaks)

/-- The span when so many characters are put in front. -/
def Span.behind (span : Span) (offset : Nat) : Span :=
  ⟨offset + span.start, offset + span.stop⟩

/-- The block when as much as lies before `q` is put in front. -/
def Block.behind (b : Block) (q : Place) : Block :=
  { b with
    line := b.line + q.lines
    scriptLine := b.scriptLine + q.lines
    source := b.source.behind q.offset
    generated := b.generated.map (·.behind q.offset)
    closer := b.closer.behind q.offset
    insertAt := q.offset + b.insertAt }

/-- The defect when as much as lies before `q` is put in front. -/
def Broken.behind (b : Broken) (q : Place) : Broken :=
  { b with place := b.place.behind q }

def placeAfter (text : List Char) : Place :=
  { offset := text.length, lines := (Text.lines text).length }

/-! ### Places -/

theorem after_behind (p q : Place) (ls : List Line) :
    (p.behind q).after ls = (p.after ls).behind q := by
  simp only [Place.after, Place.behind, Nat.add_assoc]

theorem after_eq_behind (q : Place) (ls : List Line) :
    q.after ls = (Place.after {} ls).behind q := by
  simp only [Place.after, Place.behind, Nat.zero_add]

theorem placeAfter_eq (text : List Char) : placeAfter text = Place.after {} (Text.lines text) := by
  simp only [placeAfter, Place.after, Text.flatten_lines, Nat.zero_add]

/-! ### Blocks -/

theorem blockAt_behind (w : Written) (p q : Place) :
    w.blockAt (p.behind q) = (w.blockAt p).behind q := by
  have hline : ((q.lines + p.lines : Nat) : Int) + 1 = p.lines + 1 + q.lines := by omega
  have hscript : ((q.lines + p.lines : Nat) : Int) + 2 = p.lines + 2 + q.lines := by omega
  simp only [Written.blockAt, Block.behind, Span.behind, Place.behind, Option.map_map,
    Function.comp_def, Nat.add_assoc, hline, hscript]

theorem blocksFrom_behind (p q : Place) (ps : List Passage) :
    blocksFrom (p.behind q) ps = (blocksFrom p ps).map (·.behind q) := by
  induction ps generalizing p with
  | nil => rfl
  | cons passage ps ih =>
      cases passage with
      | plain l => rw [blocksFrom, after_behind, ih, blocksFrom]
      | directive w => rw [blocksFrom, after_behind, ih, blockAt_behind, blocksFrom, List.map_cons]

theorem blocksFrom_append (p : Place) (ps qs : List Passage) :
    blocksFrom p (ps ++ qs) = blocksFrom p ps ++ blocksFrom (p.after (linesOf ps)) qs := by
  induction ps generalizing p with
  | nil => rfl
  | cons passage ps ih =>
      cases passage with
      | plain l =>
          have hlines : linesOf (.plain l :: ps) = [l] ++ linesOf ps := rfl
          rw [List.cons_append, blocksFrom, blocksFrom, ih, hlines, after_append]
      | directive w =>
          rw [List.cons_append, blocksFrom, blocksFrom, ih, linesOf_directive, after_append,
            List.cons_append]

/-! ### Outlines -/

theorem foldr_prepend_ok (ps qs : List Passage) :
    ps.foldr prepend (.ok qs) = .ok (ps ++ qs) := by
  induction ps with
  | nil => rfl
  | cons p ps ih => rw [List.foldr_cons, ih, prepend, List.cons_append]

theorem foldr_prepend_error (ps : List Passage) (b : Broken) :
    ps.foldr prepend (.error b) = .error (b.behind (Place.after {} (linesOf ps))) := by
  induction ps with
  | nil => simp [Broken.behind, Place.behind, Place.after]
  | cons p ps ih =>
      have hlines : linesOf (p :: ps) = p.lines ++ linesOf ps := rfl
      rw [List.foldr_cons, ih, prepend, hlines, after_append,
        after_eq_behind (Place.after {} p.lines)]
      simp [Broken.behind, Place.behind, Place.after, Nat.add_assoc]

theorem startsRegion_append {ls : List Line} (h : ls ≠ []) (ms : List Line) :
    startsRegion (ls ++ ms) = startsRegion ls := by
  rw [startsRegion, List.head?_append_of_ne_nil _ h, startsRegion]

theorem linesOf_ne_nil (p : Passage) (ps : List Passage) : linesOf (p :: ps) ≠ [] := by
  cases p with
  | plain l => simp
  | directive w => simp [Written.lines]

/-- The outline of more lines goes on as that of the further lines alone, unless these start with a
region that the last directive lacks. -/
theorem outline_append {ps : List Passage} (h : Outlined ps) {ms : List Line}
    (hjoint : ∀ w, ps.getLast? = some (.directive w) → w.region = none →
      startsRegion ms = false) :
    outline (linesOf ps ++ ms) = ps.foldr prepend (outline ms) := by
  induction ps with
  | nil => rfl
  | cons p ps ih =>
      have htail : ∀ w, ps.getLast? = some (.directive w) → w.region = none →
          startsRegion ms = false := by
        intro w hw
        refine hjoint w ?_
        rw [List.getLast?_cons, hw]
        rfl
      cases p with
      | plain l =>
          rw [linesOf_plain, List.cons_append, outline_plain h.1, ih h.2 htail, List.foldr_cons]
      | directive w =>
          have hafter : w.region = none → startsRegion (linesOf ps ++ ms) = false := by
            intro hnone
            cases ps with
            -- only the last directive is followed by the further lines
            | nil => exact hjoint w rfl hnone
            | cons q qs =>
                rw [startsRegion_append (linesOf_ne_nil q qs)]
                exact h.2.1 hnone
          rw [linesOf_directive, List.append_assoc, outline_directive h.1 hafter, ih h.2.2 htail,
            List.foldr_cons]

/-! ### Sources -/

theorem exists_block_of_getLast? {source : List Char} {ps : List Passage}
    (hparted : Parted source ps) {w : Written} (hlast : ps.getLast? = some (.directive w))
    (hregion : w.region = none) :
    ∃ b ∈ blocksFrom {} ps, b.generated = none ∧ b.insertAt = source.length := by
  obtain ⟨qs, rfl⟩ := List.getLast?_eq_some_iff.mp hlast
  refine ⟨w.blockAt (Place.after {} (linesOf qs)), ?_, ?_, ?_⟩
  · rw [blocksFrom_append, blocksFrom]
    exact List.mem_append_right _ (List.mem_cons_self ..)
  · simp [Written.blockAt, hregion]
  · have hstop := blockAt_source_stop w (Place.after {} (linesOf qs))
    have hlength : source.length = (linesOf qs).flatten.length + w.lines.flatten.length := by
      rw [← hparted.flatten_eq, linesOf, List.flatMap_append, List.flatten_append,
        List.length_append]
      simp [linesOf, Passage.lines]
    rw [hregion] at hstop
    simp only [Option.map_none, Option.getD_none, List.flatten_nil, List.length_nil,
      Nat.add_zero] at hstop
    rw [← hstop, hlength]
    simp only [Written.blockAt, Place.after, Nat.zero_add]

theorem escape_behind {b : Broken} {message : String} {offset line : Int}
    (h : b.escape = .fault
      { cause := .unterminatedDirective message, offset := some offset, line := some line })
    (q : Place) :
    ∃ message', (b.behind q).escape = .fault
      { cause := .unterminatedDirective message'
        offset := some (offset + q.offset)
        line := some (line + q.lines) } := by
  obtain ⟨defect, place⟩ := b
  cases defect with
  | unclosed | endless =>
      simp only [Broken.escape, Broken.fault, Escape.fault.injEq, Fault.mk.injEq,
        Option.some.injEq] at h
      obtain ⟨-, rfl, rfl⟩ := h
      simp only [Broken.escape, Broken.behind, Broken.fault, Place.behind, Escape.fault.injEq,
        Fault.mk.injEq, Option.some.injEq, Cause.unterminatedDirective.injEq]
      exact ⟨_, rfl, by omega, by omega⟩
  | countTooLong digits => simp [Broken.escape] at h

/-- A source that ends with a newline, or is empty, is scanned apart from what follows it, unless
its last line is the closer of a directive without a region and the other starts with one. The
blocks of the second stand behind those of the first, or its fault is told, at places that lie later
by the length and by the lines of the first. -/
theorem scan_append {a b : List Char} {blocks : List Block} (hend : a = [] ∨ a.getLast? = some '\n')
    (hscan : scan a = .ok blocks)
    (hjoint : ∀ block ∈ blocks, block.generated = none → block.insertAt = a.length →
      startsRegion (Text.lines b) = false) :
    (∀ more, scan b = .ok more →
      scan (a ++ b) = .ok (blocks ++ more.map (·.behind (placeAfter a)))) ∧
    (∀ broken, scan b = .error broken →
      scan (a ++ b) = .error (broken.behind (placeAfter a))) ∧
    ∀ broken message offset line, scan b = .error broken →
      broken.escape = .fault
        { cause := .unterminatedDirective message, offset := some offset, line := some line } →
      ∃ broken' message', scan (a ++ b) = .error broken' ∧
        broken'.escape = .fault
          { cause := .unterminatedDirective message'
            offset := some (offset + a.length)
            line := some (line + (Text.lines a).length) } := by
  obtain ⟨ps, hparted, rfl⟩ := scan_eq_ok_iff.mp hscan
  have hbreak : Breaks a b := by
    rcases hend with rfl | hend
    · simp [Breaks]
    · exact Text.breaks_of_newline hend b
  have hlines : Text.lines (a ++ b) = linesOf ps ++ Text.lines b := by
    rw [Text.lines_append hbreak, hparted.lines_eq]
  have houtline : outline (Text.lines (a ++ b)) = ps.foldr prepend (outline (Text.lines b)) := by
    rw [hlines]
    refine outline_append hparted.outlined fun w hlast hregion => ?_
    obtain ⟨block, hblock, hgenerated, hinsert⟩ := exists_block_of_getLast? hparted hlast hregion
    exact hjoint block hblock hgenerated hinsert
  -- both the blocks and the faults of the second source are told from here
  have hplace : Place.after {} (linesOf ps) = placeAfter a := by
    rw [hparted.lines_eq, placeAfter_eq]
  have herror : ∀ broken, scan b = .error broken →
      scan (a ++ b) = .error (broken.behind (placeAfter a)) := by
    intro broken hb
    rw [scan] at hb
    cases hrest : outline (Text.lines b) with
    | ok qs => simp [hrest, Except.map] at hb
    | error broken' =>
        obtain rfl : broken' = broken := by simpa [hrest, Except.map] using hb
        rw [scan, houtline, hrest, foldr_prepend_error, hplace]
        rfl
  refine ⟨?_, herror, ?_⟩
  · intro more hmore
    obtain ⟨qs, hqs, rfl⟩ := scan_eq_ok_iff.mp hmore
    have hrest := outline_eq_ok_iff.mpr ⟨hqs.outlined, hqs.lines_eq⟩
    rw [scan, houtline, hrest, foldr_prepend_ok, Except.map, blocksFrom_append, hplace,
      ← blocksFrom_behind, Place.behind]
    rfl
  · intro broken message offset line hb hfault
    obtain ⟨message', hmessage⟩ := escape_behind hfault (placeAfter a)
    exact ⟨_, message', herror broken hb, hmessage⟩

def bareCloser : List Char :=
  "/*!!\nx\n!! 1 */\n".toList

def bareBlock : Block :=
  { script := ['x', '\n']
    declared := some 1
    source := ⟨0, 15⟩
    generated := none
    closer := ⟨7, 14⟩
    insertAt := 15 }

theorem scan_append_bareCloser :
    bareCloser.getLast? = some '\n' ∧
    scan bareCloser = .ok [bareBlock] ∧
    startsRegion (Text.lines "\r\n /*!!\n!! */".toList) = false ∧
    (∃ block, scan (bareCloser ++ "\r\n /*!!\n!! */".toList) = .ok [bareBlock, block] ∧
      block.line = 5 ∧ block.source = ⟨17, 28⟩) ∧
    ∃ broken message, scan (bareCloser ++ "\r\n /*!!\n".toList) = .error broken ∧
      broken.escape = .fault
        { cause := .unterminatedDirective message, offset := some 17, line := some 5 } := by
  have hscan : scan bareCloser = .ok [bareBlock] := by decide +kernel
  have hmore : scan "\r\n /*!!\n!! */".toList =
      .ok [{ script := [], declared := none, margin := [' '], line := 2, scriptLine := 3,
             source := ⟨2, 13⟩, generated := none, closer := ⟨8, 13⟩, insertAt := 13 }] := by
    decide +kernel
  have hbroken : scan "\r\n /*!!\n".toList = .error ⟨.unclosed, ⟨2, 1⟩⟩ := by decide +kernel
  have hplain : startsRegion (Text.lines "\r\n /*!!\n!! */".toList) = false := by decide +kernel
  have hplain' : startsRegion (Text.lines "\r\n /*!!\n".toList) = false := by decide +kernel
  have hend : bareCloser.getLast? = some '\n' := by decide +kernel
  have hscanned := scan_append (.inr hend) hscan fun _ _ _ _ => hplain
  have hfaulted := scan_append (.inr hend) hscan fun _ _ _ _ => hplain'
  refine ⟨hend, hscan, hplain, ⟨_, hscanned.1 _ hmore, rfl, rfl⟩, ?_⟩
  obtain ⟨broken, message, hboth, hfault⟩ := hfaulted.2.2 _ _ 2 2 hbroken rfl
  exact ⟨broken, message, hboth, hfault⟩

end Codeweave.Directive
