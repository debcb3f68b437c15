import Codeweave.Directive.Block
import Codeweave.Proofs.Directive.Outline
import Codeweave.Proofs.Text.Strip
import Mathlib.Data.List.Forall2

/-!
Directives in a source and in its outline. The spans of a block cut out of the source what the
outline holds at the same place, so that whatever is said of one can be said of the other.
-/

namespace Codeweave.Directive

open Text (IsLine Lined lined_lines)

/-- The outline of a source. -/
structure Parted (source : List Char) (ps : List Passage) : Prop where
  outlined : Outlined ps
  lines_eq : linesOf ps = Text.lines source

def writtenOf : List Passage → List Written
  | [] => []
  | .plain _ :: ps => writtenOf ps
  | .directive w :: ps => w :: writtenOf ps

def Written.lineCount (w : Written) : Nat :=
  (Text.lines w.script.flatten).length

def Span.cut (span : Span) (source : List Char) : List Char :=
  (source.take span.stop).drop span.start

/-- The block stands in the source where the outline has the directive. -/
structure Shows (source : List Char) (b : Block) (w : Written) : Prop where
  script : b.script = w.script.flatten
  margin : b.margin = Text.margin w.opener
  declared : b.declared = w.count.map Int.ofNat
  line : ∃ before : Nat, b.line = before + 1 ∧ b.scriptLine = before + 2
  closing : (source.take b.insertAt).getLast? = w.closer.getLast?
  generated : b.generated.map (·.cut source) = w.region.map (·.body.flatten)
  opening : b.generated.map (fun span => (source.take span.start).getLast?) =
    w.region.map (·.first.getLast?)
  ordered : ∀ span ∈ b.generated, span.start ≤ span.stop

/-! ### Outlines of sources -/

theorem Parted.flatten_eq {source : List Char} {ps : List Passage} (h : Parted source ps) :
    (linesOf ps).flatten = source := by
  rw [h.lines_eq, Text.flatten_lines]

theorem Parted.lined {source : List Char} {ps : List Passage} (h : Parted source ps) :
    Lined (linesOf ps) := by
  rw [h.lines_eq]
  exact lined_lines source

/-- A source has one outline. -/
theorem Parted.unique {source : List Char} {ps qs : List Passage} (hps : Parted source ps)
    (hqs : Parted source qs) : ps = qs := by
  have hread := outline_eq_ok_iff.mpr ⟨hps.outlined, hps.lines_eq⟩
  rw [outline_eq_ok_iff.mpr ⟨hqs.outlined, hqs.lines_eq⟩, Except.ok.injEq] at hread
  exact hread.symm

/-- Lines that make up an outline are the outline of what they make up. -/
theorem parted_of_lined {ps : List Passage} (houtlined : Outlined ps)
    (hlined : Lined (linesOf ps)) : Parted (linesOf ps).flatten ps :=
  ⟨houtlined, hlined.lines_flatten.symm⟩

theorem scan_eq_ok_iff {source : List Char} {blocks : List Block} :
    scan source = .ok blocks ↔ ∃ ps, Parted source ps ∧ blocks = blocksFrom {} ps := by
  rw [scan]
  constructor
  · intro h
    cases houtline : outline (Text.lines source) with
    | error b => simp [houtline, Except.map] at h
    | ok ps =>
        obtain ⟨houtlined, hlines⟩ := outline_eq_ok_iff.mp houtline
        refine ⟨ps, ⟨houtlined, hlines⟩, ?_⟩
        simpa [houtline, Except.map, eq_comm] using h
  · rintro ⟨ps, hparted, rfl⟩
    rw [outline_eq_ok_iff.mpr ⟨hparted.outlined, hparted.lines_eq⟩]
    rfl

theorem Outlined.wellFormed {ps : List Passage} (h : Outlined ps) :
    ∀ w ∈ writtenOf ps, w.WellFormed := by
  induction ps with
  | nil => simp [writtenOf]
  | cons p ps ih =>
      cases p with
      | plain l => exact ih h.2
      | directive w => exact List.forall_mem_cons.mpr ⟨h.1, ih h.2.2⟩

theorem Written.lines_eq (w : Written) :
    w.lines = (w.opener :: w.script) ++ [w.closer] ++ (w.region.map Region.lines).getD [] := by
  simp [Written.lines]

theorem Parted.lined_written {source : List Char} {ps : List Passage} (h : Parted source ps) :
    ∀ w ∈ writtenOf ps, Lined w.lines := by
  have hlined := h.lined
  clear h
  induction ps with
  | nil => simp [writtenOf]
  | cons p ps ih =>
      cases p with
      | plain l =>
          rw [linesOf_plain, Text.lined_cons_iff] at hlined
          exact ih hlined.2.1
      | directive w =>
          rw [linesOf_directive, Text.lined_append_iff] at hlined
          intro v hv
          rcases List.mem_cons.mp hv with rfl | hv
          · exact hlined.1
          · exact ih hlined.2.1 v hv

theorem Parted.lined_region {source : List Char} {ps : List Passage} (h : Parted source ps) :
    ∀ w ∈ writtenOf ps, ∀ r ∈ w.region, Lined r.lines := by
  intro w hw r hr
  have hlined := h.lined_written w hw
  rw [Written.lines_eq, Option.mem_def.mp hr, Text.lined_append_iff] at hlined
  exact hlined.2.1

/-! ### Blocks and directives -/

theorem after_append (p : Place) (ls ms : List Line) :
    p.after (ls ++ ms) = (p.after ls).after ms := by
  simp only [Place.after, List.flatten_append, List.length_append, Nat.add_assoc]

theorem mem_writtenOf (ps : List Passage) (w : Written) (qs : List Passage) :
    w ∈ writtenOf (ps ++ .directive w :: qs) := by
  induction ps with
  | nil => exact List.mem_cons_self ..
  | cons p ps ih =>
      cases p with
      | plain l => exact ih
      | directive v => exact List.mem_cons_of_mem _ ih

theorem exists_directive_of_blocksFrom {ps : List Passage} {p : Place} {before after : List Block}
    {b : Block} (h : blocksFrom p ps = before ++ b :: after) :
    ∃ qs w rs, ps = qs ++ .directive w :: rs ∧ before = blocksFrom p qs ∧
      b = w.blockAt (p.after (linesOf qs)) ∧
      after = blocksFrom (p.after (linesOf qs ++ w.lines)) rs := by
  induction ps generalizing p before with
  | nil => simp [blocksFrom] at h
  | cons passage ps ih =>
      cases passage with
      | plain l =>
          obtain ⟨qs, w, rs, rfl, rfl, rfl, rfl⟩ := ih h
          refine ⟨.plain l :: qs, w, rs, rfl, rfl, ?_, ?_⟩
          · rw [← after_append]
            rfl
          · rw [← after_append]
            rfl
      | directive v =>
          cases before with
          | nil =>
              obtain ⟨rfl, rfl⟩ := List.cons.inj h
              exact ⟨[], v, ps, rfl, rfl, by simp [Place.after], by simp⟩
          | cons c before =>
              obtain ⟨rfl, htail⟩ := List.cons.inj h
              obtain ⟨qs, w, rs, rfl, rfl, rfl, rfl⟩ := ih htail
              refine ⟨.directive v :: qs, w, rs, rfl, rfl, ?_, ?_⟩
              · rw [← after_append]
                rfl
              · rw [← after_append, linesOf_directive, List.append_assoc]

theorem exists_directive_of_mem {ps : List Passage} {p : Place} {b : Block}
    (h : b ∈ blocksFrom p ps) :
    ∃ qs w rs, ps = qs ++ .directive w :: rs ∧ b = w.blockAt (p.after (linesOf qs)) := by
  obtain ⟨before, after, hblocks⟩ := List.append_of_mem h
  obtain ⟨qs, w, rs, hps, -, hb, -⟩ := exists_directive_of_blocksFrom hblocks
  exact ⟨qs, w, rs, hps, hb⟩

/-! ### Spans of blocks -/

theorem blockAt_offset_le (w : Written) (p : Place) :
    p.offset ≤ (w.blockAt p).closer.start :=
  Nat.le_add_right _ _

theorem blockAt_closer_le (w : Written) (p : Place) :
    (w.blockAt p).closer.start ≤ (w.blockAt p).closer.stop ∧
      (w.blockAt p).closer.stop ≤ (w.blockAt p).insertAt := by
  have hlength : (Text.trimRight isReturn w.closer).length ≤ w.closer.length :=
    (List.rdropWhile_prefix isReturn w.closer).length_le
  simp only [Written.blockAt]
  omega

theorem blockAt_source_stop (w : Written) (p : Place) :
    (w.blockAt p).source.stop =
      (w.blockAt p).insertAt + ((w.region.map Region.lines).getD []).flatten.length := by
  simp only [Written.blockAt, w.lines_eq, List.flatten_append, List.length_append,
    List.flatten_singleton]
  omega

theorem blockAt_generated_le {w : Written} {p : Place} {span : Span}
    (h : (w.blockAt p).generated = some span) :
    (w.blockAt p).insertAt ≤ span.start ∧ span.start ≤ span.stop ∧
      span.stop ≤ (w.blockAt p).source.stop := by
  rw [blockAt_source_stop]
  obtain ⟨r, hregion, rfl⟩ := Option.map_eq_some_iff.mp h
  simp only [Written.blockAt, hregion, Option.map_some, Option.getD_some, Region.lines,
    List.flatten_append, List.flatten_cons, List.length_append, List.cons_append]
  omega

theorem Shows.lineCount {source : List Char} {b : Block} {w : Written} (h : Shows source b w) :
    b.lineCount = w.lineCount := by
  rw [Directive.lineCount, h.script]
  rfl

theorem declared_eq_iff {count : Option Nat} {n : Nat} :
    count.map Int.ofNat = some (n : Int) ↔ count = some n := by
  cases count with
  | none => simp
  | some m =>
      rw [Option.map_some, Option.some.injEq, Option.some.injEq]
      exact Int.ofNat_inj

theorem cut_append (before middle after : List Char) :
    Span.cut ⟨before.length, before.length + middle.length⟩ (before ++ middle ++ after) =
      middle := by
  rw [Span.cut, ← List.length_append, List.take_left, List.drop_left]

section

variable {before : List Char} {w : Written} {p : Place}

theorem take_insertAt (hbefore : before.length = p.offset) (after : List Char) :
    (before ++ w.lines.flatten ++ after).take (w.blockAt p).insertAt =
      before ++ (w.opener :: w.script).flatten ++ w.closer := by
  have hlength : (w.blockAt p).insertAt =
      (before ++ (w.opener :: w.script).flatten ++ w.closer).length := by
    rw [List.length_append, List.length_append, hbefore]
    rfl
  rw [hlength, w.lines_eq]
  simp only [List.flatten_append, List.flatten_singleton, List.append_assoc]
  simp only [← List.append_assoc before, ← List.append_assoc _ w.closer]
  exact List.take_left

theorem generated_blockAt {r : Region} (hbefore : before.length = p.offset)
    (hregion : w.region = some r) (after : List Char) :
    ∃ span, (w.blockAt p).generated = some span ∧
      span.cut (before ++ w.lines.flatten ++ after) = r.body.flatten ∧
      (before ++ w.lines.flatten ++ after).take span.start =
        before ++ (w.opener :: w.script).flatten ++ w.closer ++ r.first := by
  let lead := before ++ (w.opener :: w.script).flatten ++ w.closer ++ r.first
  have hlead : (w.blockAt p).insertAt + r.first.length = lead.length := by
    simp only [lead, List.length_append, hbefore]
    rfl
  have htext : before ++ w.lines.flatten ++ after =
      lead ++ r.body.flatten ++ (r.last ++ after) := by
    simp [lead, w.lines_eq, hregion, Region.lines]
  refine ⟨⟨lead.length, lead.length + r.body.flatten.length⟩, ?_, ?_, ?_⟩
  · rw [← hlead]
    simp [Written.blockAt, hregion]
  · rw [htext, cut_append]
  · rw [htext, List.append_assoc lead, List.take_left]

theorem shows_blockAt (hline : ∀ l ∈ w.lines, IsLine l) (hbefore : before.length = p.offset)
    (after : List Char) :
    Shows (before ++ w.lines.flatten ++ after) (w.blockAt p) w := by
  have hcloser : w.closer ≠ [] := (hline w.closer (by simp [Written.lines])).ne_nil
  refine ⟨rfl, rfl, rfl, ⟨p.lines, rfl, rfl⟩, ?_, ?_, ?_,
    fun span hspan => (blockAt_generated_le hspan).2.1⟩
  · rw [take_insertAt hbefore, List.getLast?_append_of_ne_nil _ hcloser]
  · cases hregion : w.region with
    | none => simp [Written.blockAt, hregion]
    | some r =>
        obtain ⟨span, hspan, hcut, -⟩ := generated_blockAt hbefore hregion after
        rw [hspan, Option.map_some, hcut, Option.map_some]
  · cases hregion : w.region with
    | none => simp [Written.blockAt, hregion]
    | some r =>
        have hfirst : r.first ≠ [] :=
          (hline r.first (by simp [Written.lines, hregion, Region.lines])).ne_nil
        obtain ⟨span, hspan, -, htake⟩ := generated_blockAt hbefore hregion after
        rw [hspan, Option.map_some, htake, List.getLast?_append_of_ne_nil _ hfirst,
          Option.map_some]

end

/-- The blocks of a source show the directives of its outline, one by one. -/
theorem shows_blocksFrom {ps : List Passage} {before : List Char} {p : Place}
    (hline : ∀ l ∈ linesOf ps, IsLine l) (hbefore : before.length = p.offset) :
    List.Forall₂ (Shows (before ++ (linesOf ps).flatten)) (blocksFrom p ps) (writtenOf ps) := by
  induction ps generalizing before p with
  | nil => exact List.Forall₂.nil
  | cons passage ps ih =>
      cases passage with
      | plain l =>
          have hplace : (before ++ l).length = (p.after [l]).offset := by
            simp [Place.after, hbefore]
          have := ih (fun m hm => hline m (List.mem_cons_of_mem _ hm)) hplace
          simpa [blocksFrom, writtenOf] using this
      | directive w =>
          have hplace : (before ++ w.lines.flatten).length = (p.after w.lines).offset := by
            rw [List.length_append, hbefore]
            rfl
          have htail := ih (fun m hm => hline m (List.mem_append_right _ hm)) hplace
          have hhead := shows_blockAt (fun l hl => hline l (List.mem_append_left _ hl)) hbefore
            (linesOf ps).flatten
          rw [linesOf_directive, List.flatten_append, ← List.append_assoc]
          exact List.Forall₂.cons hhead htail

theorem Parted.shows {source : List Char} {ps : List Passage} (h : Parted source ps) :
    List.Forall₂ (Shows source) (blocksFrom {} ps) (writtenOf ps) := by
  have hplace : ([] : List Char).length = ({} : Place).offset := rfl
  have := shows_blocksFrom h.lined.isLine hplace
  rwa [List.nil_append, h.flatten_eq] at this

/-! ### A source with two directives -/

/-- The first directive has a wrong number and a region, the second ends the source without one. -/
def twoDirectives : List Char :=
  "/*!!\n!! 7 */\r\n".toList ++ beginSentinel ++ "\nold\n".toList ++ endSentinel ++
    "\n  /*!!\n  !! */".toList

def twoBlocks : List Block :=
  [{ script := []
     declared := some 7
     source := ⟨0, 178⟩
     generated := some ⟨94, 98⟩
     closer := ⟨5, 12⟩
     insertAt := 14 },
   { script := []
     declared := none
     margin := [' ', ' ']
     line := 6
     scriptLine := 7
     source := ⟨178, 192⟩
     generated := none
     closer := ⟨185, 192⟩
     insertAt := 192 }]

theorem scan_twoDirectives : scan twoDirectives = .ok twoBlocks := by decide +kernel

end Codeweave.Directive
