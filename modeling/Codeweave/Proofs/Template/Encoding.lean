import Codeweave.Template
import Mathlib.Data.List.Basic
import Mathlib.Data.List.TakeWhile

/-!
Patterns and their segments. A compiled template spells the pattern that it was compiled from, and
its literal texts are as long as they can be. Conversely, segments of that form are found again in
the pattern that they spell: a backtick where a segment may start is a doubled one exactly when it
belongs to literal text, because no source is empty and none holds a backtick.
-/

namespace Codeweave.Template

open Script (Code)

/-- No literal text is empty, and no two stand side by side. -/
def NormalForm : List Segment → Prop
  | [] => True
  | .literal text :: rest =>
      text ≠ [] ∧ (∀ s ∈ rest.head?, s.isLiteral = false) ∧ NormalForm rest
  | .code _ _ _ :: rest => NormalForm rest

/-- A source stands at its offset in the rest of a pattern that starts at `start`, with a backtick
directly before and after it, and it has the code that the segment has. -/
def Placed (start : Nat) (pattern : List Char) : Segment → Prop
  | .literal _ => True
  | .code source offset code =>
      (∃ before after, pattern = before ++ [delimiter] ++ source ++ [delimiter] ++ after ∧
        offset = start + before.length + 1) ∧ Code.ofSource source = .ok code

/-- The segments are in normal form, spell the rest of a pattern that starts at `start`, and stand
in it where they say. -/
structure Spells (start : Nat) (pattern : List Char) (segments : List Segment) : Prop where
  encode_eq : encode segments = pattern
  normal : NormalForm segments
  placed : ∀ s ∈ segments, Placed start pattern s

/-- A source can stand between backticks and has code. -/
def Readable : Segment → Prop
  | .literal _ => True
  | .code source _ _ =>
      source ≠ [] ∧ delimiter ∉ source ∧ ∃ code, Code.ofSource source = .ok code

/-- Is the segment literal text, and its text or its source. -/
def spelling : Segment → Bool × List Char
  | .literal text => (true, text)
  | .code source _ _ => (false, source)

/-- A character of literal text as it stands in a pattern. -/
def encodeChar (c : Char) : List Char :=
  if c == delimiter then [c, c] else [c]

@[simp] theorem encode_nil : encode [] = [] := rfl

@[simp] theorem encode_literal (text : List Char) (segments : List Segment) :
    encode (.literal text :: segments) = text.flatMap encodeChar ++ encode segments := rfl

@[simp] theorem encode_code (source : List Char) (offset : Nat) (code : Code)
    (segments : List Segment) :
    encode (.code source offset code :: segments) =
      delimiter :: source ++ [delimiter] ++ encode segments := rfl

theorem map_eq_ok_iff {ε α β : Type} {f : α → β} {x : Except ε α} {b : β} :
    x.map f = .ok b ↔ ∃ a, x = .ok a ∧ f a = b := by
  cases x <;> simp [Except.map]

/-! ### Segments behind a character -/

theorem encode_consLiteral (c : Char) (segments : List Segment) :
    encode (consLiteral c segments) = encodeChar c ++ encode segments := by
  rcases segments with _ | ⟨⟨text⟩ | ⟨source, offset, code⟩, segments⟩ <;> simp [consLiteral]

theorem NormalForm.consLiteral {segments : List Segment} (h : NormalForm segments) (c : Char) :
    NormalForm (consLiteral c segments) := by
  rcases segments with _ | ⟨⟨text⟩ | ⟨source, offset, code⟩, segments⟩
  · exact ⟨by simp, by simp, trivial⟩
  · exact ⟨by simp, h.2⟩
  · exact ⟨by simp, by simp [Segment.isLiteral], h⟩

theorem placed_consLiteral {start : Nat} {pattern : List Char} {c : Char}
    {segments : List Segment} (h : ∀ s ∈ segments, Placed start pattern s) :
    ∀ s ∈ consLiteral c segments, Placed start pattern s := by
  rcases segments with _ | ⟨⟨text⟩ | ⟨source, offset, code⟩, segments⟩
  · exact List.forall_mem_singleton.mpr trivial
  · exact List.forall_mem_cons.mpr ⟨trivial, (List.forall_mem_cons.mp h).2⟩
  · exact List.forall_mem_cons.mpr ⟨trivial, h⟩

theorem Placed.append {start : Nat} {pattern : List Char} {s : Segment} {front : List Char}
    (h : Placed (start + front.length) pattern s) : Placed start (front ++ pattern) s := by
  cases s with
  | literal text => trivial
  | code source offset code =>
      obtain ⟨⟨before, after, rfl, rfl⟩, hcode⟩ := h
      refine ⟨⟨front ++ before, after, by simp, ?_⟩, hcode⟩
      rw [List.length_append, Nat.add_assoc start]

/-! ### Segments of a pattern -/

theorem append_of_dropWhile {rest after : List Char} {c : Char}
    (h : rest.dropWhile (· != delimiter) = c :: after) :
    rest = rest.takeWhile (· != delimiter) ++ [delimiter] ++ after := by
  have hc : c = delimiter := by
    have := List.head_dropWhile_not (· != delimiter)
      (by simp [h] : rest.dropWhile (· != delimiter) ≠ [])
    simpa [h] using this
  have hsplit : rest.takeWhile (· != delimiter) ++ rest.dropWhile (· != delimiter) = rest :=
    List.takeWhile_append_dropWhile
  rw [h, hc] at hsplit
  simpa using hsplit.symm

theorem Spells.consLiteral {start : Nat} {pattern : List Char} {segments : List Segment} {c : Char}
    (h : Spells (start + (encodeChar c).length) pattern segments) :
    Spells start (encodeChar c ++ pattern) (consLiteral c segments) where
  encode_eq := by rw [encode_consLiteral, h.encode_eq]
  normal := h.normal.consLiteral c
  placed := placed_consLiteral fun s hs => (h.placed s hs).append

theorem Spells.consCode {start : Nat} {pattern source : List Char} {segments : List Segment}
    {code : Code} (h : Spells (start + source.length + 2) pattern segments)
    (hcode : Code.ofSource source = .ok code) :
    Spells start (delimiter :: source ++ [delimiter] ++ pattern)
      (.code source (start + 1) code :: segments) where
  encode_eq := by rw [encode_code, h.encode_eq]
  normal := h.normal
  placed := by
    rw [List.forall_mem_cons]
    refine ⟨⟨⟨[], pattern, rfl, rfl⟩, hcode⟩, fun s hs => Placed.append ?_⟩
    rw [List.length_append, List.length_cons, List.length_singleton]
    exact h.placed s hs

/-- A pattern is spelled by its segments. -/
theorem spells_of_segmentsFrom {start : Nat} {pattern : List Char} {segments : List Segment}
    (h : segmentsFrom start pattern = .ok segments) : Spells start pattern segments := by
  fun_induction segmentsFrom start pattern generalizing segments with
  | case1 start =>
      obtain rfl : [] = segments := Except.ok.inj h
      exact ⟨rfl, trivial, by simp⟩
  | case2 start c rest hc ih =>
      obtain ⟨more, hmore, rfl⟩ := map_eq_ok_iff.mp h
      have hchar : encodeChar c = [c] := by
        rw [encodeChar, if_neg (by simpa using hc)]
      have hspells := ih hmore
      rw [← List.singleton_append, ← hchar]
      exact Spells.consLiteral (by rwa [hchar])
  | case3 start c rest hc hdouble ih =>
      obtain ⟨more, hmore, rfl⟩ := map_eq_ok_iff.mp h
      obtain rfl : c = delimiter := by simpa using hc
      obtain ⟨rest, rfl⟩ := List.head?_eq_some_iff.mp (beq_iff_eq.mp hdouble)
      have hspells : Spells (start + (encodeChar delimiter).length) rest more := ih hmore
      exact hspells.consLiteral
  | case4 => simp at h
  | case5 => simp at h
  | case6 start c rest hc hdouble first after hrest _ source code hcode =>
      rename_i ih
      obtain ⟨more, hmore, rfl⟩ := map_eq_ok_iff.mp h
      obtain rfl : c = delimiter := by simpa using hc
      have hspells := (ih hmore).consCode hcode
      rwa [List.cons_append, List.cons_append, ← append_of_dropWhile hrest] at hspells

/-! ### Patterns of segments -/

theorem segmentsFrom_encodeChar (start : Nat) (c : Char) (rest : List Char) :
    segmentsFrom start (encodeChar c ++ rest) =
      (segmentsFrom (start + (encodeChar c).length) rest).map (consLiteral c) := by
  rw [encodeChar]
  split
  · rename_i hc
    obtain rfl : c = delimiter := by simpa using hc
    rw [List.cons_append, List.cons_append, segmentsFrom, if_neg (by simp), if_pos (by simp)]
    rfl
  · rename_i hc
    rw [List.cons_append, segmentsFrom, if_pos (by simpa using hc)]
    rfl

theorem segmentsFrom_text (start : Nat) (text rest : List Char) :
    segmentsFrom start (text.flatMap encodeChar ++ rest) =
      (segmentsFrom (start + (text.flatMap encodeChar).length) rest).map
        fun segments => text.foldr consLiteral segments := by
  induction text generalizing start with
  | nil => cases h : segmentsFrom start rest <;> simp [h, Except.map]
  | cons c text ih =>
      rw [List.flatMap_cons, List.append_assoc, segmentsFrom_encodeChar, ih, List.length_append,
        ← Nat.add_assoc]
      cases segmentsFrom (start + (encodeChar c).length + (text.flatMap encodeChar).length) rest <;>
        rfl

theorem foldr_consLiteral {text : List Char} (hne : text ≠ []) {segments : List Segment}
    (h : ∀ s ∈ segments.head?, s.isLiteral = false) :
    text.foldr consLiteral segments = .literal text :: segments := by
  induction text with
  | nil => exact absurd rfl hne
  | cons c text ih =>
      rw [List.foldr_cons]
      cases text with
      | nil =>
          rcases segments with _ | ⟨⟨text⟩ | ⟨source, offset, code⟩, segments⟩
          · rfl
          · simp [Segment.isLiteral] at h
          · rfl
      | cons d text => rw [ih (by simp), consLiteral]

/-- Behind its backtick, a source ends at the next one. -/
theorem segmentsFrom_enclosed (start : Nat) {source : List Char} (after : List Char)
    (hne : source ≠ []) (hdelimiter : delimiter ∉ source) :
    segmentsFrom start (delimiter :: source ++ [delimiter] ++ after) =
      match Code.ofSource source with
      | .error why => .error (.segment (start + 1) why)
      | .ok code =>
        (segmentsFrom (start + source.length + 2) after).map
          (.code source (start + 1) code :: ·) := by
  have hplain : ∀ c ∈ source, (c != delimiter) = true := by
    intro c hc
    rw [bne_iff_ne]
    rintro rfl
    exact hdelimiter hc
  have htake : (source ++ delimiter :: after).takeWhile (· != delimiter) = source := by
    rw [List.takeWhile_append_of_pos hplain]
    simp
  have hdrop : (source ++ delimiter :: after).dropWhile (· != delimiter) = delimiter :: after := by
    rw [List.dropWhile_append_of_pos hplain]
    simp
  have hhead : ¬ ((source ++ delimiter :: after).head? == some delimiter) = true := by
    rw [List.head?_append_of_ne_nil _ hne, beq_iff_eq]
    intro hhead
    exact hdelimiter (List.mem_of_head? hhead)
  rw [List.cons_append, List.cons_append, List.append_assoc, List.singleton_append, segmentsFrom,
    if_neg (by simp), if_neg hhead]
  split
  · rename_i hnil
    rw [hdrop] at hnil
    simp at hnil
  · rename_i first rest hrest
    rw [hdrop] at hrest
    obtain ⟨rfl, rfl⟩ := List.cons.inj hrest
    cases hcode : Code.ofSource source with
    | error why => simp only [htake, hcode]
    | ok code => simp only [htake, hcode]

theorem segmentsFrom_code (start : Nat) {source : List Char} (after : List Char) {code : Code}
    (hne : source ≠ []) (hdelimiter : delimiter ∉ source)
    (hcode : Code.ofSource source = .ok code) :
    segmentsFrom start (delimiter :: source ++ [delimiter] ++ after) =
      (segmentsFrom (start + source.length + 2) after).map
        (.code source (start + 1) code :: ·) := by
  rw [segmentsFrom_enclosed start after hne hdelimiter, hcode]

theorem isLiteral_eq_spelling (s : Segment) : s.isLiteral = (spelling s).1 := by
  cases s <;> rfl

/-- Readable segments in normal form are the segments of the pattern that they spell, with other
offsets and codes perhaps. -/
theorem exists_segmentsFrom_encode {segments : List Segment} (hnormal : NormalForm segments)
    (hreadable : ∀ s ∈ segments, Readable s) (start : Nat) :
    ∃ found, segmentsFrom start (encode segments) = .ok found ∧
      found.map spelling = segments.map spelling := by
  induction segments generalizing start with
  | nil => exact ⟨[], by rw [encode_nil, segmentsFrom], rfl⟩
  | cons s segments ih =>
      rw [List.forall_mem_cons] at hreadable
      cases s with
      | literal text =>
          obtain ⟨hne, hapart, hrest⟩ := hnormal
          obtain ⟨found, hfound, hspelling⟩ := ih hrest hreadable.2
            (start + (text.flatMap encodeChar).length)
          have hhead : ∀ s ∈ found.head?, s.isLiteral = false := by
            intro s hs
            have hsame := congrArg List.head? hspelling
            rw [List.head?_map, List.head?_map, Option.mem_def.mp hs] at hsame
            obtain ⟨t, ht, hts⟩ := Option.map_eq_some_iff.mp hsame.symm
            rw [isLiteral_eq_spelling, ← hts, ← isLiteral_eq_spelling]
            exact hapart t ht
          refine ⟨.literal text :: found, ?_, congrArg (_ :: ·) hspelling⟩
          rw [encode_literal, segmentsFrom_text, hfound, Except.map, foldr_consLiteral hne hhead]
      | code source offset code =>
          obtain ⟨⟨hne, hdelimiter, code', hcode⟩, hrest⟩ := hreadable
          obtain ⟨found, hfound, hspelling⟩ := ih hnormal hrest (start + source.length + 2)
          refine ⟨.code source (start + 1) code' :: found, ?_, congrArg (_ :: ·) hspelling⟩
          rw [encode_code, segmentsFrom_code start _ hne hdelimiter hcode, hfound, Except.map]

/-- Compiling a pattern and spelling segments undo each other: the segments of a template spell its
pattern, in normal form and each source in its place, and readable segments in normal form are found
in the pattern that they spell. -/
theorem compile_inverts_encode :
    (∀ pattern t, compile pattern = .ok t →
      encode t.segments = pattern ∧ NormalForm t.segments ∧
        ∀ s ∈ t.segments, Placed 0 pattern s) ∧
      ∀ segments, NormalForm segments → (∀ s ∈ segments, Readable s) →
        ∃ t, compile (encode segments) = .ok t ∧
          t.segments.map spelling = segments.map spelling := by
  constructor
  · intro pattern t h
    obtain ⟨segments, hsegments, rfl⟩ := map_eq_ok_iff.mp h
    have hspells := spells_of_segmentsFrom hsegments
    exact ⟨hspells.encode_eq, hspells.normal, hspells.placed⟩
  · intro segments hnormal hreadable
    obtain ⟨found, hfound, hspelling⟩ := exists_segmentsFrom_encode hnormal hreadable 0
    refine ⟨⟨encode segments, found⟩, ?_, hspelling⟩
    rw [compile, hfound]
    rfl

/-- Two segments of code side by side, between literal texts that end and start in a backtick. -/
def tickedSegments : List Segment :=
  [.literal ['a', delimiter], .code ['x'] 0 (.action []), .code ['y'] 0 (.action []),
    .literal [delimiter, 'b']]

/-- Either letter is an expression. -/
theorem exists_code_of_mem {c : Char} (hc : c ∈ ['x', 'y']) :
    ∃ code, Code.ofSource [c] = .ok code := by
  have hok : ['x', 'y'].all (fun c => (Code.ofSource [c]).isOk) = true := by decide +kernel
  have hok := List.all_eq_true.mp hok c hc
  cases h : Code.ofSource [c] with
  | error why => simp [h, Except.isOk, Except.toBool] at hok
  | ok code => exact ⟨code, rfl⟩

theorem compile_inverts_encode_tickedSegments :
    NormalForm tickedSegments ∧ (∀ s ∈ tickedSegments, Readable s) ∧
      ∃ t, compile (encode tickedSegments) = .ok t ∧
        t.segments.map spelling = tickedSegments.map spelling ∧
        encode t.segments = encode tickedSegments := by
  have hnormal : NormalForm tickedSegments := by
    simp [tickedSegments, NormalForm, Segment.isLiteral]
  have hreadable : ∀ s ∈ tickedSegments, Readable s := by
    simp [tickedSegments, Readable, delimiter, exists_code_of_mem]
  obtain ⟨t, ht, hspelling⟩ := compile_inverts_encode.2 tickedSegments hnormal hreadable
  exact ⟨hnormal, hreadable, t, ht, hspelling, (compile_inverts_encode.1 _ t ht).1⟩

end Codeweave.Template
