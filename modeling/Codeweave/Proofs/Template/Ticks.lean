import Codeweave.Proofs.Script.Run
import Codeweave.Proofs.Template.Reading
import Codeweave.Script.Render

/-!
What is wrong with a pattern, told from its backticks. Paired from left to right, backticks side by
side are doubled ones, and all other pairs enclose sources. The leftmost source without code is what
is wrong, even when a later backtick has no partner; if all sources have code, it is the last
backtick, when their number is odd.
-/

namespace Codeweave.Template

open Script (Code compilePattern Frame Provenance runFrom SegmentError Stop World)

/-- The first with the second, the third with the fourth, and so on. -/
def pairs : List Nat → List (Nat × Nat)
  | first :: second :: rest => (first, second) :: pairs rest
  | _ => []

/-- What pairs of offsets that are not side by side enclose in a text, each with its offset. -/
def enclosedBy (text : List Char) (ticks : List Nat) : List (Nat × List Char) :=
  ((pairs ticks).filter fun (first, second) => second != first + 1).map fun (first, second) =>
    (first + 1, (text.take second).drop (first + 1))

/-- The sources in a pattern, each with its offset. -/
def sources (pattern : List Char) : List (Nat × List Char) :=
  enclosedBy pattern (pattern.idxsOf delimiter)

/-- The offset of a source without code, and why it has none. -/
def refusal? : Nat × List Char → Option (Nat × SegmentError)
  | (offset, source) =>
    match Code.ofSource source with
    | .error why => some (offset, why)
    | .ok _ => none

/-- The leftmost source without code. -/
def firstRefusal? (pattern : List Char) : Option (Nat × SegmentError) :=
  (sources pattern).findSome? refusal?

/-- The last backtick, if they cannot all be paired. -/
def unpaired? (pattern : List Char) : Option Nat :=
  if pattern.count delimiter % 2 = 1 then (pattern.idxsOf delimiter).getLast? else none

/-- What is wrong with a pattern. -/
def wrong? (pattern : List Char) : Option Error :=
  match firstRefusal? pattern with
  | some (offset, why) => some (.segment offset why)
  | none => (unpaired? pattern).map .unterminated

def failure? : Except Error (List Segment) → Option Error
  | .ok _ => none
  | .error e => some e

/-- Is the source blank or refused, so that the pattern is malformed? Other sources without code end
the compilation with an error of whoever reads them. -/
def isMalformed : SegmentError → Bool
  | .empty | .unreadable | .illegal => true
  | .irregular _ | .nullCharacter => false

/-- The outcome is a fault of a kind, at an offset. -/
def IsFault {α : Type} (result : Except Stop α) (kind : String) (offset : Nat) : Prop :=
  ∃ fault origin frames,
    result = .error (.raised { problem := .fault fault origin, frames := frames }) ∧
      fault.cause.kind = kind ∧ fault.offset = some ↑offset

/-- The outcome is an error that is no fault of the library. -/
def IsForeign {α : Type} (result : Except Stop α) : Prop :=
  ∃ errorClass arguments frames,
    result = .error (.raised { problem := .plain errorClass arguments none, frames := frames })

/-! ### Pairs behind a beginning -/

theorem pairs_map (f : Nat → Nat) (ticks : List Nat) :
    pairs (ticks.map f) = (pairs ticks).map (Prod.map f f) := by
  fun_induction pairs ticks with
  | case1 first second rest ih => simp [pairs, ih]
  | case2 ticks hticks =>
      rcases ticks with _ | ⟨first, _ | ⟨second, rest⟩⟩
      · rfl
      · rfl
      · exact absurd rfl (hticks first second rest)

theorem enclosedBy_pair (text : List Char) (first second : Nat) (ticks : List Nat) :
    enclosedBy text ([first, second] ++ ticks) =
      (if second = first + 1 then [] else [(first + 1, (text.take second).drop (first + 1))]) ++
        enclosedBy text ticks := by
  rw [enclosedBy, enclosedBy, List.cons_append, List.singleton_append, pairs, List.filter_cons]
  by_cases hdoubled : second = first + 1
  · rw [if_pos hdoubled, if_neg (by simpa using hdoubled), List.nil_append]
  · rw [if_neg hdoubled, if_pos (by simpa using hdoubled), List.map_cons, List.singleton_append]

theorem enclosedBy_append (front text : List Char) (ticks : List Nat) :
    enclosedBy (front ++ text) (ticks.map (· + front.length)) =
      (enclosedBy text ticks).map (Prod.map (· + front.length) id) := by
  rw [enclosedBy, enclosedBy, pairs_map, List.filter_map, List.map_map, List.map_map]
  have hapart : ((fun (first, second) => second != first + 1) ∘
      Prod.map (· + front.length) (· + front.length) : Nat × Nat → Bool) =
        fun (first, second) => second != first + 1 := by
    funext ⟨first, second⟩
    simp only [Function.comp_apply, Prod.map_apply]
    rw [Bool.eq_iff_iff, bne_iff_ne, bne_iff_ne]
    omega
  rw [hapart]
  refine List.map_congr_left fun ⟨first, second⟩ _ => ?_
  have hfirst : first + front.length + 1 = front.length + (first + 1) := by omega
  simp only [Function.comp_apply, Prod.map_apply, id_eq, Prod.mk.injEq]
  refine ⟨by omega, ?_⟩
  rw [hfirst, Nat.add_comm second, List.take_length_add_append, List.drop_length_add_append]

theorem idxsOf_behind (front rest : List Char) :
    (front ++ rest).idxsOf delimiter =
      front.idxsOf delimiter ++ (rest.idxsOf delimiter).map (· + front.length) := by
  rw [List.idxsOf_append, Nat.zero_add, List.idxsOf_start (s := front.length)]

theorem idxsOf_of_not_mem {source : List Char} (h : delimiter ∉ source) {start : Nat} :
    source.idxsOf delimiter start = [] := by
  rw [List.idxsOf_eq_nil_iff]
  intro c hc
  rw [beq_eq_false_iff_ne]
  rintro rfl
  exact h hc

theorem sources_plain {c : Char} (hc : c ≠ delimiter) (rest : List Char) :
    sources ([c] ++ rest) = (sources rest).map (Prod.map (· + 1) id) := by
  have hfront : [c].idxsOf delimiter = [] := idxsOf_of_not_mem (by simpa using hc.symm)
  rw [sources, idxsOf_behind, hfront, List.nil_append, enclosedBy_append]
  rfl

theorem sources_doubled (rest : List Char) :
    sources ([delimiter, delimiter] ++ rest) = (sources rest).map (Prod.map (· + 2) id) := by
  have hfront : [delimiter, delimiter].idxsOf delimiter = [0, 1] := rfl
  rw [sources, idxsOf_behind, hfront, enclosedBy_pair, if_pos rfl, List.nil_append,
    enclosedBy_append]
  rfl

theorem sources_enclosed {source : List Char} (hne : source ≠ []) (hdelimiter : delimiter ∉ source)
    (after : List Char) :
    sources (delimiter :: source ++ [delimiter] ++ after) =
      [(1, source)] ++ (sources after).map
        (Prod.map (· + (delimiter :: source ++ [delimiter]).length) id) := by
  have hfront : (delimiter :: source ++ [delimiter]).idxsOf delimiter =
      [0, source.length + 1] := by
    rw [List.cons_append, List.idxsOf_cons, if_pos (beq_self_eq_true _), List.idxsOf_append,
      idxsOf_of_not_mem hdelimiter]
    simp [Nat.add_comm]
  have hapart : ¬ source.length + 1 = 0 + 1 := by
    simpa using hne
  have hsource :
      ((delimiter :: source ++ [delimiter] ++ after).take (source.length + 1)).drop (0 + 1) =
        source := by
    simp
  rw [sources, idxsOf_behind, hfront, enclosedBy_pair, if_neg hapart, hsource, enclosedBy_append]
  rfl

/-! ### What is wrong behind a beginning -/

theorem unpaired?_append {front : List Char} (hfront : front.count delimiter % 2 = 0)
    (rest : List Char) :
    unpaired? (front ++ rest) = (unpaired? rest).map (front.length + ·) := by
  have hparity : ((front ++ rest).count delimiter % 2 = 1) = (rest.count delimiter % 2 = 1) := by
    rw [List.count_append, eq_iff_iff]
    omega
  rw [unpaired?, unpaired?]
  simp only [hparity]
  split
  · rename_i hodd
    have hne : rest.idxsOf delimiter ≠ [] := by
      intro hnil
      have hlength := congrArg List.length hnil
      rw [List.length_idxsOf] at hlength
      simp [hlength] at hodd
    rw [idxsOf_behind, List.getLast?_append_of_ne_nil _ (by simpa using hne), List.getLast?_map]
    simp only [Nat.add_comm]
  · rfl

theorem refusal?_moved (n : Nat) (source : Nat × List Char) :
    refusal? (Prod.map (· + n) id source) = (refusal? source).map (Prod.map (n + ·) id) := by
  obtain ⟨offset, source⟩ := source
  rw [refusal?, Prod.map_apply, refusal?, id_eq]
  cases Code.ofSource source with
  | error why => simp [Nat.add_comm]
  | ok code => rfl

/-- What is wrong behind sources that have code is what is wrong with the rest alone. -/
theorem wrong?_append {front rest : List Char} (closed : List (Nat × List Char))
    (hfront : front.count delimiter % 2 = 0)
    (hsources : sources (front ++ rest) =
      closed ++ (sources rest).map (Prod.map (· + front.length) id)) :
    wrong? (front ++ rest) =
      match closed.findSome? refusal? with
      | some (offset, why) => some (.segment offset why)
      | none => (wrong? rest).map (Error.moved front.length) := by
  have hmoved : ((sources rest).map (Prod.map (· + front.length) id)).findSome? refusal? =
      (firstRefusal? rest).map (Prod.map (front.length + ·) id) := by
    rw [List.findSome?_map, firstRefusal?, List.map_findSome?]
    congr 1
    funext source
    exact refusal?_moved _ _
  rw [wrong?, wrong?, firstRefusal?, hsources, List.findSome?_append, hmoved,
    unpaired?_append hfront]
  cases closed.findSome? refusal? with
  | some refused => rfl
  | none =>
      cases firstRefusal? rest with
      | some refused => rfl
      | none => cases unpaired? rest <;> rfl

theorem wrong?_unpaired {rest : List Char} (hdelimiter : delimiter ∉ rest) :
    wrong? (delimiter :: rest) = some (.unterminated 0) := by
  have hticks : (delimiter :: rest).idxsOf delimiter = [0] := by
    rw [List.idxsOf_cons, if_pos (beq_self_eq_true _), idxsOf_of_not_mem hdelimiter]
  have hcount : (delimiter :: rest).count delimiter = 1 := by
    rw [List.count_cons_self, List.count_eq_zero.mpr hdelimiter]
  rw [wrong?, firstRefusal?, sources, unpaired?, hticks, hcount]
  rfl

/-! ### What is found wrong -/

theorem failure?_map (f : List Segment → List Segment) (found : Except Error (List Segment)) :
    failure? (found.map f) = failure? found := by
  cases found <;> rfl

theorem failure?_add (n : Nat) (pattern : List Char) :
    failure? (segmentsFrom n pattern) =
      (failure? (segmentsFrom 0 pattern)).map (Error.moved n) := by
  have hmoved := segmentsFrom_add n 0 pattern
  rw [Nat.add_zero] at hmoved
  rw [hmoved]
  cases segmentsFrom 0 pattern <;> rfl

/-- What is found wrong from left to right is what is wrong. -/
theorem failure?_segmentsFrom (pattern : List Char) :
    failure? (segmentsFrom 0 pattern) = wrong? pattern := by
  -- each piece has an even number of backticks: what is wrong behind it only moves
  induction reading pattern with
  | finished =>
      rw [segmentsFrom]
      rfl
  | plain hc h ih =>
      rename_i c rest
      have hcount : [c].count delimiter % 2 = 0 := by
        rw [List.count_eq_zero.mpr (by simpa using hc.symm)]
      have hwrong : wrong? ([c] ++ rest) = (wrong? rest).map (Error.moved 1) :=
        wrong?_append [] hcount (sources_plain hc rest)
      rw [segmentsFrom_plain _ _ hc, failure?_map, failure?_add, ih]
      exact hwrong.symm
  | doubled h ih =>
      rename_i rest
      have hwrong : wrong? ([delimiter, delimiter] ++ rest) = (wrong? rest).map (Error.moved 2) :=
        wrong?_append [] rfl (sources_doubled rest)
      rw [segmentsFrom_doubled, failure?_map, failure?_add, ih]
      exact hwrong.symm
  | enclosed hne hdelimiter h ih =>
      rename_i source after
      have hcount : (delimiter :: source ++ [delimiter]).count delimiter % 2 = 0 := by
        rw [List.count_append, List.count_cons_self, List.count_eq_zero.mpr hdelimiter]
        rfl
      rw [segmentsFrom_enclosed 0 after hne hdelimiter,
        wrong?_append [(1, source)] hcount (sources_enclosed hne hdelimiter after)]
      rw [List.findSome?_singleton, refusal?]
      cases Code.ofSource source with
      | error why => rfl
      | ok code =>
          simp only
          rw [failure?_map, failure?_add, ih, Nat.zero_add]
          simp
  | unpaired hdelimiter =>
      rw [segmentsFrom_unpaired _ hdelimiter, wrong?_unpaired hdelimiter]
      rfl

theorem failure?_eq_some_iff {found : Except Error (List Segment)} {e : Error} :
    failure? found = some e ↔ found = .error e := by
  cases found <;> simp [failure?]

theorem compile_eq_error_iff {pattern : List Char} {e : Error} :
    compile pattern = .error e ↔ wrong? pattern = some e := by
  rw [← failure?_segmentsFrom, failure?_eq_some_iff, compile]
  cases segmentsFrom 0 pattern <;> simp [Except.map]

theorem exists_compile_iff {pattern : List Char} :
    (∃ t, compile pattern = .ok t) ↔ wrong? pattern = none := by
  rw [Option.eq_none_iff_forall_ne_some]
  simp only [Ne, ← compile_eq_error_iff]
  cases compile pattern <;> simp

/-! ### What is raised -/

section

variable {α : Type} {kind : String} {offset : Nat}

theorem isFault_fault {fault : Fault} {origin : Provenance} {frames : List Frame} :
    IsFault (.error (.raised { problem := .fault fault origin, frames := frames }) :
      Except Stop α) kind offset ↔ fault.cause.kind = kind ∧ fault.offset = some ↑offset := by
  simp [IsFault]

theorem not_isFault_ok {a : α} : ¬ IsFault (.ok a) kind offset := by
  simp [IsFault]

theorem not_isForeign_fault {fault : Fault} {origin : Provenance} {frames : List Frame} :
    ¬ IsForeign (.error (.raised { problem := .fault fault origin, frames := frames }) :
      Except Stop α) := by
  simp [IsForeign]

theorem not_isForeign_ok {a : α} : ¬ IsForeign (.ok a) := by
  simp [IsForeign]

theorem IsForeign.not_isFault {result : Except Stop α} (h : IsForeign result) :
    ¬ IsFault result kind offset := by
  obtain ⟨errorClass, arguments, frames, rfl⟩ := h
  simp [IsFault]

theorem IsForeign.ne_ok {result : Except Stop α} (h : IsForeign result) (a : α) :
    result ≠ .ok a := by
  obtain ⟨errorClass, arguments, frames, rfl⟩ := h
  simp

end

section

variable {pattern : List Char} (w : World)

theorem compilePattern_of_ok {t : Template} (h : compile pattern = .ok t) :
    (runFrom w (compilePattern pattern)).1 = .ok t := by
  rw [compilePattern, h]
  rfl

theorem compilePattern_of_fault {e : Error} {fault : Fault} (h : compile pattern = .error e)
    (hfault : e.fault? = some fault) :
    (runFrom w (compilePattern pattern)).1 =
      .error (.raised { problem := .fault fault {}, frames := [.host] }) := by
  rw [compilePattern, h]
  simp only [hfault]
  rfl

theorem isForeign_compilePattern {offset : Nat} {why : SegmentError}
    (h : compile pattern = .error (.segment offset why)) (hwhy : isMalformed why = false) :
    IsForeign (runFrom w (compilePattern pattern)).1 := by
  rw [compilePattern, h]
  cases why with
  | irregular message => exact ⟨_, _, _, rfl⟩
  | nullCharacter => exact ⟨_, _, _, rfl⟩
  | empty | unreadable | illegal => simp [isMalformed] at hwhy

theorem exists_fault_of_malformed (offset : Nat) {why : SegmentError} (h : isMalformed why = true) :
    ∃ message, (Error.segment offset why).fault? =
      some { cause := .malformedTemplate message, offset := some ↑offset } := by
  cases why with
  | empty | unreadable | illegal => exact ⟨_, rfl⟩
  | irregular message => simp [isMalformed] at h
  | nullCharacter => simp [isMalformed] at h

/-- A pattern is malformed exactly where its leftmost source without code is blank or refused, it is
unterminated exactly at its last backtick if all sources have code and the number of backticks is
odd, and it is compiled exactly if all sources have code and the number is even. What is left are
patterns whose leftmost source without code makes its reader fail. -/
theorem compilePattern_tells_ticks (pattern : List Char) (w : World) :
    let result := (runFrom w (compilePattern pattern)).1
    (∀ offset, IsFault result "TemplateSyntaxError" offset ↔
      ∃ why, firstRefusal? pattern = some (offset, why) ∧ isMalformed why = true) ∧
    (∀ offset, IsFault result "UnterminatedExpression" offset ↔
      firstRefusal? pattern = none ∧ unpaired? pattern = some offset) ∧
    ((∃ t, result = .ok t) ↔ firstRefusal? pattern = none ∧ unpaired? pattern = none) ∧
    (IsForeign result ↔
      ∃ offset why, firstRefusal? pattern = some (offset, why) ∧ isMalformed why = false) := by
  intro result
  rcases hrefusal : firstRefusal? pattern with _ | ⟨offset, why⟩
  · rcases hunpaired : unpaired? pattern with _ | offset
    · obtain ⟨t, ht⟩ := exists_compile_iff.mpr (by rw [wrong?, hrefusal, hunpaired]; rfl)
      have hresult : result = .ok t := compilePattern_of_ok w ht
      simp [hresult, not_isFault_ok, not_isForeign_ok]
    · have herror : compile pattern = .error (.unterminated offset) := by
        rw [compile_eq_error_iff, wrong?, hrefusal, hunpaired]
        rfl
      have hresult := compilePattern_of_fault w herror rfl
      change result = _ at hresult
      have hoffset (other : Nat) : (offset : Int) = other ↔ offset = other := Int.natCast_inj
      simp [hresult, isFault_fault, not_isForeign_fault, Cause.kind, hoffset]
  · have herror : compile pattern = .error (.segment offset why) := by
      rw [compile_eq_error_iff, wrong?, hrefusal]
    cases hwhy : isMalformed why with
    | true =>
        obtain ⟨message, hfault⟩ := exists_fault_of_malformed offset hwhy
        have hresult := compilePattern_of_fault w herror hfault
        change result = _ at hresult
        have hoffset (other : Nat) : (offset : Int) = other ↔ offset = other := Int.natCast_inj
        simp [hresult, isFault_fault, not_isForeign_fault, Cause.kind, hwhy, hoffset]
    | false =>
        have hforeign : IsForeign result := isForeign_compilePattern w herror hwhy
        simp [hforeign, hforeign.not_isFault, hforeign.ne_ok, hwhy]

/-- The first source is a word too close to a star, which its reader refuses with an error of its
own, so that neither the blank source nor the backtick without a partner is what is wrong. -/
example : firstRefusal? "\x60return*a\x60, \x60 \x60, \x60".toList =
    some (1, .irregular "Must have at least one space after 'return'.") := by decide +kernel

end

end Codeweave.Template
