import Codeweave.Proofs.Template.Encoding

/-!
How a pattern is read from its start. It is at its end, or starts with a character of literal text,
with a doubled backtick, with a source between two backticks, or with a backtick that has no partner
at all. The segments of a pattern follow from those of what is behind such a beginning, and where a
pattern starts moves its segments and what is wrong with it, and nothing else.
-/

namespace Codeweave

/-- The segment in a pattern that starts so much later. -/
def Segment.moved (n : Nat) : Segment → Segment
  | .literal text => .literal text
  | .code source offset c => .code source (n + offset) c

namespace Template

open Script (Code)

/-- The beginnings of a pattern, one behind another. -/
inductive Reading : List Char → Prop where
  | finished : Reading []
  | plain {c : Char} {rest : List Char} (hc : c ≠ delimiter) (h : Reading rest) :
      Reading (c :: rest)
  | doubled {rest : List Char} (h : Reading rest) : Reading (delimiter :: delimiter :: rest)
  | enclosed {source after : List Char} (hne : source ≠ []) (hdelimiter : delimiter ∉ source)
      (h : Reading after) : Reading (delimiter :: source ++ [delimiter] ++ after)
  | unpaired {rest : List Char} (hdelimiter : delimiter ∉ rest) : Reading (delimiter :: rest)

def Error.moved (n : Nat) : Error → Error
  | .unterminated offset => .unterminated (n + offset)
  | .segment offset why => .segment (n + offset) why

def moved (n : Nat) : Except Error (List Segment) → Except Error (List Segment)
  | .ok segments => .ok (segments.map (Segment.moved n))
  | .error e => .error (e.moved n)

/-! ### Beginnings -/

/-- Every pattern can be read. -/
theorem reading (pattern : List Char) : Reading pattern := by
  induction hlength : pattern.length using Nat.strongRecOn generalizing pattern with
  | ind length ih =>
      subst hlength
      cases pattern with
      | nil => exact .finished
      | cons c rest =>
          by_cases hc : c = delimiter
          · subst hc
            by_cases hpartner : delimiter ∈ rest
            -- the next backtick is the partner, unless it is the other half of a doubled one
            · obtain ⟨source, after, rfl, hsource⟩ := List.eq_append_cons_of_mem hpartner
              have hafter : Reading after := ih _ (by simp; omega) after rfl
              by_cases hne : source = []
              · subst hne
                exact .doubled hafter
              · have henclosed := Reading.enclosed hne hsource hafter
                simpa using henclosed
            · exact .unpaired hpartner
          · exact .plain hc (ih _ (by simp) rest rfl)

theorem segmentsFrom_plain (start : Nat) {c : Char} (rest : List Char) (hc : c ≠ delimiter) :
    segmentsFrom start (c :: rest) = (segmentsFrom (start + 1) rest).map (consLiteral c) := by
  rw [segmentsFrom, if_pos (by simpa using hc)]

theorem segmentsFrom_doubled (start : Nat) (rest : List Char) :
    segmentsFrom start (delimiter :: delimiter :: rest) =
      (segmentsFrom (start + 2) rest).map (consLiteral delimiter) :=
  segmentsFrom_encodeChar start delimiter rest

theorem segmentsFrom_unpaired (start : Nat) {rest : List Char} (hdelimiter : delimiter ∉ rest) :
    segmentsFrom start (delimiter :: rest) = .error (.unterminated start) := by
  have hhead : ¬ (rest.head? == some delimiter) = true := by
    rw [beq_iff_eq]
    exact fun hhead => hdelimiter (List.mem_of_head? hhead)
  have hdrop : rest.dropWhile (· != delimiter) = [] := by
    rw [List.dropWhile_eq_nil_iff]
    intro c hc
    rw [bne_iff_ne]
    rintro rfl
    exact hdelimiter hc
  rw [segmentsFrom, if_neg (by simp), if_neg hhead]
  split
  · rfl
  · rename_i hrest
    rw [hdrop] at hrest
    simp at hrest

/-! ### Where a pattern starts -/

theorem moved_map {n : Nat} {f g : List Segment → List Segment}
    (h : ∀ segments, (f segments).map (Segment.moved n) = g (segments.map (Segment.moved n)))
    (found : Except Error (List Segment)) : moved n (found.map f) = (moved n found).map g := by
  cases found with
  | ok segments => exact congrArg Except.ok (h segments)
  | error e => rfl

theorem map_moved_consLiteral (n : Nat) (c : Char) (segments : List Segment) :
    (consLiteral c segments).map (Segment.moved n) =
      consLiteral c (segments.map (Segment.moved n)) := by
  rcases segments with _ | ⟨⟨text⟩ | ⟨source, offset, code⟩, segments⟩ <;>
    simp [consLiteral, Segment.moved]

theorem segmentsFrom_add (n start : Nat) (pattern : List Char) :
    segmentsFrom (n + start) pattern = moved n (segmentsFrom start pattern) := by
  induction reading pattern generalizing start with
  | finished => rw [segmentsFrom, segmentsFrom]; rfl
  | plain hc h ih =>
      rw [segmentsFrom_plain _ _ hc, segmentsFrom_plain _ _ hc, Nat.add_assoc, ih,
        moved_map (map_moved_consLiteral n _)]
  | doubled h ih =>
      rw [segmentsFrom_doubled, segmentsFrom_doubled, Nat.add_assoc, ih,
        moved_map (map_moved_consLiteral n _)]
  | enclosed hne hdelimiter h ih =>
      rename_i source after
      rw [segmentsFrom_enclosed _ _ hne hdelimiter, segmentsFrom_enclosed _ _ hne hdelimiter]
      cases Code.ofSource source with
      | error why => rfl
      | ok code =>
          simp only
          rw [Nat.add_assoc n, Nat.add_assoc n, Nat.add_assoc n, ih]
          exact (moved_map (f := (.code source (start + 1) code :: ·)) (fun _ => rfl) _).symm
  | unpaired hdelimiter =>
      rw [segmentsFrom_unpaired _ hdelimiter, segmentsFrom_unpaired _ hdelimiter]
      rfl

end Template

end Codeweave
