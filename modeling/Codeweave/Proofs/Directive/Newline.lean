import Codeweave.Proofs.Directive.RenewedLines

/-!
The line ending of a source. A carriage return with its newline lies within one line, so whether a
source has one can be asked line by line. Regeneration writes the line ending that the source has,
and therefore keeps it.
-/

namespace Codeweave.Directive

open Text (isBlank isBoundary IsLine Lined Breaks lined_cons_iff)

/-! ### Carriage returns before newlines -/

theorem hasReturnNewline_cons (c : Char) (rest : List Char) :
    hasReturnNewline (c :: rest) =
      (c == '\r' && rest.head? == some '\n' || hasReturnNewline rest) := by
  rw [hasReturnNewline.eq_def]
  split
  · rename_i heq
    obtain ⟨rfl, rfl⟩ := List.cons.inj heq
    rfl
  · rename_i hpair heq
    obtain ⟨rfl, rfl⟩ := List.cons.inj heq
    have hapart : ¬ (c = '\r' ∧ rest.head? = some '\n') := by
      rintro ⟨hc, hhead⟩
      obtain ⟨more, hmore⟩ := List.head?_eq_some_iff.mp hhead
      exact hpair more hc hmore
    have hfalse : (c == '\r' && rest.head? == some '\n') = false := by simpa using hapart
    rw [hfalse, Bool.false_or]
  · rename_i heq
    simp at heq

theorem hasReturnNewline_append {a b : List Char} (h : Breaks a b) :
    hasReturnNewline (a ++ b) = (hasReturnNewline a || hasReturnNewline b) := by
  induction a with
  | nil => rfl
  | cons c a ih =>
      rw [List.cons_append, hasReturnNewline_cons, hasReturnNewline_cons]
      cases a with
      | nil =>
          have hapart : ¬ (c = '\r' ∧ b.head? = some '\n') := by
            rintro ⟨rfl, hhead⟩
            exact absurd (h '\r' rfl '\n' hhead) (by decide)
          have hfalse : (c == '\r' && b.head? == some '\n') = false := by simpa using hapart
          simp [hfalse, hasReturnNewline]
      | cons d a =>
          rw [ih h.of_cons, List.cons_append, List.head?_cons, List.head?_cons, Bool.or_assoc]

theorem hasReturnNewline_flatten {ls : List Line} (h : Lined ls) :
    hasReturnNewline ls.flatten = ls.any hasReturnNewline := by
  induction ls with
  | nil => rfl
  | cons l ls ih =>
      obtain ⟨-, hrest, hbreak⟩ := lined_cons_iff.mp h
      rw [List.flatten_cons, hasReturnNewline_append hbreak, ih hrest, List.any_cons]

theorem hasReturnNewline_append_of_not_boundary {text : List Char}
    (h : ∀ c ∈ text, isBoundary c = false) (rest : List Char) :
    hasReturnNewline (text ++ rest) = hasReturnNewline rest := by
  induction text with
  | nil => rfl
  | cons c text ih =>
      have hc : c ≠ '\r' := by
        rintro rfl
        exact absurd (h '\r' (List.mem_cons_self ..)) (by decide)
      rw [List.cons_append, hasReturnNewline_cons, beq_eq_false_iff_ne.mpr hc, Bool.false_and,
        Bool.false_or, ih fun d hd => h d (List.mem_cons_of_mem _ hd)]

/-! ### Regenerated sources -/

theorem any_regionLines {margin : List Char}
    (hmargin : ∀ c ∈ margin, isBoundary c = false) (newline artifact : List Char) :
    (regionLines margin newline artifact).any hasReturnNewline = hasReturnNewline newline := by
  have hall : ∀ l ∈ regionLines margin newline artifact,
      hasReturnNewline l = hasReturnNewline newline := by
    intro l hl
    rcases mem_regionLines hl with rfl | ⟨body, hbody, rfl⟩
    · rfl
    · rw [List.append_assoc, hasReturnNewline_append_of_not_boundary hmargin,
        hasReturnNewline_append_of_not_boundary (Text.not_boundary_of_mem_bodies hbody)]
  have hmem : newline ∈ regionLines margin newline artifact := by simp [regionLines]
  cases hnewline : hasReturnNewline newline with
  | true => exact List.any_eq_true.mpr ⟨newline, hmem, hnewline⟩
  | false =>
      rw [List.any_eq_false]
      intro l hl
      rw [hall l hl, hnewline]
      simp

section

variable {config : Config} {newline : List Char} {w : Written} {artifact : Option (List Char)}
  (hmargin : ∀ c ∈ Text.margin w.opener, isBoundary c = false)

include hmargin

theorem hasReturnNewline_renewed_closer (hline : IsLine w.closer)
    (hplain : w.recounted config = true ∨ w.framed artifact = true → EndsPlainly w.closer)
    (h : hasReturnNewline w.closer = hasReturnNewline newline) :
    hasReturnNewline (w.renewed config newline artifact).closer = hasReturnNewline newline := by
  by_cases hedited : w.recounted config = true ∨ w.framed artifact = true
  · have hbody := not_boundary_of_mem_closerBody hline hmargin config (hplain hedited)
    rw [renewed_closer, hasReturnNewline_append_of_not_boundary hbody]
    rcases closerTail_cases hline (hplain hedited) newline artifact with
      ⟨hall, htail⟩ | ⟨-, before, hcloser, hbefore⟩
    · have hnone := hasReturnNewline_append_of_not_boundary hall []
      rw [List.append_nil, h] at hnone
      rw [htail]
      split
      · rfl
      · exact hnone.symm
    · rw [← h, hcloser, hasReturnNewline_append_of_not_boundary hbefore]
  · simp only [not_or, Bool.not_eq_true] at hedited
    rw [renewed_closer_of_not hedited.1, hedited.2]
    simpa using h

theorem any_regionWith (hnewline : IsNewline newline) (text : List Char)
    (hfirst : ∀ r ∈ w.region, r.first.getLast? ≠ some '\r')
    (h : ((w.region.map Region.lines).getD []).any hasReturnNewline = hasReturnNewline newline) :
    (w.regionWith newline text).lines.any hasReturnNewline = hasReturnNewline newline := by
  have hbody := any_regionLines hmargin newline text
  rw [← lines_regionText hnewline hmargin] at hbody
  cases hregion : w.region with
  | none =>
      have hlead : ∀ sentinel : List Char, (∀ c ∈ sentinel, isBoundary c = false) →
          hasReturnNewline (Text.margin w.opener ++ sentinel ++ newline) =
            hasReturnNewline newline := by
        intro sentinel hsentinel
        rw [List.append_assoc, hasReturnNewline_append_of_not_boundary hmargin,
          hasReturnNewline_append_of_not_boundary hsentinel]
      rw [regionWith_none hregion, Region.lines, newRegion, List.any_append, List.any_cons,
        List.any_cons, List.any_nil, hbody, hlead _ not_boundary_of_mem_beginSentinel,
        hlead _ not_boundary_of_mem_endSentinel]
      simp
  | some r =>
      rw [hregion, Option.map_some, Option.getD_some, Region.lines, List.any_append,
        List.any_cons, List.any_cons, List.any_nil] at h
      rw [regionWith_some hregion, Region.renewed, if_neg (fun hfuses => hfirst r hregion hfuses.1),
        Region.lines, List.any_append, List.any_cons, List.any_cons, List.any_nil, hbody]
      cases hnew : hasReturnNewline newline with
      | true => simp
      | false =>
          rw [hnew] at h
          simp_all

end

/-- Where each of two parts takes up what is asked for, the two together do. -/
theorem or_eq_of_imp {a b a' b' x : Bool} (ha : a = x → a' = x) (hb : b = x → b' = x)
    (h : (a || b) = x) : (a' || b') = x := by
  cases x with
  | true =>
      rw [Bool.or_eq_true] at h ⊢
      exact h.imp ha hb
  | false =>
      rw [Bool.or_eq_false_iff] at h ⊢
      exact h.imp ha hb

theorem any_renewed {config : Config} {newline : List Char} (hnewline : IsNewline newline)
    {w : Written} {artifact : Option (List Char)} (hwell : w.WellFormed)
    (hline : ∀ l ∈ w.lines, IsLine l)
    (hplain : w.recounted config = true ∨ w.framed artifact = true → EndsPlainly w.closer)
    (hfirst : ∀ r ∈ w.region, r.first.getLast? ≠ some '\r')
    (h : w.lines.any hasReturnNewline = hasReturnNewline newline) :
    (w.renewed config newline artifact).lines.any hasReturnNewline =
      hasReturnNewline newline := by
  have hcloser : IsLine w.closer := hline _ (by simp [Written.lines])
  have hmargin := hwell.not_boundary_of_mem_margin (hline _ (by simp [Written.lines]))
  rw [Written.lines_eq, List.any_append, List.any_append] at h ⊢
  refine or_eq_of_imp (or_eq_of_imp id ?_) ?_ h
  · simpa using hasReturnNewline_renewed_closer hmargin hcloser hplain
  · intro hregion
    cases artifact with
    | none => exact hregion
    | some text => exact any_regionWith hmargin hnewline text hfirst hregion

theorem any_renew {config : Config} {newline : List Char} (hnewline : IsNewline newline)
    {ps : List Passage} {artifacts : List (Option (List Char))} (houtlined : Outlined ps)
    (hline : ∀ l ∈ linesOf ps, IsLine l)
    (hplain : List.Forall₂ (fun w artifact =>
      w.recounted config = true ∨ w.framed artifact = true → EndsPlainly w.closer)
        (writtenOf ps) artifacts)
    (hfirst : ∀ w ∈ writtenOf ps, ∀ r ∈ w.region, r.first.getLast? ≠ some '\r')
    (h : (linesOf ps).any hasReturnNewline = hasReturnNewline newline) :
    (linesOf (renew config newline ps artifacts)).any hasReturnNewline =
      hasReturnNewline newline := by
  induction ps generalizing artifacts with
  | nil => exact h
  | cons p ps ih =>
      cases p with
      | plain l =>
          rw [linesOf_plain, List.any_cons] at h
          rw [renew, linesOf_plain, List.any_cons]
          exact or_eq_of_imp id (ih houtlined.2
            (fun m hm => hline m (List.mem_cons_of_mem _ hm)) hplain hfirst) h
      | directive w =>
          obtain ⟨artifact, artifacts, hw, htail, rfl⟩ := List.forall₂_cons_left_iff.mp hplain
          simp only [writtenOf, List.forall_mem_cons] at hfirst
          simp only [linesOf_directive, List.forall_mem_append] at hline
          rw [linesOf_directive, List.any_append] at h
          rw [renew, linesOf_directive, List.any_append]
          exact or_eq_of_imp (any_renewed hnewline houtlined.1 hline.1 hw hfirst.1)
            (ih houtlined.2.2 hline.2 htail hfirst.2) h

theorem hasReturnNewline_newlineOf (source : List Char) :
    hasReturnNewline (newlineOf source) = hasReturnNewline source := by
  rw [newlineOf]
  split
  · rename_i h
    rw [h]
    rfl
  · rename_i h
    rw [Bool.not_eq_true] at h
    rw [h]
    rfl

end Codeweave.Directive
