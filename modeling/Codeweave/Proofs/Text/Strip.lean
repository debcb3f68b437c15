import Codeweave.Text.Blank
import Codeweave.Proofs.Text.Lines
import Mathlib.Data.List.DropRight

/-!
Blanks at the ends of a text. Blanks put around a text do not show once it is stripped, and every
boundary between lines is blank, so a line is recognised whatever margin and terminator it has.
-/

namespace Codeweave.Text

theorem isBlank_of_isBoundary {c : Char} (h : isBoundary c = true) : isBlank c = true := by
  simp only [isBoundary, Bool.or_eq_true, beq_iff_eq] at h
  rcases h with ((((((((rfl | rfl) | rfl) | rfl) | rfl) | rfl) | rfl) | rfl) | rfl) | rfl <;> rfl

theorem IsTerminator.isBlank {t : List Char} (h : IsTerminator t) :
    ∀ c ∈ t, isBlank c = true := by
  rcases h with rfl | ⟨c, hc, rfl⟩
  · exact List.all_eq_true.mp rfl
  · simpa using isBlank_of_isBoundary hc

theorem trimRight_append_of_all {p : Char → Bool} {tail : List Char}
    (h : ∀ c ∈ tail, p c = true) (text : List Char) :
    trimRight p (text ++ tail) = trimRight p text := by
  have hreverse : ∀ c ∈ tail.reverse, p c = true := by simpa using h
  rw [trimRight, List.reverse_append, List.dropWhile_append_of_pos hreverse, trimRight]

theorem trimRight_eq_self {p : Char → Bool} {text : List Char}
    (h : ∀ c ∈ text, p c = false) : trimRight p text = text :=
  List.rdropWhile_eq_self_iff.mpr fun hne => by simp [h _ (List.getLast_mem hne)]

theorem trimRight_append {p : Char → Bool} {text : List Char} (h : trimRight p text ≠ [])
    (before : List Char) : trimRight p (before ++ text) = before ++ trimRight p text := by
  rw [trimRight, List.reverse_append, List.dropWhile_append, if_neg, List.reverse_append,
    List.reverse_reverse, trimRight]
  simpa [trimRight] using h

theorem strip_append_left {lead : List Char} (h : ∀ c ∈ lead, isBlank c = true)
    (text : List Char) : strip (lead ++ text) = strip text := by
  rw [strip, trim, trimLeft, List.dropWhile_append_of_pos h]
  rfl

theorem strip_append_right {tail : List Char} (h : ∀ c ∈ tail, isBlank c = true)
    (text : List Char) : strip (text ++ tail) = strip text := by
  rw [strip, trim, trimLeft, List.dropWhile_append]
  split
  · rename_i hempty
    have hnil : text.dropWhile isBlank = [] := by simpa using hempty
    have htail : tail.dropWhile isBlank = [] := List.dropWhile_eq_nil_iff.mpr h
    rw [htail, strip, trim, trimLeft, hnil]
  · rw [trimRight_append_of_all h]
    rfl

/-- Blanks around a text do not count. -/
theorem strip_between {lead tail : List Char} (hlead : ∀ c ∈ lead, isBlank c = true)
    (htail : ∀ c ∈ tail, isBlank c = true) (text : List Char) :
    strip (lead ++ text ++ tail) = strip text := by
  rw [strip_append_right htail, strip_append_left hlead]

theorem strip_eq_nil_of_all {text : List Char} (h : ∀ c ∈ text, isBlank c = true) :
    strip text = [] := by
  rw [strip, trim, trimLeft, List.dropWhile_eq_nil_iff.mpr h]
  rfl

theorem isBlank_of_strip_eq_nil {text : List Char} (h : strip text = []) :
    ∀ c ∈ text, isBlank c = true := by
  intro c hc
  rw [← List.takeWhile_append_dropWhile (p := isBlank) (l := text)] at hc
  rcases List.mem_append.mp hc with hc | hc
  · exact List.mem_takeWhile_imp hc
  · exact List.rdropWhile_eq_nil_iff.mp h c hc

theorem strip_eq_self {text : List Char} (hhead : ∀ c ∈ text.head?, isBlank c = false)
    (hlast : ∀ c ∈ text.getLast?, isBlank c = false) : strip text = text := by
  have hleft : text.dropWhile isBlank = text := by
    cases text with
    | nil => rfl
    | cons c text => rw [List.dropWhile_cons_of_neg (by simp [hhead c (by simp)])]
  rw [strip, trim, trimLeft, hleft]
  refine List.rdropWhile_eq_self_iff.mpr ?_
  intro hne
  simp [hlast _ (List.getLast?_eq_some_getLast hne)]

/-- A text that starts and ends with something else than blanks keeps what is between. -/
theorem strip_append_of_strip_ne_nil {before text : List Char} (hne : before ≠ [])
    (hhead : ∀ c ∈ before.head?, isBlank c = false) (htext : strip text ≠ []) :
    strip (before ++ text) = before ++ trimRight isBlank text := by
  have hright : trimRight isBlank text ≠ [] := by
    intro hnil
    refine htext (strip_eq_nil_of_all ?_)
    exact List.rdropWhile_eq_nil_iff.mp hnil
  obtain ⟨c, before, rfl⟩ := List.exists_cons_of_ne_nil hne
  rw [strip, trim, trimLeft, List.cons_append,
    List.dropWhile_cons_of_neg (by simp [hhead c (by simp)]), ← List.cons_append,
    trimRight_append hright]

theorem isBlank_of_mem_margin {text : List Char} {c : Char} (h : c ∈ margin text) :
    isBlank c = true :=
  List.mem_takeWhile_imp h

/-- The margin of a line that is not blank lies before the end of the line. -/
theorem IsLine.not_boundary_of_mem_margin {l : List Char} (hline : IsLine l)
    (hblank : strip l ≠ []) : ∀ c ∈ margin l, isBoundary c = false := by
  rcases hline.cases with hall | ⟨before, t, rfl, hbefore, ht⟩
  · intro c hc
    exact hall c (List.takeWhile_subset isBlank hc)
  · intro c hc
    apply hbefore c
    rw [margin, List.takeWhile_append] at hc
    split at hc
    · rename_i hlength
      have hself : before.takeWhile isBlank = before :=
        (List.takeWhile_prefix isBlank).eq_of_length hlength
      refine absurd (strip_eq_nil_of_all ?_) hblank
      intro x hx
      rcases List.mem_append.mp hx with hx | hx
      · exact List.takeWhile_eq_self_iff.mp hself x hx
      · exact ht.isBlank x hx
    · exact List.takeWhile_subset isBlank hc

end Codeweave.Text
