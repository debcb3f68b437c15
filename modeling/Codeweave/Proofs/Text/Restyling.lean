import Codeweave.Text.Dedent
import Codeweave.Proofs.Text.Strip

/-!
Texts in another style. All lines of a text can be put behind a margin, and all its newlines can
become other line endings. Both are the same change of each line by itself, and they keep the lines
apart that the text has, as long as newlines are its only line boundaries.
-/

namespace Codeweave.Text

/-- Newlines are the only line boundaries of the text. -/
def NewlineOnly (text : List Char) : Prop :=
  ∀ c ∈ text, isBoundary c = true → c = '\n'

instance (text : List Char) : Decidable (NewlineOnly text) :=
  List.decidableBAll (fun c => isBoundary c = true → c = '\n') text

/-- A row behind a lead. An empty row gets none. -/
def behind (lead row : List Char) : List Char :=
  if row.isEmpty then [] else lead ++ row

/-- A line behind a lead, with another line ending in place of its newline. -/
def restyleLine (lead newline line : List Char) : List Char :=
  behind lead (body line) ++ if line.getLast? = some '\n' then newline else []

def restyled (lead newline text : List Char) : List Char :=
  (lines text).flatMap (restyleLine lead newline)

/-- The text with a margin before each line that is not empty. -/
def indented (margin text : List Char) : List Char :=
  (lines text).flatMap fun line => if (body line).isEmpty then line else margin ++ line

/-- The text with a carriage return before each newline. -/
def withReturns (text : List Char) : List Char :=
  text.flatMap fun c => if c = '\n' then ['\r', '\n'] else [c]

/-! ### Lines that end in newlines -/

theorem NewlineOnly.append {a b : List Char} (ha : NewlineOnly a) (hb : NewlineOnly b) :
    NewlineOnly (a ++ b) := by
  intro c hc
  rcases List.mem_append.mp hc with hc | hc
  · exact ha c hc
  · exact hb c hc

theorem newlineOnly_flatten_iff {ls : List (List Char)} :
    NewlineOnly ls.flatten ↔ ∀ l ∈ ls, NewlineOnly l := by
  simp only [NewlineOnly, List.mem_flatten]
  constructor
  · intro h l hl c hc
    exact h c ⟨l, hl, hc⟩
  · rintro h c ⟨l, hl, hc⟩
    exact h l hl c hc

theorem newlineOnly_of_not_boundary {text : List Char} (h : ∀ c ∈ text, isBoundary c = false) :
    NewlineOnly text := by
  intro c hc hboundary
  rw [h c hc] at hboundary
  simp at hboundary

theorem NewlineOnly.of_mem_lines {text l : List Char} (h : NewlineOnly text)
    (hl : l ∈ lines text) : NewlineOnly l :=
  newlineOnly_flatten_iff.mp (by rwa [flatten_lines]) l hl

theorem IsLine.newlineOnly_cases {l : List Char} (hline : IsLine l) (h : NewlineOnly l) :
    ∃ row, (∀ c ∈ row, isBoundary c = false) ∧ (l = row ++ ['\n'] ∨ l = row ∧ row ≠ []) := by
  rcases hline.cases with hall | ⟨row, t, rfl, hrow, ht⟩
  · exact ⟨l, hall, Or.inr ⟨rfl, hline.ne_nil⟩⟩
  · refine ⟨row, hrow, Or.inl ?_⟩
    rcases ht with rfl | ⟨c, hc, rfl⟩
    · exact absurd (h '\r' (by simp) rfl) (by decide)
    · rw [h c (by simp) hc]

/-- A line without other boundaries ends in a newline if a line ends where the next text starts. -/
theorem IsLine.exists_row {l after : List Char} (hline : IsLine l) (h : NewlineOnly l)
    (hbreak : Breaks l after) (hafter : after ≠ []) :
    ∃ row, (∀ c ∈ row, isBoundary c = false) ∧ l = row ++ ['\n'] := by
  obtain ⟨row, hrow, hl | ⟨rfl, hne⟩⟩ := hline.newlineOnly_cases h
  · exact ⟨row, hrow, hl⟩
  · have hboundary := hbreak.isBoundary hafter _ (List.getLast?_eq_some_getLast hne)
    rw [hrow _ (List.getLast_mem hne)] at hboundary
    simp at hboundary

theorem body_append_newline {row : List Char} (h : ∀ c ∈ row, isBoundary c = false) :
    body (row ++ ['\n']) = row := by
  rw [body, List.takeWhile_append_of_pos (by simpa using h)]
  simp [isBoundary]

theorem body_eq_self {row : List Char} (h : ∀ c ∈ row, isBoundary c = false) : body row = row :=
  List.takeWhile_eq_self_iff.mpr (by simpa using h)

theorem getLast?_ne_newline {row : List Char} (h : ∀ c ∈ row, isBoundary c = false) :
    row.getLast? ≠ some '\n' := by
  intro hlast
  exact absurd (h '\n' (List.mem_of_getLast? hlast)) (by decide)

theorem behind_of_ne_nil {row : List Char} (h : row ≠ []) (lead : List Char) :
    behind lead row = lead ++ row := by
  rw [behind, if_neg (by simpa using h)]

@[simp] theorem behind_no_lead (row : List Char) : behind [] row = row := by
  cases row <;> rfl

section

variable {row : List Char} (hrow : ∀ c ∈ row, isBoundary c = false) (lead newline : List Char)

include hrow

theorem restyleLine_append_newline :
    restyleLine lead newline (row ++ ['\n']) = behind lead row ++ newline := by
  rw [restyleLine, body_append_newline hrow]
  simp

theorem restyleLine_eq_behind : restyleLine lead newline row = behind lead row := by
  rw [restyleLine, body_eq_self hrow, if_neg (getLast?_ne_newline hrow), List.append_nil]

theorem restyleLine_whole (hne : row ≠ []) :
    restyleLine lead newline (row ++ ['\n']) = lead ++ row ++ newline := by
  rw [restyleLine_append_newline hrow, behind_of_ne_nil hne]

theorem restyleLine_open (hne : row ≠ []) : restyleLine lead newline row = lead ++ row := by
  rw [restyleLine_eq_behind hrow, behind_of_ne_nil hne]

end

/-! ### Lines of a restyled text -/

/-- A line that another one follows still ends where that one starts. -/
theorem breaks_restyleLine {newline : List Char} (hlast : newline.getLast? = some '\n')
    {l m : List Char} (hline : IsLine l) (h : NewlineOnly l) (hm : m ≠ []) (hbreak : Breaks l m)
    (lead after : List Char) : Breaks (restyleLine lead newline l) after := by
  obtain ⟨row, hrow, rfl⟩ := hline.exists_row h hbreak hm
  rw [restyleLine_append_newline hrow]
  refine breaks_of_newline ?_ after
  rw [List.getLast?_append, hlast, Option.some_or]

section

variable {lead newline : List Char} (hlead : ∀ c ∈ lead, isBoundary c = false)
  (hnewline : IsTerminator newline) (hlast : newline.getLast? = some '\n')

include hlead

theorem not_boundary_of_mem_behind {row : List Char} (h : ∀ c ∈ row, isBoundary c = false) :
    ∀ c ∈ behind lead row, isBoundary c = false := by
  intro c hc
  rw [behind] at hc
  split at hc
  · simp at hc
  · rcases List.mem_append.mp hc with hc | hc
    · exact hlead c hc
    · exact h c hc

include hnewline

theorem isLine_restyleLine {l : List Char} (hline : IsLine l) (h : NewlineOnly l) :
    IsLine (restyleLine lead newline l) := by
  obtain ⟨row, hrow, rfl | ⟨rfl, hne⟩⟩ := hline.newlineOnly_cases h
  · rw [restyleLine_append_newline hrow]
    exact isLine_append_terminator (not_boundary_of_mem_behind hlead hrow) hnewline
  · rw [restyleLine_eq_behind hrow]
    refine isLine_of_not_boundary ?_ (not_boundary_of_mem_behind hlead hrow)
    rw [behind_of_ne_nil hne]
    simp [hne]

include hlast

theorem lined_restyle {ls : List (List Char)} (hlined : Lined ls)
    (h : ∀ l ∈ ls, NewlineOnly l) : Lined (ls.map (restyleLine lead newline)) := by
  induction ls with
  | nil => exact hlined
  | cons l ls ih =>
      obtain ⟨hline, hrest, hbreak⟩ := lined_cons_iff.mp hlined
      rw [List.forall_mem_cons] at h
      rw [List.map_cons, lined_cons_iff]
      refine ⟨isLine_restyleLine hlead hnewline hline h.1, ih hrest h.2, ?_⟩
      cases ls with
      | nil => simp [Breaks]
      | cons m ls =>
          have hm : (m :: ls).flatten ≠ [] := by
            simp [(hrest.isLine m (List.mem_cons_self ..)).ne_nil]
          exact breaks_restyleLine hlast hline h.1 hm hbreak _ _

/-- Restyling changes each line by itself. -/
theorem lines_restyled {text : List Char} (h : NewlineOnly text) :
    lines (restyled lead newline text) = (lines text).map (restyleLine lead newline) := by
  rw [restyled, List.flatMap]
  exact (lined_restyle hlead hnewline hlast (lined_lines text)
    fun l hl => h.of_mem_lines hl).lines_flatten

end

/-- Blanks around a line do not count. -/
theorem strip_restyleLine {lead newline l : List Char} (hlead : ∀ c ∈ lead, isBlank c = true)
    (hnewline : ∀ c ∈ newline, isBlank c = true) (hline : IsLine l) (h : NewlineOnly l) :
    strip (restyleLine lead newline l) = strip l := by
  have hbehind : ∀ row : List Char, strip (behind lead row) = strip row := by
    intro row
    rw [behind]
    split
    · rename_i hempty
      rw [List.isEmpty_iff.mp hempty]
    · exact strip_append_left hlead row
  obtain ⟨row, hrow, rfl | ⟨rfl, -⟩⟩ := hline.newlineOnly_cases h
  · rw [restyleLine_append_newline hrow, strip_append_right hnewline, hbehind,
      strip_append_right (by simp [isBlank, inRanges, blankRanges])]
  · rw [restyleLine_eq_behind hrow, hbehind]

theorem strip_ne_nil_of_append {row tail : List Char} (htail : ∀ c ∈ tail, isBlank c = true)
    (h : strip (row ++ tail) ≠ []) : strip row ≠ [] := by
  rwa [strip_append_right htail] at h

theorem margin_append {row : List Char} (h : strip row ≠ []) (tail : List Char) :
    margin (row ++ tail) = margin row := by
  rw [margin, List.takeWhile_append, if_neg]
  · rfl
  · intro hlength
    have hself := (List.takeWhile_prefix isBlank).eq_of_length hlength
    exact h (strip_eq_nil_of_all (List.takeWhile_eq_self_iff.mp hself))

/-- The lead of a line that is not blank becomes part of its margin. -/
theorem margin_restyleLine {lead newline l : List Char} (hlead : ∀ c ∈ lead, isBlank c = true)
    (hline : IsLine l) (h : NewlineOnly l) (hblank : strip l ≠ []) :
    margin (restyleLine lead newline l) = lead ++ margin l := by
  have hbehind : ∀ row tail : List Char, strip row ≠ [] →
      margin (lead ++ row ++ tail) = lead ++ margin row := by
    intro row tail hrow
    rw [List.append_assoc, margin, List.takeWhile_append_of_pos hlead]
    exact congrArg (lead ++ ·) (margin_append hrow tail)
  obtain ⟨row, hrow, rfl | ⟨rfl, hne⟩⟩ := hline.newlineOnly_cases h
  · have hstrip := strip_ne_nil_of_append (by simp [isBlank, inRanges, blankRanges]) hblank
    have hne : row ≠ [] := by
      rintro rfl
      exact hstrip rfl
    rw [restyleLine_whole hrow _ _ hne, hbehind row newline hstrip, margin_append hstrip]
  · have := hbehind l [] hblank
    rwa [List.append_nil, ← restyleLine_open hrow lead newline hne] at this

/-! ### The two styles -/

theorem newlineOnly_restyled {lead : List Char} (hlead : ∀ c ∈ lead, isBoundary c = false)
    (text : List Char) : NewlineOnly (restyled lead ['\n'] text) := by
  rw [restyled, List.flatMap, newlineOnly_flatten_iff, List.forall_mem_map]
  intro l hl
  rw [restyleLine]
  refine NewlineOnly.append (newlineOnly_of_not_boundary (not_boundary_of_mem_behind hlead ?_)) ?_
  · exact not_boundary_of_mem_bodies (List.mem_map_of_mem hl)
  · split <;> simp [NewlineOnly]

theorem indented_eq_restyled {text : List Char} (h : NewlineOnly text) (margin : List Char) :
    indented margin text = restyled margin ['\n'] text := by
  refine List.flatMap_congr fun l hl => ?_
  obtain ⟨row, hrow, rfl | ⟨rfl, hne⟩⟩ :=
    ((lined_lines text).isLine l hl).newlineOnly_cases (h.of_mem_lines hl)
  · rw [restyleLine_append_newline hrow, body_append_newline hrow, behind]
    split
    · rename_i hempty
      rw [List.isEmpty_iff.mp hempty]
    · rw [List.append_assoc]
  · rw [restyleLine_eq_behind hrow, body_eq_self hrow, behind, if_neg (by simpa using hne),
      if_neg (by simpa using hne)]

theorem restyled_self {text : List Char} (h : NewlineOnly text) :
    restyled [] ['\n'] text = text := by
  rw [← indented_eq_restyled h, indented]
  simp

theorem withReturns_append (a b : List Char) :
    withReturns (a ++ b) = withReturns a ++ withReturns b :=
  List.flatMap_append

theorem withReturns_eq_self {row : List Char} (h : ∀ c ∈ row, isBoundary c = false) :
    withReturns row = row := by
  rw [withReturns]
  conv_rhs => rw [← List.flatMap_singleton' row]
  refine List.flatMap_congr fun c hc => ?_
  rw [if_neg]
  rintro rfl
  exact absurd (h '\n' hc) (by decide)

theorem withReturns_flatten (ls : List (List Char)) :
    withReturns ls.flatten = ls.flatMap withReturns := by
  induction ls with
  | nil => rfl
  | cons l ls ih => rw [List.flatten_cons, withReturns_append, ih, List.flatMap_cons]

theorem withReturns_eq_restyled {text : List Char} (h : NewlineOnly text) :
    withReturns text = restyled [] ['\r', '\n'] text := by
  conv_lhs => rw [← flatten_lines text, withReturns_flatten]
  refine List.flatMap_congr fun l hl => ?_
  obtain ⟨row, hrow, rfl | ⟨rfl, -⟩⟩ :=
    ((lined_lines text).isLine l hl).newlineOnly_cases (h.of_mem_lines hl)
  · rw [restyleLine_append_newline hrow, behind_no_lead, withReturns_append,
      withReturns_eq_self hrow]
    rfl
  · rw [restyleLine_eq_behind hrow, behind_no_lead, withReturns_eq_self hrow]

end Codeweave.Text
