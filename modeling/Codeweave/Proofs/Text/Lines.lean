import Codeweave.Text.Lines
import Mathlib.Data.List.Chain
import Mathlib.Data.List.TakeWhile

/-!
Where the lines of a text end. A line ends between two characters when the first is a boundary and
the two are not a carriage return with its newline. A list of texts is the list of lines of its
concatenation exactly when each is one line and a line ends between each two neighbours.
-/

namespace Codeweave.Text

/-- Does a line end between the two characters? -/
def endsBetween (c d : Char) : Bool :=
  isBoundary c && !(c == '\r' && d == '\n')

/-- A line ends where the first text meets the second. -/
def Breaks (a b : List Char) : Prop :=
  ∀ c ∈ a.getLast?, ∀ d ∈ b.head?, endsBetween c d = true

def IsLine (l : List Char) : Prop :=
  lines l = [l]

/-- Each text is one line, and it ends where the next one starts. -/
structure Lined (ls : List (List Char)) : Prop where
  isLine : ∀ l ∈ ls, IsLine l
  breaks : ls.IsChain Breaks

def IsTerminator (t : List Char) : Prop :=
  t = ['\r', '\n'] ∨ ∃ c, isBoundary c = true ∧ t = [c]

@[simp] theorem lines_nil : lines [] = [] := by
  rw [lines.eq_def]

theorem lines_return_newline (rest : List Char) :
    lines ('\r' :: '\n' :: rest) = ['\r', '\n'] :: lines rest := by
  rw [lines.eq_def]
  rfl

theorem lines_cons {c : Char} {rest : List Char} (h : ¬ (c = '\r' ∧ rest.head? = some '\n')) :
    lines (c :: rest) =
      if isBoundary c then [c] :: lines rest else consHead c (lines rest) := by
  rw [lines.eq_def]
  split <;> simp_all

theorem lines_singleton (c : Char) : lines [c] = [[c]] := by
  rw [lines_cons (by simp)]
  split <;> simp [consHead]

theorem lines_cons_cons (c d : Char) (rest : List Char) :
    lines (c :: d :: rest) =
      if endsBetween c d then [c] :: lines (d :: rest)
      else consHead c (lines (d :: rest)) := by
  by_cases hpair : c = '\r' ∧ d = '\n'
  · obtain ⟨rfl, rfl⟩ := hpair
    rw [lines_return_newline, lines_cons (by simp)]
    simp [endsBetween, isBoundary, consHead]
  · have hends : endsBetween c d = isBoundary c := by
      simp only [endsBetween]
      grind
    rw [lines_cons (by simpa using hpair), hends]

theorem lines_ne_nil (c : Char) (rest : List Char) : lines (c :: rest) ≠ [] := by
  intro h
  simpa [h] using flatten_lines (c :: rest)

theorem IsLine.ne_nil {l : List Char} (h : IsLine l) : l ≠ [] := by
  rintro rfl
  simp [IsLine] at h

theorem consHead_append (c : Char) {ls : List (List Char)} (h : ls ≠ [])
    (ms : List (List Char)) : consHead c ls ++ ms = consHead c (ls ++ ms) := by
  cases ls with
  | nil => exact absurd rfl h
  | cons l ls => rfl

theorem Breaks.of_cons {c d : Char} {a b : List Char} (h : Breaks (c :: d :: a) b) :
    Breaks (d :: a) b := by
  intro x hx
  exact h x (by simpa using hx)

/-- Texts that meet where a line ends have their lines apart. -/
theorem lines_append {a b : List Char} (h : Breaks a b) :
    lines (a ++ b) = lines a ++ lines b := by
  induction a with
  | nil => simp
  | cons c a ih =>
      cases a with
      | nil =>
          cases b with
          | nil => simp
          | cons d b =>
              have hends : endsBetween c d = true := h c (by simp) d (by simp)
              rw [List.singleton_append, lines_cons_cons, if_pos hends, lines_singleton]
              rfl
      | cons d a =>
          rw [List.cons_append, List.cons_append, lines_cons_cons, lines_cons_cons,
            ← List.cons_append, ih h.of_cons]
          split
          · rfl
          · rw [consHead_append c (lines_ne_nil d a)]

/-! ### Lists of lines -/

theorem IsLine.head?_append {l : List Char} (h : IsLine l) (rest : List Char) :
    (l ++ rest).head? = l.head? := by
  obtain ⟨c, more, rfl⟩ := List.exists_cons_of_ne_nil h.ne_nil
  rfl

theorem IsLine.getLast?_append {l : List Char} (h : IsLine l) (before : List Char) :
    (before ++ l).getLast? = l.getLast? :=
  List.getLast?_append_of_ne_nil before h.ne_nil

theorem Lined.lines_flatten {ls : List (List Char)} (h : Lined ls) : lines ls.flatten = ls := by
  induction ls with
  | nil => simp
  | cons l ls ih =>
      have htail : Lined ls :=
        ⟨fun m hm => h.isLine m (List.mem_cons_of_mem _ hm), h.breaks.of_cons⟩
      have hbreak : Breaks l ls.flatten := by
        cases ls with
        | nil => simp [Breaks]
        | cons m ls =>
            have hm : IsLine m := htail.isLine m (List.mem_cons_self ..)
            intro c hc d hd
            rw [List.flatten_cons, hm.head?_append] at hd
            exact (List.isChain_cons_cons.mp h.breaks).1 c hc d hd
      rw [List.flatten_cons, lines_append hbreak, h.isLine l (List.mem_cons_self ..), ih htail]
      rfl

theorem lined_lines (text : List Char) : Lined (lines text) := by
  induction text with
  | nil => exact ⟨by simp, by simp⟩
  | cons c rest ih =>
      cases rest with
      | nil =>
          rw [lines_singleton]
          exact ⟨by simp [IsLine, lines_singleton], by simp⟩
      | cons d rest =>
          obtain ⟨l, ls, hls⟩ := List.exists_cons_of_ne_nil (lines_ne_nil d rest)
          have hl : IsLine l := ih.isLine l (by simp [hls])
          have hhead : l.head? = some d := by
            have := congrArg List.head? (flatten_lines (d :: rest))
            rwa [hls, List.flatten_cons, hl.head?_append] at this
          obtain ⟨more, rfl⟩ : ∃ more, l = d :: more := by
            obtain ⟨e, more, rfl⟩ := List.exists_cons_of_ne_nil hl.ne_nil
            exact ⟨more, by simpa using hhead⟩
          -- `c` is a line of its own, or the first character of the line that `d` starts
          rw [lines_cons_cons, hls]
          rw [hls] at ih
          split
          · rename_i hends
            refine ⟨?_, List.isChain_cons_cons.mpr ⟨?_, ih.breaks⟩⟩
            · intro m hm
              rcases List.mem_cons.mp hm with rfl | hm
              · exact lines_singleton c
              · exact ih.isLine m hm
            · intro x hx y hy
              simp only [List.getLast?_singleton, Option.mem_def, Option.some.injEq] at hx
              simp only [List.head?_cons, Option.mem_def, Option.some.injEq] at hy
              rw [← hx, ← hy]
              exact hends
          · rename_i hends
            have hjoined : IsLine (c :: d :: more) := by
              rw [IsLine, lines_cons_cons, if_neg hends, hl]
              rfl
            refine ⟨?_, ?_⟩
            · intro m hm
              rcases List.mem_cons.mp hm with rfl | hm
              · exact hjoined
              · exact ih.isLine m (List.mem_cons_of_mem _ hm)
            · cases ls with
              | nil => exact List.isChain_singleton _
              | cons m ls =>
                  have hchain := List.isChain_cons_cons.mp ih.breaks
                  refine List.isChain_cons_cons.mpr ⟨?_, hchain.2⟩
                  intro x hx
                  exact hchain.1 x (by simpa using hx)

/-- A list of lines falls into lists of lines that meet where a line ends. -/
theorem lined_append_iff {ls ms : List (List Char)} :
    Lined (ls ++ ms) ↔ Lined ls ∧ Lined ms ∧ Breaks ls.flatten ms.flatten := by
  constructor
  · rintro ⟨hline, hchain⟩
    obtain ⟨hls, hms, hmeet⟩ := List.isChain_append.mp hchain
    refine ⟨⟨fun l hl => hline l (List.mem_append_left _ hl), hls⟩,
      ⟨fun l hl => hline l (List.mem_append_right _ hl), hms⟩, ?_⟩
    rcases List.eq_nil_or_concat ls with rfl | ⟨before, l, rfl⟩
    · simp [Breaks]
    rcases ms with _ | ⟨m, ms⟩
    · simp [Breaks]
    have hl : IsLine l := hline l (by simp)
    have hm : IsLine m := hline m (by simp)
    rw [List.flatten_cons, List.concat_eq_append, List.flatten_append, List.flatten_singleton,
      Breaks, hl.getLast?_append, hm.head?_append]
    exact hmeet l (by simp) m (by simp)
  · rintro ⟨hls, hms, hbreak⟩
    have heq := lines_append hbreak
    rw [hls.lines_flatten, hms.lines_flatten, ← List.flatten_append] at heq
    rw [← heq]
    exact lined_lines _

theorem lined_singleton_iff {l : List Char} : Lined [l] ↔ IsLine l :=
  ⟨fun h => h.isLine l (List.mem_singleton_self l),
    fun h => ⟨fun m hm => by rwa [List.mem_singleton.mp hm], List.isChain_singleton l⟩⟩

theorem lined_cons_iff {l : List Char} {ls : List (List Char)} :
    Lined (l :: ls) ↔ IsLine l ∧ Lined ls ∧ Breaks l ls.flatten := by
  rw [← List.singleton_append, lined_append_iff, lined_singleton_iff, List.flatten_singleton]

/-! ### Where texts meet -/

theorem Breaks.congr {a a' b b' : List Char} (h : Breaks a b)
    (hlast : a.getLast? = a'.getLast?) (hhead : b.head? = b'.head?) : Breaks a' b' := by
  rwa [Breaks, ← hlast, ← hhead]

theorem breaks_of_newline {a : List Char} (h : a.getLast? = some '\n') (b : List Char) :
    Breaks a b := by
  intro c hc d _
  obtain rfl : '\n' = c := by simpa [h] using hc
  simp [endsBetween, isBoundary]

theorem Breaks.isBoundary {a b : List Char} (h : Breaks a b) (hb : b ≠ []) :
    ∀ c ∈ a.getLast?, isBoundary c = true := by
  obtain ⟨d, rest, rfl⟩ := List.exists_cons_of_ne_nil hb
  intro c hc
  have := h c hc d rfl
  simp only [endsBetween, Bool.and_eq_true] at this
  exact this.1

/-- Where a line ends, any text may follow that does not start with a newline. -/
theorem breaks_of_isBoundary {a b : List Char} (h : ∀ c ∈ a.getLast?, isBoundary c = true)
    (hhead : b.head? ≠ some '\n') : Breaks a b := by
  intro c hc d hd
  have hnewline : d ≠ '\n' := by
    rintro rfl
    exact hhead hd
  simp [endsBetween, h c hc, hnewline]

theorem Lined.append_congr {a b b' : List (List Char)} (h : Lined (a ++ b)) (hb' : Lined b')
    (hhead : b.flatten.head? = b'.flatten.head?) : Lined (a ++ b') := by
  obtain ⟨ha, -, hbreak⟩ := lined_append_iff.mp h
  exact lined_append_iff.mpr ⟨ha, hb', hbreak.congr rfl hhead⟩

theorem Lined.head?_flatten {ls ms : List (List Char)} (hls : Lined ls) (hms : Lined ms)
    (h : ls.head? = ms.head?) : ls.flatten.head? = ms.flatten.head? := by
  rcases ls with _ | ⟨l, ls⟩ <;> rcases ms with _ | ⟨m, ms⟩
  · rfl
  · simp at h
  · simp at h
  · obtain rfl : l = m := by simpa using h
    have hl : IsLine l := hls.isLine l (List.mem_cons_self ..)
    rw [List.flatten_cons, List.flatten_cons, hl.head?_append, hl.head?_append]

theorem Lined.head?_of_lines {ls : List (List Char)} {after : List Char} (h : Lined ls)
    (hhead : (lines after).head? = ls.head?) : ls.flatten.head? = after.head? := by
  have := (lined_lines after).head?_flatten h hhead
  rw [flatten_lines] at this
  exact this.symm

/-- Behind a line, another text may follow that starts with the same line. -/
theorem Lined.lines_cons_append {l : List Char} {ms : List (List Char)} {after : List Char}
    (h : Lined (l :: ms)) (hhead : (lines after).head? = ms.head?) :
    lines (l ++ after) = l :: lines after := by
  obtain ⟨hline, hms, hbreak⟩ := lined_cons_iff.mp h
  rw [lines_append (hbreak.congr rfl (hms.head?_of_lines hhead)), hline]
  rfl

/-! ### One line -/

theorem not_boundary_of_any {text : List Char} (h : text.any isBoundary = false) :
    ∀ c ∈ text, isBoundary c = false := by
  intro c hc
  simpa using List.any_eq_false.mp h c hc

theorem isLine_of_not_boundary {l : List Char} (hne : l ≠ [])
    (h : ∀ c ∈ l, isBoundary c = false) : IsLine l := by
  induction l with
  | nil => exact absurd rfl hne
  | cons c l ih =>
      cases l with
      | nil => exact lines_singleton c
      | cons d l =>
          have hends : ¬ endsBetween c d = true := by simp [endsBetween, h c (by simp)]
          rw [IsLine, lines_cons_cons, if_neg hends,
            ih (by simp) fun x hx => h x (List.mem_cons_of_mem _ hx)]
          rfl

theorem IsTerminator.ne_nil {t : List Char} (h : IsTerminator t) : t ≠ [] := by
  rcases h with rfl | ⟨c, -, rfl⟩ <;> simp

theorem IsTerminator.isLine {t : List Char} (h : IsTerminator t) : IsLine t := by
  rcases h with rfl | ⟨c, -, rfl⟩
  · rw [IsLine, lines_return_newline, lines_nil]
  · exact lines_singleton c

theorem isLine_append_terminator {l t : List Char} (h : ∀ c ∈ l, isBoundary c = false)
    (ht : IsTerminator t) : IsLine (l ++ t) := by
  induction l with
  | nil => exact ht.isLine
  | cons c l ih =>
      have htail : IsLine (l ++ t) := ih fun x hx => h x (List.mem_cons_of_mem _ hx)
      obtain ⟨d, more, hmore⟩ := List.exists_cons_of_ne_nil htail.ne_nil
      have hends : ¬ endsBetween c d = true := by simp [endsBetween, h c (by simp)]
      rw [hmore] at htail
      rw [IsLine, List.cons_append, hmore, lines_cons_cons, if_neg hends, htail]
      rfl

/-- A boundary in a line belongs to what ends the line. -/
theorem IsLine.cases {l : List Char} (h : IsLine l) :
    (∀ c ∈ l, isBoundary c = false) ∨
      ∃ before t, l = before ++ t ∧ (∀ c ∈ before, isBoundary c = false) ∧ IsTerminator t := by
  induction l with
  | nil => exact absurd rfl h.ne_nil
  | cons c l ih =>
      cases l with
      | nil =>
          cases hc : isBoundary c with
          | false => exact Or.inl (by simpa using hc)
          | true => exact Or.inr ⟨[], [c], rfl, by simp, Or.inr ⟨c, hc, rfl⟩⟩
      | cons d l =>
          rw [IsLine, lines_cons_cons] at h
          split at h
          · have := congrArg List.length h
            simp [lines_ne_nil] at this
          · rename_i hends
            have htail : IsLine (d :: l) := by
              obtain ⟨m, ms, hms⟩ := List.exists_cons_of_ne_nil (lines_ne_nil d l)
              rw [hms, consHead] at h
              rw [IsLine, hms]
              simpa using h
            cases hc : isBoundary c with
            | false =>
                rcases ih htail with hall | ⟨before, t, heq, hbefore, ht⟩
                · exact Or.inl (by simpa [hc] using hall)
                · refine Or.inr ⟨c :: before, t, by rw [heq]; rfl, ?_, ht⟩
                  simpa [hc] using hbefore
            | true =>
                -- only a carriage return before a newline does not end its line
                obtain ⟨rfl, rfl⟩ : c = '\r' ∧ d = '\n' := by
                  simpa [endsBetween, hc] using hends
                obtain rfl : l = [] := by
                  cases l with
                  | nil => rfl
                  | cons e l =>
                      rw [IsLine, lines_cons_cons,
                        if_pos (by simp [endsBetween, isBoundary])] at htail
                      have := congrArg List.length htail
                      simp [lines_ne_nil] at this
                exact Or.inr ⟨[], _, rfl, by simp, Or.inl rfl⟩

/-- A line may have more in front of it. -/
theorem IsLine.behind {text l : List Char} (htext : ∀ c ∈ text, isBoundary c = false)
    (h : IsLine l) : IsLine (text ++ l) := by
  rcases h.cases with hall | ⟨before, t, rfl, hbefore, ht⟩
  · refine isLine_of_not_boundary (by simp [h.ne_nil]) ?_
    intro c hc
    exact (List.mem_append.mp hc).elim (htext c) (hall c)
  · rw [← List.append_assoc]
    refine isLine_append_terminator ?_ ht
    intro c hc
    exact (List.mem_append.mp hc).elim (htext c) (hbefore c)

theorem lines_behind {text rest l : List Char} {ls : List (List Char)}
    (htext : ∀ c ∈ text, isBoundary c = false) (h : lines rest = l :: ls) :
    lines (text ++ rest) = (text ++ l) :: ls := by
  have hlined : Lined (l :: ls) := h ▸ lined_lines rest
  obtain ⟨hl, hls, hbreak⟩ := lined_cons_iff.mp hlined
  have hjoined : Lined ((text ++ l) :: ls) := lined_cons_iff.mpr
    ⟨hl.behind htext, hls, hbreak.congr (hl.getLast?_append text).symm rfl⟩
  have hrest := congrArg List.flatten h
  rw [flatten_lines, List.flatten_cons] at hrest
  rw [hrest, ← List.append_assoc, ← List.flatten_cons, hjoined.lines_flatten]

theorem not_boundary_of_mem_bodies {text l : List Char} (h : l ∈ bodies text) :
    ∀ c ∈ l, isBoundary c = false := by
  obtain ⟨line, -, rfl⟩ := List.mem_map.mp h
  intro c hc
  simpa using List.mem_takeWhile_imp hc

end Codeweave.Text
