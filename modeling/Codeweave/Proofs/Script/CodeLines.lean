import Codeweave.Proofs.Text.Dedent
import Codeweave.Script.Lexer
import Mathlib.Data.List.Forall2
import Mathlib.Data.List.SplitBy

/-!
Lines of code. A script is read in lines that end in a carriage return, a newline, or both, while
the source around it has further line boundaries. What a dedent leaves of a script has the same
lines of code without their margins, and every boundary of the further kind makes the source one
line longer.
-/

namespace Codeweave.Script

open Text (isBoundary isIndent consHead)

def isLineEnd (c : Char) : Bool :=
  c == '\n' || c == '\r'

/-- Does the character end a line of a source but no line of code? -/
def isSeparator (c : Char) : Bool :=
  isBoundary c && !isLineEnd c

/-- Does a line of code end between the two characters? -/
def codeEndsBetween (c d : Char) : Bool :=
  isLineEnd c && !(c == '\r' && d == '\n')

/-- The lines of code, each with its end. -/
def codeLines (text : List Char) : List (List Char) :=
  text.splitBy fun c d => !codeEndsBetween c d

/-- A line of code ends where the first text meets the second. -/
def CodeBreaks (a b : List Char) : Prop :=
  ∀ c ∈ a.getLast?, ∀ d ∈ b.head?, codeEndsBetween c d = true

/-- The second line is the first behind some indentation. -/
def IndentOf (line indented : List Char) : Prop :=
  ∃ lead, (∀ c ∈ lead, isIndent c = true) ∧ indented = lead ++ line

/-! ### Texts that meet -/

@[simp] theorem codeLines_nil : codeLines [] = [] := rfl

@[simp] theorem flatten_codeLines (text : List Char) : (codeLines text).flatten = text :=
  List.flatten_splitBy _ text

theorem codeLines_append {a b : List Char} (h : CodeBreaks a b) :
    codeLines (a ++ b) = codeLines a ++ codeLines b :=
  List.splitBy_append fun c hc d hd => by simp [h c hc d hd]

theorem codeBreaks_of_newline {a : List Char} (h : a.getLast? = some '\n') (b : List Char) :
    CodeBreaks a b := by
  intro c hc d _
  obtain rfl : '\n' = c := by simpa [h] using hc
  simp [codeEndsBetween, isLineEnd]

/-- A text falls between its lines of code into texts that have these lines of code. -/
theorem codeLines_split {text : List Char} {ls ms : List (List Char)}
    (h : codeLines text = ls ++ ms) :
    codeLines ls.flatten = ls ∧ codeLines ms.flatten = ms ∧
      CodeBreaks ls.flatten ms.flatten := by
  obtain ⟨-, hne, hchain, hmeet⟩ := List.splitBy_eq_iff.mp h
  rw [List.isChain_append] at hmeet
  rw [List.forall_mem_append] at hchain
  simp only [List.mem_append, not_or] at hne
  refine ⟨List.splitBy_flatten hne.1 hchain.1 hmeet.1,
    List.splitBy_flatten hne.2 hchain.2 hmeet.2.1, ?_⟩
  rcases List.eq_nil_or_concat' ls with rfl | ⟨before, l, rfl⟩
  · simp [CodeBreaks]
  rcases ms with _ | ⟨m, ms⟩
  · simp [CodeBreaks]
  obtain ⟨hl, hm, hends⟩ := hmeet.2.2 l (by simp) m (by simp)
  rw [List.flatten_append, List.flatten_singleton, List.flatten_cons]
  intro c hc d hd
  rw [List.getLast?_append_of_ne_nil _ hl, List.getLast?_eq_some_getLast hl] at hc
  rw [List.head?_append_of_ne_nil _ hm, List.head?_eq_some_head hm] at hd
  obtain rfl : l.getLast hl = c := by simpa using hc
  obtain rfl : m.head hm = d := by simpa using hd
  simpa using hends

theorem exists_codeLines_take (text : List Char) {k : Nat} (hk : k < (codeLines text).length) :
    ∃ above below, text = above ++ below ∧ codeLines above = (codeLines text).take k ∧
      below = ((codeLines text).drop k).flatten ∧ below ≠ [] ∧ CodeBreaks above below := by
  have hsplit : codeLines text = (codeLines text).take k ++ (codeLines text).drop k :=
    (List.take_append_drop k _).symm
  obtain ⟨habove, hbelow, hbreak⟩ := codeLines_split hsplit
  refine ⟨_, _, ?_, habove, rfl, ?_, hbreak⟩
  · rw [← List.flatten_append, ← hsplit, flatten_codeLines]
  · intro hnil
    rw [hnil] at hbelow
    have hlength := List.drop_eq_nil_iff.mp hbelow.symm
    omega

/-! ### One character after the other -/

theorem codeLines_singleton (c : Char) : codeLines [c] = [[c]] := rfl

theorem codeLines_ne_nil (c : Char) (rest : List Char) : codeLines (c :: rest) ≠ [] :=
  List.splitBy_ne_nil.mpr (List.cons_ne_nil c rest)

theorem exists_codeLines_cons (c : Char) (rest : List Char) :
    ∃ more ls, codeLines (c :: rest) = (c :: more) :: ls := by
  obtain ⟨l, ls, hls⟩ := List.exists_cons_of_ne_nil (codeLines_ne_nil c rest)
  have hne : l ≠ [] := List.ne_nil_of_mem_splitBy (hls ▸ List.mem_cons_self ..)
  obtain ⟨d, more, rfl⟩ := List.exists_cons_of_ne_nil hne
  have hhead := congrArg List.head? (flatten_codeLines (c :: rest))
  rw [hls] at hhead
  obtain rfl : d = c := by simpa using hhead
  exact ⟨more, ls, hls⟩

theorem codeLines_cons_cons (c d : Char) (rest : List Char) :
    codeLines (c :: d :: rest) =
      if codeEndsBetween c d then [c] :: codeLines (d :: rest)
      else consHead c (codeLines (d :: rest)) := by
  split
  · rename_i hends
    have hbreak : CodeBreaks [c] (d :: rest) := by simpa [CodeBreaks] using hends
    exact codeLines_append hbreak
  · rename_i hends
    obtain ⟨more, ls, hls⟩ := exists_codeLines_cons d rest
    obtain ⟨hflatten, hne, hchain, hmeet⟩ := List.splitBy_eq_iff.mp hls
    rw [List.forall_mem_cons] at hchain
    rw [hls, consHead]
    refine List.splitBy_eq_iff.mpr ⟨?_, ?_, ?_, ?_⟩
    · rw [hflatten]
      rfl
    · simpa using hne
    · refine List.forall_mem_cons.mpr ⟨?_, hchain.2⟩
      exact List.isChain_cons_cons.mpr ⟨by simpa using hends, hchain.1⟩
    · rw [List.isChain_cons] at hmeet ⊢
      simpa using hmeet

theorem codeLines_return_newline (rest : List Char) :
    codeLines ('\r' :: '\n' :: rest) = ['\r', '\n'] :: codeLines rest :=
  codeLines_append (a := ['\r', '\n']) (codeBreaks_of_newline rfl rest)

theorem codeLines_cons {c : Char} {rest : List Char}
    (h : ¬ (c = '\r' ∧ rest.head? = some '\n')) :
    codeLines (c :: rest) =
      if isLineEnd c then [c] :: codeLines rest else consHead c (codeLines rest) := by
  cases rest with
  | nil => cases hc : isLineEnd c <;> simp [codeLines_singleton, consHead]
  | cons d rest =>
      have hends : codeEndsBetween c d = isLineEnd c := by
        simp only [codeEndsBetween]
        grind
      rw [codeLines_cons_cons, hends]

theorem codeLines_newline (rest : List Char) :
    codeLines ('\n' :: rest) = ['\n'] :: codeLines rest :=
  codeLines_append (a := ['\n']) (codeBreaks_of_newline rfl rest)

/-! ### Lines of a source -/

theorem length_consHead (c : Char) {ls : List (List Char)} (h : ls ≠ []) :
    (consHead c ls).length = ls.length := by
  obtain ⟨l, ls, rfl⟩ := List.exists_cons_of_ne_nil h
  rfl

theorem isLineEnd_of_codeBreaks {a b : List Char} (h : CodeBreaks a b) (hb : b ≠ []) :
    ∀ c ∈ a.getLast?, isLineEnd c = true := by
  obtain ⟨d, rest, rfl⟩ := List.exists_cons_of_ne_nil hb
  intro c hc
  have hends := h c hc d rfl
  simp only [codeEndsBetween, Bool.and_eq_true] at hends
  exact hends.1

theorem endsBetween_eq (c d : Char) :
    Text.endsBetween c d = (codeEndsBetween c d || isSeparator c) := by
  have hboundary : isLineEnd c = true → isBoundary c = true := by
    simp only [isLineEnd, Bool.or_eq_true, beq_iff_eq]
    rintro (rfl | rfl) <;> rfl
  have hreturn : c = '\r' → isLineEnd c = true := by
    rintro rfl
    rfl
  rw [Text.endsBetween, codeEndsBetween, isSeparator]
  grind

theorem CodeBreaks.breaks {a b : List Char} (h : CodeBreaks a b) : Text.Breaks a b := by
  intro c hc d hd
  rw [endsBetween_eq, h c hc d hd, Bool.true_or]

/-- Whole lines of code are as many lines of a source as there are of them, and one more for each
separator in them. -/
theorem length_lines {text : List Char} (h : ∀ c ∈ text.getLast?, isLineEnd c = true) :
    (Text.lines text).length = (codeLines text).length + text.countP isSeparator := by
  induction text with
  | nil => simp
  | cons c text ih =>
      cases text with
      | nil =>
          have hend : isLineEnd c = true := h c (by simp)
          rw [Text.lines_singleton, codeLines_singleton]
          simp [isSeparator, hend]
      | cons d text =>
          have htail := ih fun x hx => h x (by simpa using hx)
          rw [Text.lines_cons_cons, codeLines_cons_cons, endsBetween_eq, List.countP_cons]
          cases hcode : codeEndsBetween c d with
          | true =>
              have hnone : isSeparator c = false := by
                simp only [codeEndsBetween, Bool.and_eq_true] at hcode
                simp [isSeparator, hcode.1]
              simp only [hnone, Bool.or_false, if_true, List.length_cons, htail]
              simp only [Bool.false_eq_true, if_false]
              omega
          | false =>
              cases hseparator : isSeparator c with
              | true =>
                  simp only [Bool.false_or, if_true, Bool.false_eq_true, if_false, List.length_cons,
                    length_consHead c (codeLines_ne_nil d text), htail]
                  omega
              | false =>
                  simp only [Bool.or_false, Bool.false_eq_true, if_false,
                    length_consHead c (codeLines_ne_nil d text),
                    length_consHead c (Text.lines_ne_nil d text), htail]
                  omega

/-! ### Dedented rows -/

theorem IndentOf.refl (line : List Char) : IndentOf line line :=
  ⟨[], by simp, rfl⟩

theorem isLineEnd_of_isIndent {c : Char} (h : isIndent c = true) : isLineEnd c = false := by
  simp only [isIndent, Bool.or_eq_true, beq_iff_eq] at h
  rcases h with rfl | rfl <;> rfl

/-- Indentation in front of a text is indentation in front of its first line of code. -/
theorem codeLines_indent {lead text : List Char} (hlead : ∀ c ∈ lead, isIndent c = true)
    (hne : text ≠ []) :
    List.Forall₂ IndentOf (codeLines text) (codeLines (lead ++ text)) := by
  obtain ⟨d, text, rfl⟩ := List.exists_cons_of_ne_nil hne
  obtain ⟨more, ls, hls⟩ := exists_codeLines_cons d text
  have hjoined : codeLines (lead ++ d :: text) = (lead ++ d :: more) :: ls := by
    induction lead with
    | nil => exact hls
    | cons c lead ih =>
        rw [List.forall_mem_cons] at hlead
        obtain ⟨e, rest, hrest⟩ : ∃ e rest, lead ++ d :: text = e :: rest := by
          cases lead <;> simp
        have hends : codeEndsBetween c e = false := by
          simp [codeEndsBetween, isLineEnd_of_isIndent hlead.1]
        rw [List.cons_append, hrest, codeLines_cons_cons, if_neg (by simp [hends]), ← hrest,
          ih hlead.2]
        rfl
  rw [hls, hjoined]
  refine List.Forall₂.cons ⟨lead, hlead, rfl⟩ ?_
  exact List.forall₂_same.mpr fun l _ => IndentOf.refl l

/-- Rows that are indented in front of other rows have their lines of code, if the last row is not
made empty. -/
theorem codeLines_unrows {f : List Char → List Char} {rs : List (List Char)}
    (hindent : ∀ r ∈ rs, IndentOf (f r) r) (hlast : ∀ r ∈ rs.getLast?, f r = [] → r = []) :
    List.Forall₂ IndentOf (codeLines (Text.unrows (rs.map f))) (codeLines (Text.unrows rs)) := by
  induction rs with
  | nil => exact List.Forall₂.nil
  | cons r rs ih =>
      rw [List.forall_mem_cons] at hindent
      obtain ⟨lead, hlead, hr⟩ := hindent.1
      cases rs with
      | nil =>
          rw [List.map_singleton, Text.unrows, Text.unrows, List.intercalate_singleton,
            List.intercalate_singleton]
          by_cases hempty : f r = []
          · rw [hempty, hlast r (by simp) hempty]
            exact List.Forall₂.nil
          · have hlines := codeLines_indent hlead hempty
            rwa [← hr] at hlines
      | cons s rs =>
          have hrest := ih hindent.2 fun x hx => hlast x (by simpa using hx)
          have hfirst : List.Forall₂ IndentOf (codeLines (f r ++ ['\n']))
              (codeLines (lead ++ (f r ++ ['\n']))) := codeLines_indent hlead (by simp)
          rw [← List.append_assoc, ← hr] at hfirst
          -- the newline between two rows ends a line of code
          have hapart : ∀ row rest : List Char, codeLines (row ++ '\n' :: rest) =
              codeLines (row ++ ['\n']) ++ codeLines rest := by
            intro row rest
            rw [← codeLines_append (codeBreaks_of_newline (by simp) rest), List.append_assoc]
            rfl
          rw [List.map_cons, List.map_cons, Text.unrows_cons_cons, Text.unrows_cons_cons,
            hapart (f r), hapart r]
          exact List.rel_append hfirst hrest

theorem indentOf_dedentRow {rs : List (List Char)} {row : List Char} (hrow : row ∈ rs) :
    IndentOf (Text.dedentRow ((Text.sharedMargin rs).getD []) row) row := by
  rw [Text.dedentRow]
  cases hall : row.all isIndent with
  | true => exact ⟨row, List.all_eq_true.mp hall, by simp⟩
  | false =>
      obtain ⟨m, hm, -⟩ := Text.exists_sharedMargin hrow hall
      have hlead := Text.prefix_of_sharedMargin hm hrow hall
      rw [hm, Option.getD_some, if_neg (by simp)]
      refine ⟨m, fun c hc => List.mem_takeWhile_imp (hlead.subset hc), ?_⟩
      exact (List.prefix_iff_eq_append.mp (hlead.trans (List.takeWhile_prefix _))).symm

/-- A row that does not only indent is not dedented away. -/
theorem all_isIndent_of_dedentRow {rs : List (List Char)} {row : List Char} (hrow : row ∈ rs)
    (h : Text.dedentRow ((Text.sharedMargin rs).getD []) row = []) : row.all isIndent = true := by
  obtain ⟨lead, hlead, hself⟩ := indentOf_dedentRow hrow
  rw [h, List.append_nil] at hself
  rw [hself]
  exact List.all_eq_true.mpr hlead

/-- A dedented text that ends where a line of the source does has the lines of code that the text
has, without some of their indentation. -/
theorem codeLines_dedent {text : List Char} (h : ∀ c ∈ text.getLast?, isBoundary c = true) :
    List.Forall₂ IndentOf (codeLines (Text.dedent text)) (codeLines text) := by
  have hdedent : Text.dedent text = Text.unrows ((Text.rows text).map
      (Text.dedentRow ((Text.sharedMargin (Text.rows text)).getD []))) := by
    rw [← Text.dedentRows_eq]
    rfl
  have hlast : ∀ r ∈ (Text.rows text).getLast?,
      Text.dedentRow ((Text.sharedMargin (Text.rows text)).getD []) r = [] → r = [] := by
    intro r hr hempty
    obtain ⟨before, hrows⟩ := List.getLast?_eq_some_iff.mp hr
    have hall := all_isIndent_of_dedentRow (List.mem_of_getLast? hr) hempty
    have htext : text = Text.terminated before ++ r := by
      rw [← Text.unrows_concat, ← hrows, Text.unrows_rows]
    rcases List.eq_nil_or_concat' r with rfl | ⟨more, c, rfl⟩
    · rfl
    · have hboundary : isBoundary c = true := h c (by simp [htext])
      rw [Text.not_boundary_of_isIndent (List.all_eq_true.mp hall c (by simp))] at hboundary
      exact absurd hboundary Bool.false_ne_true
  have hlines := codeLines_unrows (fun r hr => indentOf_dedentRow hr) hlast
  rwa [← hdedent, Text.unrows_rows] at hlines

/-! ### Lines that are read -/

theorem not_mem_normaliseEnds (text : List Char) : '\r' ∉ Lexer.normaliseEnds text := by
  fun_induction Lexer.normaliseEnds text with
  | case1 => simp
  | case2 rest ih => simpa using ih
  | case3 c rest _ ih =>
      by_cases hc : c = '\r'
      · simpa [hc] using ih
      · simp [hc, ih, Ne.symm hc]

theorem normaliseEnds_cons {c : Char} (h : c ≠ '\r') (rest : List Char) :
    Lexer.normaliseEnds (c :: rest) = c :: Lexer.normaliseEnds rest := by
  rw [Lexer.normaliseEnds.eq_def]
  split <;> simp_all

/-- With all line ends written as newlines, a text is read in the lines of code that it has. -/
theorem codeLines_normaliseEnds (text : List Char) :
    codeLines (Lexer.normaliseEnds text) = (codeLines text).map Lexer.normaliseEnds := by
  fun_induction Lexer.normaliseEnds text with
  | case1 => rfl
  | case2 rest ih =>
      rw [codeLines_newline, codeLines_return_newline, ih]
      rfl
  | case3 c rest hpair ih =>
      have hapart : ¬ (c = '\r' ∧ rest.head? = some '\n') := by
        rintro ⟨rfl, hhead⟩
        obtain ⟨more, rfl⟩ := List.head?_eq_some_iff.mp hhead
        exact hpair more rfl rfl
      rw [codeLines_cons hapart]
      cases hend : isLineEnd c with
      | true =>
          simp only [isLineEnd, Bool.or_eq_true, beq_iff_eq] at hend
          rcases hend with rfl | rfl
          · simp [codeLines_newline, ih, Lexer.normaliseEnds]
          · simp [codeLines_newline, ih, Lexer.normaliseEnds]
      | false =>
          obtain ⟨-, hreturn⟩ : c ≠ '\n' ∧ c ≠ '\r' := by simpa [isLineEnd] using hend
          have hkeep : ¬ (c == '\r') = true := by simpa using hreturn
          rw [if_neg hkeep, codeLines_cons (fun hboth => hreturn hboth.1), hend, ih]
          cases codeLines rest with
          | nil => simp [consHead, normaliseEnds_cons hreturn, Lexer.normaliseEnds]
          | cons l ls => simp [consHead, normaliseEnds_cons hreturn]

/-! ### Texts with carriage returns -/

theorem normaliseEnds_of_not_mem {text : List Char} (h : '\r' ∉ text) :
    Lexer.normaliseEnds text = text := by
  induction text with
  | nil => rfl
  | cons c text ih =>
      rw [List.mem_cons, not_or] at h
      rw [normaliseEnds_cons (Ne.symm h.1), ih h.2]

theorem normaliseEnds_withReturns {text : List Char} (h : '\r' ∉ text) :
    Lexer.normaliseEnds (Text.withReturns text) = text := by
  induction text with
  | nil => rfl
  | cons c text ih =>
      rw [List.mem_cons, not_or] at h
      have hrest := ih h.2
      by_cases hc : c = '\n'
      · subst hc
        exact congrArg _ hrest
      · have hcons : Text.withReturns (c :: text) = c :: Text.withReturns text := by
          rw [Text.withReturns, List.flatMap_cons, ← Text.withReturns]
          simp [hc]
        rw [hcons, normaliseEnds_cons (Ne.symm h.1), hrest]

theorem endsInBoth_of_not_mem {text : List Char} (h : '\r' ∉ text) :
    Lexer.endsInBoth text = false := by
  rw [Bool.eq_false_iff, Lexer.endsInBoth, ne_eq, List.isPrefixOf_iff_prefix]
  intro hbegins
  exact h (List.mem_reverse.mp (hbegins.subset (by simp)))

theorem endsInBoth_withReturns_concat {init : List Char} {c : Char} (hc : c ≠ '\r') :
    Lexer.endsInBoth (Text.withReturns (init ++ [c])) = (c == '\n') := by
  have hlast : Text.withReturns (init ++ [c]) = Text.withReturns init ++ Text.withReturns [c] :=
    Text.withReturns_append init [c]
  rw [Lexer.endsInBoth, hlast]
  by_cases hnewline : c = '\n'
  · subst hnewline
    simp [Text.withReturns]
  · have hne : ('\n' == c) = false := by simpa using Ne.symm hnewline
    simp [Text.withReturns, hnewline, List.isPrefixOf, hne]

/-- Read with a carriage return before each newline, a text that ends in a newline has one more
line, which is empty. -/
theorem prepare_withReturns {text : List Char} (h : '\r' ∉ text) :
    Lexer.prepare (Text.withReturns text) =
      Lexer.prepare text ++ if text.getLast? = some '\n' then ['\n'] else [] := by
  rw [Lexer.prepare, Lexer.prepare, normaliseEnds_withReturns h, normaliseEnds_of_not_mem h,
    endsInBoth_of_not_mem h]
  rcases text.eq_nil_or_concat' with rfl | ⟨init, c, rfl⟩
  · rfl
  · have hc : c ≠ '\r' := fun hc => h (by simp [hc])
    rw [endsInBoth_withReturns_concat hc]
    by_cases hnewline : c = '\n' <;> simp [hnewline]

end Codeweave.Script
