import Codeweave.Directive.Splice
import Codeweave.Proofs.Directive.Outline
import Codeweave.Proofs.Text.Digits
import Codeweave.Proofs.Text.Strip

/-!
Marks behind a margin. The blanks before a mark and the terminator behind it do not hide it, so the
sentinels and the closers that regeneration writes are recognised when they are read again.
-/

namespace Codeweave.Directive

open Text (isBlank isBoundary strip strip_between strip_eq_self)

section

variable {lead tail : List Char} (hlead : ∀ c ∈ lead, isBlank c = true)
  (htail : ∀ c ∈ tail, isBlank c = true)

include hlead htail

theorem isMark_between (mark : List Char) (l : Line) :
    isMark mark (lead ++ l ++ tail) = isMark mark l := by
  rw [isMark, strip_between hlead htail, isMark]

theorem closerDigits?_between (l : Line) :
    closerDigits? (lead ++ l ++ tail) = closerDigits? l := by
  rw [closerDigits?, strip_between hlead htail, closerDigits?]

end

theorem opener_ne_nil : opener ≠ [] := by decide

theorem beginSentinel_ne_nil : beginSentinel ≠ [] := by decide +kernel

theorem endSentinel_ne_nil : endSentinel ≠ [] := by decide +kernel

theorem isBegin_beginSentinel : isBegin beginSentinel = true := by decide +kernel

theorem isEnd_endSentinel : isEnd endSentinel = true := by decide +kernel

theorem isMark_eq_false_of_strip {mark : List Char} (hmark : mark ≠ []) {l : Line}
    (h : strip l = []) : isMark mark l = false := by
  rw [isMark, h, beq_eq_false_iff_ne]
  exact hmark.symm

theorem isMark_eq_false_of_blank {mark : List Char} (hmark : mark ≠ []) {l : Line}
    (h : ∀ c ∈ l, isBlank c = true) : isMark mark l = false :=
  isMark_eq_false_of_strip hmark (Text.strip_eq_nil_of_all h)

theorem strip_ne_nil_of_opener {l : Line} (h : isOpener l = true) : strip l ≠ [] := by
  rw [beq_iff_eq.mp h]
  decide

/-! ### Numbers on closers -/

theorem takeWhile_toDigits (n : Nat) {rest : List Char}
    (hrest : ∀ c ∈ rest.head?, Text.isDecimalDigit c = false) :
    (Nat.toDigits 10 n ++ rest).takeWhile Text.isDecimalDigit = Nat.toDigits 10 n := by
  rw [List.takeWhile_append_of_pos fun c => Text.isDecimalDigit_of_mem_toDigits]
  cases rest with
  | nil => simp
  | cons c rest => simp [hrest c (by simp)]

theorem countDigits?_toDigits_append (n : Nat) (behind : List Char) :
    countDigits? ("!! ".toList ++ Nat.toDigits 10 n ++ (" */".toList ++ behind)) =
      if behind = [] then some (Nat.toDigits 10 n) else none := by
  have hspace : (' ' :: (Nat.toDigits 10 n ++ (" */".toList ++ behind))).dropWhile Text.isIndent =
      Nat.toDigits 10 n ++ (" */".toList ++ behind) := by
    obtain ⟨c, digits, hdigits⟩ :=
      List.exists_cons_of_ne_nil (Nat.toDigits_ne_nil (n := n) (b := 10))
    have hc : Text.isDecimalDigit c = true :=
      Text.isDecimalDigit_of_mem_toDigits (n := n) (by simp [hdigits])
    have hindent : ¬ Text.isIndent c = true := by
      intro h
      simp only [Text.isIndent, Bool.or_eq_true, beq_iff_eq] at h
      rcases h with rfl | rfl <;> exact absurd hc (by decide)
    rw [hdigits, List.dropWhile_cons_of_pos (by decide), List.cons_append,
      List.dropWhile_cons_of_neg hindent]
  change (let rest :=
      (' ' :: (Nat.toDigits 10 n ++ (" */".toList ++ behind))).dropWhile Text.isIndent
    let digits := rest.takeWhile Text.isDecimalDigit
    if (rest.drop digits.length).dropWhile Text.isIndent == ['*', '/'] then some digits
    else none) = _
  have htake : (Nat.toDigits 10 n ++ (" */".toList ++ behind)).takeWhile Text.isDecimalDigit =
      Nat.toDigits 10 n := takeWhile_toDigits n (by rintro c ⟨rfl⟩; decide)
  have hdrop : (" */".toList ++ behind).dropWhile Text.isIndent = '*' :: '/' :: behind := rfl
  simp only [hspace, htake, List.drop_left, hdrop]
  simp

theorem countDigits?_toDigits (n : Nat) :
    countDigits? ("!! ".toList ++ Nat.toDigits 10 n ++ " */".toList) =
      some (Nat.toDigits 10 n) := by
  have := countDigits?_toDigits_append n []
  rwa [List.append_nil, if_pos rfl] at this

theorem closerDigits?_closerText {margin tail : List Char} (n : Nat)
    (hmargin : ∀ c ∈ margin, isBlank c = true) (htail : ∀ c ∈ tail, isBlank c = true) :
    closerDigits? (closerText margin n ++ tail) = some (Nat.toDigits 10 n) := by
  have htext : closerText margin n ++ tail =
      margin ++ ("!! ".toList ++ Nat.toDigits 10 n ++ " */".toList) ++ tail := by
    simp [closerText]
  have hself : strip ("!! ".toList ++ Nat.toDigits 10 n ++ " */".toList) =
      "!! ".toList ++ Nat.toDigits 10 n ++ " */".toList := by
    apply strip_eq_self
    · simp
      decide
    · have hlast : " */".toList.getLast? = some '/' := by decide
      rw [List.getLast?_append_of_ne_nil _ (by decide), hlast]
      rintro c ⟨rfl⟩
      decide
  rw [htext, closerDigits?_between hmargin htail, closerDigits?, hself, countDigits?_toDigits]

/-- A closer with a number on it is no mark when something stands behind it in its line. -/
theorem no_mark_of_closerText {margin l : List Char} (n : Nat)
    (hmargin : ∀ c ∈ margin, isBlank c = true) (hl : strip l ≠ []) :
    isOpener (closerText margin n ++ l) = false ∧ isCloser (closerText margin n ++ l) = false := by
  have htext : closerText margin n ++ l =
      margin ++ ("!! ".toList ++ Nat.toDigits 10 n ++ " */".toList ++ l) := by
    simp [closerText]
  have hstrip : strip (closerText margin n ++ l) =
      "!! ".toList ++ Nat.toDigits 10 n ++ (" */".toList ++ Text.trimRight isBlank l) := by
    rw [htext, Text.strip_append_left hmargin,
      Text.strip_append_of_strip_ne_nil (by simp) (by rintro c ⟨rfl⟩; decide) hl,
      List.append_assoc _ " */".toList]
  have hright : Text.trimRight isBlank l ≠ [] := by
    intro hnil
    exact hl (Text.strip_eq_nil_of_all (List.rdropWhile_eq_nil_iff.mp hnil))
  constructor
  · rw [isOpener, isMark, hstrip, beq_eq_false_iff_ne]
    intro h
    have hhead := congrArg List.head? h
    simp [opener] at hhead
  · rw [isCloser, closerDigits?, hstrip, countDigits?_toDigits_append, if_neg hright]
    rfl

theorem readCount_toDigits {n : Nat}
    (h : (Nat.toDigits 10 n).length ≤ Text.maxIntegerDigits) :
    readCount (Nat.toDigits 10 n) = .ok (some n) := by
  rw [readCount, if_neg (by simp [Nat.toDigits_ne_nil]), if_neg (by omega),
    Text.digitsValue_toDigits]

theorem closerText_ne_nil (margin : List Char) (n : Nat) : closerText margin n ≠ [] := by
  simp [closerText]

theorem not_boundary_of_mem_closerText {margin : List Char}
    (h : ∀ c ∈ margin, isBoundary c = false) {n : Nat} {c : Char}
    (hc : c ∈ closerText margin n) : isBoundary c = false := by
  simp only [closerText, List.mem_append] at hc
  rcases hc with ((hc | hc) | hc) | hc
  · exact h c hc
  · exact Text.not_boundary_of_any (by decide) c hc
  · by_contra hboundary
    have hdigit := Nat.isDigit_of_mem_toDigits (by decide) (by decide) hc
    simp only [Bool.not_eq_false, isBoundary, Bool.or_eq_true, beq_iff_eq] at hboundary
    rcases hboundary with
      ((((((((rfl | rfl) | rfl) | rfl) | rfl) | rfl) | rfl) | rfl) | rfl) | rfl <;>
      exact absurd hdigit (by decide)
  · exact Text.not_boundary_of_any (by decide) c hc

end Codeweave.Directive
