import Codeweave.Command.Run
import Codeweave.Proofs.Directive.Outline
import Mathlib.Data.List.DropRight
import Mathlib.Data.List.Infix

/-!
Texts that are not worth looking at. A text that does not hold an opener has no directives.
-/

namespace Codeweave.Command

open Directive

theorem holds_iff_isInfix {piece text : List Char} : holds piece text = true ↔ piece <:+: text := by
  induction text with
  | nil => simp [holds]
  | cons c text ih =>
      rw [holds, Bool.or_eq_true, ih, List.isPrefixOf_iff_prefix, List.infix_cons_iff]

theorem isInfix_trim (p : Char → Bool) (text : List Char) : Text.trim p text <:+: text :=
  (List.rdropWhile_prefix p _).isInfix.trans (List.dropWhile_suffix p).isInfix

theorem holds_of_isOpener {l : Line} {text : List Char} (hl : l ∈ Text.lines text)
    (hopener : isOpener l = true) : holds opener text = true := by
  have hstrip : Text.strip l = opener := by simpa [isOpener, isMark] using hopener
  have hinfix : l <:+: text := by
    rw [← Text.flatten_lines text]
    exact List.infix_of_mem_flatten hl
  rw [holds_iff_isInfix, ← hstrip]
  exact (isInfix_trim Text.isBlank l).trans hinfix

theorem outline_of_no_opener {ls : List Line} (h : ∀ l ∈ ls, isOpener l = false) :
    outline ls = .ok (ls.map Passage.plain) := by
  induction ls with
  | nil => rw [outline]; rfl
  | cons l ls ih =>
      rw [List.forall_mem_cons] at h
      rw [outline_plain h.1, ih h.2]
      rfl

theorem blocksFrom_map_plain (p : Place) (ls : List Line) :
    blocksFrom p (ls.map Passage.plain) = [] := by
  induction ls generalizing p with
  | nil => rfl
  | cons l ls ih => exact ih _

section

variable {text : List Char} (hbare : holds opener text = false)

include hbare

theorem scan_of_not_holds : scan text = .ok [] := by
  have hopener : ∀ l ∈ Text.lines text, isOpener l = false := by
    intro l hl
    by_contra hnot
    rw [holds_of_isOpener hl (by simpa using hnot)] at hbare
    simp at hbare
  rw [scan, outline_of_no_opener hopener]
  exact congrArg Except.ok (blocksFrom_map_plain {} _)

theorem regenerateSource_of_not_holds (config : Config) (path : String) :
    regenerateSource config path text =
      (.ok ⟨Fault.pathOrMemory path, text, text, []⟩, [found []]) := by
  rw [regenerateSource, scan_of_not_holds hbare]
  rfl

theorem results_eq_nil_of_not_holds {config : Config} {path : String} {report : Report}
    (hrun : (regenerateSource config path text).1 = .ok report) : report.results = [] := by
  rw [regenerateSource_of_not_holds hbare] at hrun
  obtain rfl := Except.ok.inj hrun
  rfl

end

theorem holds_of_scan_error {text : List Char} {broken : Broken}
    (h : scan text = .error broken) : holds opener text = true := by
  by_contra hbare
  rw [scan_of_not_holds (by simpa using hbare)] at h
  simp at h

end Codeweave.Command
