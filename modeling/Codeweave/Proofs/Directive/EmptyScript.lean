import Codeweave.Proofs.Directive.Rerun
import Mathlib

/-!
Directives without a script. An empty script generates an empty text wherever it stands, so a source
whose directives have no scripts is always regenerated.
-/

namespace Codeweave.Directive

open Script

/-- Only the path can bring a null character into a label. -/
theorem contains_null_labelled (path : String) (line : Int) :
    (Fault.pathOrMemory path ++ ":" ++ toString line).toList.contains '\x00' =
      path.toList.contains '\x00' := by
  have hpath : (Fault.pathOrMemory path).toList.contains '\x00' = path.toList.contains '\x00' := by
    rw [Fault.pathOrMemory]
    split
    · rename_i hempty
      rw [String.isEmpty_iff.mp hempty]
      decide
    · rfl
  have hdigits (n : Nat) : (Nat.repr n).toList.contains '\x00' = false := by
    rw [Nat.toList_repr, List.contains_eq_mem, decide_eq_false_iff_not]
    intro hmem
    exact absurd (Nat.isDigit_of_mem_toDigits (by decide) (by decide) hmem) (by decide)
  have hline : (toString line).toList.contains '\x00' = false := by
    cases line with
    | ofNat n => exact hdigits n
    | negSucc n =>
        have hminus : toString (Int.negSucc n) = "-" ++ Nat.repr (n + 1) := rfl
        rw [hminus, String.toList_append, List.contains_append, hdigits]
        decide
  rw [String.toList_append, String.toList_append, List.contains_append, List.contains_append, hpath,
    hline]
  simp

theorem contains_null_label {path : String} (hpath : '\x00' ∉ path.toList) (before : Nat) :
    (Fault.pathOrMemory path ++ ":" ++ toString ((before : Int) + 1)).toList.contains '\x00' =
      false := by
  rw [contains_null_labelled, List.contains_eq_mem, decide_eq_false_iff_not]
  exact hpath

theorem compileScript_nil : compileScript [] = .ok [] := by cbv

theorem runScript_nil {label : String} (hlabel : label.toList.contains '\x00' = false)
    (config : Config) {d : Directive} (hscript : d.script = []) :
    runScript config label d = (.ok (.ok (World.start config.width label config.memory)), []) := by
  have hcompile : compileLabelled label (Text.dedent d.script) = .ok [] := by
    rw [compileLabelled, hlabel, hscript]
    exact compileScript_nil
  rw [runScript, hcompile]
  rfl

theorem generatedAt_nil (config : Config) {path : String} (hpath : '\x00' ∉ path.toList)
    (before : Nat) : generatedAt config path [] before = some (some []) := by
  rw [generatedAt, regenerateWith]
  simp only [runScript_nil (contains_null_label hpath before)]
  rfl

theorem lineIndependent_nil (config : Config) {path : String} (hpath : '\x00' ∉ path.toList) :
    LineIndependent config path [] := by
  intro m n
  rw [generatedAt_nil config hpath, generatedAt_nil config hpath]

theorem countTooLong_nil (config : Config) {b : Block} (hscript : b.script = []) :
    countTooLong config b = false := by
  have hcount : b.lineCount = 0 := by
    rw [Directive.lineCount, hscript]
    rfl
  rw [countTooLong, hcount, Bool.and_eq_false_iff]
  exact Or.inr (by decide)

section

variable (config : Config) {path : String} {source : List Char}
  (hpath : '\x00' ∉ path.toList) (hdrift : driftFails config = false)

include hpath hdrift

theorem exists_yields_nil {blocks : List Block} {ws : List Written}
    (hshows : List.Forall₂ (Shows source) blocks ws) (hempty : ∀ b ∈ blocks, b.script = []) :
    ∃ results, List.Forall₂ (Yields config path) blocks results ∧
      ∀ r ∈ results, r.2.artifact? = some [] ∧ countTooLong config r.1 = false := by
  induction hshows with
  | nil => exact ⟨[], List.Forall₂.nil, by simp⟩
  | @cons b w blocks ws hb _ ih =>
      rw [List.forall_mem_cons] at hempty
      obtain ⟨results, hyields, hresults⟩ := ih hempty.2
      obtain ⟨before, hline, hscriptLine⟩ := hb.line
      have hgives := artifact?_regenerate config path hline hscriptLine
      rw [hdrift, Bool.false_and, if_neg (by simp), hempty.1,
        generatedAt_nil config hpath] at hgives
      obtain ⟨o, houtcome, hartifact⟩ := exists_ok_of_artifact? hgives
      refine ⟨(b, o) :: results, List.Forall₂.cons ⟨rfl, houtcome⟩ hyields, ?_⟩
      rw [List.forall_mem_cons]
      exact ⟨⟨hartifact, countTooLong_nil config hempty.1⟩, hresults⟩

/-- A source whose directives have no scripts has a report, in which every text is empty. -/
theorem exists_report_nil {blocks : List Block} (hscan : scan source = .ok blocks)
    (hempty : ∀ b ∈ blocks, b.script = []) :
    ∃ report, (regenerateSource config path source).1 = .ok report ∧
      (∀ b, b ∈ blocks ↔ ∃ r ∈ report.results, r.1 = b) ∧
      ∀ r ∈ report.results, r.2.artifact? = some [] := by
  obtain ⟨ps, hparted, rfl⟩ := scan_eq_ok_iff.mp hscan
  obtain ⟨results, hyields, hresults⟩ := exists_yields_nil config hpath hdrift hparted.shows hempty
  refine ⟨_, regenerateSource_eq_ok_iff.mpr
    ⟨_, results, hscan, hyields, fun r hr => (hresults r hr).2, rfl⟩, ?_,
    fun r hr => (hresults r hr).1⟩
  intro b
  rw [← map_fst_of_yields hyields, List.mem_map]

theorem exists_text_nil {blocks : List Block} (hscan : scan source = .ok blocks)
    (hempty : ∀ b ∈ blocks, b.script = []) :
    ∃ report, (regenerateSource config path source).1 = .ok report ∧
      report.text = splice config source (blocks.map fun b => (b, some [])) := by
  obtain ⟨report, hreport, -, hartifacts⟩ :=
    exists_report_nil config hpath hdrift hscan hempty
  obtain ⟨blocks', results, hscan', hyields, -, rfl⟩ := regenerateSource_eq_ok_iff.mp hreport
  obtain rfl : blocks = blocks' := by simpa [hscan] using hscan'
  refine ⟨_, hreport, ?_⟩
  rw [← map_fst_of_yields hyields, List.map_map]
  refine congrArg (splice config source) (List.map_congr_left fun r hr => ?_)
  rw [Function.comp_apply, hartifacts r hr]

end

end Codeweave.Directive
