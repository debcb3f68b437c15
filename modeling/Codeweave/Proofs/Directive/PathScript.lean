import Codeweave.Proofs.Directive.EmptyScript
import Codeweave.Proofs.Script.Run

/-!
A script that tells paths apart. It compares the text that a template is shown as, in which the path
stands, with a bound, so it gives an empty line under paths before the bound and nothing under paths
behind it, wherever its directive stands.
-/

namespace Codeweave.Directive

open Script

/-- The text that a template without a pattern is shown as, up to the path. -/
def shownHead : String :=
  "<BoundTemplate " ++ Template.shown ⟨[], []⟩ ++ " in "

/-- Writes an empty line if the path comes before the letter b. -/
def pathScript : List Char :=
  "str(template('')) < \"<BoundTemplate Template('', '') in b\" and nl()\n".toList

def shownExpr : Expr :=
  .call 1 (.name 1 "str")
    [.positional (.call 1 (.name 1 "template") [.positional (.constant (.text ""))])]

/-- Does the text of the template come before the bound? -/
def boundExpr : Expr :=
  .compare 1 shownExpr [(.less, .constant (.text "<BoundTemplate Template('', '') in b"))]

def pathProgram : List Stmt :=
  [.evaluate (.both boundExpr (.call 1 (.name 1 "nl") []))]

/-! ### The code -/

def isPathProgram : Except ScriptError (List Stmt) → Bool
  | .ok [.evaluate (.both (.compare 1 (.call 1 (.name 1 str)
        [.positional (.call 1 (.name 1 template) [.positional (.constant (.text pattern))])])
        [(.less, .constant (.text bound))]) (.call 1 (.name 1 nl) []))] =>
      str == "str" && template == "template" && pattern == "" &&
        bound == "<BoundTemplate Template('', '') in b" && nl == "nl"
  | _ => false

theorem eq_of_isPathProgram {result : Except ScriptError (List Stmt)}
    (h : isPathProgram result = true) : result = .ok pathProgram := by
  rw [isPathProgram.eq_def] at h
  split at h
  · simp only [Bool.and_eq_true, beq_iff_eq] at h
    obtain ⟨⟨⟨⟨rfl, rfl⟩, rfl⟩, rfl⟩, rfl⟩ := h
    rfl
  · simp at h

theorem compileScript_pathScript : compileScript (Text.dedent pathScript) = .ok pathProgram :=
  eq_of_isPathProgram (by decide +kernel)

/-! ### Its run -/

def scriptEnv : Env :=
  { inSegment := false, globals := 0 }

/-- The state in which the template is made. -/
def templateMade (width : Int) (label : String) : World :=
  { World.start width label with
    objects := #[.template ⟨[], []⟩ (.text "")]
    journal := #[.compiled (.text []) 0] }

section

variable (width : Int) (label : String) (depth : Nat)

theorem evaluate_shownExpr :
    runFrom (World.start width label) ((Machine.upTo (depth + 20)).evaluate scriptEnv shownExpr) =
      (.ok (.text (String.ofList (shownHead ++ label ++ ">").toList)),
        templateMade width label) := by
  with_unfolding_all rfl

theorem applyCompare_less (s t : String) :
    runFrom (templateMade width label)
        (scriptEnv.at 1 (applyCompare (Machine.upTo depth) .less (.text s) (.text t))) =
      (.ok (compareTexts s t == .lt), templateMade width label) := by
  with_unfolding_all rfl

/-- Does the text that the template is shown as come before the bound? -/
def comesBefore (label : String) : Bool :=
  compareTexts (String.ofList (shownHead ++ label ++ ">").toList)
    "<BoundTemplate Template('', '') in b" == .lt

theorem evaluate_boundExpr :
    runFrom (World.start width label) ((Machine.upTo (depth + 21)).evaluate scriptEnv boundExpr) =
      (.ok (.bool (comesBefore label)), templateMade width label) := by
  have hstart : (Machine.upTo (depth + 21)).evaluate scriptEnv boundExpr =
      (Machine.upTo (depth + 20)).evaluate scriptEnv shownExpr >>= fun a =>
        compareChain (Machine.upTo (depth + 20)) scriptEnv 1 a
          [(.less, .constant (.text "<BoundTemplate Template('', '') in b"))] := by
    with_unfolding_all rfl
  have hbound : ∀ w, runFrom w ((Machine.upTo (depth + 20)).evaluate scriptEnv
      (.constant (.text "<BoundTemplate Template('', '') in b"))) =
        (.ok (.text "<BoundTemplate Template('', '') in b"), w) := by
    intro w
    with_unfolding_all rfl
  rw [hstart, runFrom_bind, evaluate_shownExpr]
  simp only
  rw [compareChain, runFrom_bind, hbound]
  simp only
  rw [runFrom_bind, applyCompare_less]
  simp [comesBefore]

def lineWritten (written : Bool) : World :=
  if written then
    { templateMade width label with builder := (templateMade width label).builder.newline }
  else templateMade width label

theorem evaluate_nl :
    runFrom (templateMade 4 label)
        ((Machine.upTo (depth + 21)).evaluate scriptEnv (.call 1 (.name 1 "nl") [])) =
      (.ok .none, lineWritten 4 label true) := by
  with_unfolding_all rfl

theorem evaluate_both :
    ∃ v, runFrom (World.start 4 label) ((Machine.upTo (depth + 22)).evaluate scriptEnv
        (.both boundExpr (.call 1 (.name 1 "nl") []))) =
      (.ok v, lineWritten 4 label (comesBefore label)) := by
  have hstart : (Machine.upTo (depth + 22)).evaluate scriptEnv
      (.both boundExpr (.call 1 (.name 1 "nl") [])) =
        (Machine.upTo (depth + 21)).evaluate scriptEnv boundExpr >>= fun a =>
          get >>= fun w =>
            if w.isTrue a then
              (Machine.upTo (depth + 21)).evaluate scriptEnv (.call 1 (.name 1 "nl") [])
            else pure a := by
    with_unfolding_all rfl
  rw [hstart, runFrom_bind, evaluate_boundExpr]
  simp only
  rw [runFrom_bind, runFrom_get]
  cases comesBefore label with
  | false => exact ⟨.bool false, rfl⟩
  | true => exact ⟨.none, evaluate_nl label depth⟩

theorem execute_pathProgram :
    runFrom (World.start 4 label) ((Machine.upTo (depth + 23)).execute scriptEnv pathProgram) =
      (.ok .next, lineWritten 4 label (comesBefore label)) := by
  have hstart : (Machine.upTo (depth + 23)).execute scriptEnv pathProgram =
      executeAll (Machine.upTo (depth + 22)) scriptEnv pathProgram := by
    with_unfolding_all rfl
  obtain ⟨v, hv⟩ := evaluate_both label depth
  rw [hstart, pathProgram, executeAll, runFrom_bind, executeStep, runFrom_bind, hv]
  rfl

theorem runFrom_pathProgram :
    runFrom (World.start 4 label) (runProgram pathProgram) =
      (.ok (), lineWritten 4 label (comesBefore label)) := by
  have hpatience : patience = 9999977 + 23 := rfl
  have hrun := execute_pathProgram label 9999977
  have hstart : runProgram pathProgram = get >>= fun w =>
      machine.execute { inSegment := false, globals := w.home } pathProgram >>= fun _ =>
        pure () := rfl
  have hhome : (World.start 4 label).home = 0 := rfl
  rw [scriptEnv] at hrun
  rw [hstart, machine, hpatience, runFrom_bind, runFrom_get]
  simp only [hhome]
  rw [runFrom_bind, hrun]
  rfl

end

/-! ### What it generates -/

theorem finish_lineWritten (label path : String) (d : Directive) (written : Bool) :
    (finish label path [] d (lineWritten 4 label written)).1.toOption.map Outcome.artifact? =
      some (some (if written then ['\n'] else [])) := by
  cases written with
  | false => with_unfolding_all rfl
  | true => with_unfolding_all rfl

theorem generatedAt_pathScript {config : Config} (hwidth : config.width = 4)
    (hmemory : config.memory = .usual) {path : String} (hpath : '\x00' ∉ path.toList)
    (before : Nat) :
    generatedAt config path pathScript before =
      some (some (if comesBefore (Fault.pathOrMemory path ++ ":" ++ toString ((before : Int) + 1))
        then ['\n'] else [])) := by
  have hlabel := contains_null_label hpath before
  rw [generatedAt, regenerateWith]
  simp only [runScript, compileLabelled, hlabel, Bool.false_eq_true, if_false,
    compileScript_pathScript, hwidth, hmemory]
  rw [Nat.cast_ofNat, runFrom_pathProgram]
  simp only
  exact finish_lineWritten _ _ _ _

theorem toList_shownHead :
    "<BoundTemplate Template('', '') in b".toList = shownHead.toList ++ ['b'] := by
  decide +kernel

/-- Only the first character of the label counts if it is not that of the bound. -/
theorem comesBefore_eq {label : String} {c : Char} {rest : List Char}
    (hlabel : label.toList = c :: rest) (hc : c ≠ 'b') : comesBefore label = decide (c < 'b') := by
  have hshown : (String.ofList (shownHead ++ label ++ ">").toList).toList =
      shownHead.toList ++ c :: (rest ++ ['>']) := by
    simp [hlabel]
  have hless : (String.ofList (shownHead ++ label ++ ">").toList) <
      "<BoundTemplate Template('', '') in b" ↔ c < 'b' := by
    rw [String.lt_iff, hshown, toList_shownHead]
    constructor
    · intro h
      by_contra hnot
      have hgt : 'b' < c := lt_of_le_of_ne (not_lt.mp hnot) hc.symm
      have hback : shownHead.toList ++ ['b'] < shownHead.toList ++ c :: (rest ++ ['>']) :=
        List.append_left_lt (List.Lex.rel hgt)
      exact absurd h (List.lt_asymm hback)
    · intro h
      exact List.append_left_lt (List.Lex.rel h)
  rw [comesBefore, compareTexts, compareOfLessAndEq]
  by_cases h : c < 'b'
  · rw [if_pos (hless.mpr h), decide_eq_true h]
    rfl
  · rw [if_neg (fun hlt => h (hless.mp hlt)), decide_eq_false h]
    split <;> rfl

/-- Under a path that starts with another character than that of the bound, the script gives the
same wherever its directive stands. -/
theorem generatedAt_pathScript_of_head {config : Config} (hwidth : config.width = 4)
    (hmemory : config.memory = .usual) {path : String} (hpath : '\x00' ∉ path.toList)
    {c : Char} {rest : List Char}
    (hhead : path.toList = c :: rest) (hc : c ≠ 'b') (before : Nat) :
    generatedAt config path pathScript before =
      some (some (if c < 'b' then ['\n'] else [])) := by
  have hnonempty : path.isEmpty = false := by
    rw [Bool.eq_false_iff, ne_eq, String.isEmpty_iff]
    rintro rfl
    simp at hhead
  have hlabel : (Fault.pathOrMemory path ++ ":" ++ toString ((before : Int) + 1)).toList =
      c :: (rest ++ ":".toList ++ (toString ((before : Int) + 1)).toList) := by
    rw [Fault.pathOrMemory, hnonempty]
    simp [hhead]
  rw [generatedAt_pathScript hwidth hmemory hpath, comesBefore_eq hlabel hc]
  simp

end Codeweave.Directive
