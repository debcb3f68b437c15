import Codeweave.Proofs.Directive.Containment
import Codeweave.Proofs.Directive.Idempotence
import Codeweave.Proofs.Directive.Change
import Codeweave.Proofs.Script.Output
import Codeweave.Proofs.Script.SteadyRun

/-!
Where a directive stands. A script can learn the line of its directive from the name of its run,
which is part of the text that a template is shown as, and it can end in an error of the parser
that names the file of a script. A script that does neither gives the same wherever its directive
stands.
-/

namespace Codeweave

/-- What ends an operation, without what it says. -/
def Escape.silent : Escape → Escape
  | .raised c _ => .raised c ""
  | escape => escape

namespace Directive

open Script

/-- Is it an error of the parser that names the file of some script? -/
def namesScript : Problem → Bool
  | .plain _ _ (some (.place (.text file :: _))) => "<litgen ".toList.isPrefixOf file.toList
  | _ => false

/-- Does a script end in an error that names the file of some script, or in a fault caused by one?
-/
def endsNamingScript (w : World) : Except Stop Unit → Bool
  | .error (.raised { problem := .fault _ { cause := some cause, .. }, .. }) =>
    namesScript (w.problemAt cause)
  | .error (.raised e) => namesScript e.problem
  | _ => false

/-- Does the script make use of its place? A run that does not know its name wants the name or more
than is followed, or ends in an error that names the file of some script. What is written into the
log is not asked for. -/
def usesPlace (config : Config) (script : List Char) : Bool :=
  match compileScript (Text.dedent script) with
  | .ok program =>
    let (ending, w) := runFrom (World.start config.width none config.memory) (runProgram program)
    w.wanted || endsNamingScript w ending
  | .error _ => false

/-- What a directive gives: the text for its region, the levels of indentation left open, and the
kind of fault held against it. -/
structure Verdict where
  artifact? : Option (List Char)
  openIndent : Nat
  faultKind? : Option String
deriving DecidableEq

def Outcome.verdict (o : Outcome) : Verdict :=
  ⟨o.artifact?, o.openIndent, o.fault?.map (·.cause.kind)⟩

/-- What a directive gives, or what ends the operation. -/
def verdict (result : Except Escape Outcome) : Except Escape Verdict :=
  (result.map Outcome.verdict).mapError Escape.silent

def moved (d : Directive) (line scriptLine : Int) : Directive :=
  { d with line := line, scriptLine := scriptLine }

/-! ### Runs that stop -/

theorem lineTold_scriptFile {problem : Problem} (hnames : namesScript problem = false)
    (label : String) (frames : List Frame) :
    lineTold (scriptFile label) problem frames = .passed (scriptLine? frames) := by
  rw [lineTold.eq_def]
  split
  · rename_i file line rest
    rw [if_neg]
    rintro hfile
    obtain rfl := beq_iff_eq.mp hfile
    simp [namesScript, scriptFile] at hnames
  · rfl

/-- An error that names no script says the same of its line under every name. -/
theorem exists_toldLine_eq_passed {w : World} {e : Raised}
    (hnames : endsNamingScript w (.error (.raised e)) = false) :
    ∃ line?, ∀ label journal,
      toldLine (scriptFile label) (w.named label journal) e = .passed line? := by
  obtain ⟨⟨c, arguments, detail⟩ | ⟨fault, cause | cause, missing⟩, frames, address⟩ := e
  · exact ⟨_, fun label _ => lineTold_scriptFile hnames label frames⟩
  · exact ⟨_, fun label _ => rfl⟩
  · have htold (label : String) (journal : Array Remark) :
        lineTold (scriptFile label) ((w.named label journal).problemAt cause)
          ((w.named label journal).framesAt cause) = .passed (scriptLine? (w.framesAt cause)) :=
      lineTold_scriptFile hnames label _
    refine ⟨if (scriptLine? (w.framesAt cause)).any (0 < ·) then scriptLine? (w.framesAt cause)
      else scriptLine? frames, fun label journal => ?_⟩
    simp only [toldLine, htold, LineTold.isSaid]
    split <;> rfl

section

variable (d d' : Directive) (w : World) (label label' : String) (journal journal' : Array Remark)

/-- What a problem does to its directive does not depend on the name of the run. -/
theorem verdict_blame (problem : Problem) (line line' : Int) (warnings warnings' : List Fault) :
    verdict ((blame (w.named label' journal') problem).map fun fault =>
        ⟨.error { fault with line := some line' }, warnings', 0⟩) =
      verdict ((blame (w.named label journal) problem).map fun fault =>
        ⟨.error { fault with line := some line }, warnings, 0⟩) := by
  cases problem with
  | fault fault origin => rfl
  | plain c arguments detail =>
      have hend := sameEnd_plainText w label label' journal journal' c arguments detail
      rw [blame, blame]
      cases isContained c with
      | false =>
          simp only [Bool.false_eq_true, if_false, Except.map, verdict, Except.mapError,
            Escape.silent]
      | true =>
          cases h : (w.named label journal).plainText c arguments detail <;>
            cases h' : (w.named label' journal').plainText c arguments detail <;>
            simp_all [SameEnd, Except.map, verdict, Except.mapError, Outcome.verdict,
              Outcome.artifact?, Outcome.fault?, Except.toOption, Cause.kind]

theorem exists_tellLine_passed (d : Directive) (line? : Option Nat) :
    ∃ line, ∀ w, tellLine d w (.passed line?) = .ok line := by
  refine ⟨if line?.any (0 < ·) then sourceLine d (line?.map Int.ofNat) else sourceLine d none,
    fun w => ?_⟩
  rw [tellLine, LineTold.isSaid]
  split <;> rfl

theorem verdict_stopFault {stop : Stop} (hnames : endsNamingScript w (.error stop) = false)
    (warnings warnings' : List Fault) :
    verdict ((stopFault label' d' (w.named label' journal') stop).map fun fault =>
        ⟨.error fault, warnings', 0⟩) =
      verdict ((stopFault label d (w.named label journal) stop).map fun fault =>
        ⟨.error fault, warnings, 0⟩) := by
  cases stop with
  | abandoned => rfl
  | raised e =>
      obtain ⟨line?, htold⟩ := exists_toldLine_eq_passed hnames
      obtain ⟨line, hline⟩ := exists_tellLine_passed d line?
      obtain ⟨line', hline'⟩ := exists_tellLine_passed d' line?
      have hmap {result : Except Escape Fault} {line : Int} {warnings : List Fault} :
          (Except.map (fun fault => (⟨.error fault, warnings, 0⟩ : Outcome))
            (result >>= fun fault => .ok { fault with line := some line })) =
            result.map fun fault => ⟨.error { fault with line := some line }, warnings, 0⟩ := by
        cases result <;> rfl
      rw [stopFault, stopFault, htold, htold, hline, hline']
      exact (congrArg verdict hmap).trans
        ((verdict_blame w label label' journal journal' e.problem line line' _ _).trans
          (congrArg verdict hmap).symm)

end

theorem silent_stopEscape (w w' : World) (stop : Stop) :
    (stopEscape w' stop).silent = (stopEscape w stop).silent := by
  rcases stop with ⟨⟨c, arguments, missing⟩ | ⟨fault, causeFrames⟩, frames, address⟩ | - <;>
    simp only [stopEscape, Escape.silent]

/-! ### Runs that end -/

theorem wanted_finishOutput (w : World) : (runFrom w finishOutput).2.wanted = w.wanted := by
  have hflushed (w : World) : (runFrom w flushedOutput).2.wanted = w.wanted := by
    rw [flushedOutput, runFrom_bind, runFrom_get]
    simp only
    split <;> rfl
  rw [finishOutput_eq, runFrom_bind, runFrom_get]
  simp only
  split
  · exact hflushed w
  · rw [runFrom_bind, runFrom_newlineOutput]
    by_cases hfits : Fits w.memory w.builder.nextLead
    · rw [if_pos hfits]
      exact hflushed _
    · rw [if_neg hfits]
      rfl

section

variable (path : String) (warnings warnings' : List Fault) (d d' : Directive) {w : World}
  (label label' : String) (journal journal' : Array Remark)

theorem verdict_finish (hlabel : w.label = none) (hwanted : w.wanted = false) :
    verdict (finish label' path warnings' d' (w.named label' journal')).1 =
      verdict (finish label path warnings d (w.named label journal)).1 := by
  obtain ⟨-, hsame⟩ :=
    (inferInstance : Steady finishOutput).named { w with journal := #[] } hlabel
  obtain ⟨-, hsame⟩ := hsame ((wanted_finishOutput _).trans hwanted)
  obtain ⟨_, hrun⟩ := hsame label #[]
  obtain ⟨_, hrun'⟩ := hsame label' #[]
  have hfresh (label : String) (journal : Array Remark) :
      { w.named label journal with journal := #[] } =
        ({ w with journal := #[] } : World).named label #[] := rfl
  rw [finish, finish]
  simp only [hfresh, hrun, hrun']
  rcases runFrom { w with journal := #[] } finishOutput with ⟨stop | artifact, w'⟩
  · exact congrArg Except.error (silent_stopEscape ..)
  · simp only
    split <;> rfl

end

theorem verdict_regenerateWith {config : Config} (path : String) (warnings warnings' : List Fault)
    {d d' : Directive} (hscript : d'.script = d.script)
    (hplace : usesPlace config d.script = false) :
    verdict (regenerateWith config path warnings' d').1 =
      verdict (regenerateWith config path warnings d).1 := by
  rw [regenerateWith, regenerateWith, runScript, runScript, compileLabelled, compileLabelled,
    hscript]
  simp only [contains_null_labelled]
  cases path.toList.contains '\x00' with
  | true => rfl
  | false =>
      rw [usesPlace] at hplace
      cases hcompile : compileScript (Text.dedent d.script) with
      | error e => rfl
      | ok program =>
          rw [hcompile] at hplace
          simp only [Bool.or_eq_false_iff] at hplace
          obtain ⟨hwanted, hnames⟩ := hplace
          have hlabelOf (d : Directive) :
              Fault.pathOrMemory path ++ ":" ++ toString d.line = labelOf path d := rfl
          have hstart (label : String) : World.start config.width (some label) config.memory =
              (World.start config.width none config.memory).named label #[] := rfl
          obtain ⟨hlabel, hsame⟩ :=
            (inferInstance : Steady (runProgram program)).named
              (World.start config.width none config.memory) rfl
          obtain ⟨-, hsame⟩ := hsame hwanted
          obtain ⟨journal, hrun⟩ := hsame (labelOf path d) #[]
          obtain ⟨journal', hrun'⟩ := hsame (labelOf path d') #[]
          simp only [hlabelOf, Bool.false_eq_true, if_false, hstart, hrun, hrun']
          rcases hend : runFrom (World.start config.width none config.memory) (runProgram program)
            with ⟨stop | _, w⟩ <;> rw [hend] at hlabel hwanted hnames <;> dsimp only
          · have hfault := verdict_stopFault d d' w (labelOf path d) (labelOf path d') journal
              journal' hnames warnings warnings'
            generalize stopFault _ d _ stop = held at hfault ⊢
            generalize stopFault _ d' _ stop = held' at hfault ⊢
            cases held <;> cases held' <;> exact hfault
          · exact verdict_finish path warnings warnings' d d' _ _ journal journal' hlabel hwanted

/-! ### Directives in other places -/

theorem drift?_moved (config : Config) (d : Directive) (line scriptLine : Int) :
    drift? config (moved d line scriptLine) =
      (drift? config d).map fun fault => { fault with line := some line } := by
  have hcount : (moved d line scriptLine).lineCount = d.lineCount := rfl
  have hdeclared : (moved d line scriptLine).declared = d.declared := rfl
  rw [drift?, drift?, hdeclared, hcount]
  cases d.declared with
  | none => rfl
  | some declared =>
      simp only
      split <;> rfl

theorem verdict_regenerate_moved {config : Config} (path : String) {d : Directive}
    (hplace : usesPlace config d.script = false) (line scriptLine : Int) :
    verdict (regenerate config path (moved d line scriptLine)).1 =
      verdict (regenerate config path d).1 := by
  rw [regenerate, regenerate, drift?_moved]
  cases hdrift : drift? config d with
  | none => exact verdict_regenerateWith path [] [] rfl hplace
  | some fault =>
      simp only [Option.map_some]
      split
      · rfl
      · exact verdict_regenerateWith path _ _ rfl hplace

theorem artifact?_of_verdict {result result' : Except Escape Outcome}
    (h : verdict result' = verdict result) :
    result'.toOption.map Outcome.artifact? = result.toOption.map Outcome.artifact? := by
  cases result <;> cases result' <;>
    simp_all [verdict, Except.map, Except.mapError, Except.toOption, Outcome.verdict]

theorem lineIndependent_of_usesPlace {config : Config} (path : String) {script : List Char}
    (hplace : usesPlace config script = false) : LineIndependent config path script :=
  fun _ _ => artifact?_of_verdict (verdict_regenerateWith path [] [] rfl hplace)

/-! ### The next run -/

section

variable {config : Config} {path : String} {source : List Char} {report again : Report}

theorem ResultOf.upToDate_renewed {r r' : Block × Outcome} {w : Written}
    (h : ResultOf config path source r w)
    (h' : ResultOf config path report.text r'
      (w.renewed config (newlineOf source) r.2.artifact?))
    (hnewline : newlineOf report.text = newlineOf source)
    (hfirst : ∀ region ∈ w.region, region.first.getLast? ≠ some '\r')
    (hplace : usesPlace config r.1.script = false) :
    r'.2.artifact? = r.2.artifact? ∧ UpToDate config report.text r' := by
  obtain ⟨o, hrun, hartifact⟩ :=
    h.regenerate_renewed (lineIndependent_of_usesPlace path hplace) h'.shows
  rw [h'.outcome, Except.ok.injEq] at hrun
  have hsame : r'.2.artifact? = r.2.artifact? := by rw [hrun, hartifact]
  refine ⟨hsame, h'.upToDate_iff.mpr ?_⟩
  rw [hsame, hnewline]
  exact Directive.upToDate_renewed hfirst _

theorem upToDate_of_renewed {results results' : List (Block × Outcome)} {ws : List Written}
    (h : List.Forall₂ (ResultOf config path source) results ws)
    (h' : List.Forall₂ (ResultOf config path report.text) results'
      (List.zipWith (fun w artifact => w.renewed config (newlineOf source) artifact) ws
        (artifactsOf results)))
    (hnewline : newlineOf report.text = newlineOf source)
    (hfirst : ∀ w ∈ ws, ∀ region ∈ w.region, region.first.getLast? ≠ some '\r') :
    List.Forall₂ (fun r r' => usesPlace config r.1.script = false →
      r'.2.artifact? = r.2.artifact? ∧ UpToDate config report.text r') results results' := by
  induction h generalizing results' with
  | nil =>
      obtain rfl := List.forall₂_nil_right_iff.mp h'
      exact .nil
  | cons hr _ ih =>
      obtain ⟨r', results', hr', hrest, rfl⟩ := List.forall₂_cons_right_iff.mp h'
      rw [List.forall_mem_cons] at hfirst
      exact .cons (hr.upToDate_renewed hr' hnewline hfirst.1) (ih hrest hfirst.2)

end

/-- A script that makes no use of its place gives the same text, leaves the same levels open and
fails with the same kind of fault wherever its directive stands. So whatever is put in above its
directive, the next run generates for it what stands in its region already. -/
theorem verdict_independent_of_place (config : Config) (path : String) :
    (∀ (d : Directive) (line scriptLine line' scriptLine' : Int),
      usesPlace config d.script = false →
        verdict (regenerate config path (moved d line' scriptLine')).1 =
          verdict (regenerate config path (moved d line scriptLine)).1) ∧
    ∀ source report again, (regenerateSource config path source).1 = .ok report →
      (∀ r ∈ report.results, EndsPlainly (source.take r.1.insertAt)) →
      (∀ r ∈ report.results, ∀ span ∈ r.1.generated,
        (source.take span.start).getLast? ≠ some '\r') →
      (regenerateSource config path report.text).1 = .ok again →
      List.Forall₂ (fun r r' => usesPlace config r.1.script = false →
        r'.2.artifact? = r.2.artifact? ∧ UpToDate config report.text r')
        report.results again.results := by
  constructor
  · intro d line scriptLine line' scriptLine' hplace
    exact (verdict_regenerate_moved path hplace line' scriptLine').trans
      (verdict_regenerate_moved path hplace line scriptLine).symm
  · intro source report again hrun hplain hbegin hagain
    obtain ⟨ps, htells⟩ := exists_tells hrun
    obtain ⟨qs, htells'⟩ := exists_tells hagain
    have hfirst := first_of_results htells.results hbegin
    obtain rfl := (htells.parted_text fun r hr _ => hplain r hr).unique htells'.parted
    have hresults := htells'.results
    rw [writtenOf_renew _ _ htells.length_artifactsOf] at hresults
    exact upToDate_of_renewed htells.results hresults (htells.newlineOf_text hplain hfirst) hfirst

def newlineScript : List Char :=
  "nl()\n".toList

/-- The second directive moves when the first gets its region. -/
def newlineTwice : List Char :=
  "/*!!\nnl()\n!! */\n/*!!\nnl()\n!! */\n".toList

theorem usesPlace_newlineScript : usesPlace {} newlineScript = false := by decide +kernel

/-- Does a run come to its end with plain closers and regions for the one script, and so does the
next run? -/
def comesToRest (result : Except Escape Report) (source : List Char) : Bool :=
  match result with
  | .error _ => false
  | .ok report =>
      report.results.all (fun r => decide (EndsPlainly (source.take r.1.insertAt)) &&
        r.1.generated.isNone && r.1.script == newlineScript) &&
        (regenerateSource {} "" report.text).1.isOk

theorem verdict_independent_of_place_newlineTwice :
    (∀ line scriptLine : Int, verdict (regenerate {} ""
        (moved { script := newlineScript, declared := none } line scriptLine)).1 =
      verdict (regenerate {} "" (moved { script := newlineScript, declared := none } 1 2)).1) ∧
    ∃ report again, (regenerateSource {} "" newlineTwice).1 = .ok report ∧
      (regenerateSource {} "" report.text).1 = .ok again ∧
      List.Forall₂ (fun r r' => r'.2.artifact? = r.2.artifact? ∧ UpToDate {} report.text r')
        report.results again.results := by
  refine ⟨fun line scriptLine => (verdict_independent_of_place {} "").1 _ 1 2 line scriptLine
    usesPlace_newlineScript, ?_⟩
  have hrests : comesToRest (regenerateSource {} "" newlineTwice).1 newlineTwice = true := by
    decide +kernel
  rcases hrun : (regenerateSource {} "" newlineTwice).1 with escape | report
  · simp [hrun, comesToRest] at hrests
  · rw [hrun, comesToRest] at hrests
    simp only [Bool.and_eq_true, List.all_eq_true, decide_eq_true_eq, Option.isNone_iff_eq_none,
      beq_iff_eq] at hrests
    obtain ⟨hresults, hagain⟩ := hrests
    rcases hnext : (regenerateSource {} "" report.text).1 with escape | again
    · simp [hnext, Except.isOk, Except.toBool] at hagain
    · have hpairs := (verdict_independent_of_place {} "").2 newlineTwice report again hrun
        (fun r hr => (hresults r hr).1.1) (fun r hr => by simp [(hresults r hr).1.2]) hnext
      have hplace : ∀ r ∈ report.results, usesPlace {} r.1.script = false := by
        intro r hr
        rw [(hresults r hr).2]
        exact usesPlace_newlineScript
      exact ⟨report, again, rfl, hnext,
        ((List.forall₂_and_left _ _).mpr ⟨hplace, hpairs⟩).imp fun _ _ h => h.2 h.1⟩

def placeScript : List Char :=
  "template(str(template('x')))()\n".toList

/-- A script that shows a template tells the line of its directive. -/
theorem verdict_depends_on_place :
    verdict (regenerate {} "" (moved { script := placeScript, declared := none } 4 2)).1 ≠
      verdict (regenerate {} "" (moved { script := placeScript, declared := none } 1 2)).1 := by
  intro hsame
  have hartifact := artifact?_of_verdict hsame
  revert hartifact
  decide +kernel

end Directive

end Codeweave
