import Codeweave.Proofs.Command.Prediction
import Codeweave.Proofs.Command.Prefilter

/-!
Commands that leave out texts without an opener, held against commands that work on every text.
Working on a text that is left out changes no file and writes no line: all it adds is the record
that no directive was found in it.
-/

namespace Codeweave.Command

open Directive

/-! ### Commands that work on every text -/

def anyTextOf (p : Path) : Work (Option (List Char)) := do
  match (← get).tree.readText p with
  | .ok text => pure (some text)
  | .error .undecodable => do
    report [skipNote p]
    pure none
  | .error e => throw (.ofFile e)

/-- Works on one file, whether or not it holds an opener. -/
def onAnyFile (suffixes : List (Option String)) (step : Path → List Char → Work Bool) (p : Path) :
    Work Bool := do
  if isLeftOut suffixes p then pure true
  else
    match ← anyTextOf p with
    | none => pure true
    | some text => tolerant p (step p text)

/-- Carries out a command on every text. -/
def performOnAny (inv : Invocation) : Work Nat := do
  let step ← match inv.verb with
    | .scan => pure scanStep
    | .regen => do pure (regenerateStep (← configOf inv) false)
    | .check => do pure (regenerateStep (← configOf inv) true)
  let well ← onPaths (onAnyFile inv.suffixes step) (inv.paths.map Path.ofString)
  pure (if well then 0 else 1)

def runOnAny (tree : FileTree) (inv : Invocation) : Except Escape Nat × FileTree × Journal :=
  let (result, desk) := workFrom { tree := tree } (performOnAny inv)
  (result, desk.tree, desk.said)

theorem workFrom_onAnyFile (suffixes : List (Option String))
    (step : Path → List Char → Work Bool) (p : Path) (d : Desk) :
    workFrom d (onAnyFile suffixes step p) =
      if isLeftOut suffixes p then (.ok true, d)
      else
        match d.tree.readText p with
        | .ok text => workFrom d (tolerant p (step p text))
        | .error .undecodable => (.ok true, { d with said := d.said ++ [skipNote p] })
        | .error e => (.error (.ofFile e), d) := by
  rw [onAnyFile]
  split
  · rfl
  · rw [workFrom_bind, anyTextOf, workFrom_bind, workFrom_get]
    simp only
    rcases d.tree.readText p with e | text
    · cases e <;> rfl
    · rfl

/-! ### What is said of a text without directives -/

def foundNone : Event :=
  .remark (found [])

/-- A journal without the records of texts in which no directive was found. -/
def noted (said : Journal) : Journal :=
  said.filter (· != foundNone)

theorem noted_append (first second : Journal) :
    noted (first ++ second) = noted first ++ noted second :=
  List.filter_append ..

theorem noted_foundNone : noted [foundNone] = [] := by
  simp [noted]

theorem noted_cons (event : Event) (rest : Journal) :
    noted (event :: rest) = if event = foundNone then noted rest else event :: noted rest := by
  by_cases h : event = foundNone <;> simp [noted, h]

theorem join_cons (s : String) (rest : List String) :
    String.join (s :: rest) = s ++ String.join rest := by
  apply String.toList_inj.mp
  simp [String.toList_join]

theorem outputText_cons (event : Event) (rest : Journal) :
    Journal.outputText (event :: rest) =
      Journal.outputText [event] ++ Journal.outputText rest := by
  simp only [Journal.outputText, List.map_cons, List.map_nil, join_cons, String.join_nil,
    String.append_empty]

theorem outputText_noted (said : Journal) :
    Journal.outputText (noted said) = Journal.outputText said := by
  induction said with
  | nil => rfl
  | cons event rest ih =>
      rw [noted_cons, outputText_cons event rest]
      split
      · rename_i hnone
        subst hnone
        rw [ih, show Journal.outputText [foundNone] = "" from rfl, String.empty_append]
      · rw [outputText_cons, ih]

/-- What an event adds to the error output, once it is known which templates are recorded. -/
def errorLine (threshold : Level) : Event → String
  | .err line => line ++ "\n"
  | event => ((Journal.logLine? threshold event).map (· ++ "\n")).getD ""

theorem errorText_eq (threshold : Level) (said : Journal) :
    Journal.errorText threshold said =
      String.join ((Journal.settle [] said).map (errorLine threshold)) := rfl

theorem errorLine_foundNone {threshold : Level} (h : threshold ≠ .debug) :
    errorLine threshold foundNone = "" := by
  cases threshold with
  | debug => exact absurd rfl h
  | _ => rfl

theorem settle_foundNone (recent : List Pattern) (rest : Journal) :
    Journal.settle recent (foundNone :: rest) = foundNone :: Journal.settle recent rest := by
  rw [foundNone, found, Journal.settle]
  intro pattern segments hcompiled
  cases hcompiled

theorem errorText_noted {threshold : Level} (h : threshold ≠ .debug) (said : Journal) :
    Journal.errorText threshold (noted said) = Journal.errorText threshold said := by
  rw [errorText_eq, errorText_eq]
  -- a record of a compiled template changes which templates are recent
  generalize ([] : List Pattern) = recent
  induction said generalizing recent with
  | nil => rfl
  | cons event rest ih =>
      rw [noted_cons]
      split
      · rename_i hnone
        subst hnone
        rw [settle_foundNone, List.map_cons, join_cons, errorLine_foundNone h,
          String.empty_append, ih]
      · cases event with
        | out line => simp only [Journal.settle, List.map_cons, join_cons, ih]
        | err line => simp only [Journal.settle, List.map_cons, join_cons, ih]
        | remark remark =>
            cases remark with
            | compiled pattern segments =>
                simp only [Journal.settle]
                split <;> simp only [List.map_cons, join_cons, ih]
            | log level origin message => simp only [Journal.settle, List.map_cons, join_cons, ih]
            | printed text => simp only [Journal.settle, List.map_cons, join_cons, ih]

/-! ### Desks that match -/

/-- The trees are the same, and the same was said but for texts without directives. -/
structure Matches (d d' : Desk) : Prop where
  tree : d.tree = d'.tree
  said : noted d.said = noted d'.said

/-- From desks that match, the steps have the same result and lead to desks that match. -/
def Tallies {α : Type} (step step' : Work α) : Prop :=
  ∀ d d', Matches d d' → (workFrom d step).1 = (workFrom d' step').1 ∧
    Matches (workFrom d step).2 (workFrom d' step').2

section

variable {α β : Type}

theorem tallies_pure (a : α) : Tallies (pure a) (pure a) :=
  fun _ _ h => ⟨rfl, h⟩

theorem tallies_throw (escape : Escape) : Tallies (throw escape : Work α) (throw escape) :=
  fun _ _ h => ⟨rfl, h⟩

theorem Tallies.bind {step step' : Work α} {next next' : α → Work β} (hstep : Tallies step step')
    (hnext : ∀ a, Tallies (next a) (next' a)) : Tallies (step >>= next) (step' >>= next') := by
  intro d d' hmatch
  obtain ⟨hresult, hdesks⟩ := hstep d d' hmatch
  rw [workFrom_bind, workFrom_bind]
  rcases hfirst : workFrom d step with ⟨escape | a, d₁⟩ <;>
    rcases hsecond : workFrom d' step' with ⟨escape' | a', d₁'⟩ <;>
    rw [hfirst, hsecond] at hresult hdesks <;> cases hresult
  · exact ⟨rfl, hdesks⟩
  · exact hnext a d₁ d₁' hdesks

/-- A step tallies with itself if its result and what it adds depend on nothing but the tree. -/
theorem tallies_self {step : Work α} (told : FileTree → Except Escape α × FileTree × Journal)
    (h : ∀ d, workFrom d step =
      ((told d.tree).1, ⟨(told d.tree).2.1, d.said ++ (told d.tree).2.2⟩)) :
    Tallies step step := by
  rintro d d' ⟨htree, hsaid⟩
  rw [h, h, htree]
  refine ⟨rfl, rfl, ?_⟩
  simp only [noted_append, hsaid]

end

theorem Tallies.tolerant {step step' : Work Bool} (h : Tallies step step') (p : Path) :
    Tallies (tolerant p step) (tolerant p step') := by
  intro d d' hmatch
  obtain ⟨hresult, htree, hsaid⟩ := h d d' hmatch
  rw [workFrom_tolerant, workFrom_tolerant]
  rcases hfirst : workFrom d step with ⟨escape | well, d₁⟩ <;>
    rcases hsecond : workFrom d' step' with ⟨escape' | well', d₁'⟩ <;>
    rw [hfirst, hsecond] at hresult htree hsaid <;> cases hresult
  · cases escape with
    | fault fault =>
        refine ⟨rfl, htree, ?_⟩
        simp only [noted_append]
        rw [hsaid]
    | _ => exact ⟨rfl, htree, hsaid⟩
  · exact ⟨rfl, htree, hsaid⟩

section

variable {work work' : Path → Work Bool} (h : ∀ p, Tallies (work p) (work' p))

include h

theorem Tallies.onFiles (paths : List Path) :
    Tallies (onFiles work paths) (onFiles work' paths) := by
  induction paths with
  | nil => exact tallies_pure true
  | cons p rest ih => exact (h p).bind fun _ => ih.bind fun _ => tallies_pure _

theorem Tallies.onPaths (paths : List Path) :
    Tallies (onPaths work paths) (onPaths work' paths) := by
  induction paths with
  | nil => exact tallies_pure true
  | cons p rest ih =>
      intro d d' hmatch
      rw [Command.onPaths, Command.onPaths, workFrom_bind, workFrom_bind, workFrom_get,
        workFrom_get]
      simp only [← hmatch.tree]
      cases candidates d.tree p with
      | error e => exact tallies_throw _ d d' hmatch
      | ok paths =>
          have hfiles : Tallies
              (do
                let well ← Command.onFiles work paths
                let others ← Command.onPaths work rest
                pure (well && others))
              (do
                let well ← Command.onFiles work' paths
                let others ← Command.onPaths work' rest
                pure (well && others)) :=
            (Tallies.onFiles h paths).bind fun _ => ih.bind fun _ => tallies_pure _
          exact hfiles d d' hmatch

end

/-! ### Texts that are left out -/

section

variable {text : List Char} (hbare : holds opener text = false)

include hbare

theorem workFrom_regenerateStep_of_not_holds (config : Config) (check : Bool) (p : Path)
    (d : Desk) :
    workFrom d (regenerateStep config check p text) =
      (.ok true, { d with said := d.said ++ [foundNone] }) := by
  have hrun := regenerateSource_of_not_holds hbare config p.text
  have hsame : Report.changed ⟨Fault.pathOrMemory p.text, text, text, []⟩ = false := by
    simp [Report.changed]
  rw [workFrom_regenerateStep, regenerateFile_eq_of_kept, hrun]
  · simp [hsame, Report.ok, faultLines, foundNone]
  · rintro r hreport hchanged
    rw [hrun, Except.ok.injEq] at hreport
    subst hreport
    simp [hsame] at hchanged

theorem workFrom_scanStep_of_not_holds (p : Path) (d : Desk) :
    workFrom d (scanStep p text) = (.ok true, { d with said := d.said ++ [foundNone] }) := by
  rw [scanStep, scan_of_not_holds hbare]
  rfl

end

/-! ### Commands -/

/-- A step that tallies with itself, and that says of a text without an opener only that it has no
directives. -/
structure Overlooks (step : Path → List Char → Work Bool) : Prop where
  tallies : ∀ p text, Tallies (step p text) (step p text)
  bare : ∀ p text d, holds opener text = false →
    workFrom d (step p text) = (.ok true, { d with said := d.said ++ [foundNone] })

/-- What regenerating a text comes to in a tree: whether it is well, the tree afterwards, and what
is said. -/
def regenerated (config : Config) (check : Bool) (p : Path) (text : List Char) (t : FileTree) :
    Except Escape Bool × FileTree × List Event :=
  match t.regenerateFile config p check (some text) with
  | (.error escape, t, said) => (.error escape, t, said.map Event.remark)
  | (.ok r, t, said) =>
      (.ok (r.ok && !(check && r.changed)), t,
        said.map Event.remark ++ faultLines p r ++
          if r.changed then [.out ((if check then "Out of date: " else "Rewrote ") ++ p.text)]
          else [])

theorem overlooks_regenerateStep (config : Config) (check : Bool) :
    Overlooks (regenerateStep config check) := by
  constructor
  · intro p text
    refine tallies_self (regenerated config check p text) ?_
    intro d
    rw [workFrom_regenerateStep, regenerated]
    rcases d.tree.regenerateFile config p check (some text) with ⟨escape | r, t, said⟩
    · rfl
    · simp only [List.append_assoc]
  · intro p text d hbare
    exact workFrom_regenerateStep_of_not_holds hbare config check p d

theorem overlooks_scanStep : Overlooks scanStep := by
  constructor
  · intro p text
    rw [scanStep]
    cases scan text with
    | error broken => exact tallies_throw _
    | ok blocks =>
        refine Tallies.bind (tallies_self (fun t =>
          (.ok (), t, .remark (found blocks) :: blocks.map fun b => .out (listing p b))) ?_)
          fun _ => tallies_pure true
        intro d
        rw [workFrom_report]
  · intro p text d hbare
    exact workFrom_scanStep_of_not_holds hbare p d

theorem Overlooks.onFile {step : Path → List Char → Work Bool} (h : Overlooks step)
    (suffixes : List (Option String)) (p : Path) :
    Tallies (onFile suffixes step p) (onAnyFile suffixes step p) := by
  intro d d' hmatch
  rw [workFrom_onFile, workFrom_onAnyFile, ← hmatch.tree]
  cases isLeftOut suffixes p with
  | true => exact ⟨rfl, hmatch⟩
  | false =>
      cases d.tree.readText p with
      | error e =>
          cases e with
          | undecodable =>
              refine ⟨rfl, rfl, ?_⟩
              simp [noted_append, hmatch.said]
          | _ => exact ⟨rfl, hmatch⟩
      | ok text =>
          cases hholds : holds opener text with
          | true =>
              simp only [Bool.false_eq_true, if_false, if_true, hholds]
              exact (h.tallies p text).tolerant p d d' hmatch
          | false =>
              -- only the command that works on every text does something, which is to say so
              simp only [Bool.false_eq_true, if_false, hholds, workFrom_tolerant,
                h.bare p text d' hholds, true_and]
              refine ⟨hmatch.tree, ?_⟩
              simp [noted_append, noted_foundNone, hmatch.said]

theorem tallies_configOf (inv : Invocation) : Tallies (configOf inv) (configOf inv) := by
  intro d d' hmatch
  rw [workFrom_configOf, workFrom_configOf]
  exact ⟨rfl, hmatch⟩

theorem tallies_perform (inv : Invocation) : Tallies (perform inv) (performOnAny inv) := by
  have hall : ∀ {step : Path → List Char → Work Bool}, Overlooks step →
      Tallies
        (do
          let well ← onPaths (onFile inv.suffixes step) (inv.paths.map Path.ofString)
          pure (if well then 0 else 1))
        (do
          let well ← onPaths (onAnyFile inv.suffixes step) (inv.paths.map Path.ofString)
          pure (if well then 0 else 1)) := by
    intro step h
    exact (Tallies.onPaths (h.onFile inv.suffixes) _).bind fun _ => tallies_pure _
  rw [perform, performOnAny]
  cases inv.verb with
  | scan => exact hall overlooks_scanStep
  | regen =>
      simp only [pure_bind]
      exact (tallies_configOf inv).bind fun config => hall (overlooks_regenerateStep config false)
  | check =>
      simp only [pure_bind]
      exact (tallies_configOf inv).bind fun config => hall (overlooks_regenerateStep config true)

/-- A text without an opener has no directives and is regenerated as it is. So a command that
leaves such texts out has the status, the tree and the output of one that works on every text, and
its error output too unless it shows everything. -/
theorem run_eq_runOnAny :
    (∀ text, holds opener text = false →
      scan text = .ok [] ∧
        ∀ config path, ∃ r, (regenerateSource config path text).1 = .ok r ∧ r.text = text) ∧
    ∀ (tree : FileTree) (inv : Invocation),
      (run tree inv).1 = (runOnAny tree inv).1 ∧
        (run tree inv).2.1 = (runOnAny tree inv).2.1 ∧
        noted (run tree inv).2.2 = noted (runOnAny tree inv).2.2 ∧
        Journal.outputText (run tree inv).2.2 = Journal.outputText (runOnAny tree inv).2.2 ∧
        ∀ threshold : Level, threshold ≠ .debug →
          Journal.errorText threshold (run tree inv).2.2 =
            Journal.errorText threshold (runOnAny tree inv).2.2 := by
  constructor
  · intro text hbare
    refine ⟨scan_of_not_holds hbare, fun config path => ?_⟩
    rw [regenerateSource_of_not_holds hbare]
    exact ⟨_, rfl, rfl⟩
  · intro tree inv
    obtain ⟨hresult, htree, hsaid⟩ :=
      tallies_perform inv { tree := tree } { tree := tree } ⟨rfl, rfl⟩
    refine ⟨hresult, htree, hsaid, ?_, fun threshold hshown => ?_⟩
    · rw [← outputText_noted, ← outputText_noted (runOnAny tree inv).2.2]
      exact congrArg Journal.outputText hsaid
    · rw [← errorText_noted hshown, ← errorText_noted hshown (runOnAny tree inv).2.2]
      exact congrArg (Journal.errorText threshold) hsaid

/-- A text with half an opener, and a command that shows errors only. -/
theorem run_eq_runOnAny_half :
    (scan "/*!\n".toList = .ok [] ∧
      ∀ config path, ∃ r, (regenerateSource config path "/*!\n".toList).1 = .ok r ∧
        r.text = "/*!\n".toList) ∧
    ∀ (tree : FileTree) (inv : Invocation),
      Journal.errorText .error (run tree inv).2.2 =
        Journal.errorText .error (runOnAny tree inv).2.2 := by
  refine ⟨run_eq_runOnAny.1 _ (by decide), fun tree inv => ?_⟩
  exact (run_eq_runOnAny.2 tree inv).2.2.2.2 .error (by decide)

end Codeweave.Command
