import Codeweave.Proofs.Command.Visit

/-!
What checking tells about regenerating. Checking and listing change no file, and checking finds all
well exactly when regenerating finds all well and writes nothing.
-/

namespace Codeweave.Command

open Directive

/-- No file was written: each file that is written is told. -/
def WroteNothing (said : Journal) : Prop :=
  ∀ p : Path, Event.out ("Rewrote " ++ p.text) ∉ said

/-- The lines that were added tell of files that were written. -/
def TellsWriting (d d' : Desk) : Prop :=
  ∀ line, Event.out line ∈ d'.said →
    Event.out line ∈ d.said ∨ ∃ p : Path, line = "Rewrote " ++ p.text

instance : Std.Refl TellsWriting := ⟨fun _ _ hline => Or.inl hline⟩

instance : IsTrans Desk TellsWriting := by
  refine ⟨fun d d' d'' hfirst hsecond line hline => ?_⟩
  rcases hsecond line hline with hmem | hwrote
  · exact hfirst line hmem
  · exact Or.inr hwrote

/-! ### Single files -/

section

variable {R : Desk → Desk → Prop}

theorem Leads.tolerant [IsTrans Desk R] {p : Path} {step : Work Bool} (hstep : Leads R step)
    (htold : ∀ fault : Fault, Leads R (report [.err (fault.describe p.text)])) :
    Leads R (tolerant p step) := by
  intro d
  have hd := hstep d
  rw [workFrom_tolerant]
  rcases hrun : workFrom d step with ⟨escape | well, d'⟩
  · rw [hrun] at hd
    cases escape with
    | fault fault => exact IsTrans.trans _ _ _ hd (htold fault d')
    | _ => exact hd
  · rwa [hrun] at hd

theorem Leads.onFile [Std.Refl R] {suffixes : List (Option String)}
    {step : Path → List Char → Work Bool} {p : Path}
    (hstep : ∀ text, Leads R (Command.tolerant p (step p text)))
    (hskipped : Leads R (report [skipNote p])) : Leads R (onFile suffixes step p) := by
  intro d
  rw [Command.workFrom_onFile]
  split
  · exact Std.Refl.refl d
  · split
    · split
      · exact hstep _ d
      · exact Std.Refl.refl d
    · exact hskipped d
    · exact Std.Refl.refl d

end

theorem continues_report (events : Journal) : Leads Continues (report events) :=
  fun _ => List.prefix_append _ _

theorem sameTree_report (events : Journal) : Leads SameTree (report events) :=
  fun _ => rfl

theorem tellsWriting_of_silent {d d' : Desk} {events : Journal} (hsaid : d'.said = d.said ++ events)
    (hsilent : Silent events) : TellsWriting d d' := by
  intro line hline
  rw [hsaid, List.mem_append] at hline
  exact Or.inl (hline.resolve_right (hsilent line))

theorem tellsWriting_report {events : Journal} (hsilent : Silent events) :
    Leads TellsWriting (report events) :=
  fun _ => tellsWriting_of_silent rfl hsilent

section

variable (config : Config) (suffixes : List (Option String)) (p : Path)

theorem continues_regenerateStep (check : Bool) (text : List Char) :
    Leads Continues (regenerateStep config check p text) := by
  intro d
  rw [workFrom_regenerateStep]
  split
  · exact List.prefix_append _ _
  · simp only [Continues, List.append_assoc]
    exact List.prefix_append _ _

theorem sameTree_regenerateStep (text : List Char) :
    Leads SameTree (regenerateStep config true p text) := by
  intro d
  rw [workFrom_regenerateStep, regenerateFile_eq_of_kept (fun _ _ _ => rfl)]
  cases (regenerateSource config p.text text).1 with
  | error escape => rfl
  | ok r => rfl

theorem tellsWriting_regenerateStep (text : List Char) :
    Leads TellsWriting (regenerateStep config false p text) := by
  intro d
  rw [workFrom_regenerateStep]
  split
  · exact tellsWriting_of_silent rfl (silent_map_remark _)
  · rename_i r t said hrun
    have hsilent := silent_append.mpr ⟨silent_map_remark said, silent_faultLines p r⟩
    split
    · intro line hline
      simp only [List.mem_append, List.mem_singleton, Bool.false_eq_true, if_false,
        Event.out.injEq] at hline
      rcases hline with ((hline | hline) | hline) | hline
      · exact Or.inl hline
      · exact absurd hline (silent_map_remark said line)
      · exact absurd hline (silent_faultLines p r line)
      · exact Or.inr ⟨p, hline⟩
    · refine tellsWriting_of_silent ?_ hsilent
      simp only [List.append_assoc, List.append_nil]

theorem continues_onFile (check : Bool) :
    Leads Continues (onFile suffixes (regenerateStep config check) p) :=
  Leads.onFile
    (fun text => (continues_regenerateStep config p check text).tolerant fun _ =>
      continues_report _)
    (continues_report _)

theorem sameTree_onFile : Leads SameTree (onFile suffixes (regenerateStep config true) p) :=
  Leads.onFile
    (fun text => (sameTree_regenerateStep config p text).tolerant fun _ => sameTree_report _)
    (sameTree_report _)

theorem tellsWriting_onFile :
    Leads TellsWriting (onFile suffixes (regenerateStep config false) p) :=
  Leads.onFile
    (fun text => (tellsWriting_regenerateStep config p text).tolerant fun _ =>
      tellsWriting_report (by simp [Silent]))
    (tellsWriting_report (by simp [Silent, skipNote]))

theorem sameTree_onFile_scan : Leads SameTree (onFile suffixes scanStep p) := by
  refine Leads.onFile (fun text => Leads.tolerant ?_ fun _ => sameTree_report _) (sameTree_report _)
  rw [scanStep]
  cases scan text with
  | error broken => exact leads_throw _
  | ok blocks => exact (sameTree_report _).bind fun _ => leads_pure true

/-- A visit of one command without a line is calm, so that the other command does the same. -/
theorem foretells_onFile :
    Foretells (onFile suffixes (regenerateStep config true) p)
      (onFile suffixes (regenerateStep config false) p) := by
  have hcalm : ∀ d check, Quiet d (onFile suffixes (regenerateStep config check) p) →
      ∃ b, Calm config suffixes d.tree p b := by
    rintro d check ⟨⟨b, hb⟩, hsilent⟩
    rcases hrun : workFrom d (onFile suffixes (regenerateStep config check) p) with ⟨ended, d'⟩
    rw [hrun] at hb hsilent
    subst hb
    rcases calm_or_stale hrun with hcalm | ⟨r, hstale⟩
    · exact ⟨b, hcalm⟩
    · exact absurd hsilent (hstale.workFrom_onFile check hrun).1
  refine ⟨continues_onFile config suffixes p true, continues_onFile config suffixes p false, ?_⟩
  intro d hquiet
  obtain ⟨b, hb⟩ := hquiet.elim (hcalm d true) (hcalm d false)
  obtain ⟨events, -, hall⟩ := hb.workFrom_onFile
  rw [hall true, hall false]

theorem tellsTrouble_onFile : TellsTrouble (onFile suffixes (regenerateStep config true) p) := by
  intro d htrue hsilent
  rcases hrun : workFrom d (onFile suffixes (regenerateStep config true) p) with ⟨ended, d'⟩
  rw [hrun] at htrue
  subst htrue
  rcases calm_or_stale hrun with hcalm | ⟨r, hstale⟩
  · obtain ⟨events, hevents, hall⟩ := hcalm.workFrom_onFile
    rw [hall true, Prod.mk.injEq] at hrun
    rw [← hrun.2]
    exact silent_append.mpr ⟨hsilent, hevents⟩
  · simpa using (hstale.workFrom_onFile true hrun).2

end

/-! ### Commands -/

/-- Regenerates the files that the paths of an invocation stand for, or checks them. -/
def renewal (inv : Invocation) (check : Bool) : Work Nat := do
  let config ← configOf inv
  let well ← onPaths (onFile inv.suffixes (regenerateStep config check))
    (inv.paths.map Path.ofString)
  pure (if well then 0 else 1)

theorem perform_check (inv : Invocation) :
    perform { inv with verb := .check } = renewal inv true := by
  simp only [perform, renewal, pure_bind]
  rfl

theorem perform_regen (inv : Invocation) :
    perform { inv with verb := .regen } = renewal inv false := by
  simp only [perform, renewal, pure_bind]
  rfl

theorem run_eq (tree : FileTree) (inv : Invocation) :
    run tree inv =
      ((workFrom { tree := tree } (perform inv)).1,
        (workFrom { tree := tree } (perform inv)).2.tree,
        (workFrom { tree := tree } (perform inv)).2.said) := rfl

/-- The settings of an invocation, or what is wrong with them. -/
def settings (inv : Invocation) : Except Escape Config :=
  (workFrom { tree := {} } (configOf inv)).1

theorem workFrom_configOf (inv : Invocation) (d : Desk) :
    workFrom d (configOf inv) = (settings inv, d) := by
  rw [settings, configOf]
  cases Config.make (inv.width.getD 0) ((inv.drift.map Drift.name).getD lacking)
    inv.updateCounts with
  | error e => rfl
  | ok config => cases inv.width <;> rfl

theorem run_eq_ok_iff (check : Bool) {tree tree' : FileTree} {inv : Invocation} {config : Config}
    {status : Nat} {said : Journal} (hconfig : settings inv = .ok config) :
    run tree { inv with verb := if check then .check else .regen } = (.ok status, tree', said) ↔
      ∃ well, workFrom { tree := tree } (onPaths
          (onFile inv.suffixes (regenerateStep config check)) (inv.paths.map Path.ofString)) =
            (.ok well, ⟨tree', said⟩) ∧ status = if well then 0 else 1 := by
  have hperform : perform { inv with verb := if check then .check else .regen } =
      renewal inv check := by
    cases check
    · exact perform_regen inv
    · exact perform_check inv
  rw [run_eq, hperform, renewal, workFrom_bind, workFrom_configOf, hconfig]
  simp only [workFrom_bind]
  rcases workFrom { tree := tree } (onPaths (onFile inv.suffixes (regenerateStep config check))
    (inv.paths.map Path.ofString)) with ⟨escape | well, d'⟩
  · simp
  · simp only [workFrom_pure, Prod.mk.injEq, Except.ok.injEq]
    constructor
    · rintro ⟨rfl, rfl, rfl⟩
      exact ⟨well, ⟨rfl, rfl⟩, rfl⟩
    · rintro ⟨_, ⟨rfl, rfl⟩, rfl⟩
      exact ⟨rfl, rfl, rfl⟩

theorem leads_configOf {R : Desk → Desk → Prop} [Std.Refl R] (inv : Invocation) :
    Leads R (configOf inv) := by
  intro d
  rw [workFrom_configOf]
  exact Std.Refl.refl d

theorem leads_renewal {R : Desk → Desk → Prop} [Std.Refl R] [IsTrans Desk R] (inv : Invocation)
    {check : Bool}
    (h : ∀ config p, Leads R (onFile inv.suffixes (regenerateStep config check) p)) :
    Leads R (renewal inv check) :=
  (leads_configOf inv).bind fun config =>
    (Leads.onPaths (h config) _).bind fun _ => leads_pure _

theorem foretells_renewal (inv : Invocation) : Foretells (renewal inv true) (renewal inv false) :=
  (foretells_self (leads_configOf inv)).bind fun config =>
    (Foretells.onPaths (foretells_onFile config inv.suffixes) _).bind fun _ =>
      foretells_self (leads_pure _)

theorem sameTree_perform_scan (inv : Invocation) :
    Leads SameTree (perform { inv with verb := .scan }) := by
  rw [perform, pure_bind]
  exact (Leads.onPaths (sameTree_onFile_scan inv.suffixes) _).bind fun _ => leads_pure _

theorem quiet_of_check {inv : Invocation} {d : Desk} (hsilent : Silent d.said)
    (hzero : (workFrom d (renewal inv true)).1 = .ok 0) : Quiet d (renewal inv true) := by
  refine ⟨⟨0, hzero⟩, ?_⟩
  rw [renewal, workFrom_bind, workFrom_configOf] at hzero ⊢
  cases hconfig : settings inv with
  | error escape => simp [hconfig] at hzero
  | ok config =>
      simp only [hconfig, workFrom_bind] at hzero ⊢
      have htells := TellsTrouble.onPaths (tellsTrouble_onFile config inv.suffixes)
        (inv.paths.map Path.ofString) d
      rcases hpaths : workFrom d (onPaths (onFile inv.suffixes (regenerateStep config true))
        (inv.paths.map Path.ofString)) with ⟨escape | well, d'⟩
      · simp [hpaths] at hzero
      · cases well with
        | false => simp [hpaths] at hzero
        | true =>
            rw [hpaths] at htells
            exact htells rfl hsilent

/-- Checking and listing change no file. Checking finds all well exactly when regenerating finds all
well, leaves the tree as it is and writes no file. -/
theorem check_predicts_regen (tree : FileTree) (inv : Invocation) :
    (run tree { inv with verb := .check }).2.1 = tree ∧
      (run tree { inv with verb := .scan }).2.1 = tree ∧
      ((run tree { inv with verb := .check }).1 = .ok 0 ↔
        (run tree { inv with verb := .regen }).1 = .ok 0 ∧
          (run tree { inv with verb := .regen }).2.1 = tree ∧
          WroteNothing (run tree { inv with verb := .regen }).2.2) := by
  have hstart : Silent ({ tree := tree } : Desk).said := by simp [Silent]
  have hsame := leads_renewal inv (sameTree_onFile · inv.suffixes) { tree := tree }
  simp only [run_eq, perform_check, perform_regen]
  refine ⟨hsame, sameTree_perform_scan inv _, ?_, ?_⟩
  · intro hzero
    have hquiet := quiet_of_check hstart hzero
    rw [← (foretells_renewal inv).alike _ (Or.inl hquiet)]
    exact ⟨hzero, hsame, fun p => hquiet.2 _⟩
  · rintro ⟨hzero, -, hwrote⟩
    have hlines := leads_renewal inv (tellsWriting_onFile · inv.suffixes) { tree := tree }
    have hsilent : Silent (workFrom { tree := tree } (renewal inv false)).2.said := by
      intro line hline
      rcases hlines line hline with hmem | ⟨p, rfl⟩
      · exact hstart line hmem
      · exact hwrote p hline
    rw [(foretells_renewal inv).alike _ (Or.inr ⟨⟨0, hzero⟩, hsilent⟩)]
    exact hzero

end Codeweave.Command
