import Codeweave.Proofs.Command.Work

/-!
Visits of single files. A visit is calm when it finds nothing to change; regenerating and checking
are then the same. Otherwise a line is written, and the file is either replaced or held against the
check.
-/

namespace Codeweave.Command

open Directive

/-- The text with directives that a command works on where a path leads. -/
structure Faces (suffixes : List (Option String)) (t : FileTree) (p : Path) (text : List Char) :
    Prop where
  kept : isLeftOut suffixes p = false
  readText : t.readText p = .ok text
  holds : holds opener text = true

/-- There is nothing to change where a path leads. The flag tells whether all is well. -/
inductive Calm (config : Config) (suffixes : List (Option String)) (t : FileTree) (p : Path) :
    Bool → Prop
  | leftOut (hleft : isLeftOut suffixes p = true) : Calm config suffixes t p true
  | binary (hkept : isLeftOut suffixes p = false) (hread : t.readText p = .error .undecodable) :
      Calm config suffixes t p true
  | bare {text : List Char} (hkept : isLeftOut suffixes p = false)
      (hread : t.readText p = .ok text) (hbare : holds opener text = false) :
      Calm config suffixes t p true
  | broken {text : List Char} {fault : Fault} (hfaces : Faces suffixes t p text)
      (hbroken : (regenerateSource config p.text text).1 = .error (.fault fault)) :
      Calm config suffixes t p false
  | current {text : List Char} {r : Report} (hfaces : Faces suffixes t p text)
      (hreport : (regenerateSource config p.text text).1 = .ok r) (hsame : r.changed = false) :
      Calm config suffixes t p r.ok

/-- What is where a path leads is out of date, as the report tells. -/
def Stale (config : Config) (suffixes : List (Option String)) (t : FileTree) (p : Path)
    (r : Report) : Prop :=
  r.changed = true ∧ ∃ text, Faces suffixes t p text ∧
    (regenerateSource config p.text text).1 = .ok r

def faultLines (p : Path) (r : Report) : Journal :=
  r.results.filterMap fun (_, outcome) =>
    outcome.fault?.map fun fault => .err (fault.describe p.text)

theorem silent_faultLines (p : Path) (r : Report) : Silent (faultLines p r) := by
  intro line hline
  obtain ⟨⟨b, outcome⟩, -, hfault⟩ := List.mem_filterMap.mp hline
  simp at hfault

/-! ### Steps of a visit -/

theorem replaceText_ne_fault (t : FileTree) (p : Path) (text : List Char) (fault : Fault) :
    (t.replaceText p text).1 ≠ .error (.fault fault) := by
  have hfile : ∀ e : FileError, Escape.ofFile e ≠ .fault fault := by
    intro e
    cases e <;> simp [Escape.ofFile]
  rw [FileTree.replaceText]
  split
  · simp
  · simp only
    split
    · simpa using hfile _
    · split
      · simpa using hfile _
      · simpa using hfile _
      · split
        · simpa using hfile _
        · simp

theorem regenerateFile_eq_of_kept {t : FileTree} {config : Config} {check : Bool} {p : Path}
    {text : List Char}
    (h : ∀ r, (regenerateSource config p.text text).1 = .ok r → r.changed = true → check = true) :
    t.regenerateFile config p check (some text) =
      ((regenerateSource config p.text text).1, t, (regenerateSource config p.text text).2) := by
  rw [FileTree.regenerateFile]
  rcases hrun : regenerateSource config p.text text with ⟨escape | r, said⟩
  · rfl
  · simp only
    rw [hrun] at h
    cases hchanged : r.changed with
    | false => simp
    | true => simp [h r rfl hchanged]

theorem regenerateFile_eq_of_changed {t : FileTree} {config : Config} {p : Path}
    {text : List Char} {r : Report} (hreport : (regenerateSource config p.text text).1 = .ok r)
    (hchanged : r.changed = true) :
    t.regenerateFile config p false (some text) =
      match t.replaceText p r.text with
      | (.error escape, t') => (.error escape, t', (regenerateSource config p.text text).2)
      | (.ok _, t') =>
          (.ok r, t', (regenerateSource config p.text text).2 ++
            [.log .info .regeneration ("rewrote " ++ p.text)]) := by
  rw [FileTree.regenerateFile]
  rcases hrun : regenerateSource config p.text text with ⟨escape | r', said⟩
  · rw [hrun] at hreport
    simp at hreport
  · rw [hrun, Except.ok.injEq] at hreport
    rw [hreport]
    rcases hreplaced : t.replaceText p r.text with ⟨escape | _, t'⟩
    · simp [hchanged, hreplaced]
    · simp [hchanged, hreplaced]

theorem workFrom_regenerateStep (config : Config) (check : Bool) (p : Path) (text : List Char)
    (d : Desk) :
    workFrom d (regenerateStep config check p text) =
      match d.tree.regenerateFile config p check (some text) with
      | (.error escape, t, said) => (.error escape, ⟨t, d.said ++ said.map Event.remark⟩)
      | (.ok r, t, said) =>
          (.ok (r.ok && !(check && r.changed)),
            ⟨t, d.said ++ said.map Event.remark ++ faultLines p r ++
              if r.changed then
                [.out ((if check then "Out of date: " else "Rewrote ") ++ p.text)]
              else []⟩) := by
  rw [regenerateStep, workFrom_bind, workFrom_get]
  simp only
  rcases d.tree.regenerateFile config p check (some text) with ⟨escape | r, t, said⟩
  · rfl
  · simp only [workFrom_bind, workFrom_set, workFrom_report, faultLines]
    split
    · rfl
    · rw [List.append_nil]
      rfl

def skipNote (p : Path) : Event :=
  .remark (.log .debug .commandLine ("skipping " ++ p.text ++ ": not UTF-8"))

theorem workFrom_onFile (suffixes : List (Option String)) (step : Path → List Char → Work Bool)
    (p : Path) (d : Desk) :
    workFrom d (onFile suffixes step p) =
      if isLeftOut suffixes p then (.ok true, d)
      else
        match d.tree.readText p with
        | .ok text =>
            if holds opener text then workFrom d (tolerant p (step p text)) else (.ok true, d)
        | .error .undecodable =>
            (.ok true, { d with said := d.said ++ [skipNote p] })
        | .error e => (.error (.ofFile e), d) := by
  rw [onFile]
  split
  · rfl
  · rw [workFrom_bind, textOf, workFrom_bind, workFrom_get]
    simp only
    rcases d.tree.readText p with e | text
    · cases e <;> rfl
    · cases hholds : holds opener text with
      | false => simp [hholds]
      | true => simp [hholds]

/-! ### What a visit does -/

section

variable {config : Config} {suffixes : List (Option String)} {d : Desk} {p : Path}

theorem Faces.workFrom_onFile {text : List Char} (h : Faces suffixes d.tree p text)
    (step : Path → List Char → Work Bool) :
    workFrom d (onFile suffixes step p) = workFrom d (tolerant p (step p text)) := by
  simp [Command.workFrom_onFile, h.kept, h.readText, h.holds]

/-- A calm visit changes no file and writes no line, whatever the command. -/
theorem Calm.workFrom_onFile {b : Bool} (h : Calm config suffixes d.tree p b) :
    ∃ events, Silent events ∧ ∀ check,
      workFrom d (onFile suffixes (regenerateStep config check) p) =
        (.ok b, { d with said := d.said ++ events }) := by
  cases h with
  | leftOut hleft =>
      refine ⟨[], by simp [Silent], fun check => ?_⟩
      simp [Command.workFrom_onFile, hleft]
  | binary hkept hread =>
      refine ⟨[skipNote p], by simp [Silent, skipNote], fun check => ?_⟩
      simp [Command.workFrom_onFile, hkept, hread]
  | bare hkept hread hbare =>
      refine ⟨[], by simp [Silent], fun check => ?_⟩
      simp [Command.workFrom_onFile, hkept, hread, hbare]
  | @broken text fault hfaces hbroken =>
      refine ⟨(regenerateSource config p.text text).2.map Event.remark ++
        [.err (fault.describe p.text)], ?_, fun check => ?_⟩
      · exact silent_append.mpr ⟨silent_map_remark _, by simp [Silent]⟩
      · rw [hfaces.workFrom_onFile, workFrom_tolerant, workFrom_regenerateStep,
          regenerateFile_eq_of_kept (by simp [hbroken]), hbroken]
        simp
  | @current text r hfaces hreport hsame =>
      refine ⟨(regenerateSource config p.text text).2.map Event.remark ++ faultLines p r, ?_,
        fun check => ?_⟩
      · exact silent_append.mpr ⟨silent_map_remark _, silent_faultLines p r⟩
      · rw [hfaces.workFrom_onFile, workFrom_tolerant, workFrom_regenerateStep,
          regenerateFile_eq_of_kept (by simp [hreport, hsame]), hreport]
        simp [hsame]

/-- Where there is something to change, a visit writes a line. Regenerating replaces the file;
checking holds it against the file and changes nothing. -/
theorem Stale.workFrom_onFile {r : Report} (h : Stale config suffixes d.tree p r) (check : Bool)
    {b : Bool} {d' : Desk}
    (hrun : workFrom d (onFile suffixes (regenerateStep config check) p) = (.ok b, d')) :
    ¬ Silent d'.said ∧
      if check then b = false ∧ d'.tree = d.tree
      else b = r.ok ∧ d.tree.replaceText p r.text = (.ok (), d'.tree) := by
  obtain ⟨hchanged, text, hfaces, hreport⟩ := h
  rw [hfaces.workFrom_onFile, workFrom_tolerant, workFrom_regenerateStep] at hrun
  cases check with
  | true =>
      rw [regenerateFile_eq_of_kept (fun _ _ _ => rfl), hreport] at hrun
      simp only [hchanged, if_true, Bool.and_self, Bool.not_true, Bool.and_false, Prod.mk.injEq,
        Except.ok.injEq] at hrun
      obtain ⟨rfl, rfl⟩ := hrun
      exact ⟨fun hsilent => hsilent ("Out of date: " ++ p.text) (by simp), by simp⟩
  | false =>
      rw [regenerateFile_eq_of_changed hreport hchanged] at hrun
      have hfault := fun fault => replaceText_ne_fault d.tree p r.text fault
      rcases hreplaced : d.tree.replaceText p r.text with ⟨escape | _, t'⟩
      · rw [hreplaced] at hrun hfault
        cases escape with
        | fault fault => exact absurd rfl (hfault fault)
        | raised c message => simp at hrun
        | file e => simp at hrun
        | abandoned => simp at hrun
      · rw [hreplaced] at hrun
        simp only [hchanged, if_true, Bool.not_false, Bool.and_true, Prod.mk.injEq,
          Except.ok.injEq] at hrun
        obtain ⟨rfl, rfl⟩ := hrun
        exact ⟨fun hsilent => hsilent ("Rewrote " ++ p.text) (by simp), by simp⟩

theorem calm_or_stale {check b : Bool} {d' : Desk}
    (hrun : workFrom d (onFile suffixes (regenerateStep config check) p) = (.ok b, d')) :
    Calm config suffixes d.tree p b ∨ ∃ r, Stale config suffixes d.tree p r := by
  -- the flag of a calm visit is the one that it ends with
  have hcalm : ∀ {b'}, Calm config suffixes d.tree p b' → Calm config suffixes d.tree p b := by
    intro b' h
    obtain ⟨events, -, hall⟩ := h.workFrom_onFile
    rw [hall check, Prod.mk.injEq, Except.ok.injEq] at hrun
    rwa [← hrun.1]
  cases hkept : isLeftOut suffixes p with
  | true => exact Or.inl (hcalm (.leftOut hkept))
  | false =>
      cases hread : d.tree.readText p with
      | error e =>
          cases e with
          | undecodable => exact Or.inl (hcalm (.binary hkept hread))
          | _ => simp [Command.workFrom_onFile, hkept, hread] at hrun
      | ok text =>
          cases hholds : holds opener text with
          | false => exact Or.inl (hcalm (.bare hkept hread hholds))
          | true =>
              have hfaces : Faces suffixes d.tree p text := ⟨hkept, hread, hholds⟩
              cases hreport : (regenerateSource config p.text text).1 with
              | ok r =>
                  cases hchanged : r.changed with
                  | true => exact Or.inr ⟨r, hchanged, text, hfaces, hreport⟩
                  | false => exact Or.inl (hcalm (.current hfaces hreport hchanged))
              | error escape =>
                  cases escape with
                  | fault fault => exact Or.inl (hcalm (.broken hfaces hreport))
                  | _ =>
                      rw [hfaces.workFrom_onFile, workFrom_tolerant, workFrom_regenerateStep,
                        regenerateFile_eq_of_kept (by simp [hreport]), hreport] at hrun
                      simp at hrun

end

end Codeweave.Command
