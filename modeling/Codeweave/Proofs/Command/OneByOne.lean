import Codeweave.Proofs.Command.Alone
import Codeweave.Proofs.Command.Prefilter

/-!
One bad file among others. A command comes to its end exactly when it can deal with each file by
itself. Then it comes to all of them, and what it says, writes and finds wrong is what it would with
each of them alone.
-/

namespace Codeweave.Command

open Directive FileTree

/-- Regenerating the text of a file, or checking it, comes to an end: the number on no closer has
more digits than are read or written, the directives concern no one else, and a draft can be written
if there is something to write. -/
structure Workable (config : Config) (check : Bool) (t : FileTree) (p : Path) (text : List Char) :
    Prop where
  counts : ∀ broken, scan text = .error broken → ∀ digits, broken.defect ≠ .countTooLong digits
  directives : ∀ blocks, scan text = .ok blocks →
    ∀ b ∈ blocks, Contained config p.text b.toDirective ∧ countTooLong config b = false
  draft : check = false → ∀ r, (regenerateSource config p.text text).1 = .ok r →
    r.changed = true → p.name ≠ "" ∧
      ∃ draft, t.locate (draftOf p) = .ok draft ∧ t.get? draft ≠ some .directory

section

variable {config : Config} {suffixes : List (Option String)} {check : Bool} {t : FileTree}
  {p : Path}

theorem exists_ending_iff {path : String} {text : List Char} :
    ((∃ fault, (regenerateSource config path text).1 = .error (.fault fault)) ∨
        ∃ r, (regenerateSource config path text).1 = .ok r) ↔
      (∀ broken, scan text = .error broken → ∀ digits, broken.defect ≠ .countTooLong digits) ∧
        ∀ blocks, scan text = .ok blocks →
          ∀ b ∈ blocks, Contained config path b.toDirective ∧ countTooLong config b = false := by
  simp only [regenerateSource_eq_fault_iff]
  cases hscan : scan text with
  | error broken =>
      have hnone : ¬ ∃ r, (regenerateSource config path text).1 = .ok r := by
        rintro ⟨r, hr⟩
        obtain ⟨blocks, -, hblocks, -⟩ := regenerateSource_eq_ok_iff.mp hr
        simp [hscan] at hblocks
      simp only [hnone, or_false, Except.error.injEq, exists_eq_left', forall_eq', reduceCtorEq,
        false_implies, implies_true, and_true]
      exact exists_escape_eq_fault_iff
  | ok blocks =>
      simp only [reduceCtorEq, false_and, exists_false, false_or, false_implies, implies_true,
        true_and, Except.ok.injEq, forall_eq']
      exact exists_report_iff hscan

theorem exists_regenerateFile_iff {a : Address} {c : Content} {text : List Char}
    (hplace : t.locate p = .ok a) (hfile : t.get? a = some (.file c)) :
    ((∃ fault, (t.regenerateFile config p check (some text)).1 = .error (.fault fault)) ∨
        ∃ r, (t.regenerateFile config p check (some text)).1 = .ok r) ↔
      ((∃ fault, (regenerateSource config p.text text).1 = .error (.fault fault)) ∨
          ∃ r, (regenerateSource config p.text text).1 = .ok r) ∧
        (check = false → ∀ r, (regenerateSource config p.text text).1 = .ok r →
          r.changed = true → p.name ≠ "" ∧
            ∃ draft, t.locate (draftOf p) = .ok draft ∧ t.get? draft ≠ some .directory) := by
  rw [regenerateFile_eq]
  simp only [sourceOf]
  rcases regenerateSource config p.text text with ⟨escape | r, said⟩
  · simp
  · have hreplace := exists_replaceText_eq_ok_iff t p r.text
    have hfault := replaceText_ne_fault t p r.text
    have hfound : ∃ a c, t.locate p = .ok a ∧ t.get? a = some (.file c) := ⟨a, c, hplace, hfile⟩
    simp only [hfound, and_true] at hreplace
    simp only
    cases hwrites : r.changed && !check with
    | false =>
        have hkept : ¬ (check = false ∧ r.changed = true) := by
          rintro ⟨rfl, hchanged⟩
          simp [hchanged] at hwrites
        simp only [Bool.false_eq_true, if_false, Except.ok.injEq, forall_eq', exists_eq', or_true,
          true_and, true_iff]
        exact fun hcheck hchanged => absurd ⟨hcheck, hchanged⟩ hkept
    | true =>
        obtain ⟨hchanged, hcheck⟩ : r.changed = true ∧ check = false := by simpa using hwrites
        simp only [if_true, Except.ok.injEq, forall_eq', hchanged, hcheck, true_implies, exists_eq',
          or_true, true_and, ← hreplace]
        rcases hended : t.replaceText p r.text with ⟨escape | _, t'⟩
        · rw [hended] at hfault
          simpa using hfault
        · simp

theorem exists_tolerant_iff {text : List Char} {d : Desk} :
    (∃ b, (workFrom d (tolerant p (regenerateStep config check p text))).1 = .ok b) ↔
      (∃ fault, (d.tree.regenerateFile config p check (some text)).1 = .error (.fault fault)) ∨
        ∃ r, (d.tree.regenerateFile config p check (some text)).1 = .ok r := by
  rw [workFrom_tolerant, workFrom_regenerateStep]
  rcases d.tree.regenerateFile config p check (some text) with ⟨escape | r, t', said⟩
  · cases escape <;> simp
  · simp

theorem exists_alone_eq_ok_iff (hfound : Found suffixes t p) :
    (∃ b, (alone config suffixes check t p).1 = .ok b) ↔
      ∀ text, t.readText p = .ok text → holds opener text = true →
        Workable config check t p text := by
  obtain ⟨hkept, a, c, hplace, hfile⟩ := hfound
  rw [alone, workFrom_onFile, if_neg (by simp [hkept])]
  rcases c with text | bytes
  · rw [readText_eq_ok_iff.mpr ⟨a, hplace, hfile⟩]
    simp only [Except.ok.injEq, forall_eq']
    cases hbare : holds opener text with
    | false => simp
    | true =>
        simp only [if_true, true_implies]
        rw [exists_tolerant_iff, exists_regenerateFile_iff hplace hfile, exists_ending_iff]
        exact ⟨fun h => ⟨h.1.1, h.1.2, h.2⟩, fun h => ⟨⟨h.counts, h.directives⟩, h.draft⟩⟩
  · rw [readText_eq_undecodable_iff.mpr ⟨a, bytes, hplace, hfile⟩]
    simp

theorem alone_of_broken (config : Config) (check : Bool) (hfound : Found suffixes t p)
    {text : List Char} {broken : Broken} {fault : Fault} (hread : t.readText p = .ok text)
    (hscan : scan text = .error broken)
    (hfault : broken.escape = .fault fault) :
    alone config suffixes check t p =
      (.ok false, { tree := t, said := [.err (fault.describe p.text)] }) := by
  have hbroken : regenerateSource config p.text text = (.error (.fault fault), []) := by
    rw [regenerateSource, hscan]
    simp [hfault]
  rw [alone, workFrom_onFile, if_neg (by simp [hfound.1]), hread]
  simp only [holds_of_scan_error hscan, if_true]
  rw [workFrom_tolerant, workFrom_regenerateStep, regenerateFile_eq]
  simp [sourceOf, hbroken]

theorem read_alone (hfound : Found suffixes t p) {t' : FileTree}
    (hdirectories : SameDirectories t t')
    (hcontents : t'.get? (addressOf p) = (alone config suffixes check t p).2.tree.get?
      (addressOf p)) :
    t'.read p = (alone config suffixes check t p).2.tree.read p := by
  obtain ⟨-, a, c, hplace, -⟩ := id hfound
  have hfollows : Follows (addressOf p) (touchedBy p) { tree := t }
      (alone config suffixes check t p) (alone config suffixes check t p) :=
    follows_onFile config check hfound (Undisturbed.refl [] t) (by simp)
  have hplace' := hdirectories.locate_eq_ok_iff.mp hplace
  have hplace'' : (alone config suffixes check t p).2.tree.locate p = .ok a :=
    hfollows.undisturbed.noMoreFiles.directories.locate_eq_ok_iff.mp hplace
  rw [addressOf_of_locate hplace] at hcontents
  rw [FileTree.read, FileTree.read, entry, entry, hplace', hplace'']
  simp only [hcontents]

end

/-- The scripts in a file are followed. -/
def FollowedIn (config : Config) (t : FileTree) (p : Path) : Prop :=
  ∀ text blocks, t.readText p = .ok text → scan text = .ok blocks →
    ∀ b ∈ blocks, Followed config p.text b.toDirective

/-! ### All files -/

section

variable {config : Config} {inv : Invocation} {tree : FileTree} {lists : List (List Path)}
  (check : Bool) (hconfig : settings inv = .ok config)
  (hworked : List.Forall₂ (fun root ps => worked inv.suffixes tree root = .ok ps)
    (inv.paths.map Path.ofString) lists)
  (hahead : Ahead inv.suffixes tree [] lists.flatten)

include hconfig hworked hahead

/-- A command that has a status has come to all files. -/
theorem exists_visited {status : Nat} {tree' : FileTree} {said : Journal}
    (hrun : run tree { inv with verb := if check then .check else .regen } =
      (.ok status, tree', said)) :
    ∃ well, (status = if well then 0 else 1) ∧
      Visited config inv.suffixes check tree { tree := tree } ⟨tree', said⟩ lists.flatten well := by
  obtain ⟨well, hpaths, hstatus⟩ := (run_eq_ok_iff check hconfig).mp hrun
  exact ⟨well, hstatus, visited_onPaths hworked (by simp) hahead (Undisturbed.refl _ _) hpaths⟩

theorem exists_status_iff :
    (∃ status, (run tree { inv with verb := if check then .check else .regen }).1 = .ok status) ↔
      ∀ p ∈ lists.flatten, ∃ b, (alone config inv.suffixes check tree p).1 = .ok b := by
  constructor
  · rintro ⟨status, hstatus⟩
    rcases hrun : run tree { inv with verb := if check then .check else .regen } with
      ⟨ended, tree', said⟩
    rw [hrun] at hstatus
    obtain rfl : ended = .ok status := hstatus
    obtain ⟨well, -, hvisited⟩ := exists_visited check hconfig hworked hahead hrun
    exact hvisited.each
  · intro heach
    have hsame : Undisturbed [] tree ({ tree := tree } : Desk).tree := Undisturbed.refl _ _
    obtain ⟨well, d', hpaths⟩ := exists_onPaths hworked (by simp) hahead hsame heach
    exact ⟨_, congrArg Prod.fst ((run_eq_ok_iff check hconfig).mpr ⟨well, hpaths, rfl⟩)⟩

end

namespace Visited

variable {config : Config} {suffixes : List (Option String)} {check well : Bool} {t t' : FileTree}
  {said : Journal} {ps : List Path}
  (h : Visited config suffixes check t { tree := t } ⟨t', said⟩ ps well)

include h

theorem status_eq :
    (if well then 0 else 1) =
      if ∀ p ∈ ps, (alone config suffixes check t p).1 = .ok true then 0 else 1 := by
  cases well with
  | true => rw [if_pos rfl, if_pos (h.well_iff.mp rfl)]
  | false =>
      rw [if_neg Bool.false_ne_true, if_neg fun hall => Bool.false_ne_true (h.well_iff.mpr hall)]

/-- Nothing but the files and their drafts is touched. -/
theorem get?_of_ne {x : Address} (hx : ∀ p ∈ ps, x ≠ addressOf p ∧ x ≠ addressOf (draftOf p)) :
    t'.get? x = t.get? x := by
  refine h.undisturbed.get? ?_
  simp only [touchedBy, List.mem_flatMap, List.mem_cons, List.not_mem_nil, or_false, not_exists,
    not_and, not_or]
  exact hx

theorem read_eq {p : Path} (hp : p ∈ ps) (hfound : Found suffixes t p) :
    t'.read p = (alone config suffixes check t p).2.tree.read p :=
  read_alone hfound h.undisturbed.noMoreFiles.directories (h.contents p hp)

/-- A file that cannot be scanned is reported and left as it is. -/
theorem of_broken {p : Path} (hp : p ∈ ps) (hfound : Found suffixes t p) {text : List Char}
    {broken : Broken} (htext : t.readText p = .ok text) (hscan : scan text = .error broken) :
    well = false ∧ t'.readText p = .ok text ∧
      ∃ fault, broken.escape = .fault fault ∧
        alone config suffixes check t p =
          (.ok false, { tree := t, said := [.err (fault.describe p.text)] }) := by
  have hworkable := (exists_alone_eq_ok_iff hfound).mp (h.each p hp) text htext
    (holds_of_scan_error hscan)
  obtain ⟨fault, hfault⟩ := exists_escape_eq_fault_iff.mpr (hworkable.counts broken hscan)
  have halone := alone_of_broken config check hfound htext hscan hfault
  refine ⟨?_, ?_, fault, hfault, halone⟩
  · rw [Bool.eq_false_iff]
    intro hwell
    have hpwell := h.well_iff.mp hwell p hp
    rw [halone] at hpwell
    cases hpwell
  · have hsame := h.read_eq hp hfound
    rw [halone] at hsame
    rw [readText, hsame, ← readText]
    exact htext

end Visited

/-- Where no file that is worked on is another one or the draft of another one, and all scripts are
followed, a command has a status exactly when each file is workable. The status is zero exactly
when all is well with each file alone; what is said is what would be said of each file alone, in
order; each file holds what it would hold alone, and nothing but the files and their drafts has
changed. A file that cannot be scanned makes the status one and is left as it is. -/
theorem run_one_by_one {config : Config} {inv : Invocation} {tree : FileTree}
    {lists : List (List Path)} (check : Bool) (hconfig : settings inv = .ok config)
    (hworked : List.Forall₂ (fun root ps => worked inv.suffixes tree root = .ok ps)
      (inv.paths.map Path.ofString) lists)
    (hfound : ∀ p ∈ lists.flatten, Found inv.suffixes tree p)
    (hclear : lists.flatten.Pairwise Clear) :
    ((∀ p ∈ lists.flatten, FollowedIn config tree p) →
      ((∃ status, (run tree { inv with verb := if check then .check else .regen }).1 = .ok status) ↔
        ∀ p ∈ lists.flatten, ∀ text, tree.readText p = .ok text → holds opener text = true →
          Workable config check tree p text)) ∧
    ∀ status tree' said,
      run tree { inv with verb := if check then .check else .regen } =
        (.ok status, tree', said) →
      (status = if ∀ p ∈ lists.flatten, (alone config inv.suffixes check tree p).1 = .ok true
        then 0 else 1) ∧
      said = (lists.flatten.flatMap fun p => (alone config inv.suffixes check tree p).2.said) ∧
      (∀ p ∈ lists.flatten,
        tree'.read p = (alone config inv.suffixes check tree p).2.tree.read p) ∧
      (∀ x, (∀ p ∈ lists.flatten, x ≠ addressOf p ∧ x ≠ addressOf (draftOf p)) →
        tree'.get? x = tree.get? x) ∧
      ∀ p ∈ lists.flatten, ∀ text broken, tree.readText p = .ok text →
        scan text = .error broken → status = 1 ∧ tree'.readText p = .ok text ∧
          ∃ fault, broken.escape = .fault fault ∧
            alone config inv.suffixes check tree p =
              (.ok false, { tree := tree, said := [.err (fault.describe p.text)] }) := by
  have hahead : Ahead inv.suffixes tree [] lists.flatten := ⟨hfound, hclear, by simp⟩
  refine ⟨fun _ => ?_, ?_⟩
  · rw [exists_status_iff check hconfig hworked hahead]
    exact forall₂_congr fun p hp => exists_alone_eq_ok_iff (hfound p hp)
  · intro status tree' said hrun
    obtain ⟨well, rfl, hvisited⟩ := exists_visited check hconfig hworked hahead hrun
    refine ⟨hvisited.status_eq, hvisited.said, fun p hp => hvisited.read_eq hp (hfound p hp),
      fun x hx => hvisited.get?_of_ne hx, ?_⟩
    intro p hp text broken htext hscan
    obtain ⟨rfl, hbroken⟩ := hvisited.of_broken hp (hfound p hp) htext hscan
    exact ⟨rfl, hbroken⟩

def brokenFirst : FileTree :=
  ⟨[(["a.h"], .file (.text "/*!!\n".toList)), (["b.h"], .file (.text emptyDirective))]⟩

def bothNamed : Invocation :=
  { verb := .regen, paths := ["a.h", "b.h"] }

theorem found_brokenFirst :
    ∀ p ∈ [[(⟨["a.h"]⟩ : Path)], [⟨["b.h"]⟩]].flatten, Found bothNamed.suffixes brokenFirst p := by
  rw [show [[(⟨["a.h"]⟩ : Path)], [⟨["b.h"]⟩]].flatten = [⟨["a.h"]⟩, ⟨["b.h"]⟩] from rfl,
    List.forall_mem_cons, List.forall_mem_singleton]
  exact ⟨⟨by decide +kernel, ["a.h"], .text "/*!!\n".toList, by decide +kernel⟩,
    by decide +kernel, ["b.h"], .text emptyDirective, by decide +kernel⟩

theorem scan_unclosed : scan "/*!!\n".toList = .error { defect := .unclosed } := by
  decide +kernel

theorem followedIn_brokenFirst :
    ∀ p ∈ [[(⟨["a.h"]⟩ : Path)], [⟨["b.h"]⟩]].flatten, FollowedIn {} brokenFirst p := by
  rw [show [[(⟨["a.h"]⟩ : Path)], [⟨["b.h"]⟩]].flatten = [⟨["a.h"]⟩, ⟨["b.h"]⟩] from rfl,
    List.forall_mem_cons, List.forall_mem_singleton]
  constructor
  · intro text blocks htext hscan
    rw [show brokenFirst.readText ⟨["a.h"]⟩ = .ok "/*!!\n".toList by decide +kernel,
      Except.ok.injEq] at htext
    rw [← htext, scan_unclosed] at hscan
    cases hscan
  · intro text blocks htext hscan
    rw [show brokenFirst.readText ⟨["b.h"]⟩ = .ok emptyDirective by decide +kernel,
      Except.ok.injEq] at htext
    have hdone : (scan emptyDirective).toOption.all (·.all fun b =>
        (regenerate {} (⟨["b.h"]⟩ : Path).text b.toDirective).1.isOk) = true := by decide +kernel
    rw [htext, hscan] at hdone
    intro b hb habandoned
    have hok := List.all_eq_true.mp hdone b hb
    rw [habandoned] at hok
    cases hok

theorem run_one_by_one_brokenFirst :
    settings bothNamed = .ok {} ∧
      List.Forall₂ (fun root ps => worked bothNamed.suffixes brokenFirst root = .ok ps)
        (bothNamed.paths.map Path.ofString) [[⟨["a.h"]⟩], [⟨["b.h"]⟩]] ∧
      [[(⟨["a.h"]⟩ : Path)], [⟨["b.h"]⟩]].flatten.Pairwise Clear ∧
      (∀ p ∈ [[(⟨["a.h"]⟩ : Path)], [⟨["b.h"]⟩]].flatten, FollowedIn {} brokenFirst p) ∧
      Workable {} false brokenFirst ⟨["b.h"]⟩ emptyDirective ∧
      ∃ tree' said, run brokenFirst { bothNamed with verb := .regen } = (.ok 1, tree', said) ∧
        tree'.readText ⟨["a.h"]⟩ = .ok "/*!!\n".toList ∧
        tree'.read ⟨["b.h"]⟩ = (alone {} [] false brokenFirst ⟨["b.h"]⟩).2.tree.read ⟨["b.h"]⟩ := by
  have hsettings : settings bothNamed = .ok {} := by decide +kernel
  have hworked : List.Forall₂ (fun root ps => worked bothNamed.suffixes brokenFirst root = .ok ps)
      (bothNamed.paths.map Path.ofString) [[⟨["a.h"]⟩], [⟨["b.h"]⟩]] := by
    rw [show bothNamed.paths.map Path.ofString = [⟨["a.h"]⟩, ⟨["b.h"]⟩] by decide +kernel]
    exact .cons (by decide +kernel) (.cons (by decide +kernel) .nil)
  have hclear : [[(⟨["a.h"]⟩ : Path)], [⟨["b.h"]⟩]].flatten.Pairwise Clear := by
    rw [show [[(⟨["a.h"]⟩ : Path)], [⟨["b.h"]⟩]].flatten = [⟨["a.h"]⟩, ⟨["b.h"]⟩] from rfl,
      List.pairwise_pair, Clear]
    decide +kernel
  have hone : (run brokenFirst { bothNamed with verb := .regen }).1 = .ok 1 := by decide +kernel
  rcases hrun : run brokenFirst { bothNamed with verb := .regen } with ⟨ended, tree', said⟩
  obtain ⟨hstatus, hended⟩ := run_one_by_one false hsettings hworked found_brokenFirst hclear
  have hworkable := (hstatus followedIn_brokenFirst).mp ⟨1, hone⟩ ⟨["b.h"]⟩ (by simp) emptyDirective
    (by decide +kernel) (by decide +kernel)
  rw [hrun] at hone
  obtain rfl : ended = .ok 1 := hone
  obtain ⟨-, -, hread, -, hbroken⟩ := hended 1 tree' said hrun
  exact ⟨hsettings, hworked, hclear, followedIn_brokenFirst, hworkable, tree', said, rfl,
    (hbroken ⟨["a.h"]⟩ (by simp) _ _ (by decide +kernel) scan_unclosed).2.1,
    hread ⟨["b.h"]⟩ (by simp)⟩

end Codeweave.Command
