import Codeweave.Proofs.Command.Candidates
import Codeweave.Proofs.Command.Prediction
import Codeweave.Proofs.Directive.Containment
import Codeweave.Proofs.FileTree.Undisturbed

/-!
Files that are worked on one after the other. Where no file is another one or the draft of another
one, a command does with each file what it would do with that file alone, and it comes to its end
exactly when it would with each of them.
-/

namespace Codeweave.Command

open Directive FileTree

/-- What a command does with one file if it does nothing else. -/
def alone (config : Config) (suffixes : List (Option String)) (check : Bool) (t : FileTree)
    (p : Path) : Except Escape Bool × Desk :=
  workFrom { tree := t } (onFile suffixes (regenerateStep config check) p)

/-- The files that a path stands for and that are worked on. -/
def worked (suffixes : List (Option String)) (t : FileTree) (root : Path) :
    Except FileError (List Path) :=
  (candidates t root).map (List.filter fun p => !isLeftOut suffixes p)

/-- Neither file is the other one or lies where the draft of the other one is put. -/
def Clear (p q : Path) : Prop :=
  addressOf p ≠ addressOf q ∧ addressOf (draftOf p) ≠ addressOf q ∧
    addressOf (draftOf q) ≠ addressOf p

def Found (suffixes : List (Option String)) (t : FileTree) (p : Path) : Prop :=
  isLeftOut suffixes p = false ∧ ∃ a c, t.locate p = .ok a ∧ t.get? a = some (.file c)

/-- Where work on a file may leave something behind. -/
def touchedBy (p : Path) : List Address :=
  [addressOf p, addressOf (draftOf p)]

/-- Files were worked on, each as it would have been alone in the first tree. The flag tells whether
all is well with them. -/
structure Visited (config : Config) (suffixes : List (Option String)) (check : Bool) (t : FileTree)
    (d d' : Desk) (ps : List Path) (well : Bool) : Prop where
  each : ∀ p ∈ ps, ∃ b, (alone config suffixes check t p).1 = .ok b
  well_iff : well = true ↔ ∀ p ∈ ps, (alone config suffixes check t p).1 = .ok true
  said : d'.said = d.said ++ ps.flatMap fun p => (alone config suffixes check t p).2.said
  undisturbed : Undisturbed (ps.flatMap touchedBy) d.tree d'.tree
  contents : ∀ p ∈ ps, d'.tree.get? (addressOf p) =
    (alone config suffixes check t p).2.tree.get? (addressOf p)

section

variable {config : Config} {suffixes : List (Option String)} {check : Bool} {t : FileTree}

theorem Visited.nil (d : Desk) : Visited config suffixes check t d d [] true :=
  ⟨by simp, by simp, by simp, Undisturbed.refl _ _, by simp⟩

theorem Visited.append {d d₁ d₂ : Desk} {ps qs : List Path} {b b' : Bool}
    (h : Visited config suffixes check t d d₁ ps b)
    (h' : Visited config suffixes check t d₁ d₂ qs b')
    (hclear : ∀ p ∈ ps, ∀ q ∈ qs, Clear p q) :
    Visited config suffixes check t d d₂ (ps ++ qs) (b && b') := by
  refine ⟨?_, ?_, ?_, ?_, ?_⟩
  · rw [List.forall_mem_append]
    exact ⟨h.each, h'.each⟩
  · rw [Bool.and_eq_true, h.well_iff, h'.well_iff, List.forall_mem_append]
  · rw [h'.said, h.said, List.flatMap_append, List.append_assoc]
  · rw [List.flatMap_append]
    exact h.undisturbed.trans h'.undisturbed
  · rw [List.forall_mem_append]
    refine ⟨fun p hp => ?_, h'.contents⟩
    rw [h'.undisturbed.get?, h.contents p hp]
    simp only [touchedBy, List.mem_flatMap, List.mem_cons, List.not_mem_nil, or_false, not_exists,
      not_and, not_or]
    exact fun q hq => ⟨(hclear p hp q hq).1, (hclear p hp q hq).2.2.symm⟩

/-! ### One file -/

theorem Found.file_of_undisturbed {touched : List Address} {t' : FileTree} {p : Path}
    (h : Found suffixes t p) (hsame : Undisturbed touched t t') (hp : addressOf p ∉ touched) :
    ∃ a c, t.locate p = .ok a ∧ t'.locate p = .ok a ∧ t.get? a = some (.file c) ∧
      t'.get? a = some (.file c) := by
  obtain ⟨-, a, c, hplace, hfile⟩ := h
  refine ⟨a, c, hplace, hsame.noMoreFiles.directories.locate_eq_ok_iff.mp hplace, hfile, ?_⟩
  rw [← hfile]
  exact hsame.get? (addressOf_of_locate hplace ▸ hp)

/-- A step from one desk goes on as another one that starts afresh, as far as a file can tell. -/
structure Follows (a : Address) (touched : List Address) (d : Desk)
    (goneOn afresh : Except Escape Bool × Desk) : Prop where
  ended : goneOn.1 = afresh.1
  said : goneOn.2.said = d.said ++ afresh.2.said
  undisturbed : Undisturbed touched d.tree goneOn.2.tree
  contents : goneOn.2.tree.get? a = afresh.2.tree.get? a

theorem Follows.tolerant {a : Address} {touched : List Address} {d : Desk} {p : Path}
    {step : Work Bool}
    (h : Follows a touched d (workFrom d step) (workFrom { tree := t } step)) :
    Follows a touched d (workFrom d (tolerant p step))
      (workFrom { tree := t } (tolerant p step)) := by
  rw [workFrom_tolerant, workFrom_tolerant]
  generalize workFrom d step = goneOn at h ⊢
  generalize workFrom { tree := t } step = afresh at h ⊢
  obtain ⟨ended, d₁⟩ := goneOn
  obtain ⟨ended', d₁'⟩ := afresh
  obtain ⟨hended, hsaid, hundisturbed, hcontents⟩ := h
  obtain rfl : ended = ended' := hended
  cases ended with
  | ok well => exact ⟨rfl, hsaid, hundisturbed, hcontents⟩
  | error escape =>
      cases escape with
      | fault fault =>
          simp only at hsaid
          exact ⟨rfl, by simp [hsaid], hundisturbed, hcontents⟩
      | _ => exact ⟨rfl, hsaid, hundisturbed, hcontents⟩

/-- Work on a file that nothing has touched is what it would be alone. -/
theorem follows_onFile (config : Config) (check : Bool) {touched : List Address} {d : Desk}
    {p : Path} (hfound : Found suffixes t p) (hsame : Undisturbed touched t d.tree)
    (hp : addressOf p ∉ touched) :
    Follows (addressOf p) (touchedBy p) d
      (workFrom d (onFile suffixes (regenerateStep config check) p))
      (alone config suffixes check t p) := by
  obtain ⟨a, c, hplace, hplace', hfile, hfile'⟩ := hfound.file_of_undisturbed hsame hp
  have hread : d.tree.readText p = t.readText p := by
    simp [readText, FileTree.read, entry, hplace, hplace', hfile, hfile']
  rw [addressOf_of_locate hplace, alone, workFrom_onFile, workFrom_onFile, hread,
    if_neg (by simp [hfound.1]), if_neg (by simp [hfound.1])]
  -- where nothing is written, each desk keeps its tree
  have hidle : ∀ ended events, Follows a (touchedBy p) d
      (ended, { d with said := d.said ++ events }) (ended, { tree := t, said := events }) :=
    fun ended events => ⟨rfl, rfl, Undisturbed.refl _ _, hfile'.trans hfile.symm⟩
  cases t.readText p with
  | error e =>
      cases e with
      | undecodable => simpa using hidle (.ok true) [skipNote p]
      | _ => simpa using hidle (.error (.ofFile _)) []
  | ok text =>
      simp only
      split
      · refine Follows.tolerant ?_
        rw [workFrom_regenerateStep, workFrom_regenerateStep]
        have hcongr := regenerateFile_congr hsame.noMoreFiles.directories hplace hfile hfile'
          config check text
        simp only
        generalize t.regenerateFile config p check (some text) = afresh at hcongr ⊢
        generalize d.tree.regenerateFile config p check (some text) = goneOn at hcongr ⊢
        obtain ⟨ended, s, said⟩ := goneOn
        obtain ⟨ended', s', said'⟩ := afresh
        obtain ⟨hended, hremarks, hcontents, hundisturbed⟩ := hcongr
        obtain rfl : ended = ended' := hended
        obtain rfl : said = said' := hremarks
        cases ended with
        | error escape => exact ⟨rfl, by simp, hundisturbed, hcontents⟩
        | ok r => exact ⟨rfl, by simp, hundisturbed, hcontents⟩
      · simpa using hidle (.ok true) []

theorem Follows.visited {d d' : Desk} {p : Path} {b : Bool} {goneOn : Except Escape Bool × Desk}
    (h : Follows (addressOf p) (touchedBy p) d goneOn (alone config suffixes check t p))
    (hrun : goneOn = (.ok b, d')) : Visited config suffixes check t d d' [p] b := by
  subst hrun
  have hended : (alone config suffixes check t p).1 = .ok b := h.ended.symm
  refine ⟨?_, ?_, ?_, ?_, ?_⟩
  · simp [hended]
  · simp [hended]
  · simpa using h.said
  · simpa using h.undisturbed
  · simpa using h.contents

/-! ### Many files -/

/-- What is asked of files that are still to be worked on when some addresses were touched. -/
structure Ahead (suffixes : List (Option String)) (t : FileTree) (touched : List Address)
    (ps : List Path) : Prop where
  found : ∀ p ∈ ps, Found suffixes t p
  clear : ps.Pairwise Clear
  fresh : ∀ p ∈ ps, addressOf p ∉ touched

theorem Ahead.append_iff {touched : List Address} {ps qs : List Path} :
    Ahead suffixes t touched (ps ++ qs) ↔
      Ahead suffixes t touched ps ∧ Ahead suffixes t (touched ++ ps.flatMap touchedBy) qs ∧
        ∀ p ∈ ps, ∀ q ∈ qs, Clear p q := by
  have hclear : ∀ q, (∀ p ∈ ps, Clear p q) → addressOf q ∉ ps.flatMap touchedBy := by
    intro q hq
    simp only [touchedBy, List.mem_flatMap, List.mem_cons, List.not_mem_nil, or_false, not_exists,
      not_and, not_or]
    exact fun p hp => ⟨(hq p hp).1.symm, (hq p hp).2.1.symm⟩
  constructor
  · rintro ⟨hfound, hpairs, hfresh⟩
    rw [List.forall_mem_append] at hfound hfresh
    rw [List.pairwise_append] at hpairs
    refine ⟨⟨hfound.1, hpairs.1, hfresh.1⟩, ⟨hfound.2, hpairs.2.1, ?_⟩, hpairs.2.2⟩
    intro q hq
    rw [List.mem_append, not_or]
    exact ⟨hfresh.2 q hq, hclear q fun p hp => hpairs.2.2 p hp q hq⟩
  · rintro ⟨⟨hfound, hpairs, hfresh⟩, ⟨hfound', hpairs', hfresh'⟩, hacross⟩
    refine ⟨?_, List.pairwise_append.mpr ⟨hpairs, hpairs', hacross⟩, ?_⟩
    · exact List.forall_mem_append.mpr ⟨hfound, hfound'⟩
    · refine List.forall_mem_append.mpr ⟨hfresh, fun q hq => ?_⟩
      exact fun hmem => hfresh' q hq (List.mem_append_left _ hmem)

theorem visited_onFiles {touched : List Address} {ps : List Path}
    (hahead : Ahead suffixes t touched ps) {d d' : Desk} (hsame : Undisturbed touched t d.tree)
    {well : Bool}
    (hrun : workFrom d (onFiles (onFile suffixes (regenerateStep config check)) ps) =
      (.ok well, d')) :
    Visited config suffixes check t d d' ps well := by
  induction ps generalizing touched d well with
  | nil =>
      simp only [onFiles, workFrom_pure, Prod.mk.injEq, Except.ok.injEq] at hrun
      obtain ⟨rfl, rfl⟩ := hrun
      exact Visited.nil d
  | cons p rest ih =>
      obtain ⟨hp, hrest, hclear⟩ := Ahead.append_iff.mp (List.singleton_append ▸ hahead)
      obtain ⟨first, d₁, second, hfirst, hsecond, rfl⟩ := workFrom_both_eq_ok_iff.mp hrun
      have hfollows := follows_onFile config check (hp.found p (by simp)) hsame
        (hp.fresh p (by simp))
      have hvisited := hfollows.visited hfirst
      exact hvisited.append (ih hrest (hsame.trans hvisited.undisturbed) hsecond) hclear

theorem exists_onFiles {touched : List Address} {ps : List Path}
    (hahead : Ahead suffixes t touched ps) {d : Desk} (hsame : Undisturbed touched t d.tree)
    (heach : ∀ p ∈ ps, ∃ b, (alone config suffixes check t p).1 = .ok b) :
    ∃ well d', workFrom d (onFiles (onFile suffixes (regenerateStep config check)) ps) =
      (.ok well, d') := by
  induction ps generalizing touched d with
  | nil => exact ⟨true, d, rfl⟩
  | cons p rest ih =>
      obtain ⟨hp, hrest, -⟩ := Ahead.append_iff.mp (List.singleton_append ▸ hahead)
      rw [List.forall_mem_cons] at heach
      obtain ⟨⟨first, hended⟩, heach⟩ := heach
      have hfollows := follows_onFile config check (hp.found p (by simp)) hsame
        (hp.fresh p (by simp))
      rcases hfirst : workFrom d (onFile suffixes (regenerateStep config check) p) with ⟨ended, d₁⟩
      obtain rfl : ended = .ok first := by
        rw [← hended, ← hfollows.ended, hfirst]
      have hvisited := hfollows.visited hfirst
      obtain ⟨second, d₂, hsecond⟩ := ih hrest (hsame.trans hvisited.undisturbed) heach
      exact ⟨first && second, d₂, workFrom_both_eq_ok_iff.mpr
        ⟨first, d₁, second, hfirst, hsecond, rfl⟩⟩

theorem workFrom_onFiles_filter (step : Path → List Char → Work Bool) (ps : List Path) (d : Desk) :
    workFrom d (onFiles (onFile suffixes step) (ps.filter fun p => !isLeftOut suffixes p)) =
      workFrom d (onFiles (onFile suffixes step) ps) := by
  induction ps generalizing d with
  | nil => rfl
  | cons p rest ih =>
      cases hleft : isLeftOut suffixes p with
      | true =>
          rw [List.filter_cons_of_neg (by simp [hleft]), ih, onFiles, onFile, if_pos hleft,
            pure_bind]
          simp
      | false =>
          rw [List.filter_cons_of_pos (by simp [hleft]), onFiles, onFiles, workFrom_bind,
            workFrom_bind]
          simp only [workFrom_bind, ih]

theorem wellNamed_of_mem_touchedBy {ps : List Path} {x : Address}
    (h : x ∈ ps.flatMap touchedBy) : WellNamed x := by
  simp only [touchedBy, List.mem_flatMap, List.mem_cons, List.not_mem_nil, or_false] at h
  obtain ⟨p, -, rfl | rfl⟩ := h
  · exact wellNamed_addressOf p
  · exact wellNamed_addressOf (draftOf p)

theorem worked_eq_ok_iff {root : Path} {ps : List Path} :
    worked suffixes t root = .ok ps ↔ ∃ isFile, t.isFile root = .ok isFile ∧
      ps = (if isFile then [root] else t.filesBelow root).filter fun p =>
        !isLeftOut suffixes p := by
  rw [worked, candidates]
  cases t.isFile root with
  | error e => simp [Except.map]
  | ok isFile => simp [Except.map, eq_comm]

/-- A path still stands for the files that are to be worked on if none of them was touched. -/
theorem worked_of_undisturbed {touched : List Address} {t' : FileTree} {root : Path}
    {ps : List Path} (hsame : Undisturbed touched t t') (hnamed : ∀ x ∈ touched, WellNamed x)
    (hworked : worked suffixes t root = .ok ps) (hfresh : ∀ p ∈ ps, addressOf p ∉ touched) :
    worked suffixes t' root = .ok ps := by
  rw [worked_eq_ok_iff] at hworked ⊢
  obtain ⟨isFile, hisFile, rfl⟩ := hworked
  obtain ⟨isFile', hisFile'⟩ := hsame.noMoreFiles.directories.exists_isFile hisFile
  refine ⟨isFile', hisFile', ?_⟩
  have hbelow : (t'.filesBelow root).filter (fun p => !isLeftOut suffixes p) =
      (t.filesBelow root).filter fun p => !isLeftOut suffixes p := by
    refine hsame.filter_filesBelow hnamed fun q hq hkept => ?_
    cases isFile with
    | false => exact hfresh q (List.mem_filter.mpr ⟨hq, hkept⟩)
    | true => simp [filesBelow_of_isFile hisFile] at hq
  cases isFile with
  | false =>
      cases isFile' with
      | false => exact hbelow.symm
      | true => simp [hsame.noMoreFiles.isFile hisFile'] at hisFile
  | true =>
      cases isFile' with
      | true => rfl
      | false =>
          -- a file that is gone was the draft of another one, and so it was left out
          cases hleft : isLeftOut suffixes root with
          | true => simpa [hleft, filesBelow_of_isFile hisFile] using hbelow.symm
          | false => simp [hsame.isFile (hfresh root (by simp [hleft])) hisFile] at hisFile'

theorem workFrom_onPaths_cons {root : Path} {rest : List Path} {ps : List Path}
    (step : Path → List Char → Work Bool) {d : Desk}
    (hworked : worked suffixes d.tree root = .ok ps) :
    workFrom d (onPaths (onFile suffixes step) (root :: rest)) =
      workFrom d (do
        let well ← onFiles (onFile suffixes step) ps
        let others ← onPaths (onFile suffixes step) rest
        pure (well && others)) := by
  rw [worked] at hworked
  rw [onPaths, workFrom_bind, workFrom_get]
  cases hcandidates : candidates d.tree root with
  | error e => simp [hcandidates, Except.map] at hworked
  | ok all =>
      rw [hcandidates, Except.map, Except.ok.injEq] at hworked
      subst hworked
      simp only [hcandidates]
      rw [workFrom_bind, workFrom_bind, workFrom_onFiles_filter]

section

variable {roots : List Path} {lists : List (List Path)} {touched : List Address}
  (hworked : List.Forall₂ (fun root ps => worked suffixes t root = .ok ps) roots lists)
  (hnamed : ∀ x ∈ touched, WellNamed x)

include hworked hnamed

theorem visited_onPaths (hahead : Ahead suffixes t touched lists.flatten) {d d' : Desk}
    (hsame : Undisturbed touched t d.tree) {well : Bool}
    (hrun : workFrom d (onPaths (onFile suffixes (regenerateStep config check)) roots) =
      (.ok well, d')) :
    Visited config suffixes check t d d' lists.flatten well := by
  induction hworked generalizing touched d well with
  | nil =>
      simp only [onPaths, workFrom_pure, Prod.mk.injEq, Except.ok.injEq] at hrun
      obtain ⟨rfl, rfl⟩ := hrun
      exact Visited.nil d
  | @cons root ps roots lists hroot _ ih =>
      rw [List.flatten_cons] at hahead ⊢
      obtain ⟨hps, hrest, hclear⟩ := Ahead.append_iff.mp hahead
      rw [workFrom_onPaths_cons _ (worked_of_undisturbed hsame hnamed hroot hps.fresh)] at hrun
      obtain ⟨first, d₁, second, hfirst, hsecond, rfl⟩ := workFrom_both_eq_ok_iff.mp hrun
      have hvisited := visited_onFiles hps hsame hfirst
      refine hvisited.append (ih ?_ hrest (hsame.trans hvisited.undisturbed) hsecond) hclear
      exact List.forall_mem_append.mpr ⟨hnamed, fun x => wellNamed_of_mem_touchedBy⟩

theorem exists_onPaths (hahead : Ahead suffixes t touched lists.flatten) {d : Desk}
    (hsame : Undisturbed touched t d.tree)
    (heach : ∀ p ∈ lists.flatten, ∃ b, (alone config suffixes check t p).1 = .ok b) :
    ∃ well d', workFrom d (onPaths (onFile suffixes (regenerateStep config check)) roots) =
      (.ok well, d') := by
  induction hworked generalizing touched d with
  | nil => exact ⟨true, d, rfl⟩
  | @cons root ps roots lists hroot _ ih =>
      rw [List.flatten_cons] at hahead heach
      rw [List.forall_mem_append] at heach
      obtain ⟨hps, hrest, -⟩ := Ahead.append_iff.mp hahead
      obtain ⟨first, d₁, hfirst⟩ := exists_onFiles hps hsame heach.1
      have hvisited := visited_onFiles hps hsame hfirst
      obtain ⟨second, d₂, hsecond⟩ := ih
        (List.forall_mem_append.mpr ⟨hnamed, fun x => wellNamed_of_mem_touchedBy⟩) hrest
        (hsame.trans hvisited.undisturbed) heach.2
      rw [workFrom_onPaths_cons _ (worked_of_undisturbed hsame hnamed hroot hps.fresh)]
      exact ⟨first && second, d₂, workFrom_both_eq_ok_iff.mpr
        ⟨first, d₁, second, hfirst, hsecond, rfl⟩⟩

end

end

end Codeweave.Command
