import Codeweave.Proofs.FileTree.Replacement

/-!
Regeneration of a file as one step of its tree. The tree afterwards is the tree before, or the tree
without what lay at the place of the draft, or the tree with the new text in the place of the file;
only in the last case does the step come to its end.
-/

namespace Codeweave.FileTree

open Directive

/-- The second tree is the first one with nothing at the address of a draft. -/
structure Cleared (t t' : FileTree) (draft : Address) : Prop where
  get? : ∀ x, t'.get? x = if x = draft then none else t.get? x
  hasFile : ∀ x, t'.HasFile x ↔ x ≠ draft ∧ t.HasFile x
  directories : SameDirectories t t'

/-- The tree after a draft was written and removed again. -/
def withoutDraft (t : FileTree) (draft : Address) (text : List Char) : FileTree :=
  (t.put draft (.file (.text text))).erase draft

/-- How replacing the text of a file ends, and the tree afterwards. -/
inductive Replacement (t : FileTree) (p : Path) (text : List Char) :
    Except Escape Unit → FileTree → Prop
  | unnamed {escape : Escape} (hname : p.name = "") : Replacement t p text (.error escape) t
  | undrafted {escape : Escape} (hname : p.name ≠ "")
      (hdraft : ∀ draft, t.locate (draftOf p) = .ok draft → t.get? draft = some .directory) :
      Replacement t p text (.error escape) t
  | unmatched {escape : Escape} {draft : Address} (hname : p.name ≠ "")
      (hdraft : t.locate (draftOf p) = .ok draft) (hfree : t.get? draft ≠ some .directory)
      (hmissing : ∀ a c, t.locate p = .ok a → t.get? a ≠ some (.file c)) :
      Replacement t p text (.error escape) (t.withoutDraft draft text)
  | replaced {a draft : Address} {c : Content} (hname : p.name ≠ "")
      (hdraft : t.locate (draftOf p) = .ok draft) (hfree : t.get? draft ≠ some .directory)
      (hplace : t.locate p = .ok a) (hfile : t.get? a = some (.file c)) (hapart : a ≠ draft) :
      Replacement t p text (.ok ()) ((t.withoutDraft draft text).put a (.file (.text text)))

/-- The text that is regenerated: the known one, or what is read. -/
def sourceOf (t : FileTree) (p : Path) (known : Option (List Char)) :
    Except FileError (List Char) :=
  match known with
  | some text => .ok text
  | none => t.readText p

/-- Regenerating the file comes to write the text of the report in its place. -/
structure Writes (t : FileTree) (config : Config) (p : Path) (check : Bool)
    (known : Option (List Char)) (report : Report) : Prop where
  source : ∃ text, t.sourceOf p known = .ok text ∧
    (regenerateSource config p.text text).1 = .ok report
  changed : report.changed = true
  unchecked : check = false

/-! ### The place of the draft -/

theorem draft_parts {p : Path} (hname : p.name ≠ "") :
    p.parts = p.parts.dropLast ++ [p.name] := by
  cases hlast : p.parts.getLast? with
  | none => simp [Path.name, hlast] at hname
  | some part =>
      have hpart : p.name = part := by
        rw [Path.name, hlast] at hname ⊢
        simp only at hname ⊢
        split
        · rename_i hroot
          simp [hroot] at hname
        · rfl
      obtain ⟨before, hparts⟩ := List.getLast?_eq_some_iff.mp hlast
      rw [hpart, hparts, List.dropLast_concat]

theorem ne_draft {t : FileTree} {p : Path} {a draft : Address} (hname : p.name ≠ "")
    (hplace : t.locate p = .ok a) (hdraft : t.locate (draftOf p) = .ok draft) : a ≠ draft := by
  have ha := eq_foldl_of_locate hplace
  have hd := eq_foldl_of_locate hdraft
  rw [draft_parts hname, List.foldl_append, List.foldl_cons, List.foldl_nil] at ha
  rw [draftOf, Path.withEnding, List.foldl_append, List.foldl_cons, List.foldl_nil] at hd
  have hending : p.name ++ ".litgen.tmp" ≠ ".." := by
    intro h
    have hlength := congrArg String.length h
    simp only [String.length_append] at hlength
    have : ".litgen.tmp".length = 11 := by decide
    have : "..".length = 2 := by decide
    omega
  rw [stepTo, if_neg (by simp [hending])] at hd
  rintro rfl
  rcases stepTo_eq_or (p.parts.dropLast.foldl stepTo []) p.name with hstep | ⟨hstep, -⟩
  · rw [ha, hstep, List.append_cancel_left_eq, List.cons.injEq] at hd
    have hlength := congrArg String.length hd.1
    simp only [String.length_append] at hlength
    have : ".litgen.tmp".length = 11 := by decide
    omega
  · rw [ha, hstep] at hd
    have hlength := congrArg List.length hd
    simp only [List.length_dropLast, List.length_append, List.length_singleton] at hlength
    omega

theorem walk_concat (t : FileTree) (here : Address) (names : List String) (name : String) :
    t.walk here (names ++ [name]) =
      (t.walk here names).bind fun a => t.walk a [name] := by
  induction names generalizing here with
  | nil => rfl
  | cons first rest ih =>
      rw [List.cons_append, walk, walk]
      split
      · rfl
      · rfl
      · split
        · rfl
        · exact ih _

theorem locate_draft_ne {t : FileTree} {p : Path} {a : Address} (hname : p.name ≠ "")
    (hplace : t.locate p = .ok a) :
    t.locate (draftOf p) ≠ .error .notFound ∧ t.locate (draftOf p) ≠ .error .notDirectory := by
  have hwalk : t.walk [] (p.parts.dropLast ++ [p.name]) = .ok a := by
    rw [locate] at hplace
    split at hplace
    · simp at hplace
    · split at hplace
      · simp at hplace
      · rwa [← draft_parts hname]
  rw [walk_concat] at hwalk
  rcases hbefore : t.walk [] p.parts.dropLast with e | before
  · simp [hbefore, Except.bind] at hwalk
  · simp only [hbefore, Except.bind, walk] at hwalk
    rw [locate]
    split
    · simp
    · split
      · simp
      · rw [draftOf, Path.withEnding, walk_concat, hbefore]
        simp only [Except.bind, walk]
        rcases hget : t.get? before with _ | ⟨c⟩ | _
        · simp [hget] at hwalk
        · simp [hget] at hwalk
        · simp only
          split <;> simp

theorem cleared_withoutDraft {t : FileTree} {draft : Address}
    (hfree : t.get? draft ≠ some .directory) (text : List Char) :
    Cleared t (t.withoutDraft draft text) draft := by
  have hput := sameDirectories_put hfree (.text text)
  refine ⟨?_, ?_, ?_⟩
  · intro x
    by_cases hx : x = []
    · have hdraft : x ≠ draft := by
        rintro rfl
        exact hfree (hx ▸ get?_nil)
      rw [if_neg hdraft, hx, get?_nil, get?_nil]
    · rw [withoutDraft, get?_erase hx, get?_put hx]
      split <;> rfl
  · intro x
    rw [withoutDraft, hasFile_erase, hasFile_put_file]
    tauto
  · exact hput.trans (sameDirectories_erase fun hdirectory => hfree ((hput draft).mpr hdirectory))

theorem replaced_withoutDraft {t : FileTree} {a draft : Address} {c : Content}
    (hfile : t.get? a = some (.file c)) (hfree : t.get? draft ≠ some .directory)
    (text : List Char) :
    Replaced t ((t.withoutDraft draft text).put a (.file (.text text))) a draft text :=
  replaced_put hfile hfree

theorem entry_drafted {t : FileTree} {p : Path} {a draft : Address} {c c' : Content}
    (hname : p.name ≠ "") (hdraft : t.locate (draftOf p) = .ok draft)
    (hfree : t.get? draft ≠ some .directory) (hplace : t.locate p = .ok a) :
    (t.put draft (.file c')).entry p = .ok (.file c) ↔ t.get? a = some (.file c) := by
  have hput := sameDirectories_put hfree c'
  have hapart := ne_draft hname hplace hdraft
  rw [entry_eq_ok_iff]
  simp only [← hput.locate_eq_ok_iff, hplace, Except.ok.injEq, exists_eq_left']
  by_cases ha : a = []
  · simp [ha, get?_nil]
  · rw [get?_put ha, if_neg hapart]

/-! ### Replacing the text -/

theorem replacement (t : FileTree) (p : Path) (text : List Char) :
    Replacement t p text (t.replaceText p text).1 (t.replaceText p text).2 := by
  rw [replaceText]
  by_cases hname : p.name = ""
  · rw [if_pos (by simp [hname])]
    exact .unnamed hname
  · rw [if_neg (by simpa using hname)]
    simp only
    cases hwrite : t.write (draftOf p) (.text text) with
    | error e =>
        refine .undrafted hname fun draft hdraft => ?_
        by_contra hfree
        rw [write_eq_ok_iff.mpr ⟨draft, hdraft, hfree, rfl⟩] at hwrite
        simp at hwrite
    | ok drafted =>
        obtain ⟨draft, hdraft, hfree, rfl⟩ := write_eq_ok_iff.mp hwrite
        have hcleared := cleared_withoutDraft hfree text
        simp only [remove, (sameDirectories_put hfree _).locate_eq_ok_iff.mp hdraft]
        -- the draft is written and read at its own place, so the file is what it was
        have hmissing : (∀ c, (t.put draft (.file (.text text))).entry p ≠ .ok (.file c)) →
            ∀ a c, t.locate p = .ok a → t.get? a ≠ some (.file c) :=
          fun h a c hplace hfile => h c ((entry_drafted hname hdraft hfree hplace).mpr hfile)
        rcases hentry : (t.put draft (.file (.text text))).entry p with e | ⟨c⟩ | _
        · exact .unmatched hname hdraft hfree (hmissing (by simp [hentry]))
        · obtain ⟨a, hplace, -⟩ := entry_eq_ok_iff.mp hentry
          rw [← (sameDirectories_put hfree _).locate_eq_ok_iff] at hplace
          have hfile := (entry_drafted hname hdraft hfree hplace).mp hentry
          have hdirectory : t.get? a ≠ some .directory := by simp [hfile]
          rw [← withoutDraft]
          simp only [write_eq_ok_iff.mpr ⟨a, hcleared.directories.locate_eq_ok_iff.mp hplace,
            mt (hcleared.directories a).mpr hdirectory, rfl⟩]
          exact .replaced hname hdraft hfree hplace hfile (ne_draft hname hplace hdraft)
        · exact .unmatched hname hdraft hfree (hmissing (by simp [hentry]))

theorem exists_replaceText_eq_ok_iff (t : FileTree) (p : Path) (text : List Char) :
    (∃ t', t.replaceText p text = (.ok (), t')) ↔
      p.name ≠ "" ∧
        (∃ draft, t.locate (draftOf p) = .ok draft ∧ t.get? draft ≠ some .directory) ∧
        ∃ a c, t.locate p = .ok a ∧ t.get? a = some (.file c) := by
  have hends := replacement t p text
  rcases hreplace : t.replaceText p text with ⟨ended, t'⟩
  rw [hreplace] at hends
  have hended : (∃ t'', (ended, t') = (Except.ok (), t'')) ↔ ended = .ok () := by simp
  rw [hended]
  cases hends with
  | unnamed hname => simp [hname]
  | undrafted hname hdraft =>
      simp only [reduceCtorEq, false_iff, not_and]
      rintro - ⟨draft, hplace, hfree⟩
      exact absurd (hdraft draft hplace) hfree
  | unmatched hname hdraft hfree hmissing =>
      simp only [reduceCtorEq, false_iff, not_and]
      rintro - - ⟨a, c, hplace, hfile⟩
      exact hmissing a c hplace hfile
  | replaced hname hdraft hfree hplace hfile hapart =>
      exact iff_of_true rfl ⟨hname, ⟨_, hdraft, hfree⟩, _, _, hplace, hfile⟩

/-- How replacing the text of a file ends, as far as trees with the same directories can tell. -/
theorem replaceText_fst_congr {t t' : FileTree} {p : Path} {a : Address} {c c' : Content}
    (hdirectories : SameDirectories t t') (hplace : t.locate p = .ok a)
    (hfile : t.get? a = some (.file c)) (hfile' : t'.get? a = some (.file c'))
    (text : List Char) : (t'.replaceText p text).1 = (t.replaceText p text).1 := by
  have hplace' := hdirectories.locate_eq_ok_iff.mp hplace
  by_cases hname : p.name = ""
  · rw [replaceText, replaceText, if_pos (by simp [hname]), if_pos (by simp [hname])]
  · have hdraft : t'.locate (draftOf p) = t.locate (draftOf p) :=
      hdirectories.locate_eq (locate_draft_ne hname hplace).1 (locate_draft_ne hname hplace).2 rfl
    by_cases hfree : ∃ draft, t.locate (draftOf p) = .ok draft ∧ t.get? draft ≠ some .directory
    · obtain ⟨draft, hlocate, hother⟩ := hfree
      obtain ⟨s, hs⟩ := (exists_replaceText_eq_ok_iff t p text).mpr
        ⟨hname, ⟨draft, hlocate, hother⟩, a, c, hplace, hfile⟩
      obtain ⟨s', hs'⟩ := (exists_replaceText_eq_ok_iff t' p text).mpr
        ⟨hname, ⟨draft, hdraft.trans hlocate, mt (hdirectories draft).mpr hother⟩, a, c', hplace',
          hfile'⟩
      rw [hs, hs']
    · have hblocked : ∃ escape, ∀ s : FileTree, SameDirectories t s →
          s.locate (draftOf p) = t.locate (draftOf p) →
            (s.replaceText p text).1 = .error escape := by
        rcases hlocate : t.locate (draftOf p) with e | draft
        · refine ⟨.ofFile e, fun s _ hsame => ?_⟩
          rw [replaceText, if_neg (by simpa using hname)]
          simp only [write, hsame]
        · have hdirectory : t.get? draft = some .directory := by
            by_contra hother
            exact hfree ⟨draft, hlocate, hother⟩
          refine ⟨.ofFile .isDirectory, fun s hs hsame => ?_⟩
          rw [replaceText, if_neg (by simpa using hname)]
          simp [write, hsame, (hs draft).mp hdirectory]
      obtain ⟨escape, hblocked⟩ := hblocked
      rw [hblocked t' hdirectories hdraft, hblocked t (fun _ => Iff.rfl) rfl]

section

variable {t t' : FileTree} {p : Path} {text : List Char} {ended : Except Escape Unit}

theorem Replacement.get?_of_ne (h : Replacement t p text ended t') {x : Address}
    (hplace : t.locate p ≠ .ok x) (hdraft : t.locate (draftOf p) ≠ .ok x) :
    t'.get? x = t.get? x := by
  cases h with
  | unnamed => rfl
  | undrafted => rfl
  | unmatched _ hdraft' hfree _ =>
      rw [(cleared_withoutDraft hfree text).get?, if_neg]
      rintro rfl
      exact hdraft hdraft'
  | replaced _ hdraft' hfree hplace' hfile _ =>
      rw [(replaced_withoutDraft hfile hfree text).get?, if_neg, if_neg]
      · rintro rfl
        exact hdraft hdraft'
      · rintro rfl
        exact hplace hplace'

theorem Replacement.get?_of_error {escape : Escape}
    (h : Replacement t p text (.error escape) t') {x : Address}
    (hdraft : t.locate (draftOf p) ≠ .ok x) : t'.get? x = t.get? x := by
  cases h with
  | unnamed => rfl
  | undrafted => rfl
  | unmatched _ hdraft' hfree _ =>
      rw [(cleared_withoutDraft hfree text).get?, if_neg]
      rintro rfl
      exact hdraft hdraft'

theorem Replacement.read (h : Replacement t p text (.ok ()) t') :
    t'.read p = .ok (.text text) := by
  cases h with
  | replaced _ _ hfree hplace hfile _ =>
      have hreplaced := replaced_withoutDraft hfile hfree text
      refine read_eq_ok_iff.mpr ⟨_, hreplaced.directories.locate_eq_ok_iff.mp hplace, ?_⟩
      rw [hreplaced.get?, if_pos rfl]

theorem Replacement.no_draft (h : Replacement t p text ended t') (hname : p.name ≠ "") :
    t'.isFile (draftOf p) ≠ .ok true := by
  intro hisFile
  obtain ⟨x, c, hplace, hleft⟩ := isFile_eq_true_iff.mp hisFile
  cases h with
  | unnamed hname' => exact hname hname'
  | undrafted _ hdraft => simp [hdraft x hplace] at hleft
  | unmatched _ hdraft hfree _ =>
      have hcleared := cleared_withoutDraft hfree text
      rw [← hcleared.directories.locate_eq_ok_iff, hdraft, Except.ok.injEq] at hplace
      rw [hcleared.get?, if_pos hplace.symm] at hleft
      simp at hleft
  | replaced _ hdraft hfree _ hfile hapart =>
      have hreplaced := replaced_withoutDraft hfile hfree text
      rw [← hreplaced.directories.locate_eq_ok_iff, hdraft, Except.ok.injEq] at hplace
      rw [hreplaced.get?, if_neg (hplace ▸ hapart.symm), if_pos hplace.symm] at hleft
      simp at hleft

end

/-! ### Regenerating the file -/

section

variable {t : FileTree} {config : Config} {p : Path} {check : Bool} {known : Option (List Char)}

theorem regenerateFile_eq (t : FileTree) (config : Config) (p : Path) (check : Bool)
    (known : Option (List Char)) :
    t.regenerateFile config p check known =
      match t.sourceOf p known with
      | .error e => (.error (.ofFile e), t, [])
      | .ok source =>
          match regenerateSource config p.text source with
          | (.error escape, said) => (.error escape, t, said)
          | (.ok report, said) =>
              if report.changed && !check then
                match t.replaceText p report.text with
                | (.error escape, t) => (.error escape, t, said)
                | (.ok _, t) =>
                    (.ok report, t,
                      said ++ [Remark.log .info .regeneration ("rewrote " ++ p.text)])
              else (.ok report, t, said) := rfl

/-- A regeneration that comes to write replaces the text, and ends as that does. -/
theorem regenerateFile_of_writes {report : Report} (h : Writes t config p check known report) :
    (t.regenerateFile config p check known).1 =
        (t.replaceText p report.text).1.map (fun _ => report) ∧
      (t.regenerateFile config p check known).2.1 = (t.replaceText p report.text).2 := by
  obtain ⟨⟨text, hsource, hreport⟩, hchanged, rfl⟩ := h
  rw [regenerateFile_eq, hsource]
  simp only
  rcases hrun : regenerateSource config p.text text with ⟨escape | r, said⟩
  · simp [hrun] at hreport
  · rw [hrun, Except.ok.injEq] at hreport
    subst hreport
    rcases hreplaced : t.replaceText p r.text with ⟨escape | _, t'⟩
    · simp [hchanged, hreplaced, Except.map]
    · simp [hchanged, hreplaced, Except.map]

/-- A regeneration that does not come to write leaves the tree alone; if it comes to its end there
was nothing to write or it was only a check. -/
theorem regenerateFile_of_not_writes (h : ∀ report, ¬ Writes t config p check known report) :
    (t.regenerateFile config p check known).2.1 = t ∧
      ∀ report, (t.regenerateFile config p check known).1 = .ok report →
        ¬ (report.changed = true ∧ check = false) := by
  rw [regenerateFile_eq]
  rcases hsource : t.sourceOf p known with e | text
  · simp
  · simp only
    rcases hrun : regenerateSource config p.text text with ⟨escape | r, said⟩
    · simp
    · have hkept : ¬ (r.changed = true ∧ check = false) :=
        fun hboth => h r ⟨⟨text, hsource, by rw [hrun]⟩, hboth.1, hboth.2⟩
      simp only
      rw [if_neg (by simpa using hkept)]
      refine ⟨rfl, ?_⟩
      rintro report ⟨rfl⟩
      exact hkept

end

/-- Regenerating a file changes the tree in one step. If it fails, all is as it was but for the
draft. If it ends well, the file holds the new text if there is one to be written, and else the
whole tree is as it was. Nothing but the file and its draft ever changes, and once the new text was
to be written no file is left where the draft was. -/
theorem regenerateFile_atomic (t : FileTree) (config : Config) (p : Path) (check : Bool)
    (known : Option (List Char)) :
    (∀ escape, (t.regenerateFile config p check known).1 = .error escape →
      ∀ x, t.locate (draftOf p) ≠ .ok x →
        (t.regenerateFile config p check known).2.1.get? x = t.get? x) ∧
    (∀ report, (t.regenerateFile config p check known).1 = .ok report →
      if report.changed = true ∧ check = false then
        (t.regenerateFile config p check known).2.1.read p = .ok (.text report.text)
      else (t.regenerateFile config p check known).2.1 = t) ∧
    (∀ x, t.locate p ≠ .ok x → t.locate (draftOf p) ≠ .ok x →
      (t.regenerateFile config p check known).2.1.get? x = t.get? x) ∧
    (∀ report, Writes t config p check known report → p.name ≠ "" →
      (t.regenerateFile config p check known).2.1.isFile (draftOf p) ≠ .ok true) := by
  by_cases hwrites : ∃ report, Writes t config p check known report
  · obtain ⟨report, hwrites⟩ := hwrites
    obtain ⟨hended, htree⟩ := regenerateFile_of_writes hwrites
    have hends := replacement t p report.text
    rw [hended, htree]
    rcases hreplace : t.replaceText p report.text with ⟨escape | _, t'⟩
    all_goals rw [hreplace] at hends
    · refine ⟨fun _ _ x hx => hends.get?_of_error hx, by simp [Except.map],
        fun x => hends.get?_of_ne, fun _ _ => hends.no_draft⟩
    · refine ⟨by simp [Except.map], ?_, fun x => hends.get?_of_ne, fun _ _ => hends.no_draft⟩
      rintro report' ⟨rfl⟩
      rw [if_pos ⟨hwrites.changed, hwrites.unchecked⟩]
      exact hends.read
  · obtain ⟨htree, hkept⟩ := regenerateFile_of_not_writes (not_exists.mp hwrites)
    rw [htree]
    refine ⟨fun _ _ _ _ => rfl, ?_, fun _ _ _ => rfl, fun report h => absurd ⟨report, h⟩ hwrites⟩
    intro report hreport
    rw [if_neg (hkept report hreport)]

def emptyDirective : List Char :=
  "/*!!\n!! */\n".toList

/-- Two files with a directive each. A directory stands where the draft of the second would be. -/
def halfBlocked : FileTree :=
  ⟨[(["a.h"], .file (.text emptyDirective)), (["b.h"], .file (.text emptyDirective)),
    (["b.h.litgen.tmp"], .directory)]⟩

theorem exists_changed_emptyDirective :
    ∃ report, (regenerateSource {} "a.h" emptyDirective).1 = .ok report ∧
      report.changed = true := by
  have hchanged : (regenerateSource {} "a.h" emptyDirective).1.map Report.changed = .ok true := by
    decide +kernel
  cases hrun : (regenerateSource {} "a.h" emptyDirective).1 with
  | error escape => simp [hrun, Except.map] at hchanged
  | ok report => exact ⟨report, rfl, by simpa [hrun, Except.map] using hchanged⟩

theorem regenerateFile_blocked :
    (halfBlocked.regenerateFile {} ⟨["b.h"]⟩ false none).1 = .error (.file .isDirectory) := by
  have hended : (halfBlocked.regenerateFile {} ⟨["b.h"]⟩ false none).1.map Report.changed =
      .error (.file .isDirectory) := by
    decide +kernel
  cases hrun : (halfBlocked.regenerateFile {} ⟨["b.h"]⟩ false none).1 with
  | error escape => simpa [hrun, Except.map] using hended
  | ok report => simp [hrun, Except.map] at hended

theorem regenerateFile_atomic_halfBlocked :
    (∃ report, Writes halfBlocked {} ⟨["a.h"]⟩ false none report ∧
      (halfBlocked.regenerateFile {} ⟨["a.h"]⟩ false none).1 = .ok report ∧
      (halfBlocked.regenerateFile {} ⟨["a.h"]⟩ false none).2.1.read ⟨["a.h"]⟩ =
        .ok (.text report.text) ∧
      (halfBlocked.regenerateFile {} ⟨["a.h"]⟩ false none).2.1.isFile (draftOf ⟨["a.h"]⟩) ≠
        .ok true) ∧
    (halfBlocked.regenerateFile {} ⟨["b.h"]⟩ false none).1 = .error (.file .isDirectory) ∧
      (halfBlocked.regenerateFile {} ⟨["b.h"]⟩ false none).2.1.get? ["b.h"] =
        halfBlocked.get? ["b.h"] := by
  constructor
  · obtain ⟨report, hrun, hchanged⟩ := exists_changed_emptyDirective
    have hwrites : Writes halfBlocked {} ⟨["a.h"]⟩ false none report :=
      ⟨⟨emptyDirective, by decide +kernel, hrun⟩, hchanged, rfl⟩
    have hname : (⟨["a.h"]⟩ : Path).name ≠ "" := by decide +kernel
    obtain ⟨t', hreplace⟩ : ∃ t', halfBlocked.replaceText ⟨["a.h"]⟩ report.text = (.ok (), t') :=
      (exists_replaceText_eq_ok_iff _ _ _).mpr ⟨hname, ⟨["a.h.litgen.tmp"], by decide +kernel⟩,
        ["a.h"], .text emptyDirective, by decide +kernel⟩
    have hended : (halfBlocked.regenerateFile {} ⟨["a.h"]⟩ false none).1 = .ok report := by
      rw [(regenerateFile_of_writes hwrites).1, hreplace]
      rfl
    obtain ⟨-, hwritten, -, hclear⟩ := regenerateFile_atomic halfBlocked {} ⟨["a.h"]⟩ false none
    have hread := hwritten report hended
    rw [if_pos ⟨hchanged, rfl⟩] at hread
    exact ⟨report, hwrites, hended, hread, hclear report hwrites hname⟩
  · obtain ⟨hunchanged, -⟩ := regenerateFile_atomic halfBlocked {} ⟨["b.h"]⟩ false none
    exact ⟨regenerateFile_blocked, hunchanged _ regenerateFile_blocked _ (by decide +kernel)⟩

end Codeweave.FileTree
