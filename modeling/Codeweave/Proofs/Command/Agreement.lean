import Codeweave.Proofs.Command.Candidates
import Codeweave.Proofs.Command.Prediction
import Codeweave.Proofs.Command.Prefilter
import Codeweave.Proofs.Directive.PathScript
import Codeweave.Proofs.Directive.Respelling
import Codeweave.Proofs.FileTree.Replacement

/-!
Checking after regenerating. While a command regenerates files, each file that it comes to has its
first text or the text that was made of it, and a file that was visited calmly stays calm. So in the
end nothing is left to change.
-/

namespace Codeweave.Command

open Directive FileTree

/-- A path that one of the paths of an invocation stands for and that is worked on. -/
structure Candidate (inv : Invocation) (t : FileTree) (p : Path) : Prop where
  kept : isLeftOut inv.suffixes p = false
  stoodFor : ∃ root ∈ inv.paths.map Path.ofString, StandsFor t root p

/-- What is asked of each directive of the files that an invocation works on. -/
def EachDirective (inv : Invocation) (t : FileTree) (P : Path → List Char → Block → Prop) : Prop :=
  ∀ p text blocks, Candidate inv t p → t.readText p = .ok text → scan text = .ok blocks →
    ∀ b ∈ blocks, P p text b

/-- The files of an invocation can be regenerated again and again: closers end plainly, no begin
sentinel ends in a lone return, no script depends on the line that it stands in, and no file is the
draft of another. -/
structure Orderly (config : Config) (inv : Invocation) (t : FileTree) : Prop where
  closers : EachDirective inv t fun _ text b => EndsPlainly (text.take b.insertAt)
  sentinels : EachDirective inv t fun _ text b =>
    ∀ span ∈ b.generated, (text.take span.start).getLast? ≠ some '\r'
  scripts : EachDirective inv t fun p _ b => LineIndependent config p.text b.script
  drafts : ∀ p q, Candidate inv t p → Candidate inv t q → p ≠ q → ¬ SamePlace t (draftOf p) q

/-- Where two paths lead to the same file, its scripts give the same under both. -/
def SpellingIndependent (config : Config) (inv : Invocation) (t : FileTree) : Prop :=
  EachDirective inv t fun p _ b => ∀ q, Candidate inv t q → SamePlace t p q →
    ∀ n, generatedAt config p.text b.script n = generatedAt config q.text b.script n

/-- The second tree is reached from the first one while files are regenerated: a file has its first
text or one that was made of it. -/
structure Reached (config : Config) (inv : Invocation) (t t' : FileTree) : Prop where
  noMoreFiles : NoMoreFiles t t'
  contents : ∀ x c, t'.get? x = some (.file c) → t.get? x = some (.file c) ∨
    ∃ p text r, Candidate inv t p ∧ t.locate p = .ok x ∧ t.get? x = some (.file (.text text)) ∧
      (regenerateSource config p.text text).1 = .ok r ∧ c = .text r.text

theorem Reached.refl (config : Config) (inv : Invocation) (t : FileTree) :
    Reached config inv t t :=
  ⟨NoMoreFiles.refl t, fun _ _ h => Or.inl h⟩

/-! ### Calm files -/

theorem Calm.unique {config : Config} {suffixes : List (Option String)} {t : FileTree} {p : Path}
    {b b' : Bool} (h : Calm config suffixes t p b) (h' : Calm config suffixes t p b') : b = b' := by
  have h : Calm config suffixes ({ tree := t } : Desk).tree p b := h
  have h' : Calm config suffixes ({ tree := t } : Desk).tree p b' := h'
  obtain ⟨events, -, hall⟩ := h.workFrom_onFile
  obtain ⟨events', -, hall'⟩ := h'.workFrom_onFile
  have hsame := (hall true).symm.trans (hall' true)
  simpa using congrArg Prod.fst hsame

theorem Calm.exists_file {config : Config} {suffixes : List (Option String)} {t : FileTree}
    {p : Path} (h : Calm config suffixes t p false) :
    ∃ x c, t.locate p = .ok x ∧ t.get? x = some (.file c) := by
  generalize hfalse : false = b at h
  cases h with
  | broken hfaces =>
      obtain ⟨x, hplace, hget⟩ := readText_eq_ok_iff.mp hfaces.readText
      exact ⟨x, _, hplace, hget⟩
  | current hfaces =>
      obtain ⟨x, hplace, hget⟩ := readText_eq_ok_iff.mp hfaces.readText
      exact ⟨x, _, hplace, hget⟩
  | _ => simp at hfalse

theorem Calm.of_get?_eq {config : Config} {suffixes : List (Option String)} {t t' : FileTree}
    {p : Path} {b : Bool} (h : Calm config suffixes t p b) (hdirectories : SameDirectories t t')
    (hget : isLeftOut suffixes p = false → ∀ x c, t.locate p = .ok x → t.get? x = some (.file c) →
      t'.get? x = some (.file c)) :
    Calm config suffixes t' p b := by
  -- only files that are not left out are read, so only their contents have to stay
  have hread : isLeftOut suffixes p = false → ∀ text, t.readText p = .ok text →
      t'.readText p = .ok text := by
    intro hkept text htext
    obtain ⟨x, hplace, hfile⟩ := readText_eq_ok_iff.mp htext
    exact readText_eq_ok_iff.mpr
      ⟨x, hdirectories.locate_eq_ok_iff.mp hplace, hget hkept x _ hplace hfile⟩
  cases h with
  | leftOut hleft => exact .leftOut hleft
  | binary hkept hbinary =>
      obtain ⟨x, bytes, hplace, hfile⟩ := readText_eq_undecodable_iff.mp hbinary
      exact .binary hkept (readText_eq_undecodable_iff.mpr
        ⟨x, bytes, hdirectories.locate_eq_ok_iff.mp hplace, hget hkept x _ hplace hfile⟩)
  | bare hkept htext hbare => exact .bare hkept (hread hkept _ htext) hbare
  | broken hfaces hbroken =>
      exact .broken ⟨hfaces.kept, hread hfaces.kept _ hfaces.readText, hfaces.holds⟩ hbroken
  | current hfaces hreport hsame =>
      exact .current ⟨hfaces.kept, hread hfaces.kept _ hfaces.readText, hfaces.holds⟩ hreport hsame

/-! ### Regenerating one file -/

theorem ok_congr {r r' : Report} (h : r'.results.map (·.2.ok) = r.results.map (·.2.ok)) :
    r'.ok = r.ok := by
  have hall : ∀ r : Report, r.ok = (r.results.map (·.2.ok)).all id := by
    intro r
    rw [Report.ok, List.all_map]
    rfl
  rw [hall, hall, h]

theorem EachDirective.of_mem_results {config : Config} {inv : Invocation} {t : FileTree}
    {P : Path → List Char → Block → Prop} (h : EachDirective inv t P) {p : Path} {path : String}
    {text : List Char} {r : Report} (hp : Candidate inv t p) (hread : t.readText p = .ok text)
    (hrun : (regenerateSource config path text).1 = .ok r) :
    ∀ result ∈ r.results, P p text result.1 := by
  obtain ⟨blocks, results, hscan, hyields, -, rfl⟩ := regenerateSource_eq_ok_iff.mp hrun
  intro result hresult
  apply h p text blocks hp hread hscan
  rw [← map_fst_of_yields hyields]
  exact List.mem_map_of_mem hresult

/-- What a command leaves behind on its way from one tree to the next, the first tree being the one
that it started with. -/
structure Onward (config : Config) (inv : Invocation) (t t' t'' : FileTree) : Prop where
  reached : Reached config inv t t''
  noMoreFiles : NoMoreFiles t' t''
  calm : ∀ root ∈ inv.paths.map Path.ofString, ∀ q b, StandsFor t root q →
    Calm config inv.suffixes t' q b → Calm config inv.suffixes t'' q b

theorem Onward.refl {config : Config} {inv : Invocation} {t t' : FileTree}
    (h : Reached config inv t t') : Onward config inv t t' t' :=
  ⟨h, NoMoreFiles.refl t', fun _ _ _ _ _ hcalm => hcalm⟩

theorem Onward.trans {config : Config} {inv : Invocation} {t t₁ t₂ t₃ : FileTree}
    (h : Onward config inv t t₁ t₂) (h' : Onward config inv t t₂ t₃) :
    Onward config inv t t₁ t₃ :=
  ⟨h'.reached, h.noMoreFiles.trans h'.noMoreFiles, fun root hroot q b hq hcalm =>
    h'.calm root hroot q b hq (h.calm root hroot q b hq hcalm)⟩

section

variable {config : Config} {inv : Invocation} {t t' t'' : FileTree} {p q : Path} {r : Report}
  (horderly : Orderly config inv t) (hspelling : SpellingIndependent config inv t)
  (hreached : Reached config inv t t')

include horderly hspelling

theorem eachDirective_alikeUnder :
    EachDirective inv t fun p _ b => ∀ q, Candidate inv t q → SamePlace t p q →
      AlikeUnder config p.text q.text b.script := by
  intro p text blocks hp hread hscan b hb q hq hplace m n
  rw [horderly.scripts p text blocks hp hread hscan b hb m n]
  exact hspelling p text blocks hp hread hscan b hb q hq hplace n

theorem exists_unchanged_of_samePlace {text : List Char} (hp : Candidate inv t p)
    (hq : Candidate inv t q) (hplace : SamePlace t p q) (hread : t.readText p = .ok text)
    (hrun : (regenerateSource config p.text text).1 = .ok r) :
    ∃ again, (regenerateSource config q.text r.text).1 = .ok again ∧ again.changed = false ∧
      again.results.map (·.2.ok) = r.results.map (·.2.ok) :=
  exists_unchanged_respelled hrun (horderly.closers.of_mem_results hp hread hrun)
    (horderly.sentinels.of_mem_results hp hread hrun) fun result hresult =>
      (eachDirective_alikeUnder horderly hspelling).of_mem_results hp hread hrun result hresult
        q hq hplace

theorem calm_of_regenerated {text : List Char} (hp : Candidate inv t p)
    (hread : t.readText p = .ok text) (hrun : (regenerateSource config p.text text).1 = .ok r)
    (hread' : t'.readText p = .ok r.text) : Calm config inv.suffixes t' p r.ok := by
  obtain ⟨x, hplace, -⟩ := readText_eq_ok_iff.mp hread
  obtain ⟨again, hagain, hsame, hflags⟩ :=
    exists_unchanged_of_samePlace horderly hspelling hp hp ⟨x, hplace, hplace⟩ hread hrun
  rw [← ok_congr hflags]
  cases hbare : holds opener r.text with
  | true => exact .current ⟨hp.kept, hread', hbare⟩ hagain hsame
  | false =>
      have hok : again.ok = true := by
        rw [Report.ok, results_eq_nil_of_not_holds hbare hagain]
        rfl
      rw [hok]
      exact .bare hp.kept hread' hbare

include hreached

theorem Stale.exists_first (hp : Candidate inv t p) (h : Stale config inv.suffixes t' p r) :
    ∃ x text, t.locate p = .ok x ∧ t.get? x = some (.file (.text text)) ∧
      t'.get? x = some (.file (.text text)) ∧ holds opener text = true ∧ r.changed = true ∧
      (regenerateSource config p.text text).1 = .ok r := by
  obtain ⟨hchanged, text, hfaces, hreport⟩ := h
  obtain ⟨x, hplace', hget'⟩ := readText_eq_ok_iff.mp hfaces.readText
  have hplace := hreached.noMoreFiles.directories.locate_eq_ok_iff.mpr hplace'
  refine ⟨x, text, hplace, ?_, hget', hfaces.holds, hchanged, hreport⟩
  rcases hreached.contents x _ hget' with hget | ⟨p₀, text₀, r₀, hp₀, hplace₀, hget₀, hrun₀, heq⟩
  · exact hget
  · simp only [Content.text.injEq] at heq
    subst heq
    obtain ⟨again, hagain, hsame, -⟩ := exists_unchanged_of_samePlace horderly hspelling hp₀ hp
      ⟨x, hplace₀, hplace⟩ (readText_eq_ok_iff.mpr ⟨x, hplace₀, hget₀⟩) hrun₀
    rw [hreport, Except.ok.injEq] at hagain
    rw [hagain, hsame] at hchanged
    simp at hchanged

theorem Calm.not_stale {b : Bool} (hp : Candidate inv t p) (hq : Candidate inv t q)
    (hplace : SamePlace t p q) (hcalm : Calm config inv.suffixes t' q b) :
    ¬ Stale config inv.suffixes t' p r := by
  intro hstale
  obtain ⟨x, text, hplacep, hget, hget', hholds, hchanged, hrun⟩ :=
    hstale.exists_first horderly hspelling hreached hp
  have hread := readText_eq_ok_iff.mpr ⟨x, hplacep, hget⟩
  obtain ⟨x', hplacep', hplaceq⟩ := hplace
  obtain rfl : x = x' := Except.ok.inj (hplacep.symm.trans hplacep')
  obtain ⟨r', hrun', hchanged', -⟩ := exists_report_respelled hrun fun result hresult =>
    (eachDirective_alikeUnder horderly hspelling).of_mem_results hp hread hrun result hresult
      q hq ⟨x, hplacep, hplaceq⟩
  have hread' : t'.readText q = .ok text := readText_eq_ok_iff.mpr
    ⟨x, hreached.noMoreFiles.directories.locate_eq_ok_iff.mp hplaceq, hget'⟩
  cases hcalm with
  | leftOut hleft => simp [hq.kept] at hleft
  | binary _ hbinary => simp [hread'] at hbinary
  | bare _ hbare hnot =>
      rw [hread', Except.ok.injEq] at hbare
      rw [← hbare, hholds] at hnot
      simp at hnot
  | broken hfaces hbroken =>
      have htext := hfaces.readText
      rw [hread', Except.ok.injEq] at htext
      rw [← htext, hrun'] at hbroken
      simp at hbroken
  | current hfaces hreport hsame =>
      have htext := hfaces.readText
      rw [hread', Except.ok.injEq] at htext
      rw [← htext, hrun', Except.ok.injEq] at hreport
      rw [← hreport, hchanged', hchanged] at hsame
      simp at hsame

omit horderly hspelling in
theorem Reached.replaced {x draft : Address} {text : List Char} (hp : Candidate inv t p)
    (hplace : t.locate p = .ok x) (hget : t.get? x = some (.file (.text text)))
    (hrun : (regenerateSource config p.text text).1 = .ok r) (hless : NoMoreFiles t' t'')
    (hreplaced : Replaced t' t'' x draft r.text) : Reached config inv t t'' := by
  refine ⟨hreached.noMoreFiles.trans hless, fun y c hy => ?_⟩
  rw [hreplaced.get?] at hy
  split at hy
  · rename_i hyx
    subst hyx
    simp only [Option.some.injEq, Entry.file.injEq] at hy
    exact Or.inr ⟨p, text, r, hp, hplace, hget, hrun, hy.symm⟩
  · split at hy
    · simp at hy
    · exact hreached.contents y c hy

theorem Calm.get?_replaced {b : Bool} {x y draft : Address} {text : List Char} {c : Content}
    (hp : Candidate inv t p) (hq : Candidate inv t q) (hcalm : Calm config inv.suffixes t' q b)
    (hstale : Stale config inv.suffixes t' p r) (hplace : t.locate p = .ok x)
    (hplaceq : t.locate q = .ok y) (hdraft : t.locate (draftOf p) = .ok draft)
    (hreplaced : Replaced t' t'' x draft text) (hget : t'.get? y = some (.file c)) :
    t''.get? y = some (.file c) := by
  -- a calm file is neither the one that was out of date nor its draft
  have hyx : y ≠ x := by
    rintro rfl
    exact hcalm.not_stale horderly hspelling hreached hp hq ⟨y, hplace, hplaceq⟩ hstale
  have hydraft : y ≠ draft := by
    rintro rfl
    refine horderly.drafts p q hp hq ?_ ⟨y, hdraft, hplaceq⟩
    rintro rfl
    rw [hplace, Except.ok.injEq] at hplaceq
    exact hyx hplaceq.symm
  rwa [hreplaced.get?, if_neg hyx, if_neg hydraft]

/-- Replacing the text of a file that is out of date makes it calm and leaves the calm files
calm. -/
theorem Stale.onward (hp : Candidate inv t p) (hstale : Stale config inv.suffixes t' p r)
    (hreplace : t'.replaceText p r.text = (.ok (), t'')) :
    Onward config inv t t' t'' ∧ Calm config inv.suffixes t'' p r.ok := by
  obtain ⟨x, text, hplace, hget, hget', hholds, hchanged, hrun⟩ :=
    hstale.exists_first horderly hspelling hreached hp
  have hdirectories := hreached.noMoreFiles.directories
  have hplace' := hdirectories.locate_eq_ok_iff.mp hplace
  obtain ⟨draft, hdraft, hreplaced⟩ := replaced_of_replaceText hplace' hget' hreplace
  have hless := hreplaced.noMoreFiles hget' (wellNamed_of_locate hdraft)
  refine ⟨⟨hreached.replaced hp hplace hget hrun hless hreplaced, hless, ?_⟩, ?_⟩
  · intro root hroot q b hq hcalm
    refine hcalm.of_get?_eq hless.directories fun hkept y c hplacey hgety => ?_
    exact hcalm.get?_replaced horderly hspelling hreached hp ⟨hkept, root, hroot, hq⟩ hstale hplace
      (hdirectories.locate_eq_ok_iff.mpr hplacey) (hdirectories.locate_eq_ok_iff.mpr hdraft)
      hreplaced hgety
  · refine calm_of_regenerated horderly hspelling hp
      (readText_eq_ok_iff.mpr ⟨x, hplace, hget⟩) hrun (readText_eq_ok_iff.mpr ⟨x, ?_, ?_⟩)
    · exact hless.directories.locate_eq_ok_iff.mp hplace'
    · rw [hreplaced.get?, if_pos rfl]

theorem onward_onFile {root : Path} (hroot : root ∈ inv.paths.map Path.ofString)
    (hp : StandsFor t root p) {d d' : Desk} (hd : d.tree = t') {b : Bool}
    (hrun : workFrom d (onFile inv.suffixes (regenerateStep config false) p) = (.ok b, d')) :
    Onward config inv t t' d'.tree ∧ Calm config inv.suffixes d'.tree p b := by
  subst hd
  rcases calm_or_stale hrun with hcalm | ⟨r, hstale⟩
  · obtain ⟨events, -, hall⟩ := hcalm.workFrom_onFile
    rw [hall false, Prod.mk.injEq] at hrun
    rw [← hrun.2]
    exact ⟨Onward.refl hreached, hcalm⟩
  · obtain ⟨-, rfl, hreplace⟩ := hstale.workFrom_onFile false hrun
    obtain ⟨-, text, hfaces, -⟩ := id hstale
    exact hstale.onward horderly hspelling hreached ⟨hfaces.kept, root, hroot, hp⟩ hreplace

end

/-! ### Regenerating all files -/

/-- The files are calm, and the flag tells whether all is well with them. -/
structure Settled (config : Config) (suffixes : List (Option String)) (t : FileTree)
    (files : Path → Prop) (well : Bool) : Prop where
  calm : ∀ p, files p → ∃ b, Calm config suffixes t p b
  well_iff : well = true ↔ ∀ p, files p → Calm config suffixes t p true

section

variable {config : Config} {suffixes : List (Option String)} {t t' : FileTree}
  {files files' : Path → Prop} {well well' : Bool}

theorem Settled.unique (h : Settled config suffixes t files well)
    (h' : Settled config suffixes t files well') : well = well' := by
  rw [Bool.eq_iff_iff, h.well_iff, h'.well_iff]

theorem settled_singleton {p : Path} {b : Bool} (h : Calm config suffixes t p b) :
    Settled config suffixes t (· = p) b := by
  refine ⟨fun q hq => ⟨b, hq ▸ h⟩, ?_, ?_⟩
  · rintro rfl q rfl
    exact h
  · intro hall
    exact h.unique (hall p rfl)

theorem Settled.or (h : Settled config suffixes t files well)
    (h' : Settled config suffixes t files' well') :
    Settled config suffixes t (fun p => files p ∨ files' p) (well && well') := by
  refine ⟨fun p hp => hp.elim (h.calm p) (h'.calm p), ?_⟩
  simp only [Bool.and_eq_true, h.well_iff, h'.well_iff, or_imp, forall_and]

theorem Settled.congr (h : Settled config suffixes t files well)
    (hfiles : ∀ p, files' p ↔ files p) : Settled config suffixes t files' well := by
  obtain rfl : files' = files := funext fun p => propext (hfiles p)
  exact h

/-- Files that are calm stay settled where they stay calm, even if some with which all is well are
left out. -/
theorem Settled.of_calm (h : Settled config suffixes t files well)
    (hcalm : ∀ p b, files p → Calm config suffixes t p b → Calm config suffixes t' p b)
    (hfiles : ∀ p, files' p → files p)
    (hbad : ∀ p, files p → Calm config suffixes t' p false → files' p) :
    Settled config suffixes t' files' well := by
  refine ⟨?_, ?_⟩
  · intro p hp
    obtain ⟨b, hb⟩ := h.calm p (hfiles p hp)
    exact ⟨b, hcalm p b (hfiles p hp) hb⟩
  · rw [h.well_iff]
    constructor
    · intro hall p hp
      exact hcalm p true (hfiles p hp) (hall p (hfiles p hp))
    · intro hall p hp
      obtain ⟨b, hb⟩ := h.calm p hp
      cases b with
      | true => exact hb
      | false =>
          have hfalse := hcalm p false hp hb
          simpa using hfalse.unique (hall p (hbad p hp hfalse))

end

section

variable {config : Config} {inv : Invocation} {t : FileTree}
  (horderly : Orderly config inv t) (hspelling : SpellingIndependent config inv t)

include horderly hspelling

theorem onward_onFiles {root : Path} (hroot : root ∈ inv.paths.map Path.ofString)
    {paths : List Path} (hpaths : ∀ p ∈ paths, StandsFor t root p) {d d' : Desk}
    (hreached : Reached config inv t d.tree) {well : Bool}
    (hrun : workFrom d (onFiles (onFile inv.suffixes (regenerateStep config false)) paths) =
      (.ok well, d')) :
    Onward config inv t d.tree d'.tree ∧
      Settled config inv.suffixes d'.tree (· ∈ paths) well := by
  induction paths generalizing d well with
  | nil =>
      simp only [onFiles, workFrom_pure, Prod.mk.injEq, Except.ok.injEq] at hrun
      obtain ⟨rfl, rfl⟩ := hrun
      exact ⟨Onward.refl hreached, by simp, by simp⟩
  | cons p rest ih =>
      rw [List.forall_mem_cons] at hpaths
      obtain ⟨first, d₁, second, hfirst, hsecond, rfl⟩ := workFrom_both_eq_ok_iff.mp hrun
      obtain ⟨honward, hcalm⟩ :=
        onward_onFile horderly hspelling hreached hroot hpaths.1 rfl hfirst
      obtain ⟨honward', hsettled⟩ := ih hpaths.2 honward.reached hsecond
      refine ⟨honward.trans honward', ?_⟩
      exact ((settled_singleton (honward'.calm root hroot p _ hpaths.1 hcalm)).or hsettled).congr
        fun q => List.mem_cons

/-- What a command leaves behind that regenerates all files that its paths stand for. -/
theorem onward_onPaths {roots : List Path}
    (hroots : ∀ root ∈ roots, root ∈ inv.paths.map Path.ofString) {d d' : Desk}
    (hreached : Reached config inv t d.tree) {well : Bool}
    (hrun : workFrom d (onPaths (onFile inv.suffixes (regenerateStep config false)) roots) =
      (.ok well, d')) :
    Onward config inv t d.tree d'.tree ∧
      (∀ root ∈ roots, ∃ paths, candidates d'.tree root = .ok paths) ∧
      Settled config inv.suffixes d'.tree (fun p => ∃ root ∈ roots, StandsFor d'.tree root p)
        well := by
  induction roots generalizing d well with
  | nil =>
      simp only [onPaths, workFrom_pure, Prod.mk.injEq, Except.ok.injEq] at hrun
      obtain ⟨rfl, rfl⟩ := hrun
      exact ⟨Onward.refl hreached, by simp, by simp, by simp⟩
  | cons root rest ih =>
      rw [List.forall_mem_cons] at hroots
      rw [onPaths, workFrom_bind, workFrom_get] at hrun
      cases hcandidates : candidates d.tree root with
      | error e => simp [hcandidates] at hrun
      | ok paths =>
          simp only [hcandidates] at hrun
          obtain ⟨first, d₁, second, hfirst, hsecond, rfl⟩ := workFrom_both_eq_ok_iff.mp hrun
          have hpaths : ∀ p, p ∈ paths ↔ StandsFor d.tree root p :=
            fun p => (standsFor_iff_mem hcandidates).symm
          have hfirstly : ∀ p ∈ paths, StandsFor t root p := fun p hp =>
            ((hpaths p).mp hp).of_noMoreFiles hreached.noMoreFiles
          obtain ⟨honward, hsettled⟩ :=
            onward_onFiles horderly hspelling hroots.1 hfirstly hreached hfirst
          obtain ⟨honward', hlisted, hsettled'⟩ := ih hroots.2 honward.reached hsecond
          have hless := honward.noMoreFiles.trans honward'.noMoreFiles
          refine ⟨honward.trans honward', ?_, ?_⟩
          · rw [List.forall_mem_cons]
            exact ⟨exists_candidates hless.directories hcandidates, hlisted⟩
          · -- drafts that were lying about are gone by now, but all was well with those
            have hhead : Settled config inv.suffixes d'.tree (StandsFor d'.tree root) first := by
              refine hsettled.of_calm
                (fun p b hp => honward'.calm root hroots.1 p b (hfirstly p hp))
                (fun p hp => (hpaths p).mpr (hp.of_noMoreFiles hless)) ?_
              intro p hp hbad
              obtain ⟨x, c, hplace, hget⟩ := hbad.exists_file
              exact ((hpaths p).mp hp).of_readable hless hplace hget
            exact (hhead.or hsettled').congr fun p => by simp

end

/-! ### Calm files -/

section

variable {config : Config} {suffixes : List (Option String)}

theorem workFrom_onFiles_of_calm (check : Bool) {d : Desk} {paths : List Path}
    (hcalm : ∀ p ∈ paths, ∃ b, Calm config suffixes d.tree p b) :
    ∃ well events, Silent events ∧ Settled config suffixes d.tree (· ∈ paths) well ∧
      workFrom d (onFiles (onFile suffixes (regenerateStep config check)) paths) =
        (.ok well, { d with said := d.said ++ events }) := by
  induction paths generalizing d with
  | nil => exact ⟨true, [], by simp [Silent], ⟨by simp, by simp⟩, by simp [onFiles]⟩
  | cons p rest ih =>
      rw [List.forall_mem_cons] at hcalm
      obtain ⟨⟨b, hb⟩, hrest⟩ := hcalm
      obtain ⟨events, hevents, hall⟩ := hb.workFrom_onFile
      have hrest : ∀ q ∈ rest, ∃ b,
          Calm config suffixes ({ d with said := d.said ++ events } : Desk).tree q b := hrest
      obtain ⟨well, more, hmore, hsettled, hrun⟩ := ih hrest
      refine ⟨b && well, events ++ more, silent_append.mpr ⟨hevents, hmore⟩,
        ((settled_singleton hb).or hsettled).congr fun q => List.mem_cons, ?_⟩
      rw [onFiles, workFrom_both_eq_ok_iff]
      exact ⟨b, _, well, hall check, by simpa using hrun, rfl⟩

theorem workFrom_onPaths_of_calm (check : Bool) {d : Desk} {roots : List Path}
    (hlisted : ∀ root ∈ roots, ∃ paths, candidates d.tree root = .ok paths)
    (hcalm : ∀ p, (∃ root ∈ roots, StandsFor d.tree root p) →
      ∃ b, Calm config suffixes d.tree p b) :
    ∃ well events, Silent events ∧
      Settled config suffixes d.tree (fun p => ∃ root ∈ roots, StandsFor d.tree root p) well ∧
      workFrom d (onPaths (onFile suffixes (regenerateStep config check)) roots) =
        (.ok well, { d with said := d.said ++ events }) := by
  induction roots generalizing d with
  | nil => exact ⟨true, [], by simp [Silent], ⟨by simp, by simp⟩, by simp [onPaths]⟩
  | cons root rest ih =>
      rw [List.forall_mem_cons] at hlisted
      obtain ⟨⟨paths, hpaths⟩, hlisted⟩ := hlisted
      obtain ⟨first, events, hevents, hsettled, hfirst⟩ :=
        workFrom_onFiles_of_calm check fun p hp =>
          hcalm p ⟨root, List.mem_cons_self .., (standsFor_iff_mem hpaths).mpr hp⟩
      have hlisted : ∀ root ∈ rest, ∃ paths,
          candidates ({ d with said := d.said ++ events } : Desk).tree root = .ok paths := hlisted
      have hrest : ∀ p, (∃ root ∈ rest,
          StandsFor ({ d with said := d.said ++ events } : Desk).tree root p) → ∃ b,
            Calm config suffixes ({ d with said := d.said ++ events } : Desk).tree p b := by
        rintro p ⟨root', hroot', hp⟩
        exact hcalm p ⟨root', List.mem_cons_of_mem _ hroot', hp⟩
      obtain ⟨second, more, hmore, hsettled', hsecond⟩ := ih hlisted hrest
      refine ⟨first && second, events ++ more, silent_append.mpr ⟨hevents, hmore⟩, ?_, ?_⟩
      · exact (hsettled.or hsettled').congr fun p => by simp [standsFor_iff_mem hpaths]
      · rw [onPaths, workFrom_bind, workFrom_get]
        simp only [hpaths]
        rw [workFrom_both_eq_ok_iff]
        exact ⟨first, _, second, hfirst, by simpa using hsecond, rfl⟩

end

/-! ### Regenerating and checking -/

/-- After regenerating, checking the same paths comes to the same status, leaves the tree as it is
and writes no line. -/
theorem check_agrees_with_regen {config : Config} {inv : Invocation} {tree tree' : FileTree}
    {status : Nat} {said : Journal} (hconfig : settings inv = .ok config)
    (horderly : Orderly config inv tree) (hspelling : SpellingIndependent config inv tree)
    (hrun : run tree { inv with verb := .regen } = (.ok status, tree', said)) :
    ∃ said', run tree' { inv with verb := .check } = (.ok status, tree', said') ∧
      Silent said' := by
  obtain ⟨well, hpaths, rfl⟩ := (run_eq_ok_iff false hconfig).mp hrun
  obtain ⟨-, hlisted, hsettled⟩ := onward_onPaths horderly hspelling (fun _ h => h)
    (Reached.refl config inv tree) hpaths
  obtain ⟨well', events, hevents, hsettled', hchecked⟩ :=
    workFrom_onPaths_of_calm true (d := { tree := tree' }) hlisted hsettled.calm
  obtain rfl := hsettled.unique hsettled'
  exact ⟨events, (run_eq_ok_iff true hconfig).mpr ⟨well, by simpa using hchecked, rfl⟩,
    hevents⟩

/-! ### One file under two paths -/

def lone (text : List Char) : FileTree :=
  ⟨[(["a.h"], .file (.text text)), (["d"], .directory)]⟩

/-- The file is named twice, once by way of the directory. -/
def namedTwice : Invocation :=
  { verb := .regen, paths := ["a.h", "d/../a.h"] }

def spellings : List Path :=
  [⟨["a.h"]⟩, ⟨["d", "..", "a.h"]⟩]

theorem paths_namedTwice : namedTwice.paths.map Path.ofString = spellings := by decide +kernel

theorem locate_lone (text : List Char) :
    ∀ p ∈ spellings, (lone text).locate p = .ok ["a.h"] ∧
      (lone text).locate (draftOf p) = .ok ["a.h.litgen.tmp"] := by
  rw [spellings, List.forall_mem_cons, List.forall_mem_singleton]
  refine ⟨⟨?_, ?_⟩, ?_, ?_⟩
  · with_unfolding_all rfl
  · with_unfolding_all rfl
  · with_unfolding_all rfl
  · with_unfolding_all rfl

theorem mem_spellings_of_candidate {text : List Char} {p : Path}
    (h : Candidate namedTwice (lone text) p) : p ∈ spellings := by
  obtain ⟨root, hroot, hp⟩ := h.stoodFor
  rw [paths_namedTwice] at hroot
  rcases standsFor_iff.mp hp with ⟨rfl, -⟩ | hp
  · exact hroot
  · obtain ⟨a, hplace, hdirectory, -⟩ := mem_filesBelow_iff.mp hp
    rw [(locate_lone text root hroot).1, Except.ok.injEq] at hplace
    subst hplace
    simp [get?, lone] at hdirectory

theorem readText_lone {text text' : List Char} {p : Path} (hp : p ∈ spellings)
    (h : (lone text).readText p = .ok text') : text' = text := by
  obtain ⟨a, hplace, hget⟩ := readText_eq_ok_iff.mp h
  rw [(locate_lone text p hp).1, Except.ok.injEq] at hplace
  subst hplace
  simpa [get?, lone, eq_comm] using hget

theorem eachDirective_lone {text : List Char} {blocks : List Block} (hscan : scan text = .ok blocks)
    {P : Path → List Char → Block → Prop} (h : ∀ p ∈ spellings, ∀ b ∈ blocks, P p text b) :
    EachDirective namedTwice (lone text) P := by
  intro p text' blocks' hp hread hscan'
  obtain rfl := readText_lone (mem_spellings_of_candidate hp) hread
  rw [hscan, Except.ok.injEq] at hscan'
  subst hscan'
  exact h p (mem_spellings_of_candidate hp)

theorem orderly_lone {config : Config} {text : List Char} {blocks : List Block}
    (hscan : scan text = .ok blocks)
    (hplain : ∀ b ∈ blocks, EndsPlainly (text.take b.insertAt) ∧
      ∀ span ∈ b.generated, (text.take span.start).getLast? ≠ some '\r')
    (hscripts : ∀ p ∈ spellings, ∀ b ∈ blocks, LineIndependent config p.text b.script) :
    Orderly config namedTwice (lone text) := by
  refine ⟨eachDirective_lone hscan fun _ _ b hb => (hplain b hb).1,
    eachDirective_lone hscan fun _ _ b hb => (hplain b hb).2, eachDirective_lone hscan hscripts, ?_⟩
  rintro p q hp hq - ⟨a, hdraft, hplace⟩
  rw [(locate_lone text p (mem_spellings_of_candidate hp)).2, Except.ok.injEq] at hdraft
  rw [(locate_lone text q (mem_spellings_of_candidate hq)).1, ← hdraft, Except.ok.injEq] at hplace
  simp at hplace

theorem null_not_mem_spellings : ∀ p ∈ spellings, '\x00' ∉ p.text.toList := by decide +kernel

theorem check_agrees_with_regen_twoDirectives :
    settings namedTwice = .ok {} ∧ Orderly {} namedTwice (lone twoDirectives) ∧
      SpellingIndependent {} namedTwice (lone twoDirectives) ∧
      ∃ tree' said, run (lone twoDirectives) { namedTwice with verb := .regen } =
        (.ok 0, tree', said) ∧
        ∃ said', run tree' { namedTwice with verb := .check } = (.ok 0, tree', said') ∧
          Silent said' := by
  have hsettings : settings namedTwice = .ok {} := by decide +kernel
  have hall : ∀ b ∈ twoBlocks, (EndsPlainly (twoDirectives.take b.insertAt) ∧
      ∀ span ∈ b.generated, (twoDirectives.take span.start).getLast? ≠ some '\r') ∧
      b.script = [] := by
    decide +kernel
  have horderly : Orderly {} namedTwice (lone twoDirectives) := by
    refine orderly_lone scan_twoDirectives (fun b hb => (hall b hb).1) ?_
    intro p hp b hb
    rw [(hall b hb).2]
    exact lineIndependent_nil {} (null_not_mem_spellings p hp)
  have hspelling : SpellingIndependent {} namedTwice (lone twoDirectives) := by
    refine eachDirective_lone scan_twoDirectives ?_
    intro p hp b hb q hq _ n
    rw [(hall b hb).2, generatedAt_nil {} (null_not_mem_spellings p hp),
      generatedAt_nil {} (null_not_mem_spellings q (mem_spellings_of_candidate hq))]
  have hzero : (run (lone twoDirectives) { namedTwice with verb := .regen }).1 = .ok 0 := by
    decide +kernel
  rcases hrun : run (lone twoDirectives) { namedTwice with verb := .regen } with
    ⟨ended, tree', said⟩
  rw [hrun] at hzero
  obtain rfl : ended = .ok 0 := hzero
  exact ⟨hsettings, horderly, hspelling, tree', said, rfl,
    check_agrees_with_regen hsettings horderly hspelling hrun⟩

def pathSource : List Char :=
  "/*!!\n".toList ++ pathScript ++ "!! */\n".toList

def pathBlock : Block :=
  { script := pathScript
    declared := none
    source := ⟨0, 79⟩
    generated := none
    closer := ⟨73, 78⟩
    insertAt := 79 }

theorem scan_pathSource : scan pathSource = .ok [pathBlock] := by decide +kernel

/-- What regenerating the file leaves behind: the text for the path that was named last. -/
def pathRenewed : List Char :=
  pathSource ++ framedRegion [] ['\n'] []

theorem run_regen_pathSource :
    (run (lone pathSource) { namedTwice with verb := .regen }).1 = .ok 0 ∧
      (run (lone pathSource) { namedTwice with verb := .regen }).2.1.entries =
        (lone pathRenewed).entries := by
  decide +kernel

theorem run_check_pathRenewed :
    (run (lone pathRenewed) { namedTwice with verb := .check }).1 = .ok 1 ∧
      Event.out "Out of date: a.h" ∈
        (run (lone pathRenewed) { namedTwice with verb := .check }).2.2 := by
  decide +kernel

/-- Where one file is named by two paths and its script tells them apart, regenerating leaves a file
that is out of date under the first of them, although no script depends on its line. -/
theorem check_disagrees_under_two_paths :
    settings namedTwice = .ok {} ∧ Orderly {} namedTwice (lone pathSource) ∧
      ∃ tree' said, run (lone pathSource) { namedTwice with verb := .regen } =
        (.ok 0, tree', said) ∧
        (run tree' { namedTwice with verb := .check }).1 = .ok 1 ∧
        Event.out "Out of date: a.h" ∈ (run tree' { namedTwice with verb := .check }).2.2 := by
  have hheads : ∀ p ∈ spellings, ∃ c rest, p.text.toList = c :: rest ∧ c ≠ 'b' := by
    rw [spellings, List.forall_mem_cons, List.forall_mem_singleton]
    exact ⟨⟨'a', ".h".toList, by decide +kernel, by decide⟩,
      'd', "/../a.h".toList, by decide +kernel, by decide⟩
  refine ⟨by decide +kernel, orderly_lone scan_pathSource (by decide +kernel) ?_, ?_⟩
  · intro p hp b hb m n
    obtain rfl := List.mem_singleton.mp hb
    obtain ⟨c, rest, hhead, hc⟩ := hheads p hp
    have hnull := null_not_mem_spellings p hp
    rw [pathBlock, generatedAt_pathScript_of_head rfl rfl hnull hhead hc,
      generatedAt_pathScript_of_head rfl rfl hnull hhead hc]
  · rcases hregen : run (lone pathSource) { namedTwice with verb := .regen } with
      ⟨ended, tree', said⟩
    obtain ⟨hended, hentries⟩ := run_regen_pathSource
    rw [hregen] at hended hentries
    obtain rfl : ended = .ok 0 := hended
    obtain rfl : tree' = lone pathRenewed := congrArg FileTree.mk hentries
    exact ⟨_, _, rfl, run_check_pathRenewed⟩

end Codeweave.Command
