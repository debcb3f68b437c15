import Codeweave.Proofs.FileTree.Atomicity
import Mathlib.Data.List.Sort
import Mathlib.Data.String.Basic

/-!
What regenerating some files leaves of the others. Files that were not touched are regenerated as
they would have been at first. The order of a listing is that of the addresses, so they are listed
as before, wherever their entries are now.
-/

namespace Codeweave.FileTree

open Directive

/-- The address to which the names of a path lead. -/
def addressOf (p : Path) : Address :=
  p.parts.foldl stepTo []

/-- The second tree has no more files than the first one, and the same entries but for those at the
touched addresses. -/
structure Undisturbed (touched : List Address) (t t' : FileTree) : Prop where
  entries : t'.entries.filter (fun e => e.1 ∉ touched) = t.entries.filter (fun e => e.1 ∉ touched)
  noMoreFiles : NoMoreFiles t t'

theorem wellNamed_addressOf (p : Path) : WellNamed (addressOf p) :=
  wellNamed_foldl_stepTo p.parts

theorem addressOf_of_locate {t : FileTree} {p : Path} {a : Address} (h : t.locate p = .ok a) :
    addressOf p = a :=
  (eq_foldl_of_locate h).symm

theorem addressOf_append {p : Path} {rest : List String}
    (h : WellNamed (addressOf p ++ rest)) : addressOf (p.append rest) = addressOf p ++ rest := by
  rw [WellNamed, List.foldl_append, wellNamed_addressOf p] at h
  rwa [addressOf, Path.append, List.foldl_append]

/-! ### The order of addresses -/

theorem addressLe_total (a b : Address) : (addressLe a b || addressLe b a) = true := by
  induction a generalizing b with
  | nil => rfl
  | cons x a ih =>
      cases b with
      | nil => simp [addressLe]
      | cons y b =>
          have hrest := ih b
          rcases lt_trichotomy x y with hlt | rfl | hlt
          · simp [addressLe, hlt]
          · simpa [addressLe] using hrest
          · simp [addressLe, hlt]

theorem addressLe_cons_iff {x y : String} {a b : Address} :
    addressLe (x :: a) (y :: b) = true ↔ x < y ∨ x = y ∧ addressLe a b = true := by
  simp [addressLe]

theorem addressLe_trans (a b c : Address) (hab : addressLe a b = true)
    (hbc : addressLe b c = true) : addressLe a c = true := by
  induction a generalizing b c with
  | nil => rfl
  | cons x a ih =>
      rcases b with _ | ⟨y, b⟩
      · simp [addressLe] at hab
      rcases c with _ | ⟨z, c⟩
      · simp [addressLe] at hbc
      rw [addressLe_cons_iff] at hab hbc ⊢
      rcases hab with hab | ⟨rfl, hab⟩
      · rcases hbc with hbc | ⟨rfl, -⟩
        · exact Or.inl (hab.trans hbc)
        · exact Or.inl hab
      · rcases hbc with hbc | ⟨rfl, hbc⟩
        · exact Or.inl hbc
        · exact Or.inr ⟨rfl, ih b c hab hbc⟩

theorem addressLe_antisymm (a b : Address) (hab : addressLe a b = true)
    (hba : addressLe b a = true) : a = b := by
  induction a generalizing b with
  | nil =>
      cases b with
      | nil => rfl
      | cons y b => simp [addressLe] at hba
  | cons x a ih =>
      rcases b with _ | ⟨y, b⟩
      · simp [addressLe] at hab
      rw [addressLe_cons_iff] at hab hba
      rcases hab with hab | ⟨rfl, hab⟩
      · rcases hba with hba | ⟨rfl, -⟩
        · exact absurd hba (lt_asymm hab)
        · exact absurd hab (lt_irrefl _)
      · rcases hba with hba | ⟨-, hba⟩
        · exact absurd hba (lt_irrefl _)
        · rw [ih b hab hba]

/-- Sorting leaves no trace of the order in which the addresses were, whichever of them are looked
at. -/
theorem filter_mergeSort_congr {as bs : List Address} {P : Address → Bool}
    (h : as.filter P = bs.filter P) :
    (as.mergeSort addressLe).filter P = (bs.mergeSort addressLe).filter P := by
  have hsorted : ∀ l : List Address,
      (l.mergeSort addressLe).Pairwise fun a b => addressLe a b = true :=
    fun l => List.pairwise_mergeSort addressLe_trans addressLe_total l
  refine List.Perm.eq_of_pairwise (fun a b _ _ => addressLe_antisymm a b)
    ((hsorted as).filter P) ((hsorted bs).filter P) ?_
  have hperm : ∀ l : List Address, ((l.mergeSort addressLe).filter P).Perm (l.filter P) :=
    fun l => (List.mergeSort_perm l addressLe).filter P
  exact (hperm as).trans (h ▸ (hperm bs).symm)

/-! ### Trees with few changes -/

theorem lookup_filter_of_not_mem {β : Type} (entries : List (Address × β)) {touched : List Address}
    {x : Address} (hx : x ∉ touched) :
    (entries.filter fun e => e.1 ∉ touched).lookup x = entries.lookup x := by
  induction entries with
  | nil => rfl
  | cons e entries ih =>
      by_cases he : e.1 ∈ touched
      · have hne : x ≠ e.1 := by
          rintro rfl
          exact hx he
        rw [List.filter_cons_of_neg (by simpa using he), ih, List.lookup_cons,
          beq_eq_false_iff_ne.mpr hne]
      · rw [List.filter_cons_of_pos (by simpa using he), List.lookup_cons, List.lookup_cons, ih]

section

variable {touched touched' : List Address} {t t' t'' : FileTree}

theorem Undisturbed.refl (touched : List Address) (t : FileTree) : Undisturbed touched t t :=
  ⟨rfl, NoMoreFiles.refl t⟩

theorem Undisturbed.mono (h : Undisturbed touched t t') (hsub : touched ⊆ touched') :
    Undisturbed touched' t t' := by
  have hfilter : ∀ entries : List (Address × Entry),
      entries.filter (fun e => e.1 ∉ touched') =
        (entries.filter fun e => e.1 ∉ touched).filter fun e => e.1 ∉ touched' := by
    intro entries
    rw [List.filter_filter]
    refine List.filter_congr fun e _ => ?_
    by_cases he : e.1 ∈ touched'
    · simp [he]
    · simpa [he] using fun hmem => he (hsub hmem)
  exact ⟨by rw [hfilter, h.entries, ← hfilter], h.noMoreFiles⟩

theorem Undisturbed.trans (h : Undisturbed touched t t') (h' : Undisturbed touched' t' t'') :
    Undisturbed (touched ++ touched') t t'' := by
  have hfirst := h.mono (List.subset_append_left touched touched')
  have hsecond := h'.mono (List.subset_append_right touched touched')
  exact ⟨hsecond.entries.trans hfirst.entries, h.noMoreFiles.trans h'.noMoreFiles⟩

theorem Undisturbed.get? (h : Undisturbed touched t t') {x : Address} (hx : x ∉ touched) :
    t'.get? x = t.get? x := by
  by_cases hnil : x = []
  · rw [hnil, get?_nil, get?_nil]
  · rw [get?_eq_lookup hnil, get?_eq_lookup hnil, ← lookup_filter_of_not_mem t.entries hx,
      ← lookup_filter_of_not_mem t'.entries hx, h.entries]

theorem Undisturbed.isFile (h : Undisturbed touched t t') {p : Path} (hp : addressOf p ∉ touched)
    (hfile : t.isFile p = .ok true) : t'.isFile p = .ok true := by
  obtain ⟨a, c, hplace, hget⟩ := isFile_eq_true_iff.mp hfile
  rw [addressOf_of_locate hplace] at hp
  exact isFile_eq_true_iff.mpr
    ⟨a, c, h.noMoreFiles.directories.locate_eq_ok_iff.mp hplace, (h.get? hp).trans hget⟩

theorem filter_erase {a : Address} (ha : a ∈ touched) :
    (t.erase a).entries.filter (fun e => e.1 ∉ touched) =
      t.entries.filter fun e => e.1 ∉ touched := by
  rw [erase, List.filter_filter]
  refine List.filter_congr fun e _ => ?_
  by_cases he : e.1 = a
  · simp [he, ha]
  · simp [he]

theorem filter_put {a : Address} (ha : a ∈ touched) (e : Entry) :
    (t.put a e).entries.filter (fun e => e.1 ∉ touched) =
      t.entries.filter fun e => e.1 ∉ touched := by
  rw [put, List.filter_cons_of_neg (by simpa using ha), filter_erase ha]

theorem Cleared.noMoreFiles {draft : Address} (h : Cleared t t' draft) (hdraft : WellNamed draft) :
    NoMoreFiles t t' := by
  refine ⟨h.directories, fun x hx => ((h.hasFile x).mp hx).2, ?_⟩
  rintro x hnamed hx
  refine (h.hasFile x).mpr ⟨?_, hx⟩
  rintro rfl
  exact hnamed hdraft

theorem Replacement.undisturbed {p : Path} {text : List Char} {ended : Except Escape Unit}
    (h : Replacement t p text ended t') :
    Undisturbed [addressOf p, addressOf (draftOf p)] t t' := by
  cases h with
  | unnamed => exact Undisturbed.refl _ t
  | undrafted => exact Undisturbed.refl _ t
  | unmatched _ hdraft hfree _ =>
      have hnamed := wellNamed_of_locate hdraft
      refine ⟨?_, (cleared_withoutDraft hfree text).noMoreFiles hnamed⟩
      rw [withoutDraft, filter_erase, filter_put] <;> simp [addressOf_of_locate hdraft]
  | replaced _ hdraft hfree hplace hfile _ =>
      have hnamed := wellNamed_of_locate hdraft
      refine ⟨?_, (replaced_withoutDraft hfile hfree text).noMoreFiles hfile hnamed⟩
      rw [filter_put (by simp [addressOf_of_locate hplace]), withoutDraft, filter_erase,
        filter_put] <;> simp [addressOf_of_locate hdraft]

end

/-! ### Regenerating a file among others -/

theorem Replacement.get?_self {t t' : FileTree} {p : Path} {text : List Char}
    {ended : Except Escape Unit} (h : Replacement t p text ended t') {a : Address}
    (hplace : t.locate p = .ok a) :
    t'.get? a = if ended.isOk then some (.file (.text text)) else t.get? a := by
  cases h with
  | unnamed => rfl
  | undrafted => rfl
  | unmatched hname hdraft hfree _ =>
      rw [(cleared_withoutDraft hfree text).get?, if_neg (ne_draft hname hplace hdraft)]
      rfl
  | replaced _ _ hfree hplace' hfile _ =>
      obtain rfl := Except.ok.inj (hplace.symm.trans hplace')
      rw [(replaced_withoutDraft hfile hfree text).get?, if_pos rfl]
      rfl

/-- In two trees with the same directories in which a file is the same, it is regenerated alike. -/
theorem regenerateFile_congr {t t' : FileTree} {p : Path} {a : Address} {c : Content}
    (hdirectories : SameDirectories t t') (hplace : t.locate p = .ok a)
    (hfile : t.get? a = some (.file c)) (hfile' : t'.get? a = some (.file c)) (config : Config)
    (check : Bool) (text : List Char) :
    (t'.regenerateFile config p check (some text)).1 =
        (t.regenerateFile config p check (some text)).1 ∧
      (t'.regenerateFile config p check (some text)).2.2 =
        (t.regenerateFile config p check (some text)).2.2 ∧
      (t'.regenerateFile config p check (some text)).2.1.get? a =
        (t.regenerateFile config p check (some text)).2.1.get? a ∧
      Undisturbed [addressOf p, addressOf (draftOf p)] t'
        (t'.regenerateFile config p check (some text)).2.1 := by
  have hplace' := hdirectories.locate_eq_ok_iff.mp hplace
  rw [regenerateFile_eq, regenerateFile_eq]
  simp only [sourceOf]
  rcases regenerateSource config p.text text with ⟨escape | r, said⟩
  · exact ⟨rfl, rfl, hfile'.trans hfile.symm, Undisturbed.refl _ t'⟩
  · simp only
    split
    · have hended := replaceText_fst_congr hdirectories hplace hfile hfile' r.text
      have hreplaced := replacement t p r.text
      have hreplaced' := replacement t' p r.text
      rw [hended] at hreplaced'
      have hself := hreplaced.get?_self hplace
      have hself' := hreplaced'.get?_self hplace'
      rw [hfile', ← hfile, ← hself] at hself'
      have hundisturbed := hreplaced'.undisturbed
      generalize t.replaceText p r.text = replaced at hended hself' ⊢
      generalize t'.replaceText p r.text = replaced' at hended hself' hundisturbed ⊢
      obtain ⟨ended, s⟩ := replaced
      obtain ⟨ended', s'⟩ := replaced'
      obtain rfl : ended' = ended := hended
      cases ended'
      · exact ⟨rfl, rfl, hself', hundisturbed⟩
      · exact ⟨rfl, rfl, hself', hundisturbed⟩
    · exact ⟨rfl, rfl, hfile'.trans hfile.symm, Undisturbed.refl _ t'⟩

/-! ### Listings -/

/-- The names from an address on of a file below it. -/
def belowFrom (a : Address) (e : Address × Entry) : Option Address :=
  match e.2 with
  | .file _ => if a.isPrefixOf e.1 then some (e.1.drop a.length) else none
  | .directory => none

theorem filesBelow_eq {t : FileTree} {root : Path} {a : Address} (hplace : t.locate root = .ok a)
    (hdirectory : t.get? a = some .directory) :
    t.filesBelow root =
      ((t.entries.filterMap (belowFrom a)).mergeSort addressLe).map root.append := by
  rw [filesBelow, hplace]
  simp only [hdirectory]
  rfl

theorem belowFrom_eq_some_iff {a rest : Address} {e : Address × Entry} :
    belowFrom a e = some rest ↔ (∃ c, e.2 = .file c) ∧ e.1 = a ++ rest := by
  obtain ⟨x, entry⟩ := e
  cases entry with
  | directory => simp [belowFrom]
  | file c =>
      simp only [belowFrom, List.isPrefixOf_iff_prefix, Option.ite_none_right_eq_some,
        Option.some.injEq, Entry.file.injEq, exists_eq', true_and]
      constructor
      · rintro ⟨⟨rest', rfl⟩, hrest⟩
        rw [List.drop_left] at hrest
        rw [hrest]
      · rintro rfl
        exact ⟨⟨rest, rfl⟩, List.drop_left⟩

theorem filter_filterMap_eq {α β : Type} (f : α → Option β) (P : β → Bool) (Q : α → Bool)
    {l : List α} (h : ∀ x ∈ l, ∀ y ∈ f x, P y = true → Q x = true) :
    (l.filterMap f).filter P = ((l.filter Q).filterMap f).filter P := by
  induction l with
  | nil => rfl
  | cons x l ih =>
      rw [List.forall_mem_cons] at h
      cases hQ : Q x with
      | true =>
          rw [List.filter_cons_of_pos hQ, List.filterMap_cons, List.filterMap_cons]
          cases f x with
          | none => exact ih h.2
          | some y => rw [List.filter_cons, List.filter_cons, ih h.2]
      | false =>
          rw [List.filter_cons_of_neg (by simp [hQ]), List.filterMap_cons, ← ih h.2]
          cases hy : f x with
          | none => rfl
          | some y =>
              have hnot : P y ≠ true := fun hP => by simpa [hQ] using h.1 y hy hP
              exact List.filter_cons_of_neg hnot

/-- Of the files of a listing that were not touched, none is missing and none is new. -/
theorem Undisturbed.filter_filesBelow {touched : List Address} {t t' : FileTree}
    (h : Undisturbed touched t t') (hnamed : ∀ x ∈ touched, WellNamed x) {root : Path}
    {P : Path → Bool} (hP : ∀ q ∈ t.filesBelow root, P q = true → addressOf q ∉ touched) :
    (t'.filesBelow root).filter P = (t.filesBelow root).filter P := by
  have hdirectories := h.noMoreFiles.directories
  by_cases hroot : ∃ a, t.locate root = .ok a ∧ t.get? a = some .directory
  · obtain ⟨a, hplace, hdirectory⟩ := hroot
    have hplace' := hdirectories.locate_eq_ok_iff.mp hplace
    rw [filesBelow_eq hplace hdirectory, filesBelow_eq hplace' ((hdirectories a).mp hdirectory),
      List.filter_map, List.filter_map]
    have huntouched : ∀ rest, t.HasFile (a ++ rest) → P (root.append rest) = true →
        a ++ rest ∉ touched := by
      intro rest hfile hkept htouched
      refine hP _ (mem_filesBelow_iff.mpr ⟨a, hplace, hdirectory, rest, hfile, rfl⟩) hkept ?_
      have hroot := addressOf_of_locate hplace
      rw [addressOf_append] <;> rw [hroot]
      · exact htouched
      · exact hnamed _ htouched
    -- an entry that is looked at is not at a touched address, in either tree
    have hkept : ∀ s : FileTree, (∀ x, s.HasFile x → t.HasFile x) →
        ∀ e ∈ s.entries, ∀ rest ∈ belowFrom a e, (P ∘ root.append) rest = true →
          decide (e.1 ∉ touched) = true := by
      rintro s hless ⟨x, entry⟩ he rest hrest hkept
      obtain ⟨⟨c, hc⟩, hx⟩ := belowFrom_eq_some_iff.mp hrest
      simp only at hc hx
      subst hc hx
      simpa using huntouched rest (hless _ ⟨c, he⟩) hkept
    have hsame : (t'.entries.filterMap (belowFrom a)).filter (P ∘ root.append) =
        (t.entries.filterMap (belowFrom a)).filter (P ∘ root.append) := by
      rw [filter_filterMap_eq _ _ _ (hkept t' h.noMoreFiles.hasFile),
        filter_filterMap_eq _ _ _ (hkept t fun _ hx => hx), h.entries]
    rw [filter_mergeSort_congr hsame]
  · have hempty : ∀ s : FileTree, SameDirectories t s → s.filesBelow root = [] := by
      intro s hs
      refine List.eq_nil_iff_forall_not_mem.mpr fun q hq => hroot ?_
      obtain ⟨a, hplace, hdirectory, -⟩ := mem_filesBelow_iff.mp hq
      exact ⟨a, hs.locate_eq_ok_iff.mpr hplace, (hs a).mpr hdirectory⟩
    rw [hempty t' hdirectories, hempty t fun _ => Iff.rfl]

end Codeweave.FileTree
