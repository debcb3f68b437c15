import Codeweave.FileTree.Basic
import Mathlib.Data.List.Induction
import Mathlib.Tactic.Common

/-!
Entries of trees and the paths that lead to them. Where a path leads depends on the directories of a
tree alone, and the files listed below a directory are found where their names lead.
-/

namespace Codeweave.FileTree

def HasFile (t : FileTree) (a : Address) : Prop :=
  ∃ c, (a, Entry.file c) ∈ t.entries

def SameDirectories (t t' : FileTree) : Prop :=
  ∀ a, t.get? a = some .directory ↔ t'.get? a = some .directory

/-- The names of the address lead to it. -/
def WellNamed (a : Address) : Prop :=
  a.foldl stepTo [] = a

/-- The second tree has the directories of the first one and no file that the first one has not. A
file to which no path leads stays. -/
structure NoMoreFiles (t t' : FileTree) : Prop where
  directories : SameDirectories t t'
  hasFile : ∀ a, t'.HasFile a → t.HasFile a
  stays : ∀ a, ¬ WellNamed a → t.HasFile a → t'.HasFile a

def SamePlace (t : FileTree) (p q : Path) : Prop :=
  ∃ a, t.locate p = .ok a ∧ t.locate q = .ok a

/-! ### Entries -/

section

variable {t : FileTree} {a x : Address}

theorem get?_eq_lookup (hx : x ≠ []) : t.get? x = t.entries.lookup x := by
  rw [get?, if_neg (by simpa using hx)]

theorem lookup_filter_ne {β : Type} (entries : List (Address × β)) (a x : Address) :
    (entries.filter fun (a', _) => a' != a).lookup x =
      if x = a then none else entries.lookup x := by
  induction entries with
  | nil => simp
  | cons e entries ih =>
      obtain ⟨a', value⟩ := e
      by_cases ha : a' = a
      · subst ha
        by_cases hx : x = a'
        · simpa [hx] using ih
        · simpa [hx, List.lookup_cons, beq_eq_false_iff_ne.mpr hx] using ih
      · by_cases hx : x = a'
        · subst hx
          simp [ha]
        · simpa [ha, List.lookup_cons, beq_eq_false_iff_ne.mpr hx] using ih

theorem get?_erase (hx : x ≠ []) : (t.erase a).get? x = if x = a then none else t.get? x := by
  rw [get?_eq_lookup hx, get?_eq_lookup hx, erase, lookup_filter_ne]

theorem get?_put (hx : x ≠ []) (e : Entry) :
    (t.put a e).get? x = if x = a then some e else t.get? x := by
  rw [get?_eq_lookup hx, put, List.lookup_cons]
  by_cases h : x = a
  · simp [h]
  · rw [beq_eq_false_iff_ne.mpr h, ← get?_eq_lookup hx, get?_erase hx, if_neg h, if_neg h]

theorem get?_nil : t.get? [] = some .directory := rfl

theorem mem_of_get? {e : Entry} (hx : x ≠ []) (h : t.get? x = some e) : (x, e) ∈ t.entries := by
  rw [get?_eq_lookup hx] at h
  obtain ⟨before, after, hentries, -⟩ := List.lookup_eq_some_iff.mp h
  rw [hentries]
  simp

theorem ne_nil_of_get?_file {c : Content} (h : t.get? x = some (.file c)) : x ≠ [] := by
  rintro rfl
  simp [get?_nil] at h

theorem hasFile_of_get? {c : Content} (h : t.get? x = some (.file c)) : t.HasFile x :=
  ⟨c, mem_of_get? (ne_nil_of_get?_file h) h⟩

theorem get?_ne_none_of_hasFile (h : t.HasFile x) : t.get? x ≠ none := by
  obtain ⟨c, hc⟩ := h
  by_cases hx : x = []
  · simp [hx, get?_nil]
  · rw [get?_eq_lookup hx]
    intro hnone
    simpa using List.lookup_eq_none_iff.mp hnone _ hc

theorem hasFile_erase : (t.erase a).HasFile x ↔ x ≠ a ∧ t.HasFile x := by
  simp only [HasFile, erase, List.mem_filter, bne_iff_ne, ne_eq, exists_and_right]
  exact and_comm

theorem hasFile_put_file {c : Content} :
    (t.put a (.file c)).HasFile x ↔ x = a ∨ t.HasFile x := by
  have hput : (t.put a (.file c)).HasFile x ↔ x = a ∨ (t.erase a).HasFile x := by
    simp only [HasFile, put, List.mem_cons, Prod.mk.injEq, Entry.file.injEq, exists_or,
      exists_eq_right]
  rw [hput, hasFile_erase]
  by_cases hx : x = a
  · simp [hx]
  · simp [hx]

end

/-! ### Where paths lead -/

theorem stepTo_eq_or (here : Address) (name : String) :
    stepTo here name = here ++ [name] ∨
      stepTo here name = here.dropLast ∧ here ≠ [] := by
  rw [stepTo]
  split
  · rename_i hback
    simp only [Bool.and_eq_true, Bool.not_eq_true', List.isEmpty_eq_false_iff] at hback
    exact Or.inr ⟨rfl, hback.1.2⟩
  · exact Or.inl rfl

theorem length_foldl_stepTo_le (names : List String) (here : Address) :
    (names.foldl stepTo here).length ≤ here.length + names.length := by
  induction names generalizing here with
  | nil => simp
  | cons name rest ih =>
      have hstep : (stepTo here name).length ≤ here.length + 1 := by
        rcases stepTo_eq_or here name with h | ⟨h, -⟩
        · simp [h]
        · simp only [h, List.length_dropLast]
          omega
      have hrest := ih (stepTo here name)
      simp only [List.foldl_cons, List.length_cons]
      omega

theorem WellNamed.of_append {a : Address} {name : String} (h : WellNamed (a ++ [name])) :
    WellNamed a := by
  have hlength := length_foldl_stepTo_le a []
  rw [WellNamed, List.foldl_append, List.foldl_cons, List.foldl_nil] at h
  rcases stepTo_eq_or (a.foldl stepTo []) name with hstep | ⟨hstep, -⟩
  · rw [hstep] at h
    exact (List.append_inj_left' h rfl)
  · rw [hstep] at h
    have hlengths := congrArg List.length h
    simp only [List.length_dropLast, List.length_append, List.length_singleton] at hlengths hlength
    simp at hlength
    omega

theorem wellNamed_foldl_stepTo (names : List String) : WellNamed (names.foldl stepTo []) := by
  induction names using List.reverseRecOn with
  | nil => rfl
  | append_singleton names name ih =>
      simp only [List.foldl_append, List.foldl_cons, List.foldl_nil]
      rw [stepTo]
      split
      · rename_i hback
        simp only [Bool.and_eq_true, Bool.not_eq_true', List.isEmpty_eq_false_iff] at hback
        rw [← List.dropLast_concat_getLast hback.1.2] at ih
        exact ih.of_append
      · rename_i hon
        rw [WellNamed, List.foldl_append, ih, List.foldl_cons, List.foldl_nil, stepTo, if_neg hon]

theorem eq_foldl_of_walk {t : FileTree} {here a : Address} {names : List String}
    (h : t.walk here names = .ok a) : a = names.foldl stepTo here := by
  induction names generalizing here with
  | nil => simpa [walk, eq_comm] using h
  | cons name rest ih =>
      rw [walk] at h
      split at h
      · simp at h
      · simp at h
      · split at h
        · simp at h
        · exact ih h

theorem eq_foldl_of_locate {t : FileTree} {p : Path} {a : Address} (h : t.locate p = .ok a) :
    a = p.parts.foldl stepTo [] := by
  rw [locate] at h
  split at h
  · simp at h
  · split at h
    · simp at h
    · exact eq_foldl_of_walk h

theorem wellNamed_of_locate {t : FileTree} {p : Path} {a : Address} (h : t.locate p = .ok a) :
    WellNamed a := by
  rw [eq_foldl_of_locate h]
  exact wellNamed_foldl_stepTo p.parts

section

variable {t t' : FileTree}

theorem SameDirectories.symm (h : SameDirectories t t') : SameDirectories t' t :=
  fun a => (h a).symm

theorem SameDirectories.trans {t'' : FileTree} (h : SameDirectories t t')
    (h' : SameDirectories t' t'') : SameDirectories t t'' :=
  fun a => (h a).trans (h' a)

section

variable (h : SameDirectories t t') {result : Except FileError Address}
  (hfound : result ≠ .error .notFound) (hdirectory : result ≠ .error .notDirectory)

include h hfound hdirectory

theorem SameDirectories.walk_eq {here : Address} {names : List String}
    (hwalk : t.walk here names = result) : t'.walk here names = result := by
  induction names generalizing here with
  | nil => exact hwalk
  | cons name rest ih =>
      rw [walk] at hwalk
      split at hwalk
      · exact absurd hwalk.symm hfound
      · exact absurd hwalk.symm hdirectory
      · rename_i hhere
        rw [walk, (h here).mp hhere]
        simp only
        split at hwalk
        · rename_i hlong
          rwa [if_pos hlong]
        · rename_i hlong
          rw [if_neg hlong]
          exact ih hwalk

theorem SameDirectories.locate_eq {p : Path} (hlocate : t.locate p = result) :
    t'.locate p = result := by
  rw [locate] at hlocate ⊢
  split at hlocate
  · rename_i hnull
    rwa [if_pos hnull]
  · rename_i hnull
    rw [if_neg hnull]
    split at hlocate
    · rename_i hlong
      rwa [if_pos hlong]
    · rename_i hlong
      rw [if_neg hlong]
      exact h.walk_eq hfound hdirectory hlocate

end

theorem SameDirectories.locate_eq_ok_iff (h : SameDirectories t t') {p : Path} {a : Address} :
    t.locate p = .ok a ↔ t'.locate p = .ok a :=
  ⟨h.locate_eq (by simp) (by simp), h.symm.locate_eq (by simp) (by simp)⟩

end

theorem NoMoreFiles.refl (t : FileTree) : NoMoreFiles t t :=
  ⟨fun _ => Iff.rfl, fun _ h => h, fun _ _ h => h⟩

theorem NoMoreFiles.trans {t t' t'' : FileTree} (h : NoMoreFiles t t') (h' : NoMoreFiles t' t'') :
    NoMoreFiles t t'' :=
  ⟨h.directories.trans h'.directories, fun a ha => h.hasFile a (h'.hasFile a ha),
    fun a hnamed ha => h'.stays a hnamed (h.stays a hnamed ha)⟩

theorem NoMoreFiles.get? {t t' : FileTree} (h : NoMoreFiles t t') {a : Address} {c : Content}
    (hfile : t'.get? a = some (.file c)) : ∃ c, t.get? a = some (.file c) := by
  have hsome := get?_ne_none_of_hasFile (h.hasFile a (hasFile_of_get? hfile))
  have hdirectory := h.directories a
  rcases hget : t.get? a with _ | ⟨c⟩ | _
  · exact absurd hget hsome
  · exact ⟨c, rfl⟩
  · rw [hdirectory.mp hget] at hfile
    simp at hfile

/-! ### Reading -/

section

variable {t : FileTree} {p : Path}

theorem entry_eq_ok_iff {e : Entry} :
    t.entry p = .ok e ↔ ∃ a, t.locate p = .ok a ∧ t.get? a = some e := by
  rw [entry]
  cases t.locate p with
  | error why => simp
  | ok a =>
      simp only [Except.ok.injEq, exists_eq_left']
      cases t.get? a with
      | none => simp
      | some e' => simp

theorem read_eq_ok_iff {c : Content} :
    t.read p = .ok c ↔ ∃ a, t.locate p = .ok a ∧ t.get? a = some (.file c) := by
  rw [← entry_eq_ok_iff, read]
  rcases t.entry p with why | ⟨content⟩ | _ <;> simp

theorem readText_eq_ok_iff {text : List Char} :
    t.readText p = .ok text ↔ ∃ a, t.locate p = .ok a ∧ t.get? a = some (.file (.text text)) := by
  rw [← read_eq_ok_iff, readText]
  rcases t.read p with why | ⟨characters⟩ | ⟨bytes⟩ <;> simp

theorem walk_ne_undecodable (here : Address) (names : List String) :
    t.walk here names ≠ .error .undecodable := by
  induction names generalizing here with
  | nil => simp [walk]
  | cons name rest ih =>
      rw [walk]
      split
      · simp
      · simp
      · split
        · simp
        · exact ih _

theorem locate_ne_undecodable : t.locate p ≠ .error .undecodable := by
  rw [locate]
  split
  · simp
  · split
    · simp
    · exact walk_ne_undecodable [] p.parts

theorem readText_eq_undecodable_iff :
    t.readText p = .error .undecodable ↔
      ∃ a bytes, t.locate p = .ok a ∧ t.get? a = some (.file (.binary bytes)) := by
  have hlocate := locate_ne_undecodable (t := t) (p := p)
  rw [readText, read, entry]
  cases hplace : t.locate p with
  | error why =>
      rw [hplace] at hlocate
      simpa using hlocate
  | ok a =>
      simp only [Except.ok.injEq, exists_and_left, exists_eq_left']
      rcases t.get? a with _ | ⟨⟨characters⟩ | ⟨bytes⟩⟩ | _ <;> simp

theorem isFile_eq_true_iff :
    t.isFile p = .ok true ↔ ∃ a c, t.locate p = .ok a ∧ t.get? a = some (.file c) := by
  rw [isFile, entry]
  cases t.locate p with
  | error why => cases why <;> simp
  | ok a =>
      simp only [Except.ok.injEq, exists_and_left, exists_eq_left']
      rcases t.get? a with _ | ⟨c⟩ | _ <;> simp

theorem isFile_eq_error_iff {why : FileError} :
    t.isFile p = .error why ↔ why = .tooLong ∧ t.locate p = .error .tooLong := by
  rw [isFile, entry]
  cases t.locate p with
  | error why' => cases why' <;> simp [eq_comm]
  | ok a =>
      simp only [reduceCtorEq, and_false, iff_false]
      rcases t.get? a with _ | ⟨c⟩ | _ <;> simp

theorem SameDirectories.exists_isFile {t' : FileTree} (h : SameDirectories t t') {b : Bool}
    (hfile : t.isFile p = .ok b) : ∃ b', t'.isFile p = .ok b' := by
  cases hfile' : t'.isFile p with
  | ok b' => exact ⟨b', rfl⟩
  | error why =>
      obtain ⟨rfl, hlong⟩ := isFile_eq_error_iff.mp hfile'
      have herror := isFile_eq_error_iff.mpr ⟨rfl, h.symm.locate_eq (by simp) (by simp) hlong⟩
      rw [hfile] at herror
      simp at herror

theorem NoMoreFiles.isFile {t' : FileTree} (h : NoMoreFiles t t')
    (hfile : t'.isFile p = .ok true) : t.isFile p = .ok true := by
  obtain ⟨a, c, hplace, hget⟩ := isFile_eq_true_iff.mp hfile
  obtain ⟨c, hget⟩ := h.get? hget
  exact isFile_eq_true_iff.mpr ⟨a, c, h.directories.locate_eq_ok_iff.mpr hplace, hget⟩

end

/-! ### Listing -/

section

variable {t : FileTree}

theorem mem_filesBelow_iff {p q : Path} :
    q ∈ t.filesBelow p ↔
      ∃ a, t.locate p = .ok a ∧ t.get? a = some .directory ∧
        ∃ rest, t.HasFile (a ++ rest) ∧ q = p.append rest := by
  rw [filesBelow]
  cases t.locate p with
  | error why => simp
  | ok a =>
      simp only [Except.ok.injEq, exists_eq_left']
      split
      · rename_i hdirectory
        simp only [hdirectory, true_and, List.mem_map, List.mem_mergeSort, List.mem_filterMap,
          Prod.exists]
        constructor
        · rintro ⟨rest, ⟨x, e, he, hrest⟩, rfl⟩
          cases e with
          | directory => simp at hrest
          | file c =>
              simp only [Option.ite_none_right_eq_some, Option.some.injEq] at hrest
              obtain ⟨rest', rfl⟩ := List.isPrefixOf_iff_prefix.mp hrest.1
              rw [List.drop_left] at hrest
              exact ⟨rest, ⟨c, hrest.2 ▸ he⟩, rfl⟩
        · rintro ⟨rest, ⟨c, hc⟩, rfl⟩
          exact ⟨rest, ⟨a ++ rest, .file c, hc, by simp⟩, rfl⟩
      · rename_i hdirectory
        have hother : t.get? a ≠ some .directory := hdirectory
        simp [hother]

theorem filesBelow_of_isFile {p : Path} (h : t.isFile p = .ok true) : t.filesBelow p = [] := by
  obtain ⟨a, c, hplace, hfile⟩ := isFile_eq_true_iff.mp h
  refine List.eq_nil_iff_forall_not_mem.mpr fun q hq => ?_
  obtain ⟨a', hplace', hdirectory, -⟩ := mem_filesBelow_iff.mp hq
  rw [hplace, Except.ok.injEq] at hplace'
  rw [← hplace', hfile] at hdirectory
  simp at hdirectory

theorem WellNamed.eq_of_locate {p : Path} {a x : Address} {rest : List String}
    (h : WellNamed (a ++ rest)) (hp : t.locate p = .ok a)
    (hlocate : t.locate (p.append rest) = .ok x) : x = a ++ rest := by
  have hx := eq_foldl_of_locate hlocate
  rw [Path.append, List.foldl_append, ← eq_foldl_of_locate hp] at hx
  rw [WellNamed, List.foldl_append, wellNamed_of_locate hp] at h
  exact hx.trans h

end

end Codeweave.FileTree
