import Codeweave.FileTree.Regenerate
import Codeweave.Proofs.FileTree.Entries

/-!
Replacing the text of a file. The file has the new text, there is nothing at the place of the draft,
and all else is as it was.
-/

namespace Codeweave.FileTree

/-- The second tree is the first one with a text at an address and nothing at the address of a
draft. -/
structure Replaced (t t' : FileTree) (a draft : Address) (text : List Char) : Prop where
  get? : ∀ x, t'.get? x =
    if x = a then some (.file (.text text)) else if x = draft then none else t.get? x
  hasFile : ∀ x, t'.HasFile x ↔ x = a ∨ x ≠ draft ∧ t.HasFile x
  directories : SameDirectories t t'

theorem Replaced.noMoreFiles {t t' : FileTree} {a draft : Address} {c : Content}
    {text : List Char} (h : Replaced t t' a draft text) (hfile : t.get? a = some (.file c))
    (hdraft : WellNamed draft) : NoMoreFiles t t' := by
  refine ⟨h.directories, ?_, ?_⟩
  · intro x hx
    rcases (h.hasFile x).mp hx with rfl | ⟨-, hx⟩
    · exact hasFile_of_get? hfile
    · exact hx
  · rintro x hnamed hx
    refine (h.hasFile x).mpr (Or.inr ⟨?_, hx⟩)
    rintro rfl
    exact hnamed hdraft

theorem write_eq_ok_iff {t t' : FileTree} {p : Path} {c : Content} :
    t.write p c = .ok t' ↔
      ∃ a, t.locate p = .ok a ∧ t.get? a ≠ some .directory ∧ t' = t.put a (.file c) := by
  rw [write]
  cases t.locate p with
  | error why => simp
  | ok a =>
      simp only [Except.ok.injEq, exists_eq_left']
      rcases t.get? a with _ | ⟨content⟩ | _ <;> simp [eq_comm]

theorem sameDirectories_put {t : FileTree} {a : Address} (h : t.get? a ≠ some .directory)
    (c : Content) : SameDirectories t (t.put a (.file c)) := by
  intro x
  by_cases hx : x = []
  · simp [hx, get?_nil]
  · rw [get?_put hx]
    split
    · rename_i hxa
      simp [hxa, h]
    · rfl

theorem sameDirectories_erase {t : FileTree} {a : Address} (h : t.get? a ≠ some .directory) :
    SameDirectories t (t.erase a) := by
  intro x
  by_cases hx : x = []
  · simp [hx, get?_nil]
  · rw [get?_erase hx]
    split
    · rename_i hxa
      simp [hxa, h]
    · rfl

theorem replaced_put {t : FileTree} {a draft : Address} {c : Content} {text : List Char}
    (hfile : t.get? a = some (.file c)) (hfree : t.get? draft ≠ some .directory) :
    Replaced t (((t.put draft (.file (.text text))).erase draft).put a (.file (.text text)))
      a draft text := by
  have ha : a ≠ [] := ne_nil_of_get?_file hfile
  have hdraft : draft ≠ [] := by
    rintro rfl
    exact hfree get?_nil
  have hget : ∀ x, (((t.put draft (.file (.text text))).erase draft).put a
      (.file (.text text))).get? x =
        if x = a then some (.file (.text text)) else if x = draft then none else t.get? x := by
    intro x
    by_cases hx : x = []
    · simp [hx, get?_nil, ha.symm, hdraft.symm]
    · rw [get?_put hx, get?_erase hx, get?_put hx]
      split
      · rfl
      · split <;> rfl
  refine ⟨hget, ?_, ?_⟩
  · intro x
    rw [hasFile_put_file, hasFile_erase, hasFile_put_file]
    tauto
  · intro x
    rw [hget]
    split
    · rename_i hxa
      simp [hxa, hfile]
    · split
      · rename_i hxdraft
        simpa [hxdraft] using hfree
      · rfl

theorem replaced_of_replaceText {t t' : FileTree} {p : Path} {a : Address} {c : Content}
    {text : List Char} (hplace : t.locate p = .ok a) (hfile : t.get? a = some (.file c))
    (h : t.replaceText p text = (.ok (), t')) :
    ∃ draft, t.locate (draftOf p) = .ok draft ∧ Replaced t t' a draft text := by
  rw [replaceText] at h
  split at h
  · simp at h
  · simp only at h
    split at h
    · simp at h
    · rename_i drafted hdrafted
      obtain ⟨draft, hdraft, hfree, rfl⟩ := write_eq_ok_iff.mp hdrafted
      have hput : SameDirectories t (t.put draft (.file (.text text))) :=
        sameDirectories_put hfree _
      have herase : SameDirectories t ((t.put draft (.file (.text text))).erase draft) :=
        hput.trans (sameDirectories_erase fun hdirectory => hfree ((hput draft).mpr hdirectory))
      refine ⟨draft, hdraft, ?_⟩
      split at h
      · simp at h
      · simp at h
      · rw [remove, hput.locate_eq_ok_iff.mp hdraft] at h
        split at h
        · simp at h
        · rename_i hreplaced
          obtain ⟨a', ha', -, rfl⟩ := write_eq_ok_iff.mp hreplaced
          obtain rfl : a = a' := by
            rw [herase.locate_eq_ok_iff.mp hplace] at ha'
            exact Except.ok.inj ha'
          obtain rfl := (Prod.mk.inj h).2
          exact replaced_put hfile hfree

end Codeweave.FileTree
