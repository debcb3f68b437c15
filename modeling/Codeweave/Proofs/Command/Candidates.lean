import Codeweave.Command.Run
import Codeweave.Proofs.FileTree.Entries

/-!
The files that a path stands for. With the same directories and no more files, a path stands for no
more files either, and a file that can still be read is not lost.
-/

namespace Codeweave.Command

open FileTree

/-- The path is among the files that the first path stands for. -/
def StandsFor (t : FileTree) (root p : Path) : Prop :=
  ∃ paths, candidates t root = .ok paths ∧ p ∈ paths

theorem standsFor_iff_mem {t : FileTree} {root p : Path} {paths : List Path}
    (h : candidates t root = .ok paths) : StandsFor t root p ↔ p ∈ paths := by
  rw [StandsFor, h]
  simp only [Except.ok.injEq, exists_eq_left']

theorem exists_candidates {t t' : FileTree} (h : SameDirectories t t') {root : Path}
    {paths : List Path} (hpaths : candidates t root = .ok paths) :
    ∃ paths', candidates t' root = .ok paths' := by
  cases hfile : t.isFile root with
  | error why => simp [candidates, hfile, Except.map] at hpaths
  | ok isFile =>
      obtain ⟨isFile', hfile'⟩ := h.exists_isFile hfile
      rw [candidates, hfile']
      exact ⟨_, rfl⟩

theorem standsFor_iff {t : FileTree} {root p : Path} :
    StandsFor t root p ↔
      (p = root ∧ ∃ a c, t.locate root = .ok a ∧ t.get? a = some (.file c)) ∨
        p ∈ t.filesBelow root := by
  have hiff := isFile_eq_true_iff (t := t) (p := root)
  rw [StandsFor, candidates]
  cases hisFile : t.isFile root with
  | error why =>
      obtain ⟨-, hlong⟩ := isFile_eq_error_iff.mp hisFile
      simp [Except.map, mem_filesBelow_iff, hlong]
  | ok isFile =>
      rw [hisFile, Except.ok.injEq] at hiff
      cases isFile with
      | true =>
          obtain ⟨a, c, hplace, hget⟩ := hiff.mp rfl
          simp [Except.map, hplace, hget, filesBelow_of_isFile hisFile]
      | false =>
          have hnot : ¬ ∃ a c, t.locate root = .ok a ∧ t.get? a = some (.file c) :=
            fun h => by simpa using hiff.mpr h
          simp only [Except.map, Bool.false_eq_true, if_false, Except.ok.injEq, exists_eq_left',
            hnot, and_false, false_or]

theorem StandsFor.of_noMoreFiles {t t' : FileTree} (h : NoMoreFiles t t') {root p : Path}
    (hp : StandsFor t' root p) : StandsFor t root p := by
  rw [standsFor_iff] at hp ⊢
  rcases hp with ⟨rfl, a, c, hplace, hget⟩ | hp
  · obtain ⟨c', hget'⟩ := h.get? hget
    exact Or.inl ⟨rfl, a, c', h.directories.locate_eq_ok_iff.mpr hplace, hget'⟩
  · obtain ⟨a, hplace, hdirectory, rest, hfile, rfl⟩ := mem_filesBelow_iff.mp hp
    exact Or.inr (mem_filesBelow_iff.mpr ⟨a, h.directories.locate_eq_ok_iff.mpr hplace,
      (h.directories a).mpr hdirectory, rest, h.hasFile _ hfile, rfl⟩)

theorem StandsFor.of_readable {t t' : FileTree} (h : NoMoreFiles t t') {root p : Path}
    (hp : StandsFor t root p) {x : Address} {c : Content} (hplace : t'.locate p = .ok x)
    (hget : t'.get? x = some (.file c)) : StandsFor t' root p := by
  rw [standsFor_iff] at hp ⊢
  rcases hp with ⟨rfl, -⟩ | hp
  · exact Or.inl ⟨rfl, x, c, hplace, hget⟩
  · obtain ⟨a, hroot, hdirectory, rest, hfile, rfl⟩ := mem_filesBelow_iff.mp hp
    refine Or.inr (mem_filesBelow_iff.mpr ⟨a, h.directories.locate_eq_ok_iff.mp hroot,
      (h.directories a).mp hdirectory, rest, ?_, rfl⟩)
    by_cases hnamed : WellNamed (a ++ rest)
    · rw [← hnamed.eq_of_locate hroot (h.directories.locate_eq_ok_iff.mpr hplace)]
      exact hasFile_of_get? hget
    · exact h.stays _ hnamed hfile

end Codeweave.Command
