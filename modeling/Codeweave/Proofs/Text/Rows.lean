import Codeweave.Text.Lines
import Mathlib.Data.List.Basic

/-!
Rows of a text. Splitting at newlines and joining with newlines undo each other, as no row of a text
holds a newline.
-/

namespace Codeweave.Text

def terminated (rs : List (List Char)) : List Char :=
  rs.flatMap (· ++ ['\n'])

theorem unrows_cons_cons (r s : List Char) (rs : List (List Char)) :
    unrows (r :: s :: rs) = r ++ '\n' :: unrows (s :: rs) := by
  rw [unrows, List.intercalate_cons_cons, ← unrows, List.append_assoc, List.singleton_append]

theorem rows_of_not_mem {row : List Char} (h : '\n' ∉ row) : rows row = [row] := by
  induction row with
  | nil => rfl
  | cons c row ih =>
      simp only [List.mem_cons, not_or] at h
      rw [rows, ih h.2, if_neg (by simpa using fun hc => h.1 hc.symm), consHead]

theorem rows_append_newline {row : List Char} (h : '\n' ∉ row) (rest : List Char) :
    rows (row ++ '\n' :: rest) = row :: rows rest := by
  induction row with
  | nil => simp [rows]
  | cons c row ih =>
      simp only [List.mem_cons, not_or] at h
      rw [List.cons_append, rows, ih h.2, if_neg (by simpa using fun hc => h.1 hc.symm), consHead]

/-- A text has a first row, and it has others exactly when a newline is in it. -/
theorem exists_rows (text : List Char) :
    ∃ first rest, rows text = first :: rest ∧ (rest ≠ [] ↔ '\n' ∈ text) ∧
      ∀ r ∈ first :: rest, '\n' ∉ r := by
  induction text with
  | nil => exact ⟨[], [], rfl, by simp, by simp⟩
  | cons c text ih =>
      obtain ⟨first, rest, hrows, hrest, hmem⟩ := ih
      by_cases hc : c = '\n'
      · subst hc
        exact ⟨[], first :: rest, by rw [rows, if_pos (by simp), hrows], by simp,
          List.forall_mem_cons.mpr ⟨by simp, hmem⟩⟩
      · have hc' : '\n' ≠ c := fun h => hc h.symm
        rw [List.forall_mem_cons] at hmem
        refine ⟨c :: first, rest, ?_, by simp [hc', hrest], ?_⟩
        · rw [rows, if_neg (by simpa using hc), hrows, consHead]
        · exact List.forall_mem_cons.mpr ⟨by simp [hc', hmem.1], hmem.2⟩

/-- Rows without newlines are the rows of what they are joined to. -/
theorem rows_unrows {rs : List (List Char)} (hne : rs ≠ []) (h : ∀ r ∈ rs, '\n' ∉ r) :
    rows (unrows rs) = rs := by
  induction rs with
  | nil => exact absurd rfl hne
  | cons r rs ih =>
      rw [List.forall_mem_cons] at h
      cases rs with
      | nil =>
          rw [unrows, List.intercalate_singleton]
          exact rows_of_not_mem h.1
      | cons s rs =>
          rw [unrows_cons_cons, rows_append_newline h.1, ih (by simp) h.2]

theorem rows_terminated {rs : List (List Char)} (h : ∀ r ∈ rs, '\n' ∉ r) :
    rows (terminated rs) = rs ++ [[]] := by
  induction rs with
  | nil => rfl
  | cons r rs ih =>
      rw [List.forall_mem_cons] at h
      rw [terminated, List.flatMap_cons, List.append_assoc, List.singleton_append,
        rows_append_newline h.1]
      exact congrArg (r :: ·) (ih h.2)

theorem unrows_rows (text : List Char) : unrows (rows text) = text := by
  induction text with
  | nil => rfl
  | cons c text ih =>
      obtain ⟨row, rs, hrows⟩ := List.exists_cons_of_ne_nil (rows_ne_nil text)
      rw [hrows] at ih
      by_cases hc : c = '\n'
      · subst hc
        rw [rows, if_pos (by simp), hrows, unrows_cons_cons, ih, List.nil_append]
      · rw [rows, if_neg (by simpa using hc), hrows, consHead]
        cases rs with
        | nil => simpa [unrows] using ih
        | cons s rs =>
            rw [unrows_cons_cons] at ih ⊢
            rw [List.cons_append, ih]

theorem unrows_concat (rs : List (List Char)) (row : List Char) :
    unrows (rs ++ [row]) = terminated rs ++ row := by
  induction rs with
  | nil => simp [unrows, terminated]
  | cons r rs ih =>
      have hrest : unrows (r :: (rs ++ [row])) = r ++ '\n' :: unrows (rs ++ [row]) := by
        cases rs <;> exact unrows_cons_cons _ _ _
      rw [List.cons_append, hrest, ih, terminated, terminated, List.flatMap_cons]
      simp

theorem unrows_concat_nil (rs : List (List Char)) : unrows (rs ++ [[]]) = terminated rs := by
  rw [unrows_concat, List.append_nil]

theorem terminated_eq_unrows {rs : List (List Char)} (hne : rs ≠ []) :
    terminated rs = unrows rs ++ ['\n'] := by
  induction rs with
  | nil => exact absurd rfl hne
  | cons r rs ih =>
      cases rs with
      | nil => simp [terminated, unrows]
      | cons s rs =>
          rw [unrows_cons_cons, List.append_assoc, List.cons_append, ← ih (by simp), terminated,
            terminated, List.flatMap_cons, List.append_assoc, List.singleton_append]

theorem terminated_injective {rs ss : List (List Char)} (hrs : ∀ r ∈ rs, '\n' ∉ r)
    (hss : ∀ s ∈ ss, '\n' ∉ s) (h : terminated rs = terminated ss) : rs = ss := by
  have hrows := congrArg rows h
  rw [rows_terminated hrs, rows_terminated hss] at hrows
  exact List.append_cancel_right hrows

end Codeweave.Text
