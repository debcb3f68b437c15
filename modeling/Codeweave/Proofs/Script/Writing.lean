import Codeweave.Proofs.Script.Run
import Codeweave.Proofs.Text.Rows

/-!
Writing a text is writing its characters one after the other: a newline starts a line, and any other
character goes on the current one. So a text can be written in pieces.
-/

namespace Codeweave.Script

variable {α : Type}

theorem run_ext {step other : Run α} (h : ∀ w, runFrom w step = runFrom w other) : step = other :=
  funext h

theorem modifyBuilder_bind (change next : Builder → Builder) :
    (modifyBuilder change >>= fun _ => modifyBuilder next) =
      modifyBuilder fun b => next (change b) := rfl

theorem write_nil : (modifyBuilder fun b => b.write []) = pure () := by
  refine run_ext fun w => ?_
  have hwrite : w.builder.write [] = w.builder := by
    rw [Builder.write, List.append_nil]
  rw [runFrom_modifyBuilder, hwrite]
  rfl

theorem write_cons (c : Char) (text : List Char) :
    (modifyBuilder fun b => b.write (c :: text)) =
      modifyBuilder (·.write [c]) >>= fun _ => modifyBuilder (·.write text) := by
  rw [modifyBuilder_bind]
  congr 1
  funext b
  rw [Builder.write, Builder.write, Builder.write, List.append_assoc]
  rfl

theorem writeOutput_nil : writeOutput [] = pure () := by
  rw [writeOutput, Text.rows]
  simp only [write_nil, pure_bind]
  rfl

theorem writeOutput_newline (text : List Char) :
    writeOutput ('\n' :: text) = newlineOutput >>= fun _ => writeOutput text := by
  obtain ⟨first, rest, hrows, -⟩ := Text.exists_rows text
  rw [writeOutput, writeOutput, Text.rows, if_pos (by simp), hrows]
  simp only [write_nil, pure_bind]
  rfl

theorem writeOutput_cons {c : Char} (hc : c ≠ '\n') (text : List Char) :
    writeOutput (c :: text) = modifyBuilder (·.write [c]) >>= fun _ => writeOutput text := by
  obtain ⟨first, rest, hrows, -⟩ := Text.exists_rows text
  rw [writeOutput, writeOutput, Text.rows, if_neg (by simpa using hc), hrows, Text.consHead]
  simp only
  rw [write_cons, bind_assoc]

/-- A text is written as its two parts are, one after the other. -/
theorem writeOutput_append (text more : List Char) :
    writeOutput (text ++ more) = writeOutput text >>= fun _ => writeOutput more := by
  induction text with
  | nil => rw [writeOutput_nil, pure_bind, List.nil_append]
  | cons c text ih =>
      rw [List.cons_append]
      by_cases hc : c = '\n'
      · subst hc
        rw [writeOutput_newline, writeOutput_newline, ih, bind_assoc]
      · rw [writeOutput_cons hc, writeOutput_cons hc, ih, bind_assoc]

end Codeweave.Script
