import Codeweave.Proofs.Script.Run

/-!
Outputs by their addresses. What becomes the current output and what is put aside makes no
difference to what is at an address. A step that is redirected is done in the state that has turned
to another output; the state that it leaves turns back.
-/

namespace Codeweave.Script

namespace World

variable (w : World)

theorem outputAt_current : w.outputAt w.outputs.current = w.builder := if_pos rfl

theorem outputAt_turnTo (address : Nat) : (w.turnTo address).outputAt = w.outputAt := by
  funext other
  rw [outputAt]
  split
  · rename_i h
    rw [h]
    rfl
  · rfl

/-- A further output changes none of those that are there. -/
theorem outputAt_openOutput {address : Nat} (h : address < w.outputs.count) :
    w.openOutput.outputAt address = w.outputAt address := by
  have hne : address ≠ w.outputs.count := Nat.ne_of_lt h
  simp only [outputAt, openOutput, if_neg hne]

/-- The state in which a step is captured: a fresh output is the current one. -/
def capturing : World :=
  w.openOutput.turnTo w.outputs.count

theorem outputAt_capturing {address : Nat} (h : address < w.outputs.count) :
    w.capturing.outputAt address = w.outputAt address := by
  rw [capturing, outputAt_turnTo, outputAt_openOutput w h]

theorem builder_capturing : w.capturing.builder = .fresh w.builder.width := by
  have hne : w.outputs.count ≠ w.outputs.current := (Nat.ne_of_lt w.outputs.current_lt).symm
  change w.openOutput.outputAt w.outputs.count = _
  simp only [outputAt, openOutput, if_neg hne, if_pos]

end World

variable {α : Type} (w : World)

theorem runFrom_redirected (address : Nat) (step : Run α) :
    runFrom w (redirected address step) =
      ((runFrom (w.turnTo address) step).1,
        (runFrom (w.turnTo address) step).2.turnTo w.outputs.current) := by
  rw [redirected, runFrom_bind, runFrom_get]
  simp only [runFrom_bind, runFrom_modify, runFrom_outcome, runFrom_resume]

theorem runFrom_onOutput (address : Nat) (step : Run α) :
    runFrom w (onOutput address step) =
      ((runFrom ((w.reach address).turnTo address) step).1,
        (runFrom ((w.reach address).turnTo address) step).2.turnTo w.outputs.current) := by
  rw [onOutput, runFrom_bind, runFrom_modify]
  simp only [runFrom_redirected]
  rfl

/-- A step that is captured has its own outcome, and gives what is then at the address of the fresh
output. -/
theorem runFrom_captured (step : Run Unit) :
    runFrom w (captured step) =
      ((runFrom w.capturing step).1.map fun _ =>
          ((runFrom w.capturing step).2.outputAt w.outputs.count).content,
        (runFrom w.capturing step).2.turnTo w.outputs.current) := by
  have hopen : runFrom w newOutput = (.ok w.outputs.count, w.openOutput) := rfl
  have hcurrent : w.openOutput.outputs.current = w.outputs.current := rfl
  rw [captured, runFrom_bind, hopen]
  simp only [runFrom_bind, runFrom_redirected, hcurrent]
  rw [← World.capturing]
  rcases runFrom w.capturing step with ⟨stop | _, w'⟩
  · rfl
  · simp only [runFrom_get, runFrom_pure, World.outputAt_turnTo]
    rfl

end Codeweave.Script
