import Codeweave.Script.Session
import Mathlib.Tactic.Common

/-!
What one step of a run does to the state. A sequence of steps goes on from the state that the first
one leaves, and ends where the first one stops.
-/

namespace Codeweave.Script

variable {α β : Type} (w : World)

@[simp] theorem runFrom_pure (a : α) : runFrom w (pure a) = (.ok a, w) := rfl

theorem runFrom_bind (step : Run α) (next : α → Run β) :
    runFrom w (step >>= next) =
      match runFrom w step with
      | (.ok a, w') => runFrom w' (next a)
      | (.error stop, w') => (.error stop, w') := by
  simp only [runFrom, ExceptT.run_bind, StateT.run_bind]
  rcases h : step.run.run w with ⟨_ | _, _⟩ <;> rfl

theorem state_runFrom_bind_pure (step : Run α) (f : α → β) :
    (runFrom w (step >>= fun a => pure (f a))).2 = (runFrom w step).2 := by
  rw [runFrom_bind]
  rcases runFrom w step with ⟨stop | _, w'⟩ <;> rfl

theorem runFrom_outcome (step : Run α) :
    runFrom w (outcome step) = (.ok (runFrom w step).1, (runFrom w step).2) := rfl

theorem runFrom_tryCatch (step : Run α) (handler : Stop → Run α) :
    runFrom w (tryCatchThe Stop step handler) =
      match runFrom w step with
      | (.ok a, w') => (.ok a, w')
      | (.error stop, w') => runFrom w' (handler stop) := by
  simp only [runFrom, ExceptT.run, tryCatchThe, MonadExceptOf.tryCatch, ExceptT.tryCatch,
    ExceptT.mk, StateT.run_bind]
  rcases StateT.run step w with ⟨_ | _, _⟩ <;> rfl

@[simp] theorem runFrom_resume (result : Except Stop α) :
    runFrom w (resume result) = (result, w) := by
  cases result <;> rfl

theorem runFrom_modify (change : World → World) :
    runFrom w (modify change) = (.ok (), change w) := rfl

@[simp] theorem runFrom_get : runFrom w get = (.ok w, w) := rfl

@[simp] theorem runFrom_modifyBuilder (change : Builder → Builder) :
    runFrom w (modifyBuilder change) = (.ok (), { w with builder := change w.builder }) := rfl

@[simp] theorem runFrom_raiseProblem (problem : Problem) :
    runFrom w (raiseProblem problem : Run α) =
      (.error (.raised { problem := problem, frames := [] }), w) := rfl

@[simp] theorem runFrom_raiseWith (c : ErrorClass) (message : String) :
    runFrom w (raiseWith c message : Run α) =
      (.error (.raised { problem := .plain c [.text message] none, frames := [] }), w) := rfl

def depthStop : Stop :=
  .raised
    { problem := .plain .recursion [.text "maximum recursion depth exceeded"] none
      frames := [] }

/-- A step that is done deeper has its own outcome, and leaves the depth as it was. -/
theorem runFrom_deeper (levels : Nat) (step : Run α) :
    runFrom w (deeper levels step) =
      if w.depth + levels > maxDepth then (.error depthStop, w)
      else
        let done := runFrom { w with depth := w.depth + levels } step
        (done.1, { done.2 with depth := w.depth }) := by
  rw [deeper, runFrom_bind, runFrom_get]
  simp only
  split
  · rfl
  · simp only [runFrom_bind, runFrom_modify, runFrom_outcome, runFrom_resume]

end Codeweave.Script
