import Codeweave.Proofs.Script.CorrespondingRun
import Codeweave.Proofs.Script.Redirection

/-!
What a run does does not depend on how far it is followed. A run that is followed less far does what
the other does, or else it is given up; so a run that is not given up is the same run when it is
followed farther.
-/

namespace Codeweave.Script

variable {α β : Type}

/-- The first step does what the second does, unless it is given up. -/
def Shortens (short step : Run α) : Prop :=
  ∀ w, (runFrom w short).1 = .error .abandoned ∨ runFrom w short = runFrom w step

namespace Shortens

theorem refl (step : Run α) : Shortens step step := fun _ => .inr rfl

theorem given_up (step : Run α) : Shortens (throw .abandoned) step := fun _ => .inl rfl

theorem bind {short step : Run α} {after next : α → Run β} (h : Shortens short step)
    (hnext : ∀ a, Shortens (after a) (next a)) : Shortens (short >>= after) (step >>= next) := by
  intro w
  rw [runFrom_bind, runFrom_bind]
  rcases h w with hgiven | hsame
  · rcases hrun : runFrom w short with ⟨stop | a, w'⟩ <;> rw [hrun] at hgiven <;> cases hgiven
    exact .inl rfl
  · rw [hsame]
    rcases runFrom w step with ⟨stop | a, w'⟩
    · exact .inr rfl
    · exact hnext a w'

theorem outcome {short step : Run α} {after next : Except Stop α → Run β} (h : Shortens short step)
    (hgiven : ∀ w, (runFrom w (after (.error .abandoned))).1 = .error .abandoned)
    (hnext : ∀ result, Shortens (after result) (next result)) :
    Shortens (outcome short >>= after) (outcome step >>= next) := by
  intro w
  rw [runFrom_bind, runFrom_bind, runFrom_outcome, runFrom_outcome]
  rcases h w with hstop | hsame
  · rw [hstop]
    exact .inl (hgiven _)
  · rw [hsame]
    exact hnext _ _

theorem captured {short step : Run Unit} (h : Shortens short step) :
    Shortens (captured short) (captured step) := by
  intro w
  rw [runFrom_captured, runFrom_captured]
  rcases h w.capturing with hgiven | hsame
  · exact .inl (by rw [hgiven]; rfl)
  · exact .inr (by rw [hsame])

theorem onOutput (address : Nat) {short step : Run α} (h : Shortens short step) :
    Shortens (onOutput address short) (onOutput address step) := by
  intro w
  rw [runFrom_onOutput, runFrom_onOutput]
  rcases h ((w.reach address).turnTo address) with hgiven | hsame
  · exact .inl hgiven
  · exact .inr (by rw [hsame])

end Shortens

/-- Steps correspond if the first shortens the second. -/
def shortening : Correspondence where
  rel := Shortens
  free _ := True
  rounds := (· ≤ ·)
  rounds_zero _ := .given_up _
  rounds_succ h := by
    obtain ⟨most, rfl⟩ := Nat.exists_eq_add_one.mpr (Nat.lt_of_lt_of_le (Nat.succ_pos _) h)
    exact ⟨most, rfl, Nat.le_of_succ_le_succ h⟩
  pure _ := .refl _
  throw _ := .refl _
  bind h hnext := h.bind hnext
  outcome h hgiven hnext := h.outcome hgiven hnext
  read hnext _ := .bind (.refl _) hnext
  legible _ hnext _ := .bind (.refl _) fun w => .bind (.refl _) (hnext w)
  giveUp := .refl _
  plain _ _ _ _ _ _ := .refl _
  modifyNames _ _ := .refl _
  newSpace hnext := .bind (.refl _) fun space => hnext space trivial
  captured h := h.captured
  onOutput address _ _ h := h.onOutput address

instance (env : Env) : Free shortening env := ⟨trivial, fun _ _ => trivial⟩

theorem machineCorresponds_shortening {depth deeper : Nat} (h : depth ≤ deeper) :
    MachineCorresponds shortening (.upTo depth) (.upTo deeper) := by
  induction depth generalizing deeper with
  | zero =>
      exact
        { evaluate := fun _ _ => ⟨.given_up _⟩
          execute := fun _ _ => ⟨.given_up _⟩
          call := fun _ _ => ⟨.given_up _⟩
          emit := fun _ => ⟨.given_up _⟩
          advance := fun _ => ⟨.given_up _⟩
          rename := fun space change => by cases deeper <;> exact respects_modifyNames space change
          rounds := ⟨Nat.zero_le _⟩ }
  | succ depth ih =>
      obtain ⟨deeper, rfl⟩ := Nat.exists_eq_add_one.mpr (Nat.lt_of_lt_of_le depth.succ_pos h)
      have hless := Nat.le_of_succ_le_succ h
      have := ih hless
      exact .succ hless

/-! ### Runs -/

/-- What is not given up is the same when it is followed farther. -/
theorem runFrom_eq_of_shortens {short step : Run α} (h : Corresponds shortening short step)
    {w : World}
    (hdone : (runFrom w short).1 ≠ .error .abandoned) : runFrom w step = runFrom w short :=
  ((h.rel w).resolve_left hdone).symm

variable {depth deeper : Nat} (h : depth ≤ deeper) (w : World)

include h

theorem render_upTo_of_le (t : Template) (context scope : Names)
    (hdone : (runFrom w (render (.upTo depth) t context scope)).1 ≠ .error .abandoned) :
    runFrom w (render (.upTo deeper) t context scope) =
      runFrom w (render (.upTo depth) t context scope) := by
  have := machineCorresponds_shortening h
  exact runFrom_eq_of_shortens inferInstance hdone

theorem callStep_upTo_of_le (v : Value) (args : Arguments)
    (hdone : (runFrom w (callStep (.upTo depth) v args)).1 ≠ .error .abandoned) :
    runFrom w (callStep (.upTo deeper) v args) = runFrom w (callStep (.upTo depth) v args) := by
  have := machineCorresponds_shortening h
  exact runFrom_eq_of_shortens inferInstance hdone

end Codeweave.Script
