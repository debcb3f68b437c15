import Codeweave.Proofs.Script.CorrespondingRun
import Codeweave.Proofs.Script.Redirection

/-!
Outputs that are put aside. A step works on the current output, on outputs that it opens itself,
and on those whose addresses it is handed; all others are after it as they were before, whether it
gives a value or stops. While a step is captured, the output that was current is one of the others.
-/

namespace Codeweave.Script

variable {α β : Type}

namespace World

/-- A later state has the same current output, and more outputs were reached by their addresses. -/
structure Onward (w : World) (reached : List Nat) (later : World) : Prop where
  current_eq : later.outputs.current = w.outputs.current
  count_le : w.outputs.count ≤ later.outputs.count
  reached_eq : later.outputs.reached = w.outputs.reached ++ reached

/-- All outputs are as they were, but the current one, those that are new, and those that were
reached. -/
structure Framed (w : World) (reached : List Nat) (later : World) : Prop
    extends w.Onward reached later where
  same : ∀ address < w.outputs.count, address ≠ w.outputs.current → address ∉ reached →
    later.outputAt address = w.outputAt address

/-- All outputs are as they were, but those that are new and those that were reached. -/
structure Untouched (w : World) (reached : List Nat) (later : World) : Prop
    extends w.Onward reached later where
  same : ∀ address < w.outputs.count, address ∉ reached →
    later.outputAt address = w.outputAt address

variable {w later last : World} {reached more : List Nat}

theorem Framed.of_outputs_eq (h : later.outputs = w.outputs) : w.Framed [] later where
  current_eq := by rw [h]
  count_le := Nat.le_of_eq (by rw [h])
  reached_eq := by rw [h, List.append_nil]
  same address _ hne _ := by rw [outputAt, outputAt, h, if_neg hne, if_neg hne]

theorem Framed.trans (h : w.Framed reached later) (h' : later.Framed more last) :
    w.Framed (reached ++ more) last where
  current_eq := h'.current_eq.trans h.current_eq
  count_le := Nat.le_trans h.count_le h'.count_le
  reached_eq := by rw [h'.reached_eq, h.reached_eq, List.append_assoc]
  same address haddress hne hmem := by
    rw [List.mem_append, not_or] at hmem
    rw [h'.same address (Nat.lt_of_lt_of_le haddress h.count_le) (h.current_eq ▸ hne) hmem.2]
    exact h.same address haddress hne hmem.1

theorem Untouched.refl (w : World) : w.Untouched [] w where
  current_eq := rfl
  count_le := Nat.le_refl _
  reached_eq := (List.append_nil _).symm
  same _ _ _ := rfl

theorem Untouched.framed (h : w.Untouched reached later) : w.Framed reached later where
  toOnward := h.toOnward
  same address haddress _ hmem := h.same address haddress hmem

theorem Untouched.builder_eq (h : w.Untouched reached later) (hmem : w.outputs.current ∉ reached) :
    later.builder = w.builder := by
  have hsame := h.same _ w.outputs.current_lt hmem
  rwa [← h.current_eq, outputAt_current, h.current_eq, outputAt_current] at hsame

/-- Turning to another output and back leaves the outputs alone that the steps in between do. -/
theorem Framed.turnTo {address : Nat} (h : (w.turnTo address).Framed reached later) :
    w.Onward reached (later.turnTo w.outputs.current) ∧
      ∀ other < w.outputs.count, other ≠ address → other ∉ reached →
        (later.turnTo w.outputs.current).outputAt other = w.outputAt other := by
  have hcount : w.outputs.count ≤ later.outputs.count :=
    Nat.le_trans (Nat.le_max_left _ _) h.count_le
  refine ⟨⟨rfl, Nat.le_trans hcount (Nat.le_max_left _ _), h.reached_eq⟩, ?_⟩
  intro other hother hne hmem
  have hthere := Nat.lt_of_lt_of_le hother (Nat.le_max_left _ (address + 1))
  rw [outputAt_turnTo, h.same other hthere hne hmem, outputAt_turnTo]

/-- While a step is captured, all outputs that were there are put aside. -/
theorem Framed.captured (h : w.capturing.Framed reached later) :
    w.Untouched reached (later.turnTo w.outputs.current) := by
  obtain ⟨honward, hsame⟩ := Framed.turnTo (w := w.openOutput) h
  refine ⟨⟨honward.current_eq, ?_, honward.reached_eq⟩, ?_⟩
  · exact Nat.le_trans (Nat.le_succ _) honward.count_le
  intro address haddress hmem
  exact (hsame address (Nat.lt_succ_of_lt haddress) (Nat.ne_of_lt haddress) hmem).trans
    (w.outputAt_openOutput haddress)

end World

/-- The outputs that are put aside, and not reached, are after the step as they were before. -/
def Frames (step : Run α) : Prop :=
  ∀ w : World, ∃ reached, w.Framed reached (runFrom w step).2

namespace Frames

theorem of_outputs_eq {step : Run α} (h : ∀ w, (runFrom w step).2.outputs = w.outputs) :
    Frames step :=
  fun w => ⟨[], .of_outputs_eq (h w)⟩

theorem bind {step : Run α} {next : α → Run β} (h : Frames step) (hnext : ∀ a, Frames (next a)) :
    Frames (step >>= next) := by
  intro w
  obtain ⟨reached, hfirst⟩ := h w
  rw [runFrom_bind]
  rcases hrun : runFrom w step with ⟨stop | a, w'⟩ <;> rw [hrun] at hfirst
  · exact ⟨reached, hfirst⟩
  · obtain ⟨more, hsecond⟩ := hnext a w'
    exact ⟨reached ++ more, hfirst.trans hsecond⟩

theorem outcome {step : Run α} (h : Frames step) : Frames (outcome step) := h

theorem untouched_captured {step : Run Unit} (h : Frames step) (w : World) :
    ∃ reached, w.Untouched reached (runFrom w (captured step)).2 := by
  obtain ⟨reached, hframed⟩ := h w.capturing
  rw [runFrom_captured]
  exact ⟨reached, hframed.captured⟩

theorem onOutput (address : Nat) {step : Run α} (h : Frames step) :
    Frames (onOutput address step) := by
  intro w
  obtain ⟨reached, hframed⟩ := h ((w.reach address).turnTo address)
  obtain ⟨honward, hsame⟩ := World.Framed.turnTo (w := w.reach address) hframed
  rw [runFrom_onOutput]
  refine ⟨address :: reached, ⟨honward.current_eq, honward.count_le, ?_⟩, ?_⟩
  · exact honward.reached_eq.trans (List.append_assoc _ [address] reached)
  · intro other hother _ hmem
    rw [List.mem_cons, not_or] at hmem
    exact hsame other hother hmem.1 hmem.2

end Frames

/-- A step corresponds to itself if it leaves the outputs alone that are put aside. -/
def framing : Correspondence where
  rel step _ := Frames step
  free _ := True
  rounds := (· = ·)
  rounds_zero h := absurd h (Nat.succ_ne_zero _).symm
  rounds_succ := exists_of_succ_eq
  pure _ := .of_outputs_eq fun _ => rfl
  throw _ := .of_outputs_eq fun _ => rfl
  bind h hnext := h.bind hnext
  outcome h _ hnext := h.outcome.bind hnext
  read hnext _ := (Frames.of_outputs_eq fun _ => rfl).bind hnext
  legible {_ _ text _} _ hnext _ :=
    (Frames.of_outputs_eq fun _ => rfl).bind fun w => .bind (.of_outputs_eq fun w' => by
      rcases text w with (_ | _ | _) | _ <;> rfl) (hnext w)
  giveUp := .of_outputs_eq fun _ => rfl
  plain a change hrun hkeeps _ _ := .of_outputs_eq fun w => by rw [hrun, (hkeeps w).2.2.2]
  modifyNames _ _ := .of_outputs_eq fun _ => rfl
  newSpace hnext := (Frames.of_outputs_eq fun _ => rfl).bind fun space => hnext space trivial
  captured h := fun w => (h.untouched_captured w).imp fun _ => World.Untouched.framed
  onOutput address _ _ h := h.onOutput address

instance (env : Env) : Free framing env := ⟨trivial, fun _ _ => trivial⟩

/-- Whatever a run does, it leaves the outputs alone that are put aside. -/
theorem machineCorresponds_framing (depth : Nat) :
    MachineCorresponds framing (.upTo depth) (.upTo depth) := by
  induction depth with
  | zero =>
      exact
        { evaluate := fun _ _ => inferInstanceAs (Respects framing (throw .abandoned : Run Value))
          execute := fun _ _ => inferInstanceAs (Respects framing (throw .abandoned : Run Flow))
          call := fun _ _ => inferInstanceAs (Respects framing (throw .abandoned : Run Value))
          emit := fun _ => inferInstanceAs (Respects framing (throw .abandoned : Run Unit))
          advance := fun _ =>
            inferInstanceAs (Respects framing (throw .abandoned : Run (Option Value)))
          rename := respects_modifyNames
          rounds := ⟨rfl⟩ }
  | succ depth ih => exact .succ rfl

end Codeweave.Script
