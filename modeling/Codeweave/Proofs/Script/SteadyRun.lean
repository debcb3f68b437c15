import Codeweave.Proofs.Script.CorrespondingRun
import Codeweave.Proofs.Script.Redirection

/-!
A run does not know what it is called. What a script does without a name it does under every name,
as far down as it is followed, and only the remarks tell the names apart.
-/

namespace Codeweave.Script

variable {α β : Type}

/-- A run that is given up for want of something has noted so. -/
theorem Steady.giveUp : Steady (giveUp : Run α) :=
  ⟨fun _ hlabel => ⟨hlabel, fun hwanted => nomatch hwanted⟩⟩

theorem Steady.orRaise : ∀ answer : Except TextError α, Steady (orRaise answer)
  | .ok a => inferInstanceAs (Steady (pure a))
  | .error .tooManyDigits | .error .tooDeep => .throw (.raised _)
  | .error .unknown => .giveUp

/-- Goes on with a text, and notes that a name was wanted if there is none. -/
theorem Steady.legible {text : World → Except TextError α} {next : World → α → Run β}
    (htext : Legible text) (hnext : ∀ w a, Steady (next w a))
    (hread : ∀ w label journal, next (World.named w label journal) = next w) :
    Steady (get >>= fun w => Script.orRaise (text w) >>= next w) where
  named w hlabel := by
    have := Steady.orRaise (text w)
    have hstep : Steady (Script.orRaise (text w) >>= next w) := inferInstance
    obtain ⟨hlabel', hsame⟩ := hstep.named w hlabel
    refine ⟨hlabel', fun hwanted => ⟨(hsame hwanted).1, fun label journal => ?_⟩⟩
    obtain ⟨journal', hsame⟩ := (hsame hwanted).2 label journal
    refine ⟨journal', ?_⟩
    rcases htext.same w label journal hlabel with hnone | hsome
    · rw [runFrom_bind, runFrom_get] at hwanted
      simp only [hnone] at hwanted
      exact nomatch hwanted
    · rw [runFrom_bind, runFrom_get]
      simp only
      rw [hread, hsome, hsame]
      rfl

theorem Steady.captured {step : Run Unit} (h : Steady step) : Steady (captured step) where
  named w hlabel := by
    obtain ⟨hlabel', hsame⟩ := h.named w.capturing hlabel
    rw [runFrom_captured]
    refine ⟨hlabel', fun hwanted => ⟨(hsame hwanted).1, fun label journal => ?_⟩⟩
    obtain ⟨journal', hnamed⟩ := (hsame hwanted).2 label journal
    refine ⟨journal', ?_⟩
    have hcapturing : (w.named label journal).capturing = w.capturing.named label journal := rfl
    rw [runFrom_captured, hcapturing, hnamed]
    rfl

theorem Steady.onOutput (address : Nat) {step : Run α} (h : Steady step) :
    Steady (onOutput address step) where
  named w hlabel := by
    obtain ⟨hlabel', hsame⟩ := h.named ((w.reach address).turnTo address) hlabel
    rw [runFrom_onOutput]
    refine ⟨hlabel', fun hwanted => ⟨(hsame hwanted).1, fun label journal => ?_⟩⟩
    obtain ⟨journal', hnamed⟩ := (hsame hwanted).2 label journal
    refine ⟨journal', ?_⟩
    have hturned : ((w.named label journal).reach address).turnTo address =
        ((w.reach address).turnTo address).named label journal := rfl
    rw [runFrom_onOutput, hturned, hnamed]
    rfl

/-- A step corresponds to itself if it is steady. -/
def steady : Correspondence where
  rel step _ := Steady step
  free _ := True
  rounds := (· = ·)
  rounds_zero h := absurd h (Nat.succ_ne_zero _).symm
  rounds_succ := exists_of_succ_eq
  pure _ := inferInstance
  throw _ := inferInstance
  bind _ _ := inferInstance
  outcome _ _ _ := inferInstance
  read hnext hread := .read hnext hread
  legible htext hnext hread := .legible htext hnext hread
  giveUp := .giveUp
  plain a change hrun hkeeps hvalue hchange :=
    .of_ok a change hrun (fun w => ⟨(hkeeps w).1, (hkeeps w).2.1⟩) hvalue hchange
  modifyNames change _ :=
    .of_ok (fun _ => ()) (fun w => { w with spaces := w.spaces.modify _ change }) (fun _ => rfl)
      (fun _ => ⟨rfl, rfl⟩) (fun _ _ _ => rfl) fun _ _ journal => ⟨journal, rfl⟩
  newSpace {_ names _ _} hnext :=
    have : Steady (newSpace names) :=
      .of_ok (fun w => w.spaces.size) (fun w => { w with spaces := w.spaces.push names })
        (fun _ => rfl) (fun _ => ⟨rfl, rfl⟩) (fun _ _ _ => rfl) fun _ _ journal => ⟨journal, rfl⟩
    have := fun space => hnext space trivial
    inferInstance
  captured h := h.captured
  onOutput address _ _ h := h.onOutput address

theorem steady_of_respects {step : Run α} [h : Respects steady step] : Steady step :=
  h.rel

instance (env : Env) : Free steady env := ⟨trivial, fun _ _ => trivial⟩

theorem machineCorresponds_steady (depth : Nat) :
    MachineCorresponds steady (.upTo depth) (.upTo depth) := by
  induction depth with
  | zero =>
      exact
        { evaluate := fun _ _ => inferInstanceAs (Respects steady (throw .abandoned : Run Value))
          execute := fun _ _ => inferInstanceAs (Respects steady (throw .abandoned : Run Flow))
          call := fun _ _ => inferInstanceAs (Respects steady (throw .abandoned : Run Value))
          emit := fun _ => inferInstanceAs (Respects steady (throw .abandoned : Run Unit))
          advance := fun _ =>
            inferInstanceAs (Respects steady (throw .abandoned : Run (Option Value)))
          rename := respects_modifyNames
          rounds := ⟨rfl⟩ }
  | succ depth ih => exact .succ rfl

instance : Steady finishOutput := steady_of_respects

instance (program : List Stmt) : Steady (runProgram program) := by
  have : MachineCorresponds steady machine machine := machineCorresponds_steady patience
  have hhints (space : Nat) : Respects steady (makeHintTable space program) :=
    respects_makeHintTable trivial program
  have : Respects steady (runProgram program) :=
    .read (fun _ => by dsimp only; infer_instance) fun _ _ _ => rfl
  exact steady_of_respects

end Codeweave.Script
