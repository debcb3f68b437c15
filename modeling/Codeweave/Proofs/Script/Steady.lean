import Codeweave.Proofs.Script.Run

/-!
Steps that do the same whatever the run is called. The name of a run is written into the texts of
templates and into log records; a run without a name has no such texts, and it is noted when one
was wanted. A step is steady if what it does without a name is what it does under every name, but
for the remarks. Whatever steady steps are put together to is steady.
-/

namespace Codeweave.Script

/-- The state of the same run under a name, with other remarks. -/
def World.named (w : World) (label : String) (journal : Array Remark) : World :=
  { w with label := some label, journal := journal }

/-- What the step does without a name, it does under every name, unless one was wanted. -/
class Steady {α : Type} (step : Run α) : Prop where
  named : ∀ w : World, w.label = none → (runFrom w step).2.label = none ∧
    ((runFrom w step).2.wanted = false → w.wanted = false ∧ ∀ label journal, ∃ journal',
      runFrom (w.named label journal) step =
        ((runFrom w step).1, (runFrom w step).2.named label journal'))

variable {α β : Type}

/-! ### Plain steps -/

instance (a : α) : Steady (pure a : Run α) where
  named _ hlabel := ⟨hlabel, fun hwanted => ⟨hwanted, fun _ journal => ⟨journal, rfl⟩⟩⟩

instance Steady.throw (stop : Stop) : Steady (throw stop : Run α) where
  named _ hlabel := ⟨hlabel, fun hwanted => ⟨hwanted, fun _ journal => ⟨journal, rfl⟩⟩⟩

/-- A step that gives a value and changes the state, neither of which depends on the name. -/
theorem Steady.of_ok {step : Run α} (a : World → α) (change : World → World)
    (hrun : ∀ w, runFrom w step = (.ok (a w), change w))
    (hkeeps : ∀ w, (change w).label = w.label ∧ (change w).wanted = w.wanted)
    (hvalue : ∀ w label journal, a (w.named label journal) = a w)
    (hchange : ∀ w label journal, ∃ journal',
      change (w.named label journal) = (change w).named label journal') : Steady step where
  named w hlabel := by
    rw [hrun]
    refine ⟨(hkeeps w).1.trans hlabel, fun hwanted =>
      ⟨(hkeeps w).2.symm.trans hwanted, fun label journal => ?_⟩⟩
    obtain ⟨journal', h⟩ := hchange w label journal
    exact ⟨journal', by rw [hrun, hvalue, h]⟩

/-! ### Sequences -/

instance Steady.bind (step : Run α) (next : α → Run β) [hstep : Steady step]
    [hnext : ∀ a, Steady (next a)] : Steady (step >>= next) where
  named w hlabel := by
    obtain ⟨hlabel', hfirst⟩ := hstep.named w hlabel
    rw [runFrom_bind]
    rcases hrun : runFrom w step with ⟨stop | a, w'⟩ <;> rw [hrun] at hlabel' hfirst
    · refine ⟨hlabel', fun hwanted => ⟨(hfirst hwanted).1, fun label journal => ?_⟩⟩
      obtain ⟨journal', hsame⟩ := (hfirst hwanted).2 label journal
      exact ⟨journal', by rw [runFrom_bind, hsame]⟩
    · obtain ⟨hlabel'', hsecond⟩ := (hnext a).named w' hlabel'
      refine ⟨hlabel'', fun hwanted => ?_⟩
      obtain ⟨hwanted', hsecond⟩ := hsecond hwanted
      obtain ⟨hwanted, hfirst⟩ := hfirst hwanted'
      refine ⟨hwanted, fun label journal => ?_⟩
      obtain ⟨journal', hfirst⟩ := hfirst label journal
      obtain ⟨journal'', hsecond⟩ := hsecond label journal'
      exact ⟨journal'', by rw [runFrom_bind, hfirst]; exact hsecond⟩

/-- Reads the state, and goes on with what does not depend on the name. -/
theorem Steady.read {next : World → Run α} (hnext : ∀ w, Steady (next w))
    (hread : ∀ w label journal, next (World.named w label journal) = next w) :
    Steady (get >>= next) where
  named w hlabel := by
    obtain ⟨hlabel', hsame⟩ := (hnext w).named w hlabel
    refine ⟨hlabel', fun hwanted => ⟨(hsame hwanted).1, fun label journal => ?_⟩⟩
    obtain ⟨journal', hsame⟩ := (hsame hwanted).2 label journal
    refine ⟨journal', ?_⟩
    rw [runFrom_bind, runFrom_get]
    simp only
    rw [hread, hsame]
    rfl

/-! ### Outcomes -/

instance (step : Run α) [hstep : Steady step] : Steady (outcome step) where
  named w hlabel := by
    obtain ⟨hlabel', hsame⟩ := hstep.named w hlabel
    rw [runFrom_outcome]
    refine ⟨hlabel', fun hwanted => ⟨(hsame hwanted).1, fun label journal => ?_⟩⟩
    obtain ⟨journal', hsame⟩ := (hsame hwanted).2 label journal
    exact ⟨journal', by rw [runFrom_outcome, hsame]⟩

end Codeweave.Script
