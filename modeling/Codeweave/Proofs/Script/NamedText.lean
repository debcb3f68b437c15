import Codeweave.Proofs.Script.Steady
import Codeweave.Script.Shown

/-!
Texts of values under different names of the run. The name stands in the texts of templates only,
so a text that is there without a name is the same under every name, and whether a value has a text
under a name does not depend on the name.
-/

namespace Codeweave.Script

/-- A relation that is kept when answers are put together. -/
structure Compatible (R : ∀ {α : Type}, Except TextError α → Except TextError α → Prop) :
    Prop where
  refl : ∀ {α : Type} (a : Except TextError α), R a a
  one : ∀ {α β : Type} {a b : Except TextError α} (f : α → β), R a b →
    R (a >>= fun x => .ok (f x)) (b >>= fun x => .ok (f x))
  both : ∀ {α β γ : Type} {a b : Except TextError α} {c d : Except TextError β} (f : α → β → γ),
    R a b → R c d →
      R (a >>= fun x => c >>= fun y => .ok (f x y)) (b >>= fun x => d >>= fun y => .ok (f x y))

namespace Compatible

variable {R : ∀ {α : Type}, Except TextError α → Except TextError α → Prop} (hR : Compatible R)

include hR

theorem mapM {α β : Type} {f g : α → Except TextError β} (h : ∀ x, R (f x) (g x)) (xs : List α) :
    R (xs.mapM f) (xs.mapM g) := by
  induction xs with
  | nil => exact hR.refl _
  | cons x xs ih =>
      rw [List.mapM_cons, List.mapM_cons]
      exact hR.both List.cons (h x) ih

theorem phrasesText {written written' shown shown' : Value → Except TextError (List Char)}
    (hwritten : ∀ v, R (written v) (written' v)) (hshown : ∀ v, R (shown v) (shown' v))
    (phrases : List Phrase) :
    R (Script.phrasesText written shown phrases) (Script.phrasesText written' shown' phrases) := by
  refine hR.one List.flatten (hR.mapM (f := Phrase.text written shown) (fun phrase => ?_) phrases)
  cases phrase with
  | fixed text => exact hR.refl _
  | written v => exact hwritten v
  | shown v => exact hshown v

section

variable {w : World} {label : Option String} {journal : Array Remark}
  (htemplate : ∀ fuel inside address quoted,
    (∀ v, R (w.textWithin fuel inside true v)
      ({ w with label := label, journal := journal }.textWithin fuel inside true v)) →
    R (w.textWithin (fuel + 1) inside quoted (.template address))
      ({ w with label := label, journal := journal }.textWithin (fuel + 1) inside quoted
        (.template address)))

include htemplate

/-- The texts of all values are related if those of templates are. -/
theorem textWithin (fuel : Nat) (inside : List Nat) (quoted : Bool) (v : Value) :
    R (w.textWithin fuel inside quoted v)
      ({ w with label := label, journal := journal }.textWithin fuel inside quoted v) := by
  induction fuel generalizing inside quoted v with
  | zero => exact hR.refl _
  | succ fuel ih =>
      cases v with
      | tuple items => exact hR.one _ (hR.mapM (ih _ _) items)
      | varargs items => exact hR.one _ (hR.mapM (ih _ _) items)
      | slice low high step => exact hR.one _ (hR.mapM (ih _ _) _)
      | list address =>
          simp only [World.textWithin]
          split
          · exact hR.refl _
          · exact hR.one _ (hR.mapM (ih _ _) _)
      | dict address =>
          simp only [World.textWithin]
          split
          · exact hR.refl _
          · exact hR.one _ (hR.mapM (fun entry => hR.both _ (ih ..) (ih ..)) _)
      | names space => exact hR.one _ (hR.mapM (fun entry => hR.one _ (ih ..)) _)
      | template address => exact htemplate fuel inside address quoted fun v => ih inside true v
      | error address =>
          have hproblem :
              { w with label := label, journal := journal }.problemAt address =
                w.problemAt address := rfl
          simp only [World.textWithin, hproblem]
          split
          · split
            · exact hR.one _ (hR.mapM (ih _ _) _)
            · exact hR.phrasesText (ih _ _) (ih _ _) _
          · exact hR.refl _
      | _ => exact hR.refl _

theorem plainText (c : ErrorClass) (arguments : List Value) (detail : Option Detail) :
    R (w.plainText c arguments detail)
      ({ w with label := label, journal := journal }.plainText c arguments detail) :=
  hR.phrasesText (hR.textWithin htemplate _ _ _) (hR.textWithin htemplate _ _ _) _

end

end Compatible

/-! ### Without a name -/

/-- The second answer is the first, unless the first is missing for want of a name. -/
def SameText {α : Type} (a b : Except TextError α) : Prop :=
  a = .error .unknown ∨ b = a

theorem SameText.map {α β : Type} {a b : Except TextError α} (f : α → β) (h : SameText a b) :
    SameText (a.map f) (b.map f) := by
  rcases h with rfl | rfl
  · exact .inl rfl
  · exact .inr rfl

theorem compatible_sameText : Compatible SameText where
  refl _ := .inr rfl
  one f h := h.map f
  both {α β γ a b c d} f hab hcd := by
    rcases hab with rfl | rfl
    · exact .inl rfl
    · cases b with
      | error e => exact .inr rfl
      | ok x => exact hcd.map (f x)

section

variable {w : World} (hlabel : w.label = none) (label : String) (journal : Array Remark)

include hlabel

theorem sameText_template (fuel : Nat) (inside : List Nat) (address : Nat) (quoted : Bool) :
    SameText (w.textWithin fuel inside quoted (.template address))
      ((w.named label journal).textWithin fuel inside quoted (.template address)) := by
  cases fuel with
  | zero => exact .inr rfl
  | succ fuel =>
      have hobjects : (w.named label journal).objects = w.objects := rfl
      simp only [World.textWithin, hlabel, hobjects]
      rcases w.objects[address]? with _ | object
      · exact .inr rfl
      · cases object with
        | template t pattern => exact .inl rfl
        | _ => exact .inr rfl

theorem sameText_textWithin (fuel : Nat) (inside : List Nat) (quoted : Bool) (v : Value) :
    SameText (w.textWithin fuel inside quoted v)
      ((w.named label journal).textWithin fuel inside quoted v) :=
  compatible_sameText.textWithin
    (fun _ _ _ _ _ => sameText_template hlabel label journal ..) fuel inside quoted v

theorem sameText_plainText (c : ErrorClass) (arguments : List Value) (detail : Option Detail) :
    SameText (w.plainText c arguments detail)
      ((w.named label journal).plainText c arguments detail) :=
  compatible_sameText.plainText
    (fun _ _ _ _ _ => sameText_template hlabel label journal ..) c arguments detail

end

/-! ### Under two names -/

/-- Both answers are texts, or both are missing for the same reason. -/
def SameEnd {α : Type} (a b : Except TextError α) : Prop :=
  a.map (fun _ => ()) = b.map fun _ => ()

theorem SameEnd.one {α β : Type} {a b : Except TextError α} (f g : α → β) (h : SameEnd a b) :
    SameEnd (a >>= fun x => .ok (f x)) (b >>= fun x => .ok (g x)) := by
  cases a <;> cases b <;> simp_all [SameEnd, Except.map, bind, Except.bind]

theorem SameEnd.ok {α : Type} (x y : α) : SameEnd (.ok x) (.ok y) := rfl

theorem compatible_sameEnd : Compatible SameEnd where
  refl _ := rfl
  one f h := h.one f f
  both {α β γ a b c d} f hab hcd := by
    cases a with
    | error e =>
        cases b with
        | error e' =>
            obtain rfl : e = e' := by simpa [SameEnd, Except.map] using hab
            exact rfl
        | ok y => simp [SameEnd, Except.map] at hab
    | ok x =>
        cases b with
        | error e => simp [SameEnd, Except.map] at hab
        | ok y => exact hcd.one (f x) (f y)

section

variable (w : World) (label label' : String) (journal journal' : Array Remark)

theorem sameEnd_template (fuel : Nat) (inside : List Nat) (address : Nat) (quoted : Bool)
    (hshown : ∀ v, SameEnd ((w.named label journal).textWithin fuel inside true v)
      ((w.named label' journal').textWithin fuel inside true v)) :
    SameEnd ((w.named label journal).textWithin (fuel + 1) inside quoted (.template address))
      ((w.named label' journal').textWithin (fuel + 1) inside quoted (.template address)) := by
  have hobjects (label : String) (journal : Array Remark) :
      (w.named label journal).objects = w.objects := rfl
  have hlabel (label : String) (journal : Array Remark) :
      (w.named label journal).label = some label := rfl
  simp only [World.textWithin, hobjects, hlabel]
  rcases w.objects[address]? with _ | object
  · exact .ok _ _
  · cases object with
    | template t pattern =>
        -- only a pattern that is no text is shown in its turn
        by_cases htext : ∃ s, pattern = .text s
        · obtain ⟨s, rfl⟩ := htext
          exact .ok _ _
        · have hother : ∀ s, pattern ≠ .text s := fun s hs => htext ⟨s, hs⟩
          simp only
          exact (hshown pattern).one _ _
    | _ => exact .ok _ _

/-- Whether an error can say something does not depend on the name. -/
theorem sameEnd_plainText (c : ErrorClass) (arguments : List Value) (detail : Option Detail) :
    SameEnd ((w.named label journal).plainText c arguments detail)
      ((w.named label' journal').plainText c arguments detail) :=
  compatible_sameEnd.plainText (w := w.named label journal)
    (sameEnd_template w label label' journal journal') c arguments detail

end

end Codeweave.Script
