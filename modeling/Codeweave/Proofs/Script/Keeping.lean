import Codeweave.Proofs.Script.CorrespondingRun
import Codeweave.Proofs.Script.Redirection

/-!
Steps that change names no more than is allowed. Some name spaces are watched; a step keeps to what
is allowed if it changes their names in an allowed way or not at all, whether it gives a value or
stops. Code that binds names elsewhere keeps to it, as far as its parts do.
-/

namespace Codeweave.Script

/-- Name spaces that are watched, and which changes of their names are allowed. -/
structure Watch where
  spaces : List Nat
  allows : Nat → Names → Names → Bool
  allows_refl : ∀ space names, allows space names names = true
  allows_trans : ∀ space before between after, allows space before between = true →
    allows space between after = true → allows space before after = true

variable {watched : Watch} {α β : Type}

namespace Names

/-- What a name is bound to. -/
def entriesOf (name : String) (names : Names) : Names :=
  names.filter fun (n, _) => n == name

theorem lookup_entriesOf (name : String) (names : Names) :
    (names.entriesOf name).lookup name = names.lookup name := by
  induction names with
  | nil => rfl
  | cons entry rest ih =>
      obtain ⟨n, v⟩ := entry
      by_cases h : n = name
      · simp [entriesOf, h]
      · have hother : (name == n) = false := by simpa using Ne.symm h
        simpa [entriesOf, List.filter_cons, List.lookup_cons, h, hother] using ih

theorem lookup_bind (name other : String) (v : Value) (names : Names) :
    (Names.bind other v names).lookup name =
      if other == name then some v else names.lookup name := by
  induction names with
  | nil =>
      rw [Names.bind, List.lookup_cons, BEq.comm]
      cases other == name <;> rfl
  | cons entry rest ih =>
      obtain ⟨n, x⟩ := entry
      rw [Names.bind]
      split
      · rename_i heq
        rw [List.lookup_cons, List.lookup_cons, eq_of_beq heq, BEq.comm]
        cases other == name <;> rfl
      · rename_i hne
        rw [List.lookup_cons, List.lookup_cons, ih]
        cases hname : name == n with
        | false => rfl
        | true =>
            obtain rfl := eq_of_beq hname
            have hother : (other == name) = false := Bool.eq_false_iff.mpr fun h => hne (BEq.symm h)
            rw [hother]
            rfl

/-- What a name is bound to among names under others: the last thing it is bound to among those
above, else what it is bound to below. -/
theorem lookup_bindAll (name : String) (names more : Names) :
    (Names.bindAll names more).lookup name =
      (more.entriesOf name).foldl (fun _ entry => some entry.2) (names.lookup name) := by
  induction more generalizing names with
  | nil => rfl
  | cons entry rest ih =>
      obtain ⟨n, v⟩ := entry
      have hrest : Names.bindAll names ((n, v) :: rest) =
          Names.bindAll (Names.bind n v names) rest := rfl
      rw [hrest, ih, lookup_bind, entriesOf, entriesOf, List.filter_cons]
      split
      · rw [List.foldl_cons]
      · rfl

end Names

namespace Watch

/-- Is a name of a space bound, after all that is allowed, to what it was bound to before? -/
def Fixes (watched : Watch) (space : Nat) (name : String) : Prop :=
  ∀ before after, watched.allows space before after = true →
    after.entriesOf name = before.entriesOf name

open Classical in
/-- Watches some names of each space: they may not be bound to anything else. -/
noncomputable def fixed (spaces : List Nat) (names : Nat → String → Prop) : Watch where
  spaces := spaces
  allows space before after :=
    decide (∀ name, names space name → after.entriesOf name = before.entriesOf name)
  allows_refl _ _ := decide_eq_true fun _ _ => rfl
  allows_trans _ _ _ _ h h' := decide_eq_true fun name hname =>
    (of_decide_eq_true h' name hname).trans (of_decide_eq_true h name hname)

open Classical in
theorem fixed_fixes {spaces : List Nat} {names : Nat → String → Prop} {space : Nat} {name : String}
    (hname : names space name) : (fixed spaces names).Fixes space name :=
  fun _ _ hallowed => of_decide_eq_true hallowed name hname

end Watch

/-- The watched name spaces are there. -/
def World.Holds (w : World) (watched : Watch) : Prop :=
  ∀ space ∈ watched.spaces, space < w.spaces.size

instance (w : World) : Decidable (w.Holds watched) :=
  inferInstanceAs (Decidable (∀ space ∈ watched.spaces, space < w.spaces.size))

/-- From the one state to the other, the watched names changed as is allowed. -/
structure World.Allows (w w' : World) (watched : Watch) : Prop where
  size_le : w.spaces.size ≤ w'.spaces.size
  names : ∀ space ∈ watched.spaces, watched.allows space (w.names space) (w'.names space) = true

instance (w w' : World) : Decidable (w.Allows w' watched) :=
  decidable_of_iff
    (w.spaces.size ≤ w'.spaces.size ∧
      ∀ space ∈ watched.spaces, watched.allows space (w.names space) (w'.names space) = true)
    ⟨fun h => ⟨h.1, h.2⟩, fun h => ⟨h.size_le, h.names⟩⟩

/-- The step changes the watched names as is allowed. -/
def Keeps (watched : Watch) (step : Run α) : Prop :=
  ∀ w : World, w.Holds watched → w.Allows (runFrom w step).2 watched

namespace World

theorem Allows.of_spaces_eq {w w' : World} (h : w'.spaces = w.spaces) : w.Allows w' watched where
  size_le := Nat.le_of_eq (by rw [h])
  names space _ := by
    rw [World.names, World.names, h]
    exact watched.allows_refl space _

theorem Allows.trans {w w' w'' : World} (h : w.Allows w' watched) (h' : w'.Allows w'' watched) :
    w.Allows w'' watched where
  size_le := Nat.le_trans h.size_le h'.size_le
  names space hspace :=
    watched.allows_trans space _ _ _ (h.names space hspace) (h'.names space hspace)

theorem Allows.entriesOf_eq {w w' : World} (h : w.Allows w' watched) {space : Nat}
    (hspace : space ∈ watched.spaces) {name : String} (hname : watched.Fixes space name) :
    (w'.names space).entriesOf name = (w.names space).entriesOf name :=
  hname _ _ (h.names space hspace)

theorem Allows.lookup_eq {w w' : World} (h : w.Allows w' watched) {space : Nat}
    (hspace : space ∈ watched.spaces) {name : String} (hname : watched.Fixes space name) :
    (w'.names space).lookup name = (w.names space).lookup name := by
  rw [← Names.lookup_entriesOf, h.entriesOf_eq hspace hname, Names.lookup_entriesOf]

theorem Holds.of_allows {w w' : World} (hholds : w.Holds watched) (h : w.Allows w' watched) :
    w'.Holds watched :=
  fun space hspace => Nat.lt_of_lt_of_le (hholds space hspace) h.size_le

/-- A name space that is made is not watched. -/
theorem Holds.size_not_mem {w : World} (hholds : w.Holds watched) :
    w.spaces.size ∉ watched.spaces :=
  fun h => Nat.lt_irrefl _ (hholds _ h)

theorem Holds.allows_push {w : World} (hholds : w.Holds watched) (names : Names) :
    w.Allows { w with spaces := w.spaces.push names } watched where
  size_le := by simp
  names space hspace := by
    have hsame : (w.spaces.push names)[space]? = w.spaces[space]? := by
      rw [Array.getElem?_push, if_neg (Nat.ne_of_lt (hholds space hspace))]
    rw [World.names, World.names, hsame]
    exact watched.allows_refl space _

end World

namespace Keeps

theorem of_state_eq {step : Run α} (h : ∀ w, (runFrom w step).2.spaces = w.spaces) :
    Keeps watched step :=
  fun w _ => .of_spaces_eq (h w)

theorem bind {step : Run α} {next : α → Run β} (h : Keeps watched step)
    (hnext : ∀ a, Keeps watched (next a)) : Keeps watched (step >>= next) := by
  intro w hholds
  have hfirst := h w hholds
  rw [runFrom_bind]
  rcases hrun : runFrom w step with ⟨stop | a, w'⟩ <;> rw [hrun] at hfirst
  · exact hfirst
  · exact hfirst.trans (hnext a w' (hholds.of_allows hfirst))

theorem outcome {step : Run α} (h : Keeps watched step) : Keeps watched (outcome step) := h

theorem modifyNames {space : Nat} (h : space ∉ watched.spaces) (change : Names → Names) :
    Keeps watched (modifyNames space change) := by
  intro w _
  refine ⟨Nat.le_of_eq Array.size_modify.symm, fun other hother => ?_⟩
  have hne : space ≠ other := fun heq => h (heq ▸ hother)
  have hsame : (w.spaces.modify space change)[other]? = w.spaces[other]? := by
    rw [Array.getElem?_modify, if_neg hne]
  change watched.allows other (w.names other)
    (((w.spaces.modify space change)[other]?).getD []) = true
  rw [hsame]
  exact watched.allows_refl other _

theorem newSpace {names : Names} {next : Nat → Run β}
    (hnext : ∀ space, space ∉ watched.spaces → Keeps watched (next space)) :
    Keeps watched (newSpace names >>= next) := by
  intro w hholds
  have hpush := hholds.allows_push names
  exact hpush.trans (hnext _ hholds.size_not_mem _ (hholds.of_allows hpush))

theorem captured {step : Run Unit} (h : Keeps watched step) : Keeps watched (captured step) := by
  intro w hholds
  rw [runFrom_captured]
  have hkept := h w.capturing hholds
  exact ⟨hkept.size_le, hkept.names⟩

theorem onOutput (address : Nat) {step : Run α} (h : Keeps watched step) :
    Keeps watched (onOutput address step) := by
  intro w hholds
  rw [runFrom_onOutput]
  have hkept := h ((w.reach address).turnTo address) hholds
  exact ⟨hkept.size_le, hkept.names⟩

end Keeps

/-- A step corresponds to itself if it changes the watched names as is allowed. Only in name spaces
that are not watched may names be changed freely. -/
def keeping (watched : Watch) : Correspondence where
  rel step _ := Keeps watched step
  free space := space ∉ watched.spaces
  rounds := (· = ·)
  rounds_zero h := absurd h (Nat.succ_ne_zero _).symm
  rounds_succ := exists_of_succ_eq
  pure _ := .of_state_eq fun _ => rfl
  throw _ := .of_state_eq fun _ => rfl
  bind h hnext := h.bind hnext
  outcome h _ hnext := h.outcome.bind hnext
  read hnext _ := (Keeps.of_state_eq fun _ => rfl).bind hnext
  legible {_ _ text _} _ hnext _ :=
    (Keeps.of_state_eq fun _ => rfl).bind fun w => .bind (.of_state_eq fun w' => by
      rcases text w with (_ | _ | _) | _ <;> rfl) (hnext w)
  giveUp := .of_state_eq fun _ => rfl
  plain a change hrun hkeeps _ _ := .of_state_eq fun w => by rw [hrun, (hkeeps w).2.2.1]
  modifyNames change hspace := .modifyNames hspace change
  newSpace hnext := .newSpace hnext
  captured h := h.captured
  onOutput address _ _ h := h.onOutput address

end Codeweave.Script
