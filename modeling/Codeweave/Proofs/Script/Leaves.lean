import Codeweave.Proofs.Script.Writing
import Mathlib.Logic.Function.Iterate

/-!
Leaves of nested sequences. A value is emitted as the leaves are that its sequences hold, one after
the other, each within as many calls as it is nested deep. The items of a list are those that it has
when their turn comes, so the leaves are told by the run that meets them.
-/

namespace Codeweave.Script

/-! ### Steps within calls -/

section

variable {α β : Type}

theorem deeper_deeper (k l : Nat) (step : Run α) :
    deeper k (deeper l step) = deeper (k + l) step := by
  refine run_ext fun w => ?_
  simp only [runFrom_deeper]
  by_cases hk : w.depth + k > maxDepth
  · rw [if_pos hk, if_pos (by omega)]
  · rw [if_neg hk]
    by_cases hkl : w.depth + k + l > maxDepth
    · rw [if_pos hkl, if_pos (by omega)]
    · rw [if_neg hkl, if_neg (by omega), Nat.add_assoc]

theorem iterate_deeper (k : Nat) (step : Run α) :
    (deeper 1)^[k + 1] step = deeper (k + 1) step := by
  induction k with
  | zero => rfl
  | succ k ih => rw [Function.iterate_succ_apply', ih, deeper_deeper, Nat.add_comm]

/-- Calls that begin with a call end it before they go on. -/
theorem iterate_deeper_bind (k : Nat) (step : Run α) (next : α → Run β) :
    (deeper 1)^[k] (deeper 1 step >>= next) =
      (deeper 1)^[k + 1] step >>= fun a => (deeper 1)^[k] (next a) := by
  cases k with
  | zero => rfl
  | succ k =>
      refine run_ext fun w => ?_
      simp only [iterate_deeper, runFrom_bind, runFrom_deeper]
      by_cases hk : w.depth + (k + 1) > maxDepth
      · rw [if_pos hk, if_pos (by omega)]
      · rw [if_neg hk]
        by_cases hkl : w.depth + (k + 1) + 1 > maxDepth
        · rw [if_pos hkl, if_pos (by omega)]
        · rw [if_neg hkl, if_neg (by omega), Nat.add_assoc]
          rcases runFrom { w with depth := w.depth + (k + 1 + 1) } step with ⟨stop | a, w'⟩
          · rfl
          · simp only [if_neg hk]

/-- What a step does within calls is settled by what it does at that depth. -/
theorem iterate_deeper_congr {w : World} {k : Nat} {step other : Run α}
    (h : runFrom { w with depth := w.depth + k } step =
      runFrom { w with depth := w.depth + k } other) :
    runFrom w ((deeper 1)^[k] step) = runFrom w ((deeper 1)^[k] other) := by
  cases k with
  | zero => exact h
  | succ k =>
      rw [iterate_deeper, iterate_deeper, runFrom_deeper, runFrom_deeper, h]

theorem iterate_deeper_of_gt {w : World} {k : Nat} (h : w.depth + (k + 1) > maxDepth)
    (step : Run α) : runFrom w ((deeper 1)^[k + 1] step) = (.error depthStop, w) := by
  rw [iterate_deeper, runFrom_deeper, if_pos h]

theorem room_of_iterate_deeper {w w' : World} {k : Nat} {step : Run α} {a : α}
    (h : runFrom w ((deeper 1)^[k + 1] step) = (.ok a, w')) :
    w'.depth = w.depth ∧ w.depth + (k + 1) ≤ maxDepth := by
  rw [iterate_deeper, runFrom_deeper] at h
  split at h
  · simp at h
  · refine ⟨?_, by omega⟩
    rw [← (Prod.mk.inj h).2]

/-- With room for the calls, a step that leaves the state alone has its own outcome. -/
theorem iterate_deeper_resume {w : World} {k : Nat} (hroom : w.depth + k ≤ maxDepth)
    (result : Except Stop α) : runFrom w ((deeper 1)^[k] (resume result)) = (result, w) := by
  cases k with
  | zero => exact runFrom_resume w result
  | succ k => rw [iterate_deeper, runFrom_deeper, if_neg (by omega), runFrom_resume]

end

/-! ### Leaves -/

/-- A value in nested sequences, and in how many. -/
structure Leaf where
  depth : Nat
  value : Value

def Leaf.emit (n : Nat) (leaf : Leaf) : Run Unit :=
  (deeper 1)^[leaf.depth] ((Machine.upTo (n - leaf.depth)).emit leaf.value)

def emitLeaves (n : Nat) (leaves : List Leaf) : Run Unit :=
  leaves.forM (Leaf.emit n)

/-- An empty sequence counts as a leaf without a value. -/
def orNone (depth : Nat) : List Leaf → List Leaf
  | [] => [⟨depth, .none⟩]
  | leaf :: rest => leaf :: rest

theorem orNone_ne_nil (depth : Nat) (leaves : List Leaf) : orNone depth leaves ≠ [] := by
  cases leaves <;> simp [orNone]

theorem orNone_of_ne_nil {depth : Nat} {leaves : List Leaf} (h : leaves ≠ []) :
    orNone depth leaves = leaves := by
  cases leaves with
  | nil => exact absurd rfl h
  | cons leaf rest => rfl

theorem emitLeaves_append (n : Nat) (first rest : List Leaf) :
    emitLeaves n (first ++ rest) = emitLeaves n first >>= fun _ => emitLeaves n rest := by
  simp only [emitLeaves, List.forM_eq_forM, List.forM_append]

theorem emitLeaves_singleton (n : Nat) (leaf : Leaf) : emitLeaves n [leaf] = leaf.emit n := by
  simp [emitLeaves, List.forM_eq_forM]

theorem emitLeaves_cons (n : Nat) (leaf : Leaf) (rest : List Leaf) :
    emitLeaves n (leaf :: rest) = leaf.emit n >>= fun _ => emitLeaves n rest := by
  rw [← List.singleton_append, emitLeaves_append, emitLeaves_singleton]

def World.sequence? (w : World) : Value → Option (List Value)
  | .tuple items | .varargs items => some items
  | .list address => some (w.listItems address)
  | _ => none

/-- What is emitted next: a value, or what is left of a sequence. -/
inductive Ahead where
  | value (v : Value)
  | items (rest : List Value)
  | list (address rounds position : Nat)

/-- What is ahead when a machine opens a value that is a sequence. -/
def Machine.opened? (m : Machine) : Value → Option Ahead
  | .tuple items | .varargs items => some (.items items)
  | .list address => some (.list address m.rounds 0)
  | _ => none

/-- Emits what is ahead of a value, or of a sequence, that is nested so deep. -/
def Ahead.emit (n depth : Nat) : Ahead → Run Unit
  | .value v => (deeper 1)^[depth] ((Machine.upTo (n - depth)).emit v)
  | .items rest =>
      (deeper 1)^[depth] (rest.forM fun v => deeper 1 ((Machine.upTo (n - (depth + 1))).emit v))
  | .list address rounds position =>
      (deeper 1)^[depth] (emitList (Machine.upTo (n - (depth + 1))) address rounds position)

/-- The leaves that are met when each is emitted before the next is looked for. A value that stands
too deep is met as it is. -/
inductive Meets (n : Nat) : World → Nat → Ahead → List Leaf → Prop
  | leaf {w : World} {depth : Nat} {v : Value}
      (hleaf : w.sequence? v = none ∨ w.depth + depth > maxDepth) :
      Meets n w depth (.value v) [⟨depth, v⟩]
  | sequence {w : World} {depth : Nat} {v : Value} {ahead : Ahead} {leaves : List Leaf}
      (hdepth : depth < n) (hopened : (Machine.upTo (n - (depth + 1))).opened? v = some ahead)
      (hahead : Meets n w depth ahead leaves) : Meets n w depth (.value v) (orNone depth leaves)
  | noItems {w : World} {depth : Nat} : Meets n w depth (.items []) []
  | item {w : World} {depth : Nat} {v : Value} {items : List Value} {first rest : List Leaf}
      (hfirst : Meets n w (depth + 1) (.value v) first)
      (hrest : ∀ w', runFrom w (emitLeaves n first) = (.ok (), w') →
        Meets n w' depth (.items items) rest) :
      Meets n w depth (.items (v :: items)) (first ++ rest)
  | listEnd {w : World} {depth address rounds position : Nat}
      (hend : (w.listArray address)[position]? = none) :
      Meets n w depth (.list address (rounds + 1) position) []
  | listItem {w : World} {depth address rounds position : Nat} {v : Value}
      {first rest : List Leaf} (hitem : (w.listArray address)[position]? = some v)
      (hfirst : Meets n w (depth + 1) (.value v) first)
      (hrest : ∀ w', runFrom w (emitLeaves n first) = (.ok (), w') →
        Meets n w' depth (.list address rounds (position + 1)) rest) :
      Meets n w depth (.list address (rounds + 1) position) (first ++ rest)

theorem Meets.ne_nil {n : Nat} {w : World} {depth : Nat} {v : Value} {leaves : List Leaf}
    (h : Meets n w depth (.value v) leaves) : leaves ≠ [] := by
  cases h with
  | leaf hleaf => simp
  | sequence hdepth hopened hahead => exact orNone_ne_nil _ _

/-! ### Steps of an emission -/

section

variable {n depth : Nat}

theorem emit_none (h : depth < n) : Leaf.emit n ⟨depth, .none⟩ = (deeper 1)^[depth] (pure ()) := by
  obtain ⟨k, rfl⟩ := Nat.exists_eq_add_of_lt h
  rw [Leaf.emit, show depth + k + 1 - depth = k + 1 by omega]
  rfl

theorem emit_opened (h : depth < n) {v : Value} {ahead : Ahead}
    (hopened : (Machine.upTo (n - (depth + 1))).opened? v = some ahead) :
    Ahead.emit n depth (.value v) = ahead.emit n depth := by
  obtain ⟨k, rfl⟩ := Nat.exists_eq_add_of_lt h
  have hrest : depth + k + 1 - (depth + 1) = k := by omega
  rw [hrest] at hopened
  rw [Ahead.emit, show depth + k + 1 - depth = k + 1 by omega]
  cases v with
  | tuple items | varargs items =>
      cases hopened
      rw [Ahead.emit, hrest]
      rfl
  | list address =>
      cases hopened
      rw [Ahead.emit, hrest]
      rfl
  | _ => simp [Machine.opened?] at hopened

theorem emit_noItems : Ahead.emit n depth (.items []) = (deeper 1)^[depth] (pure ()) := rfl

theorem emit_item (v : Value) (items : List Value) :
    Ahead.emit n depth (.items (v :: items)) =
      Ahead.emit n (depth + 1) (.value v) >>= fun _ => Ahead.emit n depth (.items items) :=
  iterate_deeper_bind depth _ _

theorem runFrom_emit_list (w : World) (address rounds position : Nat) :
    runFrom w (Ahead.emit n depth (.list address (rounds + 1) position)) =
      match (w.listArray address)[position]? with
      | some v => runFrom w (Ahead.emit n (depth + 1) (.value v) >>= fun _ =>
          Ahead.emit n depth (.list address rounds (position + 1)))
      | none => runFrom w ((deeper 1)^[depth] (pure ())) := by
  -- going deeper leaves the lists as they are
  have hread : runFrom w (Ahead.emit n depth (.list address (rounds + 1) position)) =
      runFrom w ((deeper 1)^[depth] (match (w.listArray address)[position]? with
        | some v => do
          deeper 1 ((Machine.upTo (n - (depth + 1))).emit v)
          emitList (Machine.upTo (n - (depth + 1))) address rounds (position + 1)
        | none => pure ())) := by
    refine iterate_deeper_congr ?_
    rw [emitList, runFrom_bind, runFrom_get]
    rfl
  rw [hread]
  cases (w.listArray address)[position]? with
  | none => rfl
  | some v =>
      simp only
      rw [iterate_deeper_bind]
      rfl

end

/-! ### Emission by leaves -/

/-- A value, or what is ahead of a sequence, is emitted as the leaves are that are met. -/
theorem Meets.emit_eq {n : Nat} {w : World} {depth : Nat} {ahead : Ahead} {leaves : List Leaf}
    (h : Meets n w depth ahead leaves) (hdepth : (∃ v, ahead = .value v) ∨ depth < n) :
    runFrom w (ahead.emit n depth) = runFrom w (emitLeaves n (orNone depth leaves)) := by
  -- where the first leaves are followed by others, there is room for what is left of the sequence
  have hnext : ∀ {w : World} {depth : Nat} {v : Value} {next : Ahead} {first rest : List Leaf},
      Meets n w (depth + 1) (.value v) first →
      runFrom w (Ahead.emit n (depth + 1) (.value v)) = runFrom w (emitLeaves n first) →
      depth < n →
      (∀ w', runFrom w (emitLeaves n first) = (.ok (), w') →
        runFrom w' (next.emit n depth) = runFrom w' (emitLeaves n (orNone depth rest))) →
      runFrom w (Ahead.emit n (depth + 1) (.value v) >>= fun _ => next.emit n depth) =
        runFrom w (emitLeaves n (orNone depth (first ++ rest))) := by
    intro w depth v next first rest hmeets hfirst hlt hrest
    have hne : first ++ rest ≠ [] := by simp [hmeets.ne_nil]
    rw [orNone_of_ne_nil hne, emitLeaves_append, runFrom_bind, runFrom_bind, hfirst]
    rcases hrun : runFrom w (emitLeaves n first) with ⟨stop | _, w'⟩
    · rfl
    · simp only
      rw [hrest w' hrun]
      cases rest with
      | nil =>
          rw [hrun] at hfirst
          obtain ⟨hsame, hroom⟩ := room_of_iterate_deeper hfirst
          rw [orNone, emitLeaves_singleton, emit_none hlt]
          exact iterate_deeper_resume (by omega) (.ok ())
      | cons leaf rest => rfl
  induction h with
  | leaf hleaf => rw [orNone, emitLeaves_singleton]; rfl
  | sequence hlt hopened hahead ih =>
      rw [orNone_of_ne_nil (orNone_ne_nil _ _), emit_opened hlt hopened, ih (.inr hlt)]
  | noItems =>
      obtain ⟨v, hv⟩ | hlt := hdepth
      · cases hv
      · rw [orNone, emitLeaves_singleton, emit_none hlt, emit_noItems]
  | item hfirst hrest ihfirst ihrest =>
      obtain ⟨v, hv⟩ | hlt := hdepth
      · cases hv
      · rw [emit_item]
        refine hnext hfirst ?_ hlt fun w' hrun => ihrest w' hrun (.inr hlt)
        rw [ihfirst (.inl ⟨_, rfl⟩), orNone_of_ne_nil hfirst.ne_nil]
  | listEnd hend =>
      obtain ⟨v, hv⟩ | hlt := hdepth
      · cases hv
      · rw [orNone, emitLeaves_singleton, emit_none hlt, runFrom_emit_list, hend]
  | listItem hitem hfirst hrest ihfirst ihrest =>
      obtain ⟨v, hv⟩ | hlt := hdepth
      · cases hv
      · rw [runFrom_emit_list, hitem]
        refine hnext hfirst ?_ hlt fun w' hrun => ihrest w' hrun (.inr hlt)
        rw [ihfirst (.inl ⟨_, rfl⟩), orNone_of_ne_nil hfirst.ne_nil]

theorem Meets.emit_value {n : Nat} {w : World} {v : Value} {depth : Nat} {leaves : List Leaf}
    (h : Meets n w depth (.value v) leaves) :
    runFrom w (Ahead.emit n depth (.value v)) = runFrom w (emitLeaves n leaves) := by
  rw [h.emit_eq (.inl ⟨v, rfl⟩), orNone_of_ne_nil h.ne_nil]

/-! ### Every emission meets leaves -/

/-- The run is given up before it comes to an end. -/
def GivesUp {α : Type} (w : World) (step : Run α) : Prop :=
  (runFrom w step).1 = .error .abandoned

theorem GivesUp.bind {α β : Type} {w : World} {step : Run α} (h : GivesUp w step)
    (next : α → Run β) : GivesUp w (step >>= next) := by
  rw [GivesUp, runFrom_bind]
  rcases hrun : runFrom w step with ⟨stop | a, w'⟩ <;> rw [GivesUp, hrun] at h
  · simpa using h
  · cases h

theorem GivesUp.of_next {α β : Type} {w w' : World} {step : Run α} {next : α → Run β} {a : α}
    (hrun : runFrom w step = (.ok a, w')) (h : GivesUp w' (next a)) :
    GivesUp w (step >>= next) := by
  rw [GivesUp, runFrom_bind, hrun]
  exact h

section

variable {n depth : Nat} {w : World}

/-- What is ahead after a value meets leaves if what follows does. -/
theorem exists_meets_next {v : Value} {next : Ahead}
    (hfirst : GivesUp w (Ahead.emit n (depth + 1) (.value v)) ∨
      ∃ first, Meets n w (depth + 1) (.value v) first)
    (hnext : ∀ w', w'.depth = w.depth →
      GivesUp w' (next.emit n depth) ∨ ∃ rest, Meets n w' depth next rest) :
    GivesUp w (Ahead.emit n (depth + 1) (.value v) >>= fun _ => next.emit n depth) ∨
      ∃ first rest, Meets n w (depth + 1) (.value v) first ∧
        ∀ w', runFrom w (emitLeaves n first) = (.ok (), w') → Meets n w' depth next rest := by
  rcases hfirst with hgives | ⟨first, hfirst⟩
  · exact .inl (hgives.bind _)
  · rcases hrun : runFrom w (emitLeaves n first) with ⟨stop | _, w₁⟩
    · refine .inr ⟨first, [], hfirst, fun w' h => ?_⟩
      rw [hrun] at h
      simp at h
    · have hvalue := hfirst.emit_value.trans hrun
      rcases hnext w₁ (room_of_iterate_deeper hvalue).1 with hgives | ⟨rest, hrest⟩
      · exact .inl (.of_next hvalue hgives)
      · refine .inr ⟨first, rest, hfirst, fun w' h => ?_⟩
        rw [hrun] at h
        rwa [← (Prod.mk.inj h).2]

section

variable
  (hvalue : ∀ w v, GivesUp w (Ahead.emit n (depth + 1) (.value v)) ∨
    ∃ leaves, Meets n w (depth + 1) (.value v) leaves)

include hvalue

theorem exists_meets_items (items : List Value) :
    GivesUp w (Ahead.emit n depth (.items items)) ∨
      ∃ leaves, Meets n w depth (.items items) leaves := by
  induction items generalizing w with
  | nil => exact .inr ⟨[], .noItems⟩
  | cons v items ih =>
      rcases exists_meets_next (hvalue w v) fun _ _ => ih with hgives | ⟨first, rest, hfirst, hrest⟩
      · rw [← emit_item] at hgives
        exact .inl hgives
      · exact .inr ⟨first ++ rest, .item hfirst hrest⟩

theorem exists_meets_list (hroom : w.depth + depth ≤ maxDepth) (address rounds position : Nat) :
    GivesUp w (Ahead.emit n depth (.list address rounds position)) ∨
      ∃ leaves, Meets n w depth (.list address rounds position) leaves := by
  induction rounds generalizing w position with
  | zero =>
      left
      rw [GivesUp, Ahead.emit, emitList]
      exact congrArg Prod.fst (iterate_deeper_resume hroom (.error .abandoned))
  | succ rounds ih =>
      cases hitem : (w.listArray address)[position]? with
      | none => exact .inr ⟨[], .listEnd hitem⟩
      | some v =>
          have hnext : ∀ w' : World, w'.depth = w.depth →
              GivesUp w' (Ahead.emit n depth (.list address rounds (position + 1))) ∨
                ∃ rest, Meets n w' depth (.list address rounds (position + 1)) rest :=
            fun w' hsame => ih (by omega) (position + 1)
          rcases exists_meets_next (hvalue w v) hnext with hgives | ⟨first, rest, hfirst, hrest⟩
          · left
            rw [GivesUp, runFrom_emit_list, hitem]
            exact hgives
          · exact .inr ⟨first ++ rest, .listItem hitem hfirst hrest⟩

end

theorem exists_meets (v : Value) (hdepth : depth ≤ n) :
    GivesUp w (Ahead.emit n depth (.value v)) ∨
      ∃ leaves, Meets n w depth (.value v) leaves := by
  -- the induction is on how much deeper the value is followed
  obtain ⟨k, rfl⟩ := Nat.exists_eq_add_of_le hdepth
  induction k generalizing depth w v with
  | zero =>
      by_cases hroom : w.depth + depth > maxDepth
      · exact .inr ⟨_, .leaf (.inr hroom)⟩
      · left
        rw [GivesUp, Ahead.emit, show depth + 0 - depth = 0 by omega]
        exact congrArg Prod.fst (iterate_deeper_resume (by omega) (.error .abandoned))
  | succ k ih =>
      by_cases hroom : w.depth + depth > maxDepth
      · exact .inr ⟨_, .leaf (.inr hroom)⟩
      · have hlt : depth < depth + (k + 1) := by omega
        have hvalue : ∀ w v, GivesUp w (Ahead.emit (depth + (k + 1)) (depth + 1) (.value v)) ∨
            ∃ leaves, Meets (depth + (k + 1)) w (depth + 1) (.value v) leaves := by
          intro w v
          rw [show depth + (k + 1) = depth + 1 + k by omega]
          exact ih v (by omega)
        cases hopened : (Machine.upTo (depth + (k + 1) - (depth + 1))).opened? v with
        | none =>
            refine .inr ⟨_, .leaf (.inl ?_)⟩
            cases v <;> first | rfl | simp [Machine.opened?] at hopened
        | some ahead =>
            have hahead : GivesUp w (ahead.emit (depth + (k + 1)) depth) ∨
                ∃ leaves, Meets (depth + (k + 1)) w depth ahead leaves := by
              cases v <;>
                simp only [Machine.opened?, Option.some.injEq, reduceCtorEq] at hopened <;>
                subst hopened
              · exact exists_meets_items hvalue _
              · exact exists_meets_items hvalue _
              · exact exists_meets_list hvalue (by omega) ..
            rcases hahead with hgives | ⟨leaves, hleaves⟩
            · left
              rw [GivesUp, emit_opened hlt hopened]
              exact hgives
            · exact .inr ⟨_, .sequence hlt hopened hleaves⟩

end

end Codeweave.Script
