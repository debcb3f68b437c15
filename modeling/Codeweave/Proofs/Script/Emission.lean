import Codeweave.Proofs.Script.Leaves
import Codeweave.Proofs.Script.Output

/-!
Emission of values whose leaves are there beforehand. As long as the leaves leave the lists of a
value alone, those are met that it had before; and if all have a text, that is written at once. A
sequence that nests deeper than calls can be is not emitted.
-/

namespace Codeweave.Script

/-- The leaves of a value in the sequences as they are. There are none if the value nests deeper,
or a sequence is longer, than it is followed. -/
def World.leavesWithin (w : World) : Nat → Nat → Value → Option (List Leaf)
  | 0, _, _ => none
  | fuel + 1, depth, v =>
    match w.sequence? v with
    | none => some [⟨depth, v⟩]
    | some items =>
      if items.length + 1 < fuel then
        (items.mapM (w.leavesWithin fuel (depth + 1))).map fun leaves => orNone depth leaves.flatten
      else none

/-! ### Leaves that are there beforehand -/

/-- A value, and what its sequences hold. -/
inductive World.Part (w : World) (v : Value) : Value → Prop
  | self : w.Part v v
  | item {whole x : Value} {items : List Value} (hwhole : w.Part v whole)
      (hitems : w.sequence? whole = some items) (hmem : x ∈ items) : w.Part v x

/-- The lists that a value is made of are as they were. -/
def World.KeepsLists (w : World) (v : Value) (w' : World) : Prop :=
  ∀ address, w.Part v (.list address) → w'.listArray address = w.listArray address

/-- Whenever the next leaf is due, and after the last, the state is as told. -/
def Along (n : Nat) (P : World → Prop) : World → List Leaf → Prop
  | w, [] => P w
  | w, leaf :: rest => P w ∧ ∀ w', runFrom w (leaf.emit n) = (.ok (), w') → Along n P w' rest

section

variable {n : Nat} {P : World → Prop} {w : World}

theorem Along.start {leaves : List Leaf} (h : Along n P w leaves) : P w := by
  cases leaves with
  | nil => exact h
  | cons leaf rest => exact h.1

theorem Along.first {first rest : List Leaf} (h : Along n P w (first ++ rest)) :
    Along n P w first := by
  induction first generalizing w with
  | nil => exact h.start
  | cons leaf first ih => exact ⟨h.1, fun w' hrun => ih (h.2 w' hrun)⟩

theorem Along.rest {w' : World} {first rest : List Leaf} (h : Along n P w (first ++ rest))
    (hrun : runFrom w (emitLeaves n first) = (.ok (), w')) : Along n P w' rest := by
  induction first generalizing w with
  | nil =>
      cases hrun
      exact h
  | cons leaf first ih =>
      rw [emitLeaves_cons, runFrom_bind] at hrun
      rcases hleaf : runFrom w (leaf.emit n) with ⟨stop | _, w₁⟩ <;> rw [hleaf] at hrun
      · simp at hrun
      · exact ih (h.2 w₁ hleaf) hrun

theorem Along.of_orNone {depth : Nat} {leaves : List Leaf}
    (h : Along n P w (orNone depth leaves)) : Along n P w leaves := by
  cases leaves with
  | nil => exact h.1
  | cons leaf rest => exact h

end

theorem sequence?_eq_none_iff (w w' : World) (v : Value) :
    w.sequence? v = none ↔ w'.sequence? v = none := by
  cases v <;> simp [World.sequence?]

theorem mapM_cons_eq_some_iff {α β : Type} {f : α → Option β} {x : α} {xs : List α} {ys : List β} :
    (x :: xs).mapM f = some ys ↔
      ∃ first rest, f x = some first ∧ xs.mapM f = some rest ∧ first :: rest = ys := by
  simp [List.mapM_cons, Option.bind_eq_some_iff]

section

variable {n depth k : Nat} {start : World} {v : Value}
  (hvalue : ∀ (w : World) (u : Value) (leaves : List Leaf), start.Part v u →
    start.leavesWithin k (depth + 1) u = some leaves → Along n (start.KeepsLists v) w leaves →
      Meets n w (depth + 1) (.value u) leaves)

include hvalue

theorem meets_items {w : World} {items : List Value} {found : List (List Leaf)}
    (hparts : ∀ x ∈ items, start.Part v x)
    (hfound : items.mapM (start.leavesWithin k (depth + 1)) = some found)
    (halong : Along n (start.KeepsLists v) w found.flatten) :
    Meets n w depth (.items items) found.flatten := by
  induction items generalizing w found with
  | nil =>
      cases hfound
      exact .noItems
  | cons x items ih =>
      obtain ⟨first, rest, hfirst, hrest, rfl⟩ := mapM_cons_eq_some_iff.mp hfound
      rw [List.forall_mem_cons] at hparts
      rw [List.flatten_cons] at halong ⊢
      refine .item (hvalue w x first hparts.1 hfirst halong.first) fun w' hrun => ?_
      exact ih hparts.2 hrest (halong.rest hrun)

theorem meets_list {w : World} {address rounds position : Nat} {items : List Value}
    {found : List (List Leaf)} (hpart : start.Part v (.list address))
    (hitems : (start.listItems address).drop position = items)
    (hfound : items.mapM (start.leavesWithin k (depth + 1)) = some found)
    (hrounds : items.length < rounds)
    (halong : Along n (start.KeepsLists v) w found.flatten) :
    Meets n w depth (.list address rounds position) found.flatten := by
  have hread : ∀ position : Nat, (w.listArray address)[position]? =
      (start.listItems address)[position]? := by
    intro position
    rw [halong.start address hpart, World.listItems, Array.getElem?_toList]
  induction items generalizing w rounds position found with
  | nil =>
      cases hfound
      obtain ⟨rounds, rfl⟩ : ∃ r, rounds = r + 1 := ⟨rounds - 1, by simp at hrounds; omega⟩
      refine .listEnd ?_
      rw [hread]
      exact List.getElem?_eq_none (List.drop_eq_nil_iff.mp hitems)
  | cons x items ih =>
      obtain ⟨first, rest, hfirst, hrest, rfl⟩ := mapM_cons_eq_some_iff.mp hfound
      obtain ⟨rounds, rfl⟩ : ∃ r, rounds = r + 1 := ⟨rounds - 1, by simp at hrounds; omega⟩
      have hitem : (start.listItems address)[position]? = some x := by
        rw [← Nat.add_zero position, ← List.getElem?_drop, hitems]
        rfl
      have hx : start.Part v x :=
        .item hpart rfl (List.mem_of_getElem? hitem)
      rw [List.flatten_cons] at halong ⊢
      refine .listItem ((hread position).trans hitem) (hvalue w x first hx hfirst halong.first)
        fun w' hrun => ?_
      have hnext := halong.rest hrun
      refine ih ?_ hrest (by simpa using hrounds) hnext ?_
      · rw [← List.drop_drop, hitems]
        rfl
      · intro position
        rw [hnext.start address hpart, World.listItems, Array.getElem?_toList]

end

/-- The leaves that are there beforehand are met if the lists of the value stay as they are. -/
theorem meets_of_leavesWithin {n depth k : Nat} {start w : World} {v u : Value}
    {leaves : List Leaf} (hn : n = depth + k) (hpart : start.Part v u)
    (hleaves : start.leavesWithin k depth u = some leaves)
    (halong : Along n (start.KeepsLists v) w leaves) : Meets n w depth (.value u) leaves := by
  induction k generalizing depth u w leaves with
  | zero => simp [World.leavesWithin] at hleaves
  | succ k ih =>
      have hvalue : ∀ (w : World) (u : Value) (leaves : List Leaf), start.Part v u →
          start.leavesWithin k (depth + 1) u = some leaves →
          Along n (start.KeepsLists v) w leaves → Meets n w (depth + 1) (.value u) leaves :=
        fun w u leaves => ih (by omega)
      have hrest : n - (depth + 1) = k := by omega
      rw [World.leavesWithin] at hleaves
      cases hseq : start.sequence? u with
      | none =>
          rw [hseq] at hleaves
          cases hleaves
          exact .leaf (.inl ((sequence?_eq_none_iff start w u).mp hseq))
      | some items =>
          simp only [hseq] at hleaves
          split at hleaves
          · rename_i hlength
            obtain ⟨found, hfound, rfl⟩ := Option.map_eq_some_iff.mp hleaves
            have hahead := halong.of_orNone
            cases u <;> simp only [World.sequence?, Option.some.injEq, reduceCtorEq] at hseq <;>
              subst hseq
            case tuple | varargs =>
              refine .sequence (by omega) rfl (meets_items hvalue ?_ hfound hahead)
              exact fun x hx => .item hpart rfl hx
            case list address =>
              refine .sequence (by omega) rfl (meets_list hvalue hpart rfl hfound ?_ hahead)
              rw [hrest]
              cases k with
              | zero => omega
              | succ k => exact Nat.lt_of_succ_lt_succ hlength
          · simp at hleaves

/-! ### Leaves with texts -/

/-- The text of a leaf that is not called, where there is room for the calls around it. -/
structure Leaf.Writes (w : World) (leaf : Leaf) (text : List Char) : Prop where
  room : w.depth + leaf.depth ≤ maxDepth
  plain : leaf.value.isCallable = false
  outputText : { w with depth := w.depth + leaf.depth }.outputText leaf.value = .ok text

section

variable {w w' : World} (hobjects : w'.objects = w.objects) (hspaces : w'.spaces = w.spaces)
  (hlabel : w'.label = w.label)

include hobjects hspaces hlabel

/-- Texts are made from the store, the names and the name of the run. -/
theorem textWithin_congr (fuel : Nat) (inside : List Nat) (quoted : Bool) (v : Value) :
    w'.textWithin fuel inside quoted v = w.textWithin fuel inside quoted v := by
  induction fuel generalizing inside quoted v with
  | zero => rfl
  | succ fuel ih =>
      have hshow : w'.textWithin fuel = w.textWithin fuel := by
        funext inside quoted v
        exact ih inside quoted v
      cases v <;>
        simp only [World.textWithin, hshow, World.listItems, World.listArray, World.dictEntries,
          World.names, World.problemAt, World.classAt, hobjects, hspaces, hlabel]

theorem outputText_congr (hdepth : w'.depth = w.depth) (v : Value) :
    w'.outputText v = w.outputText v := by
  have hroom : w'.room = w.room := by
    rw [World.room, World.room, hdepth]
  cases v <;>
    simp only [World.outputText, World.written, hroom, textWithin_congr hobjects hspaces hlabel]

end

theorem Leaf.Writes.on {w : World} {leaf : Leaf} {text : List Char} (h : leaf.Writes w text)
    (b : Builder) : leaf.Writes (w.on b) text := by
  have hsame : { w.on b with depth := w.depth + leaf.depth }.outputText leaf.value =
      { w with depth := w.depth + leaf.depth }.outputText leaf.value := by
    apply outputText_congr <;> rfl
  exact ⟨h.room, h.plain, hsame.trans h.outputText⟩

/-- The step concerns the current output and nothing else. -/
def OnOutput {α : Type} (step : Run α) : Prop :=
  ∃ change : Memory → Builder → Except Stop α × Builder, ∀ w,
    runFrom w step = ((change w.memory w.builder).1, w.on (change w.memory w.builder).2)

theorem OnOutput.bind {α β : Type} {step : Run α} {next : α → Run β} (h : OnOutput step)
    (hnext : ∀ a, OnOutput (next a)) : OnOutput (step >>= next) := by
  obtain ⟨change, hchange⟩ := h
  choose changes hchanges using hnext
  refine ⟨fun memory b => match change memory b with
    | (.ok a, b') => changes a memory b'
    | (.error stop, b') => (.error stop, b'), fun w => ?_⟩
  rw [runFrom_bind, hchange]
  rcases hfirst : change w.memory w.builder with ⟨stop | a, b⟩
  · simp only [hfirst]
  · simp only [hfirst]
    exact hchanges a (w.on b)

theorem onOutput_newlineOutput : OnOutput newlineOutput := by
  refine ⟨fun memory b => if Fits memory b.nextLead then (.ok (), b.newline)
    else (.error (leadStop b.nextLead), b.breakOff), fun w => ?_⟩
  rw [runFrom_newlineOutput]
  by_cases hfits : Fits w.memory w.builder.nextLead
  · simp only [if_pos hfits]
  · simp only [if_neg hfits]

theorem onOutput_modifyBuilder (change : Builder → Builder) : OnOutput (modifyBuilder change) :=
  ⟨fun _ b => (.ok (), change b), fun _ => rfl⟩

theorem onOutput_writeOutput (text : List Char) : OnOutput (writeOutput text) := by
  have hrows : ∀ rs : List (List Char), OnOutput (writeRows rs) := by
    intro rs
    induction rs with
    | nil => exact ⟨fun _ b => (.ok (), b), fun _ => rfl⟩
    | cons row rs ih =>
        exact onOutput_newlineOutput.bind fun _ => (onOutput_modifyBuilder _).bind fun _ => ih
  rw [writeOutput]
  split
  · exact ⟨fun _ b => (.ok (), b), fun _ => rfl⟩
  · exact (onOutput_modifyBuilder _).bind fun _ => hrows _

/-- Writing is the same within calls. -/
theorem OnOutput.iterate_deeper {α : Type} {step : Run α} (h : OnOutput step) {w : World} {k : Nat}
    (hroom : w.depth + k ≤ maxDepth) : runFrom w ((deeper 1)^[k] step) = runFrom w step := by
  obtain ⟨change, hchange⟩ := h
  cases k with
  | zero => rfl
  | succ k =>
      rw [Script.iterate_deeper, runFrom_deeper, if_neg (by omega), hchange, hchange]
      rfl

theorem emit_plain {w : World} {v : Value} (hsequence : w.sequence? v = none)
    (hplain : v.isCallable = false) (k : Nat) :
    (Machine.upTo (k + 1)).emit v = (do
      let text ← orRaise ((← get).outputText v)
      writeOutput text) := by
  cases v with
  | none =>
      refine run_ext fun w => ?_
      simp only [runFrom_bind, runFrom_get, World.outputText, orRaise]
      rw [runFrom_pure]
      simp only [writeOutput_nil]
      rfl
  | tuple items | varargs items | list address => simp [World.sequence?] at hsequence
  | function _ | procedure _ | template _ | builtin _ | action _ | method _ _ | errorClass _
  | class_ _ =>
      simp [Value.isCallable] at hplain
  | _ => rfl

section

variable {n : Nat} {w : World}

theorem Leaf.Writes.emit {leaf : Leaf} {text : List Char} (h : leaf.Writes w text)
    (hsequence : w.sequence? leaf.value = none) (hdepth : leaf.depth < n) :
    runFrom w (leaf.emit n) = runFrom w (writeOutput text) := by
  obtain ⟨k, hk⟩ : ∃ k, n - leaf.depth = k + 1 := ⟨n - leaf.depth - 1, by omega⟩
  rw [Leaf.emit, hk, ← (onOutput_writeOutput text).iterate_deeper h.room]
  refine iterate_deeper_congr ?_
  rw [emit_plain hsequence h.plain, runFrom_bind, runFrom_get]
  simp only [h.outputText, orRaise]
  rfl

/-- Leaves with texts write them, and change nothing but the output. -/
theorem emitLeaves_of_writes {leaves : List Leaf} {texts : List (List Char)}
    (hleaves : ∀ leaf ∈ leaves, w.sequence? leaf.value = none ∧ leaf.depth < n)
    (h : List.Forall₂ (Leaf.Writes w) leaves texts) :
    runFrom w (emitLeaves n leaves) = runFrom w (writeOutput texts.flatten) ∧
      ∀ v, Along n (w.KeepsLists v) w leaves := by
  -- the texts are those of the state before the first leaf
  suffices hfrom : ∀ b, runFrom (w.on b) (emitLeaves n leaves) =
      runFrom (w.on b) (writeOutput texts.flatten) ∧
        ∀ v, Along n (w.KeepsLists v) (w.on b) leaves from hfrom w.builder
  induction h with
  | nil =>
      intro b
      refine ⟨?_, fun v address hpart => rfl⟩
      rw [List.flatten_nil, writeOutput_nil]
      rfl
  | @cons leaf text leaves texts hwrites htexts ih =>
      intro b
      rw [List.forall_mem_cons] at hleaves
      obtain ⟨change, hchange⟩ := onOutput_writeOutput text
      have hfirst := ((hwrites.on b).emit hleaves.1.1 hleaves.1.2).trans (hchange (w.on b))
      constructor
      · rw [emitLeaves_cons, List.flatten_cons, writeOutput_append, runFrom_bind, runFrom_bind,
          hfirst, hchange]
        rcases (change (w.on b).memory (w.on b).builder).1 with stop | _
        · rfl
        · exact (ih hleaves.2 _).1
      · intro v
        refine ⟨fun address hpart => rfl, fun w' hrun => ?_⟩
        rw [hfirst] at hrun
        rw [← (Prod.mk.inj hrun).2]
        exact (ih hleaves.2 _).2 v

end

theorem exists_of_mem_mapM {α β : Type} {f : α → Option β} {xs : List α} {ys : List β} {y : β}
    (h : xs.mapM f = some ys) (hy : y ∈ ys) : ∃ x ∈ xs, f x = some y := by
  induction xs generalizing ys with
  | nil =>
      cases h
      simp at hy
  | cons x xs ih =>
      obtain ⟨first, rest, hfirst, hrest, rfl⟩ := mapM_cons_eq_some_iff.mp h
      rcases List.mem_cons.mp hy with rfl | hy
      · exact ⟨x, by simp, hfirst⟩
      · obtain ⟨x', hx', hy⟩ := ih hrest hy
        exact ⟨x', by simp [hx'], hy⟩

theorem World.of_mem_leavesWithin {w : World} {k depth : Nat} {v : Value} {leaves : List Leaf}
    (h : w.leavesWithin k depth v = some leaves) :
    ∀ leaf ∈ leaves, w.sequence? leaf.value = none ∧ leaf.depth < depth + k := by
  induction k generalizing depth v leaves with
  | zero => simp [World.leavesWithin] at h
  | succ k ih =>
      intro leaf hleaf
      rw [World.leavesWithin] at h
      cases hsequence : w.sequence? v with
      | none =>
          simp only [hsequence, Option.some.injEq] at h
          subst h
          obtain rfl := List.mem_singleton.mp hleaf
          exact ⟨hsequence, by simp⟩
      | some items =>
          simp only [hsequence] at h
          split at h
          · obtain ⟨found, hfound, rfl⟩ := Option.map_eq_some_iff.mp h
            by_cases hempty : found.flatten = []
            · rw [hempty, orNone, List.mem_singleton] at hleaf
              subst hleaf
              exact ⟨rfl, by simp⟩
            · rw [orNone_of_ne_nil hempty, List.mem_flatten] at hleaf
              obtain ⟨ls, hls, hleaf⟩ := hleaf
              obtain ⟨x, -, hx⟩ := exists_of_mem_mapM hfound hls
              obtain ⟨hsequence, hdepth⟩ := ih hx leaf hleaf
              exact ⟨hsequence, by omega⟩
          · simp at h

/-- Leaves stop where one of them does, and what they did before stays done. -/
theorem emitLeaves_eq_error_iff {n : Nat} {w w₂ : World} {leaves : List Leaf} {stop : Stop} :
    runFrom w (emitLeaves n leaves) = (.error stop, w₂) ↔
      ∃ before leaf after w₁, leaves = before ++ leaf :: after ∧
        runFrom w (emitLeaves n before) = (.ok (), w₁) ∧
        runFrom w₁ (leaf.emit n) = (.error stop, w₂) := by
  constructor
  · intro h
    induction leaves generalizing w with
    | nil => cases h
    | cons leaf leaves ih =>
        rw [emitLeaves_cons, runFrom_bind] at h
        rcases hleaf : runFrom w (leaf.emit n) with ⟨stop' | _, w'⟩ <;> rw [hleaf] at h
        · exact ⟨[], leaf, leaves, w, rfl, rfl, hleaf.trans h⟩
        · obtain ⟨before, last, after, w₁, rfl, hbefore, hlast⟩ := ih h
          refine ⟨leaf :: before, last, after, w₁, rfl, ?_, hlast⟩
          rw [emitLeaves_cons, runFrom_bind, hleaf]
          exact hbefore
  · rintro ⟨before, leaf, after, w₁, rfl, hbefore, hleaf⟩
    rw [emitLeaves_append, runFrom_bind, hbefore]
    simp only
    rw [emitLeaves_cons, runFrom_bind, hleaf]

/-! ### Emission -/

/-- A value is emitted as its leaves are, one after the other. They are those that are met, and an
emission that is not given up meets some; as long as the lists of the value stay as they are, those
that are there beforehand are met. Leaves that all have a text write it at once. Where a leaf stops,
what was done before it stays done. No value emits nothing, any other value that is neither a
sequence nor called writes its text, and one that is called emits what the call gives. -/
theorem emit_flattens (n : Nat) (w : World) (v : Value) :
    (GivesUp w ((Machine.upTo n).emit v) ∨ ∃ leaves, Meets n w 0 (.value v) leaves) ∧
    (∀ leaves, Meets n w 0 (.value v) leaves →
      runFrom w ((Machine.upTo n).emit v) = runFrom w (emitLeaves n leaves) ∧
        ∀ stop w₂, runFrom w ((Machine.upTo n).emit v) = (.error stop, w₂) ↔
          ∃ before leaf after w₁, leaves = before ++ leaf :: after ∧
            runFrom w (emitLeaves n before) = (.ok (), w₁) ∧
            runFrom w₁ (leaf.emit n) = (.error stop, w₂)) ∧
    (∀ leaves, w.leavesWithin n 0 v = some leaves →
      (Along n (w.KeepsLists v) w leaves → Meets n w 0 (.value v) leaves) ∧
        ∀ texts, List.Forall₂ (Leaf.Writes w) leaves texts →
          runFrom w ((Machine.upTo n).emit v) = runFrom w (writeOutput texts.flatten)) ∧
    (Machine.upTo (n + 1)).emit .none = pure () ∧
    (w.sequence? v = none → v.isCallable = false →
      (Machine.upTo (n + 1)).emit v = (do
        let text ← orRaise ((← get).outputText v)
        writeOutput text)) ∧
    (v.isCallable = true →
      (Machine.upTo (n + 1)).emit v = (do
        let result ← withFrame .host ((Machine.upTo n).call v {})
        deeper 1 ((Machine.upTo n).emit result))) := by
  have hmeets : ∀ {leaves}, w.leavesWithin n 0 v = some leaves →
      Along n (w.KeepsLists v) w leaves → Meets n w 0 (.value v) leaves :=
    fun hleaves => meets_of_leavesWithin (by omega) .self hleaves
  refine ⟨exists_meets v (Nat.zero_le n), ?_, ?_, rfl, ?_, ?_⟩
  · intro leaves hleaves
    have hemit : runFrom w ((Machine.upTo n).emit v) = runFrom w (emitLeaves n leaves) :=
      hleaves.emit_value
    refine ⟨hemit, fun stop w₂ => ?_⟩
    rw [hemit]
    exact emitLeaves_eq_error_iff
  · intro leaves hleaves
    refine ⟨hmeets hleaves, fun texts htexts => ?_⟩
    have hmem := World.of_mem_leavesWithin hleaves
    rw [Nat.zero_add] at hmem
    obtain ⟨hwrites, halong⟩ := emitLeaves_of_writes hmem htexts
    rw [← hwrites]
    exact (hmeets hleaves (halong v)).emit_value
  · intro hsequence hplain
    exact emit_plain hsequence hplain n
  · intro hcallable
    cases v <;> first | rfl | simp [Value.isCallable] at hcallable

/-- A list with a tuple in it beside a truth value, a text, and a type that is called. -/
theorem emit_flattens_nested :
    let w : World :=
      { objects := #[.list #[.text "a", .tuple [.none, .text "b"]]], builder := Builder.fresh 4 }
    let v := Value.varargs [.list 0, .bool true]
    let leaves := [⟨2, .text "a"⟩, ⟨3, .none⟩, ⟨3, .text "b"⟩, ⟨1, .bool true⟩]
    w.leavesWithin 9 0 v = some leaves ∧
      Meets 9 w 0 (.value v) leaves ∧
      runFrom w ((Machine.upTo 9).emit v) = runFrom w (emitLeaves 9 leaves) ∧
      runFrom w ((Machine.upTo 9).emit v) =
        runFrom w (writeOutput ["a".toList, [], "b".toList, "true".toList].flatten) ∧
      (Machine.upTo 2).emit (.text "a") = (do
        let text ← orRaise ((← get).outputText (.text "a"))
        writeOutput text) ∧
      (Machine.upTo 2).emit (.builtin .text) = (do
        let result ← withFrame .host ((Machine.upTo 1).call (.builtin .text) {})
        deeper 1 ((Machine.upTo 1).emit result)) := by
  intro w v leaves
  have hleaves : w.leavesWithin 9 0 v = some leaves := rfl
  have htexts : List.Forall₂ (Leaf.Writes w) leaves
      ["a".toList, [], "b".toList, "true".toList] :=
    .cons ⟨by decide, rfl, rfl⟩ <| .cons ⟨by decide, rfl, rfl⟩ <|
      .cons ⟨by decide, rfl, rfl⟩ <| .cons ⟨by decide, rfl, rfl⟩ .nil
  obtain ⟨-, hmet, hthere, -⟩ := emit_flattens 9 w v
  have hmeets := (hthere leaves hleaves).1
    ((emitLeaves_of_writes (World.of_mem_leavesWithin hleaves) htexts).2 v)
  exact ⟨hleaves, hmeets, (hmet leaves hmeets).1, (hthere leaves hleaves).2 _ htexts,
    (emit_flattens 1 w (.text "a")).2.2.2.2.1 rfl rfl,
    (emit_flattens 1 w (.builtin .text)).2.2.2.2.2 rfl⟩

/-! ### Values that nest too deep -/

def nestedIn : Nat → Value → Value
  | 0, v => v
  | k + 1, v => .tuple [nestedIn k v]

theorem emit_nestedIn (n k : Nat) (v : Value) :
    (Machine.upTo (n + k)).emit (nestedIn k v) = (deeper 1)^[k] ((Machine.upTo n).emit v) := by
  induction k with
  | zero => rfl
  | succ k ih =>
      rw [Function.iterate_succ_apply', ← ih]
      change (do deeper 1 ((Machine.upTo (n + k)).emit (nestedIn k v)); pure ()) = _
      simp

theorem leavesWithin_nestedIn (w : World) (n k depth : Nat) {v : Value}
    (hleaf : w.sequence? v = none) :
    w.leavesWithin (n + 3 + k) depth (nestedIn k v) = some [⟨depth + k, v⟩] := by
  induction k generalizing depth with
  | zero => simp [World.leavesWithin, nestedIn, hleaf]
  | succ k ih =>
      rw [← Nat.add_assoc, World.leavesWithin, nestedIn]
      simp only [World.sequence?]
      rw [if_pos (by simp; omega), List.mapM_cons, ih, Nat.add_right_comm]
      rfl

/-- A leaf on its own is emitted, but not when it is nested deeper than calls can be. -/
theorem not_emit_eq_leaves :
    ¬ ∀ (w : World) (v : Value) (leaves : List Leaf),
      w.leavesWithin patience 0 v = some leaves →
        runFrom w (machine.emit v) =
          runFrom w (leaves.forM fun leaf => machine.emit leaf.value) := by
  intro h
  have hemit := h { builder := Builder.fresh 4 } (nestedIn 990 (.text "a")) _
    (leavesWithin_nestedIn _ 9999007 990 0 rfl)
  rw [machine, show patience = 9999010 + 990 from rfl, emit_nestedIn,
    iterate_deeper_of_gt (by decide)] at hemit
  cases congrArg Prod.fst hemit

end Codeweave.Script
