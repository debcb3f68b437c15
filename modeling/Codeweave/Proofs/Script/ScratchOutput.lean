import Codeweave.Proofs.Script.Framing
import Codeweave.Proofs.Script.Shortening

/-!
Capturing a template. The render is that of a call, done on an output of its own one level deeper.
However it ends, the output that was current before is current again, and all outputs that were
there hold what they held, but those that the render was handed and worked on by their addresses.
-/

namespace Codeweave.Script

/-- The state in which a captured template renders: the output is a fresh one of the same width, and
calls are nested one level deeper. -/
def World.scratch (w : World) : World :=
  { w.capturing with depth := w.depth + 1 }

/-- A later state, back on the output and at the depth of an earlier one. -/
def World.backTo (later w : World) : World :=
  { later.turnTo w.outputs.current with depth := w.depth }

/-! ### Arguments of a template -/

section

variable {title : String} {v : Value}

/-- What a template says about an argument that is named like the template itself. -/
def selfTwice (title : String) : String :=
  title ++ "() got multiple values for argument '" ++ "self" ++ "'"

/-- A template takes all named arguments but `self`. -/
theorem takeNamed_template (given extra named : Names) :
    (templateSignature title).takeNamed given [("self", v)] extra named =
      if named.any (·.1 == "self") then raiseWith .wrongType (selfTwice title)
      else pure ([("self", v)], extra ++ named) := by
  induction named generalizing extra with
  | nil => simp [Signature.takeNamed]
  | cons entry named ih =>
      obtain ⟨name, value⟩ := entry
      rw [Signature.takeNamed]
      by_cases hname : name = "self"
      · subst hname
        simp [templateSignature, Param.name, Param.kind, selfTwice]
      · have htakes : ((templateSignature title).params.any fun p =>
            p.name == name && (p.kind == .regular || p.kind == .keywordOnly)) = false := by
          have hself : ("self" == name) = false := by simpa using fun h => hname h.symm
          simp [templateSignature, Param.name, Param.kind, hself]
        have hrest : (templateSignature title).restNamed?.isSome = true := rfl
        have hany : ((name, value) :: named).any (·.1 == "self") = named.any (·.1 == "self") := by
          simp [hname]
        simp only [htakes, hrest, Bool.false_eq_true, if_false, if_true, hany]
        rw [ih, List.append_assoc, List.singleton_append]

def Arguments.namedObject (args : Arguments) : Object :=
  .dict (args.named.map fun (name, v) => (.text name, v))

theorem checkTemplate_eq (args : Arguments) :
    checkTemplate title v args =
      if args.named.any (·.1 == "self") then raiseWith .wrongType (selfTwice title)
      else allocate args.namedObject >>= fun _ => pure () := by
  have hpositional : (templateSignature title).positional = [.mk 0 "self" .regular none none] := rfl
  rw [checkTemplate, Signature.bind]
  simp only [hpositional, List.zip_cons_cons, List.zip_nil_left, List.map_cons, List.map_nil,
    Param.name, takeNamed_template]
  split
  · rfl
  -- nothing else can be wrong: there is a parameter for the rest of either kind
  · have hrest : ((templateSignature title).params.find? (·.kind == .rest)).isNone = false := rfl
    have hunbound : (["self"].filter fun n => (List.lookup n [("self", v)]).isNone &&
        (List.lookup n (templateSignature title).defaults).isNone) = [] := rfl
    simp only [pure_bind, hrest, hunbound, Bool.and_false, Bool.false_eq_true, if_false]
    rfl

end

/-! ### Captured templates -/

section

variable (m : Machine) (w : World) (address : Nat) (args : Arguments)

/-- Capturing a step is doing it in the scratch state and going back. -/
theorem runFrom_captured_deeper (levels : Nat) (step : Run Unit) :
    runFrom w (captured (deeper (levels + 1) step)) =
      let done := runFrom w.scratch (deeper levels step)
      (done.1.map fun _ => (done.2.outputAt w.outputs.count).content, done.2.backTo w) := by
  have hdepth : w.capturing.depth + (levels + 1) = w.scratch.depth + levels :=
    (Nat.add_right_comm w.depth levels 1).symm ▸ Nat.add_right_comm w.depth 1 levels ▸ rfl
  simp only [runFrom_captured, runFrom_deeper, hdepth]
  split <;> rfl

theorem capture_eq :
    callStep m (.method (.template address) .render) args =
      checkTemplate "BoundTemplate.text" (.template address) args >>= fun _ =>
        captured (deeper 7 (callTemplate m address args)) >>= fun text =>
          pure (.text (String.ofList text)) := rfl

theorem call_eq :
    callStep m (.template address) args =
      checkTemplate "BoundTemplate.__call__" (.template address) args >>= fun _ =>
        deeper 6 (callTemplate m address args) >>= fun _ => pure .none := rfl

/-- Unless it is refused, a captured template is called in the scratch state: it stops where the
call stops, and gives what is then on the scratch output. -/
theorem runFrom_capture (h : args.named.any (·.1 == "self") = false) :
    runFrom w (callStep m (.method (.template address) .render) args) =
      let done := runFrom w.scratch (callStep m (.template address) args)
      (done.1.map fun _ => .text (String.ofList (done.2.outputAt w.outputs.count).content),
        done.2.backTo w) := by
  let taken : World := { w with objects := w.objects.push args.namedObject }
  have htaken : ∀ {α : Type} (title : String) (next : Unit → Run α),
      runFrom w (checkTemplate title (.template address) args >>= next) =
        runFrom taken (next ()) ∧
      runFrom w.scratch (checkTemplate title (.template address) args >>= next) =
        runFrom taken.scratch (next ()) := by
    intro α title next
    rw [checkTemplate_eq, h]
    exact ⟨rfl, rfl⟩
  rw [capture_eq, call_eq, (htaken _ _).1, (htaken _ _).2, runFrom_bind, runFrom_bind,
    runFrom_captured_deeper]
  rcases runFrom taken.scratch (deeper 6 (callTemplate m address args)) with ⟨stop | _, w'⟩ <;> rfl

theorem runFrom_capture_of_self (h : args.named.any (·.1 == "self") = true) :
    runFrom w (callStep m (.method (.template address) .render) args) =
      runFrom w (raiseWith .wrongType (selfTwice "BoundTemplate.text")) := by
  rw [capture_eq, checkTemplate_eq, if_pos h]
  rfl

/-- A capture leaves every output as it was, but those that it reaches by their addresses. -/
theorem exists_untouched_capture [MachineCorresponds framing m m] :
    ∃ reached,
      w.Untouched reached
        (runFrom w (callStep m (.method (.template address) .render) args)).2 := by
  have hrender : Respects framing (deeper 7 (callTemplate m address args)) := inferInstance
  rw [capture_eq, checkTemplate_eq]
  split
  · exact ⟨[], .refl w⟩
  · let taken : World := { w with objects := w.objects.push args.namedObject }
    have htaken : runFrom w (allocate args.namedObject) = (.ok w.objects.size, taken) := rfl
    simp only [bind_assoc, pure_bind]
    rw [runFrom_bind, htaken]
    simp only [state_runFrom_bind_pure]
    obtain ⟨reached, h⟩ := hrender.rel.untouched_captured taken
    exact ⟨reached, ⟨h.current_eq, h.count_le, h.reached_eq⟩, h.same⟩

end

/-- A template that writes on an output that it is handed. -/
def leaking : Template where
  pattern := "\x60b.write(\"leak\")\x60".toList
  segments :=
    [.code "b.write(\"leak\")".toList 1
      (.value (.call 1 (.member 1 (.name 1 "b") "write")
        [.positional (.constant (.text "leak"))]))]

def leakingWorld : World where
  builder := .fresh 4
  objects := #[.template leaking (.text "")]
  spaces := #[startNames]

def leak (m : Machine) : Run Value :=
  callStep m (.method (.template 0) .render) { named := [("b", .output 0)] }

theorem pending_leak :
    (runFrom leakingWorld (leak (.upTo 6))).2.builder.pending = "leak".toList ∧
      ¬ (runFrom leakingWorld (leak (.upTo 6))).1 matches .error .abandoned := by
  decide +kernel

end Codeweave.Script
