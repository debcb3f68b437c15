import Codeweave.Proofs.Script.Run

/-!
The way of an error out of a run. On its way it crosses code that is active, which adds its frame,
and segments under evaluation, which may make another error of it.
-/

namespace Codeweave.Script

variable {α : Type}

/-- What an error crosses: code that was active, or the evaluation of the segment at an offset,
which is left in a state. -/
inductive Crossing where
  | frame (frame : Frame)
  | segment (offset : Nat) (left : World)

def Crossing.segment? : Crossing → Option (Nat × World)
  | .frame _ => none
  | .segment offset left => some (offset, left)

/-- The first segment on the way out: of those under evaluation, the innermost. -/
def innermostSegment (path : List Crossing) : Option (Nat × World) :=
  path.findSome? Crossing.segment?

/-- A step of a run stops with an error, which has become the final one on its way out, from where
it is raised over the crossings in between, the innermost first. An error goes past the steps
before and after the one that stops; if its outcome is caught, it can be raised once more, with the
frames it was seen in. -/
inductive Escapes :
    Raised → List Crossing → {α : Type} → World → Run α → Raised → World → Prop where
  | here {α : Type} {w w' : World} {step : Run α} {raised : Raised}
      (hstops : runFrom w step = (.error (.raised raised), w')) : Escapes raised [] w step raised w'
  | first {α β : Type} {w w' : World} {step : Run α} {next : α → Run β} {raised final : Raised}
      {path : List Crossing} (h : Escapes raised path w step final w') :
      Escapes raised path w (step >>= next) final w'
  | next {α β : Type} {w w₁ w' : World} {step : Run α} {a : α} {next : α → Run β}
      {raised final : Raised} {path : List Crossing} (hstep : runFrom w step = (.ok a, w₁))
      (h : Escapes raised path w₁ (next a) final w') :
      Escapes raised path w (step >>= next) final w'
  | caught {α β : Type} {w w₁ w' : World} {step : Run α} {next : Except Stop α → Run β}
      {raised error again final : Raised} {inner outer : List Crossing}
      (h : Escapes raised inner w step error w₁) (hproblem : again.problem = error.problem)
      (hframes : again.frames = error.frames)
      (hagain : Escapes again outer w₁ (next (.error (.raised error))) final w') :
      Escapes raised (inner ++ outer) w (outcome step >>= next) final w'
  | frame {α : Type} {w w' : World} {step : Run α} {raised error : Raised} {path : List Crossing}
      (frame : Frame) (h : Escapes raised path w step error w') :
      Escapes raised (path ++ [.frame frame]) w (withFrame frame step)
        { error with frames := error.frames ++ [frame] } w'
  | segment {α : Type} {w w₁ w' : World} {step : Run α} {raised error final : Raised}
      {path : List Crossing} (offset : Nat) (h : Escapes raised path w step error w₁)
      (hleaves : runFrom w (asParameter offset step) = (.error (.raised final), w')) :
      Escapes raised (path ++ [.segment offset w₁]) w (asParameter offset step) final w'

theorem runFrom_withFrame_of_error {w w' : World} {step : Run α} {error : Raised} (frame : Frame)
    (hstops : runFrom w step = (.error (.raised error), w')) :
    runFrom w (withFrame frame step) =
      (.error (.raised { error with frames := error.frames ++ [frame] }), w') := by
  rw [withFrame, runFrom_tryCatch, hstops]
  rfl

theorem Escapes.stops {w w' : World} {step : Run α} {raised final : Raised} {path : List Crossing}
    (h : Escapes raised path w step final w') :
    runFrom w step = (.error (.raised final), w') := by
  induction h with
  | here hstops => exact hstops
  | first _ ih => rw [runFrom_bind, ih]
  | next hstep _ ih =>
      rw [runFrom_bind, hstep]
      exact ih
  | caught _ _ _ _ ih ihagain =>
      rw [runFrom_bind, runFrom_outcome, ih]
      exact ihagain
  | frame frame _ ih => exact runFrom_withFrame_of_error frame ih
  | segment _ _ hleaves _ => exact hleaves

theorem innermostSegment_append (inner outer : List Crossing) :
    innermostSegment (inner ++ outer) =
      (innermostSegment inner).or (innermostSegment outer) :=
  List.findSome?_append

/-! ### Ways through calls and templates -/

def Closure.inside (f : Closure) (space : Nat) : Env :=
  { f.env with
    scopes := f.scope space :: f.env.scopes
    qualifier := f.qualifiedName ++ ".<locals>." }

theorem callFunction_eq (m : Machine) (f : Closure) (args : Arguments) :
    callFunction m f args = (do
      let names ← f.signature.bind args
      if f.body.produces then giveUp
      else
        deeper 1 do
          let space ← newSpace names
          match f.body with
          | .value e => m.evaluate (f.inside space) e
          | .block _ program => do
            match ← m.execute (f.inside space) program with
            | .giveBack v => pure v
            | _ => pure .none) := rfl

namespace Escapes

variable {w w₁ w' : World} {raised final : Raised} {path : List Crossing} {m : Machine}

theorem deeper {levels : Nat} {step : Run α} (hroom : w.depth + levels ≤ maxDepth)
    (h : Escapes raised path { w with depth := w.depth + levels } step final w') :
    Escapes raised path w (deeper levels step) final { w' with depth := w.depth } := by
  -- the depth is put back before the error goes on, so its outcome is caught and raised again
  have hcaught : Escapes raised (path ++ []) { w with depth := w.depth + levels }
      (outcome step >>= fun result => do
        modify fun v => { v with depth := w.depth }
        resume result) final { w' with depth := w.depth } :=
    h.caught rfl rfl (.next rfl (.here rfl))
  rw [List.append_nil] at hcaught
  refine .next rfl ?_
  rw [if_neg (Nat.not_lt.mpr hroom)]
  exact .next rfl hcaught

/-- What escapes from a function that is called without arguments escapes from the call. -/
theorem call {env : Env} {line : Nat} {callee : Expr} {f : Value}
    (hcallee : runFrom w (m.evaluate env callee) = (.ok f, w₁)) (hglobals : f ≠ .builtin .globals)
    (h : Escapes raised path w₁ (m.call f {}) final w') :
    Escapes raised (path ++ [.frame (env.frame line)]) w (evaluateCall m env line callee [])
      { final with frames := final.frames ++ [env.frame line] } w' := by
  refine .next hcallee (.next rfl (.frame _ ?_))
  unfold callHere
  split
  · exact absurd rfl hglobals
  · exact h

/-- What escapes from an expression in a function escapes from the function. -/
theorem body {f : Closure} {args : Arguments} {names : Names} {e : Expr} (hbody : f.body = .value e)
    (hproduces : f.body.produces = false)
    (hnames : runFrom w (f.signature.bind args) = (.ok names, w)) (hroom : w.depth + 1 ≤ maxDepth)
    (h : Escapes raised path { w with depth := w.depth + 1, spaces := w.spaces.push names }
      (m.evaluate (f.inside w.spaces.size) e) final w') :
    Escapes raised path w (callFunction m f args) final { w' with depth := w.depth } := by
  rw [callFunction_eq]
  refine .next hnames ?_
  rw [hproduces]
  refine .deeper hroom (.next rfl ?_)
  simp only [hbody]
  exact h

theorem render {t : Template} {context scope : Names} (before after : List Segment) {s : Segment}
    (hsegments : t.segments = before ++ s :: after)
    (hbefore : runFrom { w with spaces := w.spaces.push (.bindAll scope context) }
      (before.forM (renderSegment m { inSegment := true, globals := w.spaces.size })) =
        (.ok (), w₁))
    (h : Escapes raised path w₁ (renderSegment m { inSegment := true, globals := w.spaces.size } s)
      final w') :
    Escapes raised path w (render m t context scope) final w' := by
  refine .next rfl ?_
  rw [hsegments, List.forM_eq_forM, List.forM_append]
  refine .next hbefore ?_
  rw [List.forM_cons]
  exact .first h

theorem template (address : Nat) (args : Arguments)
    (h : Escapes raised path w (Script.render m (w.templateAt address)
      (.bindAll [("args", .varargs args.positional)] args.named) (w.names w.home)) final w') :
    Escapes raised (path ++ [.frame .host]) w (callTemplate m address args)
      { final with frames := final.frames ++ [.host] } w' :=
  .frame .host (.next rfl h)

end Escapes

end Codeweave.Script
