import Codeweave.Proofs.Script.ErrorPath
import Codeweave.Proofs.Script.Shortening

/-!
Undefined names in renders. What becomes of an error about a name is decided where it crosses the
innermost segment under evaluation: if it comes from code of a segment, a parameter is missing from
there on; any other error leaves as it was raised.
-/

namespace Codeweave.Script

/-! ### Names that are missing -/

def Problem.isUndefinedName : Problem → Bool
  | .plain c _ _ => c.isBelow .undefinedName
  | .fault _ _ => false

/-- What a problem says was looked for in vain. -/
def Problem.lookedFor? : Problem → Option Value
  | .plain _ _ (some (.name v)) => some v
  | _ => none

/-- What a problem becomes that is attributed to a segment: a parameter that is missing there, told
by what was looked for or else by what the problem says, or, if this has no text, the error of the
text. -/
def AttributedTo (segment : Nat × World) (problem final : Problem) : Prop :=
  match segment.2.reported problem with
  | .ok (name, text) =>
      ∃ cause, final = .fault { cause := .undefinedParameter text, offset := some segment.1 }
        { cause := some cause, name := some name }
  | .error failure =>
      ∃ error, final = error.problem ∧
        (runFrom segment.2 (orRaise (.error failure) : Run Unit)).1 = .error (.raised error)

theorem exists_runFrom_caughtAt (w : World) (error : Raised) :
    ∃ address w', runFrom w (caughtAt error) = (.ok address, w') := by
  rw [caughtAt]
  cases error.address <;> exact ⟨_, _, rfl⟩

theorem exists_runFrom_orRaise_error (w : World) (failure : TextError) :
    ∃ stop w', ∀ α : Type, runFrom w (orRaise (.error failure) : Run α) = (.error stop, w') := by
  cases failure <;> exact ⟨_, _, fun _ => rfl⟩

theorem runFrom_reportMissing (w : World) (error : Raised) :
    match w.reported error.problem with
    | .ok (name, text) => ∃ cause w', runFrom w (reportMissing error) =
        (.ok (text, { cause := some cause, name := some name }), w')
    | .error failure => ∃ stop w', runFrom w (reportMissing error) = (.error stop, w') ∧
        (runFrom w (orRaise (.error failure) : Run Unit)).1 = .error stop := by
  have hread : runFrom w (do orRaise ((← get).reported error.problem)) =
      runFrom w (orRaise (w.reported error.problem)) := rfl
  rw [reportMissing, runFrom_bind, runFrom_outcome, hread]
  cases w.reported error.problem with
  | ok told =>
      obtain ⟨cause, w', hcaught⟩ := exists_runFrom_caughtAt w error
      refine ⟨cause, w', ?_⟩
      change runFrom w (caughtAt error >>= _) = _
      rw [runFrom_bind, hcaught]
      rfl
  | error failure =>
      obtain ⟨stop, w₁, hstop⟩ := exists_runFrom_orRaise_error w failure
      obtain ⟨cause, w', hcaught⟩ := exists_runFrom_caughtAt w₁ error
      refine ⟨stop, w', ?_, by rw [hstop]⟩
      simp only [hstop]
      rw [runFrom_bind, hcaught]
      rfl

theorem AttributedTo.isUndefinedName_eq {segment : Nat × World} {problem final : Problem}
    (h : AttributedTo segment problem final) : final.isUndefinedName = false := by
  unfold AttributedTo at h
  split at h
  · obtain ⟨cause, rfl⟩ := h
    rfl
  · rename_i failure _
    obtain ⟨error, rfl, hstops⟩ := h
    cases failure <;> cases hstops <;> decide

section

variable {α : Type} {w w' : World} {step : Run α} {raised final : Raised} {path : List Crossing}

theorem isOwnName_eq (error : Raised) :
    error.isOwnName =
      (error.problem.isUndefinedName && error.frames.head? == some .segment) := by
  rcases error with ⟨⟨c, arguments, detail⟩ | ⟨fault, origin⟩, _, _⟩ <;> rfl

/-! ### Segments on the way -/

/-- What the evaluation of a segment does with an error: if it is an undefined name of the segment's
own code, it is reported. -/
theorem runFrom_asParameter {w₁ : World} {error : Raised} (offset : Nat)
    (hstops : runFrom w step = (.error (.raised error), w₁)) :
    runFrom w (asParameter offset step) =
      if error.isOwnName then
        match runFrom w₁ (reportMissing error) with
        | (.ok (name, origin), w₂) =>
            let fault : Fault := { cause := .undefinedParameter name, offset := some offset }
            (.error (.raised { problem := .fault fault origin, frames := [.host] }), w₂)
        | (.error stop, w₂) => (.error stop, w₂)
      else (.error (.raised error), w₁) := by
  rw [asParameter, runFrom_tryCatch, hstops]
  simp only
  split
  · rw [runFrom_bind]
    rcases runFrom w₁ (reportMissing error) with ⟨stop | ⟨name, origin⟩, w₂⟩ <;> rfl
  · rfl

section

variable {w₁ : World} {error : Raised} {offset : Nat}
  (hstops : runFrom w step = (.error (.raised error), w₁))
  (hleaves : runFrom w (asParameter offset step) = (.error (.raised final), w'))

include hstops hleaves

theorem eq_of_asParameter (hown : error.isOwnName = false) : final = error := by
  rw [runFrom_asParameter offset hstops, hown] at hleaves
  cases hleaves
  rfl

theorem attributedTo_of_asParameter (hown : error.isOwnName = true) :
    AttributedTo (offset, w₁) error.problem final.problem := by
  rw [runFrom_asParameter offset hstops, if_pos hown] at hleaves
  have hreported := runFrom_reportMissing w₁ error
  unfold AttributedTo
  cases htold : w₁.reported error.problem with
  | ok told =>
      rw [htold] at hreported
      obtain ⟨cause, w₂, hrun⟩ := hreported
      rw [hrun] at hleaves
      cases hleaves
      exact ⟨cause, rfl⟩
  | error failure =>
      rw [htold] at hreported
      obtain ⟨stop, w₂, hrun, hstop⟩ := hreported
      rw [hrun] at hleaves
      cases hleaves
      exact ⟨final, rfl, hstop⟩

end

/-! ### What becomes of an error -/

theorem Escapes.problem_eq (h : Escapes raised path w step final w')
    (hother : raised.problem.isUndefinedName = false) : final.problem = raised.problem := by
  induction h with
  | here _ => rfl
  | first _ ih => exact ih hother
  | next _ _ ih => exact ih hother
  | caught _ hproblem _ _ ih ihagain =>
      have hsame := hproblem.trans (ih hother)
      exact (ihagain (hsame ▸ hother)).trans hsame
  | frame _ _ ih => exact ih hother
  | segment _ h hleaves ih =>
      have hproblem := ih hother
      rw [eq_of_asParameter h.stops hleaves (by rw [isOwnName_eq, hproblem, hother]; rfl)]
      exact hproblem

/-- An error from code that is not of a segment stays what it is, and from where it is. -/
theorem Escapes.of_code {code : Frame} (h : Escapes raised path w step final w')
    (hcode : raised.frames.head? = some code) (hne : code ≠ .segment) :
    final.problem = raised.problem ∧ final.frames.head? = some code := by
  induction h with
  | here _ => exact ⟨rfl, hcode⟩
  | first _ ih => exact ih hcode
  | next _ _ ih => exact ih hcode
  | caught _ hproblem hframes _ ih ihagain =>
      obtain ⟨hsame, hhead⟩ := ih hcode
      obtain ⟨hfinal, hlast⟩ := ihagain (hframes ▸ hhead)
      exact ⟨hfinal.trans (hproblem.trans hsame), hlast⟩
  | frame _ _ ih =>
      obtain ⟨hsame, hhead⟩ := ih hcode
      exact ⟨hsame, by simp [List.head?_append, hhead]⟩
  | segment _ h hleaves ih =>
      obtain ⟨hsame, hhead⟩ := ih hcode
      have hown : (some code == some Frame.segment) = false := by simpa using hne
      rw [eq_of_asParameter h.stops hleaves (by rw [isOwnName_eq, hhead, hown, Bool.and_false])]
      exact ⟨hsame, hhead⟩

/-- An undefined name that code of a segment asked for is attributed to the first segment it
crosses, and stays what it is until then. -/
theorem Escapes.of_segment (h : Escapes raised path w step final w')
    (hname : raised.problem.isUndefinedName = true) (hcode : raised.frames.head? = some .segment) :
    match innermostSegment path with
    | some innermost => AttributedTo innermost raised.problem final.problem
    | none => final.problem = raised.problem ∧ final.frames.head? = some .segment := by
  induction h with
  | here _ => exact ⟨rfl, hcode⟩
  | first _ ih => exact ih hname hcode
  | next _ _ ih => exact ih hname hcode
  | @caught _ _ _ _ _ _ _ _ _ _ _ inner outer _ hproblem hframes hagain ih ihagain =>
      have hinner := ih hname hcode
      rw [innermostSegment_append]
      cases hpath : innermostSegment inner with
      | some segment =>
          rw [hpath] at hinner
          have hdone := hinner.isUndefinedName_eq
          rw [← hproblem] at hinner hdone
          -- nothing further out changes what an inner segment has made of the error
          simpa [hagain.problem_eq hdone] using hinner
      | none =>
          rw [hpath] at hinner
          obtain ⟨hsame, hhead⟩ := hinner
          rw [← hproblem] at hsame
          simpa only [Option.none_or, hsame] using
            ihagain (hsame ▸ hname) (hframes ▸ hhead)
  | @frame _ _ _ _ _ _ path frame _ ih =>
      have hinner := ih hname hcode
      rw [innermostSegment_append]
      cases hpath : innermostSegment path with
      | some segment =>
          rw [hpath] at hinner
          exact hinner
      | none =>
          rw [hpath] at hinner
          exact ⟨hinner.1, by simp [List.head?_append, hinner.2]⟩
  | @segment _ _ _ _ _ _ _ _ path _ h hleaves ih =>
      have hinner := ih hname hcode
      rw [innermostSegment_append]
      cases hpath : innermostSegment path with
      | some inner =>
          rw [hpath] at hinner
          rw [eq_of_asParameter h.stops hleaves
            (by rw [isOwnName_eq, hinner.isUndefinedName_eq, Bool.false_and])]
          exact hinner
      | none =>
          rw [hpath] at hinner
          obtain ⟨hsame, hhead⟩ := hinner
          -- the first segment on the way: the error is the one that was raised, its frame the
          -- innermost
          have hown := attributedTo_of_asParameter h.stops hleaves
            (by rw [isOwnName_eq, hsame, hname, hhead]; rfl)
          rwa [hsame] at hown

end

/-! ### Where errors are raised -/

/-- What code that has reached a line raises if it asks for a name in vain: an undefined name in its
frame, which the error carries unless the name is one of the running function. -/
def AsksInVain (env : Env) (line : Nat) (name : String) (error : Raised) : Prop :=
  error.frames = [if env.inSegment then .segment else .script line] ∧
    error.problem.isUndefinedName = true ∧
    ((∀ space, env.place name ≠ .own space) → error.problem.lookedFor? = some (.text name))

section

variable {w w' : World} {env : Env} {line : Nat} {name : String} {error : Raised}

theorem exists_of_at {step : Run α}
    (hstops : runFrom w (env.at line step) = (.error (.raised error), w')) :
    ∃ inner, runFrom w step = (.error (.raised inner), w') ∧ error.problem = inner.problem ∧
      error.frames = inner.frames ++ [env.frame line] := by
  rw [Env.at] at hstops
  rcases hstep : runFrom w step with ⟨(_ | inner) | a, w₁⟩
  · rw [runFrom_withFrame_of_error _ hstep] at hstops
    cases hstops
    exact ⟨_, rfl, rfl, rfl⟩
  all_goals
    rw [withFrame, runFrom_tryCatch, hstep] at hstops
    cases hstops

theorem asksInVain_of_at {step : Run α}
    (hstops : runFrom w (env.at line step) = (.error (.raised error), w'))
    (hraised : ∀ inner, runFrom w step = (.error (.raised inner), w') → inner.frames = [] ∧
      ((inner.problem.lookedFor? = some (.text name) ∨ ∃ space, env.place name = .own space) ∧
        inner.problem.isUndefinedName = true)) :
    AsksInVain env line name error := by
  obtain ⟨inner, hinner, hproblem, hframes⟩ := exists_of_at hstops
  obtain ⟨hnone, hlooked, hundefined⟩ := hraised inner hinner
  rw [hnone, List.nil_append] at hframes
  refine ⟨hframes, hproblem ▸ hundefined, fun hplace => ?_⟩
  rcases hlooked with hlooked | ⟨space, hown⟩
  · rw [hproblem, hlooked]
  · exact absurd hown (hplace space)

/-- What every script has is looked up in vain only if no name is bound. -/
theorem lookUpBuiltin_raises {inner : Raised}
    (hstops : runFrom w (lookUpBuiltin env name) = (.error (.raised inner), w')) :
    inner.frames = [] ∧ inner.problem.lookedFor? = some (.text name) ∧
      inner.problem.isUndefinedName = true := by
  unfold lookUpBuiltin at hstops
  rw [runFrom_bind, runFrom_get] at hstops
  simp only at hstops
  split at hstops
  · split at hstops <;> cases hstops
    exact ⟨rfl, rfl, rfl⟩
  · cases hstops

theorem asksInVain_of_lookUpName
    (hstops : runFrom w (env.at line (lookUpName env name)) = (.error (.raised error), w')) :
    AsksInVain env line name error := by
  refine asksInVain_of_at hstops fun inner hinner => ?_
  unfold lookUpName at hinner
  split at hinner
  · cases hinner
  rw [runFrom_bind, runFrom_get] at hinner
  simp only at hinner
  split at hinner
  · cases hinner
  · rename_i hown
    cases hinner
    exact ⟨rfl, .inr ⟨_, hown⟩, rfl⟩
  · cases hinner
    exact ⟨rfl, .inl rfl, rfl⟩
  -- the code of a class goes on to the global names
  · unfold lookUpGlobal at hinner
    rw [runFrom_bind, runFrom_get] at hinner
    simp only at hinner
    split at hinner
    · cases hinner
    · obtain ⟨hframes, hlooked, hname⟩ := lookUpBuiltin_raises hinner
      exact ⟨hframes, .inl hlooked, hname⟩
  · obtain ⟨hframes, hlooked, hname⟩ := lookUpBuiltin_raises hinner
    exact ⟨hframes, .inl hlooked, hname⟩

theorem asksInVain_of_deleteName
    (hstops : runFrom w (env.at line (deleteName env name)) = (.error (.raised error), w')) :
    AsksInVain env line name error := by
  refine asksInVain_of_at hstops fun inner hinner => ?_
  unfold deleteName at hinner
  rw [runFrom_bind, runFrom_get] at hinner
  simp only at hinner
  split at hinner
  · cases hinner
  · split at hinner
    · rename_i hown
      cases hinner
      exact ⟨rfl, .inr ⟨_, hown⟩, rfl⟩
    all_goals
      cases hinner
      exact ⟨rfl, .inl rfl, rfl⟩

/-- A global name that is bound nowhere is asked for in vain. -/
theorem runFrom_at_lookUpName (hfixed : name ≠ fixedName) (hplace : env.place name = .global)
    (hnames : (w.names env.globals).lookup name = none)
    (hfurnished : (w.names env.globals).areFurnished = true)
    (hfollowed : unfollowedNames.contains name = false) (hbuiltin : builtin? name = none) :
    runFrom w (env.at line (lookUpName env name)) =
      (.error (.raised
        { problem := .plain .undefinedName [.text ("name '" ++ name ++ "' is not defined")]
            (some (.name (.text name)))
          frames := [env.frame line] }), w) := by
  have hlookup : runFrom w (lookUpName env name) = runFrom w (raiseUndefined name) := by
    unfold lookUpName
    rw [if_neg (by simpa using hfixed), runFrom_bind, runFrom_get]
    simp only [hplace, Env.spaceOf, hnames, lookUpBuiltin, runFrom_bind, runFrom_get, hfurnished,
      hfollowed, hbuiltin]
    rfl
  exact runFrom_withFrame_of_error _ hlookup

end

/-- What a function from outside raises comes from code that is neither script nor segment. -/
theorem runFrom_runProcedure_raises {m : Machine} {steps : List Step} {name : String}
    {args : List Datum} {values : List Value} {problem : Problem} {w w₁ w₂ w' : World}
    (hsteps : runFrom w (steps.forM fun s => do let _ ← s.run m) = (.ok (), w₁))
    (hvalues : runFrom w₁ (args.mapM Datum.load) = (.ok values, w₂))
    (hproblem : runFrom w₂ (problemOf m name values) = (.ok problem, w')) :
    runFrom w (runProcedure m steps (.raises name args)) =
      (.error (.raised { problem := problem, frames := [.host] }), w') := by
  have hraised : runFrom w (do
      steps.forM fun s => do let _ ← s.run m
      let values ← args.mapM Datum.load
      raiseProblem (← problemOf m name values) : Run Value) =
        (.error (.raised { problem := problem, frames := [] }), w') := by
    simp only [runFrom_bind, hsteps, hvalues, hproblem]
    rfl
  exact runFrom_withFrame_of_error .host hraised

theorem makeFunction_inSegment {m : Machine} {env : Env} {name : String} {params : List Param}
    {body : FunctionBody} {w w' : World} {v : Value}
    (hmade : runFrom w (makeFunction m env name params body) = (.ok v, w')) :
    ∃ address f, v = .function address ∧ w'.objects[address]? = some (.function f) ∧ f.body = body ∧
      ∀ space, (f.inside space).inSegment = env.inSegment := by
  rw [makeFunction, runFrom_bind] at hmade
  split at hmade
  · rename_i defaults w₁ _
    cases hmade
    exact ⟨w₁.objects.size, _, rfl, Array.getElem?_push_size, rfl, fun _ => rfl⟩
  · cases hmade

theorem startComprehension_inSegment {m : Machine} {env : Env} {line : Nat}
    {kind : ComprehensionKind}
    {element : Expr} {clauses : List Clause} {w w' : World} {p : Progress}
    (hstarted : runFrom w (startComprehension m env line kind element clauses) = (.ok p, w')) :
    p.env.inSegment = env.inSegment := by
  unfold startComprehension at hstarted
  split at hstarted
  · rw [runFrom_bind] at hstarted
    split at hstarted
    · rw [runFrom_bind] at hstarted
      split at hstarted <;> cases hstarted
      rfl
    · cases hstarted
  · cases hstarted

/-! ### Undefined names in renders -/

/-- Whatever calls and templates an error crosses on its way out of a render: an undefined name
that code of a segment asked for is attributed to the innermost segment under evaluation, and any
other error, and one that crosses no segment, leaves as it was raised. Code of a segment, or of the
script, is where its environment says; functions and comprehensions belong where they were made. -/
theorem render_attributes_names (m : Machine) (t : Template) (context scope : Names) (w : World) :
    (∀ raised path final w' code, Escapes raised path w (render m t context scope) final w' →
      raised.frames.head? = some code →
        runFrom w (render m t context scope) = (.error (.raised final), w') ∧
        (raised.problem.isUndefinedName = true → code = .segment →
          ∀ segment, innermostSegment path = some segment →
            AttributedTo segment raised.problem final.problem) ∧
        (code ≠ .segment → final.problem = raised.problem) ∧
        (raised.problem.isUndefinedName = false → final.problem = raised.problem) ∧
        (innermostSegment path = none → final.problem = raised.problem)) ∧
    (∀ env line name v error v',
      runFrom v (env.at line (lookUpName env name)) = (.error (.raised error), v') ∨
        runFrom v (env.at line (deleteName env name)) = (.error (.raised error), v') →
          AsksInVain env line name error) ∧
    (∀ steps name args values problem v v₁ v₂ v',
      runFrom v (steps.forM fun s => do let _ ← s.run m) = (.ok (), v₁) →
        runFrom v₁ (args.mapM Datum.load) = (.ok values, v₂) →
          runFrom v₂ (problemOf m name values) = (.ok problem, v') →
            runFrom v (runProcedure m steps (.raises name args)) =
              (.error (.raised { problem := problem, frames := [.host] }), v')) ∧
    (∀ env name params body v f v',
      runFrom v (makeFunction m env name params body) = (.ok f, v') →
        ∃ address closure, f = .function address ∧
          v'.objects[address]? = some (.function closure) ∧ closure.body = body ∧
          ∀ space, (closure.inside space).inSegment = env.inSegment) ∧
    ∀ env line kind element clauses v p v',
      runFrom v (startComprehension m env line kind element clauses) = (.ok p, v') →
        p.env.inSegment = env.inSegment := by
  refine ⟨?_, ?_, ?_, ?_, ?_⟩
  · intro raised path final w' code hescapes hcode
    refine ⟨hescapes.stops, ?_, ?_, hescapes.problem_eq, ?_⟩
    · rintro hname rfl segment hpath
      have hattributed := hescapes.of_segment hname hcode
      rwa [hpath] at hattributed
    · exact fun hne => (hescapes.of_code hcode hne).1
    · intro hpath
      cases hname : raised.problem.isUndefinedName with
      | false => exact hescapes.problem_eq hname
      | true =>
          by_cases hsegment : code = .segment
          · subst hsegment
            have hattributed := hescapes.of_segment hname hcode
            rw [hpath] at hattributed
            exact hattributed.1
          · exact (hescapes.of_code hcode hsegment).1
  · rintro env line name v error v' (hstops | hstops)
    · exact asksInVain_of_lookUpName hstops
    · exact asksInVain_of_deleteName hstops
  · intro steps name args values problem v v₁ v₂ v' hsteps hvalues hproblem
    exact runFrom_runProcedure_raises hsteps hvalues hproblem
  · intro env name params body v f v' hmade
    exact makeFunction_inSegment hmade
  · intro env line kind element clauses v p v' hstarted
    exact startComprehension_inSegment hstarted

/-- A template that asks for a name in a function of its second segment. -/
def asking : Template where
  pattern := "<\x60(lambda: y)()\x60>".toList
  segments :=
    [.literal "<".toList,
      .code "(lambda: y)()".toList 2 (.value (.call 1 (.function 1 [] (.name 1 "y")) [])),
      .literal ">".toList]

def calling : Template where
  pattern := "\x60t()\x60".toList
  segments := [.code "t()".toList 1 (.value (.call 1 (.name 1 "t") []))]

/-- An error about a name in a function of the second segment of `asking` leaves the template that
calls it as the error of that segment. -/
theorem render_attributes_names_nested :
    let w : World :=
      { builder := .fresh 4, objects := #[.template asking (.text "")], spaces := #[[]] }
    ∃ final w' cause,
      runFrom w (render (.upTo 6) calling [("t", .template 0)] []) = (.error (.raised final), w') ∧
        final.problem = .fault { cause := .undefinedParameter "y", offset := some (2 : Nat) }
          { cause := some cause, name := some (.text "y") } := by
  intro w
  let furnished (names : Names) : Names := names ++ [(builtinsName, builtinsValue)]
  let start : World := { w with spaces := w.spaces.push (furnished [("t", .template 0)]) }
  let checked : World := { start with objects := start.objects.push (.dict []) }
  let called : World := { checked with depth := checked.depth + 6 }
  let lambda : Closure :=
    { name := "<lambda>", qualifiedName := "<lambda>", params := [], defaults := []
      body := .value (.name 1 "y"), env := { inSegment := true, globals := 2 } }
  let outerEnv : Env := { inSegment := true, globals := 1 }
  let written : World :=
    { called with
      spaces := called.spaces.push [("args", .varargs [])]
      builder := (Builder.fresh 4).write ['<'] }
  let ready : World :=
    { written with spaces := called.spaces.push (furnished [("args", .varargs [])]) }
  let made : World := { ready with objects := ready.objects.push (.function lambda) }
  let asked : World := { made with depth := 7, spaces := made.spaces.push [] }
  have hwritten : runFrom { called with spaces := called.spaces.push [("args", .varargs [])] }
      ([Segment.literal ['<']].forM (renderSegment (.upTo 4) lambda.env)) = (.ok (), written) := rfl
  have hbindings : (Expr.name 1 "y").bindings = [] := by
    rw [Expr.bindings, Expr.collect]
    rfl
  have hown : (lambda.scope 3).own = [] := hbindings
  have hplace : (lambda.inside 3).place "y" = .global := by
    change placeAmong "y" true [lambda.scope 3] = _
    rw [placeAmong, hown]
    rfl
  -- from the name out: over its function, the inner segment and its template, and the outer segment
  have hasked : Escapes _ [] asked (evaluateStep (.upTo 1) (lambda.inside 3) (.name 1 "y")) _ _ :=
    .here (runFrom_at_lookUpName (by decide) hplace rfl rfl (by decide) (by decide))
  have hbody : Escapes _ _ made (callFunction (.upTo 2) lambda {}) _ _ :=
    .body rfl rfl rfl (by decide) hasked
  have hmade : runFrom ready ((Machine.upTo 3).evaluate lambda.env (.function 1 [] (.name 1 "y"))) =
      (.ok (.function 2), made) := rfl
  have hsecond : Escapes _ _ ready
      (evaluateCall (.upTo 3) lambda.env 1 (.function 1 [] (.name 1 "y")) []) _ _ :=
    .call hmade nofun (.next rfl hbody)
  have hinner : Escapes _ _ written (renderSegment (.upTo 4) lambda.env
      (.code "(lambda: y)()".toList 2 (.value (.call 1 (.function 1 [] (.name 1 "y")) [])))) _ _ :=
    .next rfl (.first (.segment 2 hsecond ((runFrom_asParameter 2 hsecond.stops).trans rfl)))
  have hasking : Escapes _ _ called (render (.upTo 4) asking [("args", .varargs [])] []) _ _ :=
    .render [.literal ['<']] [.literal ['>']] rfl hwritten hinner
  have htemplate : Escapes _ _ checked (deeper 6 (callTemplate (.upTo 4) 0 {})) _ _ :=
    .deeper (by decide) (.template 0 {} hasking)
  have hfound : runFrom start ((Machine.upTo 5).evaluate outerEnv (.name 1 "t")) =
      (.ok (.template 0), start) := rfl
  have hchecked : runFrom start (checkTemplate "BoundTemplate.__call__" (.template 0) {}) =
      (.ok (), checked) := rfl
  have hfirst : Escapes _ _ start (evaluateCall (.upTo 5) outerEnv 1 (.name 1 "t") []) _ _ :=
    .call hfound nofun (.next hchecked (.first htemplate))
  have houter : Escapes _ _ { w with spaces := w.spaces.push [("t", .template 0)] }
      (renderSegment (.upTo 6) outerEnv
        (.code "t()".toList 1 (.value (.call 1 (.name 1 "t") [])))) _ _ :=
    .next rfl (.first (.segment 1 hfirst ((runFrom_asParameter 1 hfirst.stops).trans rfl)))
  have hescapes : Escapes _ _ w (render (.upTo 6) calling [("t", .template 0)] []) _ _ :=
    .render [] [] rfl rfl houter
  obtain ⟨hstops, hattributed, -⟩ :=
    (render_attributes_names (.upTo 6) calling [("t", .template 0)] [] w).1 _ _ _ _ _ hescapes rfl
  exact ⟨_, _, _, hstops, (hattributed rfl rfl _ rfl).choose_spec⟩

/-! ### Names of functions -/

/-- A template that asks for a name of a function of its own segment. -/
def unbound : Template where
  pattern := "\x60(lambda: [y := y])()\x60".toList
  segments :=
    [.code "(lambda: [y := y])()".toList 1
      (.value (.call 1 (.function 1 [] (.list 1 [.binding 1 "y" (.name 1 "y")])) []))]

def parameter? (run : Except Stop Unit × World) : Option (String × Option Int) :=
  match run.1 with
  | .error (.raised
      { problem := .fault { cause := .undefinedParameter name, offset, .. } _, .. }) =>
    some (name, offset)
  | _ => none

theorem parameter?_unbound :
    parameter? (runFrom { builder := .fresh 4 } (render (.upTo 6) unbound [] [])) =
      some ("cannot access local variable 'y' where it is not associated with a value",
        some 1) := by
  decide +kernel

/-- A name of a function of a segment that is asked for before it is bound is not reported by
itself. -/
theorem not_render_attributes_name :
    ¬ ∃ final w' origin,
      runFrom { builder := .fresh 4 } (render machine unbound [] []) =
          (.error (.raised final), w') ∧
        final.problem =
          .fault { cause := .undefinedParameter "y", offset := some (1 : Nat) } origin := by
  rintro ⟨⟨problem, _, _⟩, w', origin, hstops, rfl⟩
  have hknown := parameter?_unbound
  have hmachine : runFrom { builder := .fresh 4 } (render machine unbound [] []) = _ :=
    render_upTo_of_le (by decide : 6 ≤ patience) _ unbound [] [] fun hgiven => by
      rw [parameter?, hgiven] at hknown
      cases hknown
  rw [← hmachine, hstops] at hknown
  injection hknown with hreported
  exact absurd (Prod.mk.inj hreported).1 (by decide)

end Codeweave.Script
