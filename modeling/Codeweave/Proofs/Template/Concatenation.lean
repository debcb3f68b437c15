import Codeweave.Proofs.Script.Writing
import Codeweave.Proofs.Template.Reading
import Codeweave.Script.Render

/-!
Patterns put together. A pattern that compiles ends outside its sources, so what follows it is read
as it is read alone, only later: the segments of both stand side by side, and literal texts that
meet become one. Rendering does not see the joint, because a text can be written in two pieces.
-/

namespace Codeweave.Template

open Script (asParameter Code Env Frame Machine Names newSpace Provenance render renderSegment
  reportMissing Run runFrom runFrom_bind runFrom_tryCatch Stop writeOutput writeOutput_append)

/-- Segments side by side. Literal texts that meet become one. -/
def meet : List Segment → List Segment → List Segment
  | [], more => more
  | [.literal text], .literal text' :: more => .literal (text ++ text') :: more
  | s :: segments, more => s :: meet segments more

def join (t u : Template) : Template :=
  ⟨t.pattern ++ u.pattern, meet t.segments (u.segments.map (Segment.moved t.pattern.length))⟩

def renderAll (m : Machine) (env : Env) (segments : List Segment) : Run Unit :=
  segments.forM (renderSegment m env)

/-- Renders the segments of one list and then those of another, all in one name space. -/
def renderBoth (m : Machine) (segments more : List Segment) (context scope : Names) : Run Unit := do
  let space ← newSpace (Names.bindAll scope context)
  let env : Env := { inSegment := true, globals := space }
  renderAll m env segments
  renderAll m env more

/-- An undefined parameter in the segment at an offset. -/
def undefinedAt (offset : Nat) (name : String) (origin : Provenance) (frames : List Frame) : Stop :=
  .raised
    { problem := .fault { cause := .undefinedParameter name, offset := some offset } origin
      frames := frames }

/-- The outcomes are the same, but an undefined parameter may stand so much later. -/
inductive SameButMoved {α : Type} (n : Nat) : Except Stop α → Except Stop α → Prop where
  | same (result : Except Stop α) : SameButMoved n result result
  | parameter (offset : Nat) (name : String) (origin : Provenance) (frames : List Frame) :
      SameButMoved n (.error (undefinedAt offset name origin frames))
        (.error (undefinedAt (n + offset) name origin frames))

/-- The steps lead from every state to the same state, and to outcomes that are the same, but an
undefined parameter may stand so much later. -/
def AlikeButMoved {α : Type} (n : Nat) (step other : Run α) : Prop :=
  ∀ w, (runFrom w step).2 = (runFrom w other).2 ∧
    SameButMoved n (runFrom w step).1 (runFrom w other).1

/-! ### Reading -/

theorem meet_code (source : List Char) (offset : Nat) (code : Code) (segments more : List Segment) :
    meet (.code source offset code :: segments) more =
      .code source offset code :: meet segments more := by
  rw [meet]
  simp

theorem consLiteral_meet (c : Char) (segments more : List Segment) :
    consLiteral c (meet segments more) = meet (consLiteral c segments) more := by
  rcases segments with _ | ⟨⟨text⟩ | ⟨source, offset, code⟩, segments⟩
  · rcases more with _ | ⟨⟨text⟩ | ⟨source, offset, code⟩, more⟩ <;> simp [meet, consLiteral]
  · rcases segments with _ | ⟨s, segments⟩
    · rcases more with _ | ⟨⟨text'⟩ | ⟨source, offset, code⟩, more⟩ <;> simp [meet, consLiteral]
    · simp [meet, consLiteral]
  · simp [meet, consLiteral]

theorem map_meet_consLiteral (c : Char) (segments : List Segment)
    (found : Except Error (List Segment)) :
    (found.map (meet segments)).map (consLiteral c) =
      found.map (meet (consLiteral c segments)) := by
  cases found with
  | ok more => exact congrArg Except.ok (consLiteral_meet c segments more)
  | error e => rfl

/-- What follows a pattern that can be read is read behind it. -/
theorem segmentsFrom_append {start : Nat} {pattern : List Char} {segments : List Segment}
    (h : segmentsFrom start pattern = .ok segments) (more : List Char) :
    segmentsFrom start (pattern ++ more) =
      (segmentsFrom (start + pattern.length) more).map (meet segments) := by
  -- each piece is read off the front pattern, so `more` stays where it is in every case
  induction reading pattern generalizing start segments with
  | finished =>
      rw [segmentsFrom] at h
      obtain rfl : [] = segments := Except.ok.inj h
      cases hmore : segmentsFrom start more <;> simp [hmore, Except.map, meet]
  | plain hc hrest ih =>
      rename_i c rest
      rw [segmentsFrom_plain _ _ hc] at h
      obtain ⟨segments, hsegments, rfl⟩ := map_eq_ok_iff.mp h
      rw [List.cons_append, segmentsFrom_plain _ _ hc, ih hsegments, map_meet_consLiteral,
        List.length_cons, Nat.add_assoc, Nat.add_comm 1]
  | doubled hrest ih =>
      rename_i rest
      rw [segmentsFrom_doubled] at h
      obtain ⟨segments, hsegments, rfl⟩ := map_eq_ok_iff.mp h
      rw [List.cons_append, List.cons_append, segmentsFrom_doubled, ih hsegments,
        map_meet_consLiteral, List.length_cons, List.length_cons, Nat.add_assoc, Nat.add_comm 2]
  | enclosed hne hdelimiter hafter ih =>
      rename_i source after
      rw [segmentsFrom_enclosed _ _ hne hdelimiter] at h
      cases hcode : Code.ofSource source with
      | error why => simp [hcode] at h
      | ok code =>
          simp only [hcode] at h
          obtain ⟨segments, hsegments, rfl⟩ := map_eq_ok_iff.mp h
          have hlength : start + (delimiter :: source ++ [delimiter] ++ after).length =
              start + source.length + 2 + after.length := by
            simp only [List.length_append, List.length_cons, List.length_nil]
            omega
          rw [List.append_assoc, segmentsFrom_code start _ hne hdelimiter hcode, ih hsegments,
            hlength]
          cases segmentsFrom (start + source.length + 2 + after.length) more with
          | ok more => exact congrArg Except.ok (meet_code ..).symm
          | error e => rfl
  | unpaired hdelimiter =>
      rw [segmentsFrom_unpaired _ hdelimiter] at h
      simp at h

/-! ### Rendering -/

section

variable (m : Machine) (env : Env)

theorem renderAll_nil : renderAll m env [] = pure () := rfl

theorem renderAll_cons (s : Segment) (segments : List Segment) :
    renderAll m env (s :: segments) = renderSegment m env s >>= fun _ => renderAll m env segments :=
  rfl

theorem renderAll_meet (segments more : List Segment) :
    renderAll m env (meet segments more) =
      renderAll m env segments >>= fun _ => renderAll m env more := by
  fun_induction meet segments more with
  | case1 more => rw [renderAll_nil, pure_bind]
  | case2 text text' more =>
      simp only [renderAll_cons, renderAll_nil, renderSegment, writeOutput_append, bind_assoc,
        pure_bind]
  | case3 segments more s _ ih => rw [renderAll_cons, renderAll_cons, ih, bind_assoc]

end

/-! ### Segments that stand later -/

namespace AlikeButMoved

variable {α β : Type} {n : Nat}

theorem refl (step : Run α) : AlikeButMoved n step step :=
  fun _ => ⟨rfl, .same _⟩

theorem bind {step other : Run α} (h : AlikeButMoved n step other) {next next' : α → Run β}
    (hnext : ∀ a, AlikeButMoved n (next a) (next' a)) :
    AlikeButMoved n (step >>= next) (other >>= next') := by
  intro w
  obtain ⟨hstate, hresult⟩ := h w
  rw [runFrom_bind, runFrom_bind]
  generalize runFrom w step = ended at hstate hresult
  generalize runFrom w other = ended' at hstate hresult
  obtain ⟨result, w'⟩ := ended
  obtain ⟨result', w''⟩ := ended'
  obtain rfl : w' = w'' := hstate
  cases hresult with
  | same =>
      cases result with
      | ok a => exact hnext a w'
      | error stop => exact ⟨rfl, .same _⟩
  | parameter offset name origin frames => exact ⟨rfl, .parameter offset name origin frames⟩

theorem asParameter (offset : Nat) (step : Run α) :
    AlikeButMoved n (asParameter offset step) (asParameter (n + offset) step) := by
  intro w
  rw [Script.asParameter, Script.asParameter, runFrom_tryCatch, runFrom_tryCatch]
  rcases runFrom w step with ⟨(error | _) | _, w'⟩
  · simp only
    split
    -- the name is found in the same way, whatever the offset
    · rw [runFrom_bind, runFrom_bind]
      rcases runFrom w' (reportMissing error) with ⟨stop | ⟨name, origin⟩, w''⟩
      · exact ⟨rfl, .same _⟩
      · exact ⟨rfl, .parameter offset name origin [.host]⟩
    · exact ⟨rfl, .same _⟩
  · exact ⟨rfl, .same _⟩
  · exact ⟨rfl, .same _⟩

theorem renderSegment (m : Machine) (env : Env) (s : Segment) :
    AlikeButMoved n (renderSegment m env s) (renderSegment m env (s.moved n)) := by
  rcases s with ⟨text⟩ | ⟨source, offset, e | program⟩
  · exact refl _
  · exact (refl _).bind fun _ => (asParameter offset _).bind fun _ => refl _
  · exact (refl _).bind fun _ => (refl _).bind fun _ => (asParameter offset _).bind fun _ => refl _

theorem renderAll (m : Machine) (env : Env) (segments : List Segment) :
    AlikeButMoved n (renderAll m env segments)
      (renderAll m env (segments.map (Segment.moved n))) := by
  induction segments with
  | nil => exact refl _
  | cons s segments ih => exact (renderSegment m env s).bind fun _ => ih

end AlikeButMoved

theorem render_join (m : Machine) (t u : Template) (context scope : Names) :
    render m (t.join u) context scope =
      renderBoth m t.segments (u.segments.map (Segment.moved t.pattern.length)) context scope := by
  rw [render, renderBoth]
  congr 1
  funext space
  exact renderAll_meet m _ _ _

/-- A pattern behind one that compiles is compiled as it is alone, only later, and the two templates
are joined. Rendering the joined template is rendering the segments of the first and then those of
the second in one name space; of the offsets, only an undefined parameter tells. -/
theorem compile_append (pattern : List Char) (t : Template) (h : compile pattern = .ok t)
    (more : List Char) :
    (∀ e, compile more = .error e →
      compile (pattern ++ more) = .error (e.moved pattern.length)) ∧
    ∀ u, compile more = .ok u →
      compile (pattern ++ more) = .ok (t.join u) ∧
        ∀ (m : Machine) (context scope : Names),
          render m (t.join u) context scope =
              renderBoth m t.segments (u.segments.map (Segment.moved pattern.length)) context
                scope ∧
            AlikeButMoved pattern.length (renderBoth m t.segments u.segments context scope)
              (render m (t.join u) context scope) := by
  obtain ⟨segments, hsegments, rfl⟩ := map_eq_ok_iff.mp h
  have hboth : compile (pattern ++ more) =
      ((moved pattern.length (segmentsFrom 0 more)).map (meet segments)).map
        (Template.mk (pattern ++ more)) := by
    rw [compile, segmentsFrom_append hsegments, Nat.zero_add, ← segmentsFrom_add, Nat.add_zero]
  constructor
  · intro e he
    rw [hboth]
    rw [compile] at he
    cases hmore : segmentsFrom 0 more with
    | ok segments => simp [hmore, Except.map] at he
    | error e' =>
        obtain rfl : e' = e := by simpa [hmore, Except.map] using he
        rfl
  · intro u hu
    obtain ⟨found, hfound, rfl⟩ := map_eq_ok_iff.mp hu
    refine ⟨?_, fun m context scope => ⟨render_join m _ _ context scope, ?_⟩⟩
    · rw [hboth, hfound]
      rfl
    · rw [render_join]
      exact (AlikeButMoved.refl _).bind fun space =>
        (AlikeButMoved.refl _).bind fun _ => .renderAll m _ found

def tickBehind : List Char :=
  delimiter :: ['x'] ++ [delimiter] ++ [delimiter, delimiter]

def tickAhead : List Char :=
  [delimiter, delimiter, 'b'] ++ (delimiter :: ['y'] ++ [delimiter] ++ [])

/-- Five backticks in a row at the joint: the end of a source, and two backticks of one literal
text. -/
theorem compile_append_ticksMeet :
    ∃ t u, compile tickBehind = .ok t ∧ compile tickAhead = .ok u ∧
      compile (tickBehind ++ tickAhead) = .ok (t.join u) ∧
      (t.join u).segments.map spelling =
        [(false, ['x']), (true, [delimiter, delimiter, 'b']), (false, ['y'])] ∧
      ∀ (m : Machine) (context scope : Names),
        AlikeButMoved tickBehind.length (renderBoth m t.segments u.segments context scope)
          (render m (t.join u) context scope) := by
  obtain ⟨x, hx⟩ := exists_code_of_mem (c := 'x') (by simp)
  obtain ⟨y, hy⟩ := exists_code_of_mem (c := 'y') (by simp)
  have hbehind : compile tickBehind =
      .ok ⟨tickBehind, [.code ['x'] 1 x, .literal [delimiter]]⟩ := by
    rw [compile, tickBehind, segmentsFrom_code 0 _ (by simp) (by decide) hx, segmentsFrom_doubled,
      segmentsFrom]
    rfl
  have hahead : compile tickAhead =
      .ok ⟨tickAhead, [.literal [delimiter, 'b'], .code ['y'] 4 y]⟩ := by
    rw [compile, tickAhead, List.cons_append, List.cons_append, segmentsFrom_doubled,
      List.cons_append, segmentsFrom_plain _ _ (by decide), List.nil_append,
      segmentsFrom_code _ _ (by simp) (by decide) hy, segmentsFrom]
    rfl
  obtain ⟨hjoin, hrender⟩ := (compile_append tickBehind _ hbehind tickAhead).2 _ hahead
  exact ⟨_, _, hbehind, hahead, hjoin, rfl, fun m context scope => (hrender m context scope).2⟩

end Codeweave.Template
