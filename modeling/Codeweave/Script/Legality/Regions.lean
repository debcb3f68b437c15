import Codeweave.Script.Legality.Mention

/-!
Rules about names. Events are noted region by region; some of them clash with what was noted
before. When all are noted, the names that a region takes from enclosing functions are looked for
there.
-/

namespace Codeweave.Script.Legality

structure Marks where
  used : Bool := false
  own : Bool := false
  imported : Bool := false
  param : Bool := false
  annotated : Bool := false
  global : Bool := false
  /-- belongs to an enclosing function -/
  outer : Bool := false
  /-- occurs in the target of a loop of a comprehension -/
  looped : Bool := false

def Marks.join (a b : Marks) : Marks where
  used := a.used || b.used
  own := a.own || b.own
  imported := a.imported || b.imported
  param := a.param || b.param
  annotated := a.annotated || b.annotated
  global := a.global || b.global
  outer := a.outer || b.outer
  looped := a.looped || b.looped

/-- A declaration of such a name comes too late; after an import it does not. -/
def Marks.isMentioned (m : Marks) : Bool :=
  m.used || m.own || m.param || m.annotated

/-- A part of a script with names of its own. -/
structure Region where
  kind : RegionKind
  parent : Option Nat := none
  names : Array (String × Marks) := #[]
  declared : Array (String × Nat) := #[]
  /-- how many sources of comprehensions the events belong to -/
  sources : Nat := 0
  inTarget : Bool := false

def Region.marks (r : Region) (name : String) : Marks :=
  ((r.names.find? fun entry => entry.1 == name).map Prod.snd).getD {}

def Region.isComprehension (r : Region) : Bool :=
  match r.kind with
  | .comprehension _ => true
  | _ => false

def Region.note (r : Region) (name : String) (marks : Marks) : Region :=
  match r.names.findIdx? fun entry => entry.1 == name with
  | some i => { r with names := r.names.modify i fun (n, m) => (n, m.join marks) }
  | none => { r with names := r.names.push (name, marks) }

/-- All regions in the order in which they are entered, and those that are entered now, the
innermost first. -/
structure Survey where
  regions : Array Region := #[{ kind := .whole }]
  inside : List Nat := [0]

/-- A step of the survey, which fails with the line of what breaks a rule. -/
abbrev Surveying := StateT Survey (Except Nat)

namespace Surveying

def current : Surveying Nat := do pure ((← get).inside.headD 0)

def region (i : Nat) : Surveying Region := do
  pure (((← get).regions[i]?).getD { kind := .whole })

def modifyRegion (i : Nat) (f : Region → Region) : Surveying Unit :=
  modify fun s => { s with regions := s.regions.modify i f }

/-- Notes what is done with a name in a region. A parameter is not noted twice, and what occurs in
the target of a loop is no global name and none of an enclosing function. A global name is one of
the whole script too. -/
def noteIn (i : Nat) (line : Nat) (name : String) (marks : Marks) : Surveying Unit := do
  let r ← region i
  let before := r.marks name
  if marks.param && before.param then throw line
  let after := before.join marks
  if r.inTarget && (after.global || after.outer) then throw line
  modifyRegion i (·.note name { marks with looped := r.inTarget })
  if marks.global then modifyRegion 0 (·.note name { global := true })

def note (line : Nat) (name : String) (marks : Marks) : Surveying Unit := do
  noteIn (← current) line name marks

def recordDeclaration (line : Nat) (name : String) : Surveying Unit := do
  modifyRegion (← current) fun r => { r with declared := r.declared.push (name, line) }

/-- A declaration comes before everything else that is done with its name. -/
def declare (line : Nat) (name : String) (marks : Marks) : Surveying Unit := do
  if ((← region (← current)).marks name).isMentioned then throw line
  note line name marks
  recordDeclaration line name

/-- A name that is bound inside a comprehension belongs to the innermost region around it that is no
comprehension, which must not be a class. No comprehension on the way may have it in the target of a
loop. -/
def bindOutside (line : Nat) (name : String) : List Nat → Surveying Unit
  | [] => pure ()
  | i :: further => do
    let r ← region i
    match r.kind with
    | .comprehension _ => do
      if (r.marks name).looped then throw line
      bindOutside line name further
    | .hint => bindOutside line name further
    | .class_ => throw line
    | .function | .coroutine => do
      note line name (if (r.marks name).global then { global := true } else { outer := true })
      recordDeclaration line name
      noteIn i line name { own := true }
    | .whole => do
      note line name { global := true }
      recordDeclaration line name
      noteIn i line name { global := true }

/-- Neither the source of a comprehension nor an annotation binds names. -/
def bindInExpression (line : Nat) (name : String) : Surveying Unit := do
  let r ← region (← current)
  if r.kind == .hint || r.sources > 0 then throw line
  if r.isComprehension then bindOutside line name (← get).inside

def enter (kind : RegionKind) : Surveying Unit := do
  let here ← current
  let sources := (← region here).sources
  modify fun s =>
    { regions := s.regions.push { kind := kind, parent := some here, sources := sources },
      inside := s.regions.size :: s.inside }

def step : Mention → Surveying Unit
  | .use line name => note line name { used := true }
  | .own line name => note line name { own := true }
  | .imported line name => note line name { imported := true }
  | .param line name => note line name { param := true }
  | .annotated line name => do
    let here ← current
    let marks := (← region here).marks name
    if here != 0 && (marks.global || marks.outer) then throw line
    note line name { annotated := true, own := true }
  | .global line name => declare line name { global := true }
  | .outer line name => declare line name { outer := true }
  | .binding line name => bindInExpression line name
  | .all line => do
    if (← region (← current)).kind != .whole then throw line
  | .produce line => do
    let r ← region (← current)
    if r.kind == .hint || r.isComprehension then throw line
  | .await line => do
    if (← region (← current)).kind == .hint then throw line
  | .enter kind => enter kind
  | .leave => modify fun s => { s with inside := s.inside.tail }
  | .startSource => do modifyRegion (← current) fun r => { r with sources := r.sources + 1 }
  | .endSource => do modifyRegion (← current) fun r => { r with sources := r.sources - 1 }
  | .startTarget => do modifyRegion (← current) fun r => { r with inTarget := true }
  | .endTarget => do modifyRegion (← current) fun r => { r with inTarget := false }

end Surveying

/-- Does a region, or one around it, bind a name for the functions inside? A class does not. Looks
at most so many regions outwards. -/
def bindsForInner (regions : Array Region) (name : String) : Nat → Option Nat → Bool
  | 0, _ | _, none => false
  | steps + 1, some i =>
    match regions[i]? with
    | none => false
    | some r =>
      let marks := r.marks name
      if r.kind == .class_ then bindsForInner regions name steps r.parent
      else if r.kind == .whole || marks.global then false
      else if !marks.outer && (marks.own || marks.imported || marks.param) then true
      else bindsForInner regions name steps r.parent

/-- Is a name of a region what the region declares it to be? -/
def isFound (regions : Array Region) (r : Region) (name : String) (marks : Marks) : Bool :=
  if marks.global then !marks.outer
  else if marks.outer then bindsForInner regions name regions.size r.parent
  else true

def wrongDeclaration? (regions : Array Region) (r : Region) : Option Nat :=
  r.names.findSome? fun (name, marks) =>
    if isFound regions r name marks then none
    else some (((r.declared.find? fun d => d.1 == name).map Prod.snd).getD 0)

/-- The line of the first event that breaks a rule, or else of the first declaration that does not
hold. -/
def wrongName? (mentions : List Mention) : Option Nat :=
  match (mentions.forM Surveying.step).run {} with
  | .error line => some line
  | .ok (_, survey) => survey.regions.findSome? (wrongDeclaration? survey.regions)

end Codeweave.Script.Legality
