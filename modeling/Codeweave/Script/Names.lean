import Codeweave.Script.Program

/-!
Which names a piece of a program binds. A function keeps the names that its body binds to itself,
so these have to be known before the body runs.
-/

namespace Codeweave.Script

mutual

/-- A value in a formatted text, and those in its format. -/
def Piece.parts : Piece → List Expr
  | .text _ | .unfollowed => []
  | .shown _ value _ _ format => value :: partsOf format

def partsOf : List Piece → List Expr
  | [] => []
  | p :: rest => p.parts ++ partsOf rest

end

def Entry.parts : Entry → List Expr
  | .pair key value => [key, value]
  | .spread _ value => [value]

def Clause.parts : Clause → List Expr
  | .mk _ _ target source conditions => source :: target :: conditions

/-- The default and the annotation of a parameter. -/
def Param.parts : Param → List Expr
  | .mk _ _ _ default hint => default.toList ++ hint.toList

def Argument.parts : Argument → List Expr
  | .positional value | .named _ _ value | .spread _ value | .spreadNamed _ value => [value]

/-- The expressions directly inside an expression that belong to the same function. The body of a
function expression belongs to another. -/
def Expr.parts : Expr → List Expr
  | .constant _ | .name _ _ => []
  | .formatted pieces => partsOf pieces
  | .tuple _ items | .list _ items | .set _ items => items
  | .dict _ entries => entries.flatMap Entry.parts
  | .comprehension _ _ element clauses => clauses.flatMap Clause.parts ++ [element]
  | .unary _ _ operand => [operand]
  | .binary _ _ left right | .both left right | .either left right => [left, right]
  | .compare _ first rest => first :: rest.map Prod.snd
  | .choose test yes no => [test, yes, no]
  | .function _ params _ => params.flatMap Param.parts
  | .call _ callee arguments => callee :: arguments.flatMap Argument.parts
  | .member _ object _ => [object]
  | .item _ object key => [object, key]
  | .slice low high step => low.toList ++ high.toList ++ step.toList
  | .binding _ _ value | .star _ value | .produceFrom _ value | .await _ value => [value]
  | .produce _ value => value.toList

mutual

theorem Piece.sizeOf_lt_of_mem_parts {p : Piece} {e : Expr} (h : e ∈ p.parts) :
    sizeOf e < sizeOf p := by
  cases p with
  | text _ | unfollowed => simp [Piece.parts] at h
  | shown line value quoted special format =>
    rcases List.mem_cons.1 h with rfl | h
    · simp; omega
    · have := sizeOf_lt_of_mem_partsOf h
      simp; omega

theorem sizeOf_lt_of_mem_partsOf {ps : List Piece} {e : Expr} (h : e ∈ partsOf ps) :
    sizeOf e < sizeOf ps := by
  cases ps with
  | nil => simp [partsOf] at h
  | cons p rest =>
    rcases List.mem_append.1 h with h | h
    · have := Piece.sizeOf_lt_of_mem_parts h
      simp; omega
    · have := sizeOf_lt_of_mem_partsOf h
      simp; omega

end

theorem Entry.sizeOf_lt_of_mem_parts {p : Entry} {e : Expr} (h : e ∈ p.parts) :
    sizeOf e < sizeOf p := by
  cases p <;> simp [Entry.parts] at h ⊢
  · rcases h with rfl | rfl <;> omega
  · subst h; omega

theorem Clause.sizeOf_lt_of_mem_parts {p : Clause} {e : Expr} (h : e ∈ p.parts) :
    sizeOf e < sizeOf p := by
  cases p with
  | mk line async target source conditions =>
    simp only [Clause.parts, List.mem_cons] at h
    rcases h with rfl | rfl | h
    · simp; omega
    · simp; omega
    · have := List.sizeOf_lt_of_mem h
      simp; omega

theorem sizeOf_lt_of_mem_toList {o : Option Expr} {e : Expr} (h : e ∈ o.toList) :
    sizeOf e < sizeOf o := by
  cases o <;> simp_all

theorem Param.sizeOf_lt_of_mem_parts {p : Param} {e : Expr} (h : e ∈ p.parts) :
    sizeOf e < sizeOf p := by
  cases p with
  | mk line name kind default hint =>
    rcases List.mem_append.1 (show e ∈ default.toList ++ hint.toList from h) with h | h <;>
      · have := sizeOf_lt_of_mem_toList h
        simp; omega

theorem Argument.sizeOf_lt_of_mem_parts {p : Argument} {e : Expr} (h : e ∈ p.parts) :
    sizeOf e < sizeOf p := by
  cases p <;>
    · obtain rfl := List.mem_singleton.1 h
      simp only [Argument.positional.sizeOf_spec, Argument.named.sizeOf_spec,
        Argument.spread.sizeOf_spec, Argument.spreadNamed.sizeOf_spec]
      omega

/-- What is directly inside an expression is smaller. -/
theorem Expr.sizeOf_lt_of_mem_parts {e x : Expr} (h : x ∈ e.parts) : sizeOf x < sizeOf e := by
  cases e with
  | constant _ | name _ _ => simp [Expr.parts] at h
  | formatted pieces =>
    have := sizeOf_lt_of_mem_partsOf (show x ∈ partsOf pieces from h)
    simp; omega
  | tuple _ items | list _ items | set _ items =>
    have := List.sizeOf_lt_of_mem (show x ∈ items from h)
    simp; omega
  | dict _ entries =>
    obtain ⟨p, hp, hx⟩ := List.mem_flatMap.1 h
    have := List.sizeOf_lt_of_mem hp
    have := Entry.sizeOf_lt_of_mem_parts hx
    simp; omega
  | comprehension _ _ element clauses =>
    simp only [Expr.parts, List.mem_append, List.mem_singleton] at h
    rcases h with h | rfl
    · obtain ⟨p, hp, hx⟩ := List.mem_flatMap.1 h
      have := List.sizeOf_lt_of_mem hp
      have := Clause.sizeOf_lt_of_mem_parts hx
      simp; omega
    · simp; omega
  | unary _ _ _ | member _ _ _ | binding _ _ _ | star _ _ | produceFrom _ _ | await _ _ =>
    simp [Expr.parts] at h
    subst h
    simp; try omega
  | binary _ _ _ _ | both _ _ | either _ _ | item _ _ _ | choose _ _ _ =>
    simp [Expr.parts] at h
    rcases h with rfl | rfl | rfl <;> simp <;> omega
  | compare _ first rest =>
    simp only [Expr.parts, List.mem_cons, List.mem_map] at h
    rcases h with rfl | ⟨⟨op, y⟩, hp, rfl⟩
    · simp; omega
    · have := List.sizeOf_lt_of_mem hp
      simp at this ⊢; omega
  | function _ params body =>
    obtain ⟨p, hp, hx⟩ := List.mem_flatMap.1 h
    have := List.sizeOf_lt_of_mem hp
    have := Param.sizeOf_lt_of_mem_parts hx
    simp; omega
  | call _ callee arguments =>
    simp only [Expr.parts, List.mem_cons] at h
    rcases h with rfl | h
    · simp; omega
    · obtain ⟨p, hp, hx⟩ := List.mem_flatMap.1 h
      have := List.sizeOf_lt_of_mem hp
      have := Argument.sizeOf_lt_of_mem_parts hx
      simp; omega
  | slice low high step =>
    simp only [Expr.parts, List.mem_append] at h
    rcases h with (h | h) | h <;>
      · have := sizeOf_lt_of_mem_toList h
        simp; omega
  | produce _ value =>
    have := sizeOf_lt_of_mem_toList (show x ∈ value.toList from h)
    simp; omega

/-- What a function finds in an expression and everything inside it, function bodies apart. -/
def Expr.collect {α : Type} (find : Expr → List α) (e : Expr) : List α :=
  find e ++ e.parts.attach.flatMap fun ⟨x, _⟩ => x.collect find
termination_by sizeOf e
decreasing_by exact Expr.sizeOf_lt_of_mem_parts ‹_›

/-- The name that an expression binds by itself. -/
def Expr.ownBinding : Expr → List String
  | .binding _ id _ => [id]
  | _ => []

def Expr.bindings (e : Expr) : List String :=
  e.collect Expr.ownBinding

mutual

/-- The text of an annotation that is made of names, fixed values, members, items and alternatives;
`none` for any other. Alternatives are no part of what has a member or an item. -/
def Expr.hintText? (closed : Bool) : Expr → Option String
  | .name _ id => some id
  | .constant .none => some "None"
  | .constant (.bool b) => some (if b then "True" else "False")
  | .constant .ellipsis => some "..."
  | .member _ object name => (object.hintText? true).map (· ++ "." ++ name)
  | .item _ object key => do
    let parts ← match key with
      | .tuple _ [only] => (only.hintText? false).map (· ++ ",")
      | .tuple _ (first :: more) => (hintTexts? (first :: more)).map (String.intercalate ", ")
      | .tuple _ [] => some "()"
      | e => e.hintText? false
    some ((← object.hintText? true) ++ "[" ++ parts ++ "]")
  | .list _ items => (hintTexts? items).map fun texts => "[" ++ String.intercalate ", " texts ++ "]"
  | .binary _ .bitOr left right =>
    if closed then none
    else do some ((← left.hintText? false) ++ " | " ++ (← right.hintText? true))
  | _ => none

def hintTexts? : List Expr → Option (List String)
  | [] => some []
  | e :: rest => do some ((← e.hintText? false) :: (← hintTexts? rest))

end

def Expr.targetNames : Expr → List String
  | .name _ id => [id]
  | .star _ value => value.targetNames
  | .tuple _ items | .list _ items => items.attach.flatMap fun ⟨x, _⟩ => x.targetNames
  | _ => []

/-- The names that assigning to a target binds, those that expressions in it bind included. -/
def Expr.placedNames (e : Expr) : List String :=
  e.targetNames ++ e.bindings

/-- The name under which something is brought; of a module inside others, the outermost is brought.
-/
def Alias.bound (a : Alias) : String :=
  a.newName.getD (a.path.headD "")

mutual

/-- The names that a value is bound to if it looks like a pattern, in the order in which they are.
-/
def Pattern.bound : Pattern → List String
  | .anything _ | .equal _ _ | .constant _ _ => []
  | .capture _ name => [name]
  | .sequence _ items => boundInPatterns items
  | .rest _ name => name.toList
  | .mapping _ _ values rest => boundInPatterns values ++ rest.toList
  | .instance_ _ _ positional _ named => boundInPatterns positional ++ boundInPatterns named
  | .either _ options => boundInPatterns options
  | .named _ pattern name => pattern.bound ++ [name]

def boundInPatterns : List Pattern → List String
  | [] => []
  | p :: rest => p.bound ++ boundInPatterns rest

end

def bindingsOf (e : Option Expr) : List String :=
  (e.map Expr.bindings).getD []

mutual

/-- The names that a statement binds in the function or the class it belongs to. -/
def Stmt.bound : Stmt → List String
  | .evaluate value => value.bindings
  | .assign targets value => targets.flatMap Expr.placedNames ++ value.bindings
  | .update _ target _ value => target.placedNames ++ value.bindings
  | .annotate _ simple target hint value =>
    (if simple || value.isSome then target.targetNames else []) ++ target.bindings ++
      hint.bindings ++ bindingsOf value
  | .delete targets => targets.flatMap Expr.placedNames
  | .pass | .leave _ | .next _ | .globals _ _ | .nonlocals _ _ | .bringAll _ _ _ => []
  | .giveBack _ value => bindingsOf value
  | .raise _ error cause => bindingsOf error ++ bindingsOf cause
  | .assert _ test message => test.bindings ++ bindingsOf message
  | .branch test yes no => test.bindings ++ boundIn yes ++ boundIn no
  | .repeat_ _ test body otherwise => test.bindings ++ boundIn body ++ boundIn otherwise
  | .each _ _ target source body otherwise =>
    target.placedNames ++ source.bindings ++ boundIn body ++ boundIn otherwise
  | .define _ _ decorators name params returns _ =>
    name :: (decorators.map Decorator.function ++ params.flatMap Param.parts ++
      returns.toList).flatMap Expr.bindings
  | .class_ _ decorators name arguments _ _ =>
    name :: (decorators.map Decorator.function ++ arguments.flatMap Argument.parts).flatMap
      Expr.bindings
  | .attempt _ body handlers otherwise cleanup =>
    boundIn body ++ boundInHandlers handlers ++ boundIn otherwise ++ boundIn cleanup
  | .manage _ _ managed body =>
    (managed.flatMap fun item =>
      item.object.bindings ++ item.target.toList.flatMap Expr.placedNames) ++
      boundIn body
  | .select _ subject cases => subject.bindings ++ boundInCases cases
  | .bring _ modules => modules.map Alias.bound
  | .bringFrom _ _ names => names.map Alias.bound

def boundIn : List Stmt → List String
  | [] => []
  | s :: rest => s.bound ++ boundIn rest

def Handler.bound : Handler → List String
  | .mk _ _ errors name body => bindingsOf errors ++ name.toList ++ boundIn body

def boundInHandlers : List Handler → List String
  | [] => []
  | h :: rest => h.bound ++ boundInHandlers rest

def Case.bound : Case → List String
  | .mk pattern guard body => pattern.bound ++ bindingsOf guard ++ boundIn body

def boundInCases : List Case → List String
  | [] => []
  | c :: rest => c.bound ++ boundInCases rest

end

mutual

/-- Is there an annotated target in a statement, functions and classes apart? -/
def Stmt.annotates : Stmt → Bool
  | .annotate _ _ _ _ _ => true
  | .branch _ yes no => annotatesIn yes || annotatesIn no
  | .repeat_ _ _ body otherwise | .each _ _ _ _ body otherwise =>
    annotatesIn body || annotatesIn otherwise
  | .attempt _ body handlers otherwise cleanup =>
    annotatesIn body || annotatesInHandlers handlers || annotatesIn otherwise || annotatesIn cleanup
  | .manage _ _ _ body => annotatesIn body
  | .select _ _ cases => annotatesInCases cases
  | _ => false

def annotatesIn : List Stmt → Bool
  | [] => false
  | s :: rest => s.annotates || annotatesIn rest

def annotatesInHandlers : List Handler → Bool
  | [] => false
  | .mk _ _ _ _ body :: rest => annotatesIn body || annotatesInHandlers rest

def annotatesInCases : List Case → Bool
  | [] => false
  | .mk _ _ body :: rest => annotatesIn body || annotatesInCases rest

end

mutual

/-- The names that a statement declares to be global (`true`) or of an enclosing function. -/
def Stmt.declared (global : Bool) : Stmt → List String
  | .globals _ names => if global then names else []
  | .nonlocals _ names => if global then [] else names
  | .branch _ yes no => declaredIn global yes ++ declaredIn global no
  | .repeat_ _ _ body otherwise => declaredIn global body ++ declaredIn global otherwise
  | .each _ _ _ _ body otherwise => declaredIn global body ++ declaredIn global otherwise
  | .attempt _ body handlers otherwise cleanup =>
    declaredIn global body ++ declaredInHandlers global handlers ++
      declaredIn global otherwise ++ declaredIn global cleanup
  | .manage _ _ _ body => declaredIn global body
  | .select _ _ cases => declaredInCases global cases
  | _ => []

def declaredIn (global : Bool) : List Stmt → List String
  | [] => []
  | s :: rest => s.declared global ++ declaredIn global rest

def Handler.declared (global : Bool) : Handler → List String
  | .mk _ _ _ _ body => declaredIn global body

def declaredInHandlers (global : Bool) : List Handler → List String
  | [] => []
  | h :: rest => h.declared global ++ declaredInHandlers global rest

def declaredInCases (global : Bool) : List Case → List String
  | [] => []
  | .mk _ _ body :: rest => declaredIn global body ++ declaredInCases global rest

end

end Codeweave.Script
