import Codeweave.Command.Run
import Mathlib.Order.Defs.Unbundled
import Mathlib.Tactic.Common

/-!
The steps of commands, carried out from what a command has on its desk. A step only adds to what was
said. Two steps that do the same as long as no line is written make up commands that do the same as
long as no line is written.
-/

namespace Codeweave.Command

/-- Does a step of a command: its result or what ended it, and the desk afterwards. -/
def workFrom {α : Type} (d : Desk) (step : Work α) : Except Escape α × Desk :=
  step.run.run d

def Silent (said : Journal) : Prop :=
  ∀ line, Event.out line ∉ said

theorem silent_append {first second : Journal} :
    Silent (first ++ second) ↔ Silent first ∧ Silent second := by
  simp only [Silent, List.mem_append, not_or, forall_and]

theorem silent_map_remark (remarks : List Remark) : Silent (remarks.map Event.remark) := by
  intro line hline
  obtain ⟨remark, -, hremark⟩ := List.mem_map.mp hline
  simp at hremark

variable {α β : Type}

/-! ### Single steps -/

section

variable (d : Desk)

@[simp] theorem workFrom_pure (a : α) : workFrom d (pure a) = (.ok a, d) := rfl

@[simp] theorem workFrom_throw (escape : Escape) :
    workFrom d (throw escape : Work α) = (.error escape, d) := rfl

@[simp] theorem workFrom_get : workFrom d get = (.ok d, d) := rfl

@[simp] theorem workFrom_set (d' : Desk) : workFrom d (set d' : Work Unit) = (.ok (), d') := rfl

@[simp] theorem workFrom_report (events : Journal) :
    workFrom d (report events) = (.ok (), { d with said := d.said ++ events }) := rfl

theorem workFrom_bind (step : Work α) (next : α → Work β) :
    workFrom d (step >>= next) =
      match workFrom d step with
      | (.ok a, d') => workFrom d' (next a)
      | (.error escape, d') => (.error escape, d') := by
  simp only [workFrom, ExceptT.run_bind, StateT.run_bind]
  rcases h : step.run.run d with ⟨_ | _, _⟩ <;> rfl

theorem workFrom_both_eq_ok_iff {d d' : Desk} {step step' : Work Bool} {well : Bool} :
    workFrom d (do
        let first ← step
        let second ← step'
        pure (first && second)) = (.ok well, d') ↔
      ∃ first d₁ second, workFrom d step = (.ok first, d₁) ∧
        workFrom d₁ step' = (.ok second, d') ∧ well = (first && second) := by
  rw [workFrom_bind]
  rcases workFrom d step with ⟨escape | first, d₁⟩
  · simp
  · simp only [workFrom_bind, Prod.mk.injEq, Except.ok.injEq, exists_and_left, existsAndEq,
      true_and]
    rcases workFrom d₁ step' with ⟨escape | second, d₂⟩
    · simp
    · simp only [workFrom_pure, Prod.mk.injEq, Except.ok.injEq]
      constructor
      · rintro ⟨rfl, rfl⟩
        exact ⟨second, ⟨rfl, rfl⟩, rfl⟩
      · rintro ⟨_, ⟨rfl, rfl⟩, rfl⟩
        exact ⟨rfl, rfl⟩

theorem workFrom_tryCatch (step : Work α) (handle : Escape → Work α) :
    workFrom d (tryCatchThe Escape step handle) =
      match workFrom d step with
      | (.error escape, d') => workFrom d' (handle escape)
      | ended => ended := by
  simp only [workFrom, ExceptT.run, tryCatchThe, MonadExceptOf.tryCatch, ExceptT.tryCatch,
    ExceptT.mk, StateT.run_bind]
  rcases StateT.run step d with ⟨_ | _, _⟩ <;> rfl

theorem workFrom_tolerant (p : Path) (step : Work Bool) :
    workFrom d (tolerant p step) =
      match workFrom d step with
      | (.error (.fault fault), d') =>
          (.ok false, { d' with said := d'.said ++ [.err (fault.describe p.text)] })
      | ended => ended := by
  rw [tolerant, workFrom_tryCatch]
  rcases workFrom d step with ⟨escape | well, d'⟩
  · cases escape <;> rfl
  · rfl

end

/-! ### From desk to desk -/

/-- Whatever desk the step starts from, it ends at one that is related to it. -/
def Leads (R : Desk → Desk → Prop) (step : Work α) : Prop :=
  ∀ d, R d (workFrom d step).2

def SameTree (d d' : Desk) : Prop :=
  d'.tree = d.tree

/-- All that was said stays said. -/
def Continues (d d' : Desk) : Prop :=
  d.said <+: d'.said

instance : Std.Refl SameTree := ⟨fun _ => rfl⟩

instance : IsTrans Desk SameTree := ⟨fun _ _ _ hfirst hsecond => hsecond.trans hfirst⟩

instance : Std.Refl Continues := ⟨fun _ => List.prefix_rfl⟩

instance : IsTrans Desk Continues := ⟨fun _ _ _ hfirst hsecond => hfirst.trans hsecond⟩

theorem Silent.of_continued {said said' : Journal} (h : Silent said') (hbefore : said <+: said') :
    Silent said := by
  obtain ⟨events, rfl⟩ := hbefore
  exact (silent_append.mp h).1

section

variable {R : Desk → Desk → Prop}

theorem Leads.bind [IsTrans Desk R] {step : Work α} {next : α → Work β} (hstep : Leads R step)
    (hnext : ∀ a, Leads R (next a)) : Leads R (step >>= next) := by
  intro d
  have hd := hstep d
  rw [workFrom_bind]
  rcases hfirst : workFrom d step with ⟨escape | a, d'⟩
  · rwa [hfirst] at hd
  · rw [hfirst] at hd
    exact IsTrans.trans _ _ _ hd (hnext a d')

variable [Std.Refl R]

theorem leads_pure (a : α) : Leads R (pure a : Work α) :=
  fun d => Std.Refl.refl d

theorem leads_throw (escape : Escape) : Leads R (throw escape : Work α) :=
  fun d => Std.Refl.refl d

theorem leads_get : Leads R (get : Work Desk) :=
  fun d => Std.Refl.refl d

variable [IsTrans Desk R] {work : Path → Work Bool}

theorem Leads.onFiles (h : ∀ p, Leads R (work p)) (paths : List Path) :
    Leads R (onFiles work paths) := by
  induction paths with
  | nil => exact leads_pure true
  | cons p rest ih => exact (h p).bind fun _ => ih.bind fun _ => leads_pure _

theorem Leads.onPaths (h : ∀ p, Leads R (work p)) (paths : List Path) :
    Leads R (onPaths work paths) := by
  induction paths with
  | nil => exact leads_pure true
  | cons p rest ih =>
      refine leads_get.bind fun d => ?_
      cases candidates d.tree p with
      | error e => exact leads_throw _
      | ok paths => exact (Leads.onFiles h paths).bind fun _ => ih.bind fun _ => leads_pure _

end

/-! ### Quiet steps -/

/-- The step comes to its end, and no line is written then. -/
def Quiet (d : Desk) (step : Work α) : Prop :=
  (∃ a, (workFrom d step).1 = .ok a) ∧ Silent (workFrom d step).2.said

/-- The first step of a quiet sequence is quiet, and so is what follows. -/
theorem Quiet.of_bind {step : Work α} {next : α → Work β} (hnext : ∀ a, Leads Continues (next a))
    {d : Desk} (h : Quiet d (step >>= next)) :
    Quiet d step ∧ ∃ a d', workFrom d step = (.ok a, d') ∧ Quiet d' (next a) := by
  rw [Quiet, workFrom_bind] at h
  rcases hfirst : workFrom d step with ⟨escape | a, d'⟩
  · rw [hfirst] at h
    obtain ⟨⟨b, hb⟩, -⟩ := h
    simp at hb
  · rw [hfirst] at h
    refine ⟨⟨⟨a, by rw [hfirst]⟩, ?_⟩, a, d', rfl, h⟩
    rw [hfirst]
    exact h.2.of_continued (hnext a d')

/-- Both steps only add to what was said, and they do the same from any desk from which one of them
is quiet. -/
structure Foretells (step step' : Work α) : Prop where
  adds : Leads Continues step
  adds' : Leads Continues step'
  alike : ∀ d, Quiet d step ∨ Quiet d step' → workFrom d step = workFrom d step'

theorem foretells_self {step : Work α} (hadds : Leads Continues step) : Foretells step step :=
  ⟨hadds, hadds, fun _ _ => rfl⟩

theorem Foretells.bind {step step' : Work α} {next next' : α → Work β}
    (hstep : Foretells step step') (hnext : ∀ a, Foretells (next a) (next' a)) :
    Foretells (step >>= next) (step' >>= next') := by
  refine ⟨hstep.adds.bind fun a => (hnext a).adds, hstep.adds'.bind fun a => (hnext a).adds', ?_⟩
  intro d hquiet
  rw [workFrom_bind, workFrom_bind]
  rcases hquiet with hquiet | hquiet
  · obtain ⟨hfirst, a, d', hrun, hrest⟩ := hquiet.of_bind fun a => (hnext a).adds
    rw [← hstep.alike d (Or.inl hfirst), hrun]
    exact (hnext a).alike d' (Or.inl hrest)
  · obtain ⟨hfirst, a, d', hrun, hrest⟩ := hquiet.of_bind fun a => (hnext a).adds'
    rw [hstep.alike d (Or.inr hfirst), hrun]
    exact (hnext a).alike d' (Or.inr hrest)

section

variable {work work' : Path → Work Bool} (h : ∀ p, Foretells (work p) (work' p))

include h

theorem Foretells.onFiles (paths : List Path) :
    Foretells (onFiles work paths) (onFiles work' paths) := by
  induction paths with
  | nil => exact foretells_self (leads_pure true)
  | cons p rest ih =>
      exact (h p).bind fun _ => ih.bind fun _ => foretells_self (leads_pure _)

theorem Foretells.onPaths (paths : List Path) :
    Foretells (onPaths work paths) (onPaths work' paths) := by
  induction paths with
  | nil => exact foretells_self (leads_pure true)
  | cons p rest ih =>
      refine (foretells_self leads_get).bind fun d => ?_
      cases candidates d.tree p with
      | error e => exact foretells_self (leads_throw _)
      | ok paths =>
          exact (Foretells.onFiles h paths).bind fun _ => ih.bind fun _ =>
            foretells_self (leads_pure _)

end

/-! ### Trouble -/

/-- If all is well in the end, no line was written. -/
def TellsTrouble (step : Work Bool) : Prop :=
  ∀ d, (workFrom d step).1 = .ok true → Silent d.said → Silent (workFrom d step).2.said

theorem TellsTrouble.both {step step' : Work Bool} (h : TellsTrouble step)
    (h' : TellsTrouble step') :
    TellsTrouble (do
      let first ← step
      let second ← step'
      pure (first && second)) := by
  intro d htrue hsilent
  rcases hrun : workFrom d (do
    let first ← step
    let second ← step'
    pure (first && second)) with ⟨ended, d'⟩
  rw [hrun] at htrue
  subst htrue
  obtain ⟨first, d₁, second, hfirst, hsecond, hboth⟩ := workFrom_both_eq_ok_iff.mp hrun
  obtain ⟨rfl, rfl⟩ := Bool.and_eq_true_iff.mp hboth.symm
  have hd₁ := h d (by rw [hfirst]) hsilent
  rw [hfirst] at hd₁
  have hd' := h' d₁ (by rw [hsecond]) hd₁
  rwa [hsecond] at hd'

section

variable {work : Path → Work Bool} (h : ∀ p, TellsTrouble (work p))

include h

theorem TellsTrouble.onFiles (paths : List Path) : TellsTrouble (onFiles work paths) := by
  induction paths with
  | nil => exact fun _ _ hsilent => hsilent
  | cons p rest ih => exact (h p).both ih

theorem TellsTrouble.onPaths (paths : List Path) : TellsTrouble (onPaths work paths) := by
  induction paths with
  | nil => exact fun _ _ hsilent => hsilent
  | cons p rest ih =>
      intro d
      rw [Command.onPaths, workFrom_bind, workFrom_get]
      simp only
      cases candidates d.tree p with
      | error e => simp
      | ok paths => exact (TellsTrouble.onFiles h paths).both ih d

end

end Codeweave.Command
