import Transceiver.Trace

/-!
# Runs

A run has a value, a trace and a final state.  Each of them is taken apart along the sequence of a
program, and the final state is what the trace makes of the first one.
-/

namespace Transceiver

namespace Program

variable {σ α β : Type}

/-- What a program returns from a state. -/
def value (p : Program α) (env : Environment σ) (s : σ) : α := (p.run env s).1

/-- What happens on the way. -/
def trace (p : Program α) (env : Environment σ) (s : σ) : Trace := (p.run env s).2.1

/-- The state that a program ends in. -/
def final (p : Program α) (env : Environment σ) (s : σ) : σ := (p.run env s).2.2

variable (env : Environment σ) (s : σ)

@[simp] theorem value_done (a : α) : (done a).value env s = a := rfl

@[simp] theorem trace_done (a : α) : (done a).trace env s = [] := rfl

@[simp] theorem final_done (a : α) : (done a).final env s = s := rfl

theorem value_ask (action : Action) (next : action.Reply → Program α) :
    (ask action next).value env s =
      (next (env action s).1).value env (env action s).2 := rfl

theorem trace_ask (action : Action) (next : action.Reply → Program α) :
    (ask action next).trace env s =
      ⟨action, (env action s).1⟩ ::
        (next (env action s).1).trace env (env action s).2 := rfl

theorem final_ask (action : Action) (next : action.Reply → Program α) :
    (ask action next).final env s =
      (next (env action s).1).final env (env action s).2 := rfl

/-- A sequence runs its second part from where the first one ends. -/
theorem value_bind (p : Program α) (f : α → Program β) :
    (p.bind f).value env s = (f (p.value env s)).value env (p.final env s) := by
  induction p generalizing s with
  | done a => rfl
  | ask action next ih => exact ih _ _

theorem trace_bind (p : Program α) (f : α → Program β) :
    (p.bind f).trace env s =
      p.trace env s ++ (f (p.value env s)).trace env (p.final env s) := by
  induction p generalizing s with
  | done a => rfl
  | ask action next ih => exact congrArg (_ :: ·) (ih _ _)

theorem final_bind (p : Program α) (f : α → Program β) :
    (p.bind f).final env s = (f (p.value env s)).final env (p.final env s) := by
  induction p generalizing s with
  | done a => rfl
  | ask action next ih => exact ih _ _

end Program

namespace Trace

variable {σ : Type} (env : Environment σ)

/-- The state of an environment after the events of a trace. -/
def replay (t : Trace) (s : σ) : σ := t.foldl (fun s e ↦ (env e.action s).2) s

/-- Every reply in the trace is the one that the environment gives at that point. -/
def Answered : Trace → σ → Prop
  | [], _ => True
  | e :: t, s => e.reply = (env e.action s).1 ∧ Answered t (env e.action s).2

/-- The transactions of a trace are those of its parts, in order. -/
theorem transactions_append (t t' : Trace) :
    (t ++ t').transactions = t.transactions ++ t'.transactions := List.filterMap_append

theorem Answered.of_append {t t' : Trace} {s : σ} (h : Answered env (t ++ t') s) :
    Answered env t s := by
  induction t generalizing s with
  | nil => trivial
  | cons e t ih => exact ⟨h.1, ih h.2⟩

end Trace

namespace Program

variable {σ α : Type} (env : Environment σ)

/-- A run ends where its trace leads. -/
theorem replay_trace (p : Program α) (s : σ) :
    Trace.replay env (p.trace env s) s = p.final env s := by
  induction p generalizing s with
  | done a => rfl
  | ask action next ih => exact ih _ _

theorem answered_trace (p : Program α) (s : σ) : Trace.Answered env (p.trace env s) s := by
  induction p generalizing s with
  | done a => trivial
  | ask action next ih => exact ⟨rfl, ih _ _⟩

end Program

/-! ## What is returned -/

namespace Program

variable {α β : Type}

/-- Whatever is answered, the program returns something as `Q` says. -/
def Returns (p : Program α) (Q : α → Prop) : Prop :=
  ∀ (σ : Type) (env : Environment σ) (s : σ), Q (p.value env s)

namespace Returns

variable {p : Program α} {f : α → Program β} {Q : α → Prop} {R : β → Prop}

theorem done {a : α} (h : Q a) : (Program.done a).Returns Q := fun _ _ _ ↦ h

theorem ask {action : Action} {next : action.Reply → Program α}
    (h : ∀ reply, (next reply).Returns Q) : (Program.ask action next).Returns Q :=
  fun σ env s ↦ h (env action s).1 σ env (env action s).2

theorem bind (h : p.Returns Q) (hf : ∀ a, Q a → (f a).Returns R) : (p.bind f).Returns R := by
  intro σ env s
  rw [value_bind]
  exact hf _ (h σ env s) σ env _

theorem trivial (p : Program α) : p.Returns fun _ ↦ True := fun _ _ _ ↦ True.intro

end Returns

end Program

/-! ## Procedures -/

namespace Procedure

variable {α β : Type}

/-- What follows a step of a procedure: the rest, unless the step failed. -/
def andThen (f : α → Procedure β) : Except Error α → Program (Except Error β)
  | .ok a => (f a).run
  | .error e => .done (.error e)

theorem run_bind (p : Procedure α) (f : α → Procedure β) :
    (p >>= f).run = p.run.bind (andThen f) := by
  change p.run.bind _ = _
  congr 1
  funext r
  cases r <;> rfl

theorem run_lift (p : Program α) :
    (liftM p : Procedure α).run = p.bind fun a ↦ .done (.ok a) := rfl

variable {σ : Type} {env : Environment σ}

/-- From `s` a procedure returns `r`, and ends in `s'`. -/
structure RunsTo (env : Environment σ) (p : Procedure α) (s : σ) (r : Except Error α)
    (s' : σ) : Prop where
  value : p.run.value env s = r
  final : p.run.final env s = s'

namespace RunsTo

variable {p : Procedure α} {f : α → Procedure β} {s s₁ s₂ : σ}

theorem pure (a : α) (s : σ) : RunsTo env (Pure.pure a) s (.ok a) s := ⟨rfl, rfl⟩

theorem throw (e : Error) (s : σ) :
    RunsTo env (MonadExcept.throw e : Procedure α) s (.error e) s := ⟨rfl, rfl⟩

theorem bind {a : α} {r : Except Error β} (h : p.RunsTo env s (.ok a) s₁)
    (hf : (f a).RunsTo env s₁ r s₂) : (p >>= f).RunsTo env s r s₂ := by
  constructor
  · rw [run_bind, Program.value_bind, h.value, h.final]
    exact hf.value
  · rw [run_bind, Program.final_bind, h.value, h.final]
    exact hf.final

theorem bind_error {e : Error} (h : p.RunsTo env s (.error e) s₁) :
    (p >>= f).RunsTo env s (.error e) s₁ := by
  constructor
  · rw [run_bind, Program.value_bind, h.value, h.final]
    rfl
  · rw [run_bind, Program.final_bind, h.value, h.final]
    rfl

theorem lift (p : Program α) (s : σ) :
    RunsTo env (liftM p : Procedure α) s (.ok (p.value env s)) (p.final env s) := by
  constructor
  · rw [run_lift, Program.value_bind]
    rfl
  · rw [run_lift, Program.final_bind]
    rfl

theorem liftExcept (r : Except Error α) (s : σ) :
    RunsTo env (liftM r : Procedure α) s r s := ⟨rfl, rfl⟩

end RunsTo

end Procedure

end Transceiver
