import Transceiver.Proofs.Run

/-!
# Programs and their parts

Most of what a driver does is a sequence of a few kinds of parts.  A property of programs that holds
of the parts and is kept in sequence then holds of all that it does.
-/

namespace Transceiver

/-- A kind of programs. -/
abbrev Parts := (α : Type) → Program α → Prop

/-- A sequence of parts of some kind, each of which may depend on what those before returned. -/
inductive Program.MadeOf (part : Parts) : {α : Type} → Program α → Prop
  | part {α : Type} {p : Program α} : part α p → MadeOf part p
  | done {α : Type} (a : α) : MadeOf part (.done a)
  | bind {α β : Type} {p : Program α} {f : α → Program β} :
      MadeOf part p → (∀ a, MadeOf part (f a)) → MadeOf part (p.bind f)

/-- The single actions of some kind. -/
inductive Single (allowed : Action → Prop) : Parts
  | perform (action : Action) : allowed action → Single allowed _ (perform action)

namespace Program.MadeOf

variable {part part' : Parts} {α β : Type}

/-- What is made of parts that are made of others is made of the others. -/
theorem trans {p : Program α} (h : p.MadeOf part)
    (hpart : ∀ (β : Type) (q : Program β), part β q → q.MadeOf part') : p.MadeOf part' := by
  induction h with
  | part h => exact hpart _ _ h
  | done a => exact .done a
  | bind _ _ ih ihf => exact .bind ih ihf

theorem imp {p : Program α} (h : p.MadeOf part)
    (hpart : ∀ (β : Type) (q : Program β), part β q → part' β q) : p.MadeOf part' :=
  h.trans fun β q hq ↦ .part (hpart β q hq)

/-- What holds from the start to the end of each part holds so of what is made of them. -/
theorem final_rel {σ : Type} {env : Environment σ} {R : σ → σ → Prop} (hrefl : ∀ s, R s s)
    (htrans : ∀ {s s' s''}, R s s' → R s' s'' → R s s'') {p : Program α} (h : p.MadeOf part)
    (hpart : ∀ (β : Type) (q : Program β), part β q → ∀ s, R s (q.final env s)) (s : σ) :
    R s (p.final env s) := by
  induction h generalizing s with
  | part h => exact hpart _ _ h s
  | done a => exact hrefl s
  | bind _ _ ih ihf =>
    rw [final_bind]
    exact htrans (ih s) (ihf _ _)

/-- In a run of single actions of some kind there are no others. -/
theorem forall_trace {σ : Type} {allowed : Action → Prop} {p : Program α}
    (h : p.MadeOf (Single allowed)) (env : Environment σ) (s : σ) :
    ∀ e ∈ p.trace env s, allowed e.action := by
  induction h generalizing s with
  | part h =>
    cases h with
    | perform action ha =>
      intro e he
      rw [perform, trace_ask, trace_done, List.mem_singleton] at he
      rw [he]
      exact ha
  | done a => exact fun e he ↦ nomatch he
  | bind _ _ ih ihf =>
    intro e he
    rw [trace_bind, List.mem_append] at he
    rcases he with he | he
    · exact ih s e he
    · exact ihf _ _ e he

end Program.MadeOf

/-! ## Procedures -/

/-- A procedure of parts of some kind; it ends early when one of them fails. -/
def Procedure.MadeOf {α : Type} (part : Parts) (p : Procedure α) : Prop := p.run.MadeOf part

namespace Procedure.MadeOf

variable {part part' : Parts} {α β : Type}

theorem pure (a : α) : Procedure.MadeOf part (Pure.pure a) := .done _

theorem throw (e : Error) : Procedure.MadeOf part (MonadExcept.throw e : Procedure α) := .done _

theorem bind {p : Procedure α} {f : α → Procedure β} (h : p.MadeOf part)
    (hf : ∀ a, (f a).MadeOf part) : Procedure.MadeOf part (p >>= f) := by
  unfold Procedure.MadeOf
  rw [Procedure.run_bind]
  refine Program.MadeOf.bind h fun r ↦ ?_
  cases r with
  | ok a => exact hf a
  | error e => exact .done _

theorem map {p : Procedure α} {f : α → β} (h : p.MadeOf part) :
    Procedure.MadeOf part (f <$> p) := h.bind fun a ↦ .pure (f a)

theorem lift {p : Program α} (h : p.MadeOf part) :
    Procedure.MadeOf part (liftM p : Procedure α) := Program.MadeOf.bind h fun _ ↦ .done _

theorem liftExcept (r : Except Error α) : Procedure.MadeOf part (liftM r : Procedure α) := .done _

theorem ite {c : Prop} [Decidable c] {p q : Procedure α} (hp : p.MadeOf part)
    (hq : q.MadeOf part) : Procedure.MadeOf part (if c then p else q) := by
  split
  · exact hp
  · exact hq

/-- A procedure that goes on only if a condition holds. -/
theorem require {c : Prop} [Decidable c] {e : Error} {p : Procedure α} (h : p.MadeOf part) :
    Procedure.MadeOf part (if c then p else (do MonadExcept.throw e; p)) :=
  .ite h (.bind (.throw e) fun _ ↦ h)

/-- A procedure that goes on only if a condition fails. -/
theorem refuse {c : Prop} [Decidable c] {e : Error} {p : Procedure α} (h : p.MadeOf part) :
    Procedure.MadeOf part (if c then (do MonadExcept.throw e; p) else p) :=
  .ite (.bind (.throw e) fun _ ↦ h) h

theorem trans {p : Procedure α} (h : p.MadeOf part)
    (hpart : ∀ (β : Type) (q : Program β), part β q → q.MadeOf part') : p.MadeOf part' :=
  Program.MadeOf.trans h hpart

theorem imp {p : Procedure α} (h : p.MadeOf part)
    (hpart : ∀ (β : Type) (q : Program β), part β q → part' β q) : p.MadeOf part' :=
  Program.MadeOf.imp h hpart

end Procedure.MadeOf

end Transceiver
