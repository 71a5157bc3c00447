import Transceiver.Proofs.Parts

/-!
# Observers

An observer reads a trace event by event and refuses what must not happen.  A program passes an
observer if that lets every event of it pass, whatever the surroundings answer.
-/

namespace Transceiver

/-- The state of an observer after an event, unless it refuses the event. -/
abbrev Observer (S : Type) := S → Event → Option S

namespace Trace

variable {S : Type}

/-- The state of an observer after the events of a trace, if it lets all of them pass. -/
def watch (m : Observer S) (t : Trace) (s : S) : Option S := t.foldlM m s

@[simp] theorem watch_nil (m : Observer S) (s : S) : watch m [] s = some s := rfl

theorem watch_cons (m : Observer S) (e : Event) (t : Trace) (s : S) :
    watch m (e :: t) s = (m s e).bind (watch m t) := List.foldlM_cons

theorem watch_append (m : Observer S) (t t' : Trace) (s : S) :
    watch m (t ++ t') s = (watch m t s).bind (watch m t') := List.foldlM_append

/-- An observer that lets a trace pass lets each event pass in the state that it meets it in. -/
theorem watch_split {m : Observer S} {past future : Trace} {e : Event} {s s' : S}
    (h : watch m (past ++ e :: future) s = some s') :
    ∃ s₁ s₂, watch m past s = some s₁ ∧ m s₁ e = some s₂ := by
  rw [watch_append] at h
  obtain ⟨s₁, h₁, h⟩ := Option.bind_eq_some_iff.mp h
  rw [watch_cons] at h
  obtain ⟨s₂, h₂, -⟩ := Option.bind_eq_some_iff.mp h
  exact ⟨s₁, s₂, h₁, h₂⟩

/-- An observer that refuses less lets pass what the other does. -/
theorem watch_of_imp {m m' : Observer S} (hm : ∀ s e s', m s e = some s' → m' s e = some s')
    {t : Trace} {s s' : S} (h : watch m t s = some s') : watch m' t s = some s' := by
  induction t generalizing s with
  | nil => exact h
  | cons e t ih =>
    rw [watch_cons] at h ⊢
    obtain ⟨s₁, h₁, h⟩ := Option.bind_eq_some_iff.mp h
    rw [hm _ _ _ h₁]
    exact ih h

/-- What is kept of the state of an observer and of the surroundings at every event that they answer
is kept along a trace. -/
theorem watch_keeps {σ : Type} {m : Observer S} {env : Environment σ} {I : S → σ → Prop}
    (hstep : ∀ s x, I s x → ∀ action s', m s ⟨action, (env action x).1⟩ = some s' →
      I s' (env action x).2)
    {t : Trace} {s s' : S} {x : σ} (h : I s x) (ht : t.Answered env x)
    (hwatch : watch m t s = some s') : I s' (t.replay env x) := by
  induction t generalizing s x with
  | nil =>
    cases hwatch
    exact h
  | cons e t ih =>
    obtain ⟨action, reply⟩ := e
    obtain ⟨hreply, ht⟩ := ht
    cases (show reply = (env action x).1 from hreply)
    rw [watch_cons] at hwatch
    obtain ⟨s₁, h₁, hwatch⟩ := Option.bind_eq_some_iff.mp hwatch
    exact ih (hstep _ _ h action s₁ h₁) ht hwatch

end Trace

namespace Program

variable {S α β : Type} {m : Observer S}

/-- Whatever is answered, the observer lets the program pass from a state, and what it returns
there is as `Q` says. -/
def Passes (m : Observer S) : Program α → S → (α → S → Prop) → Prop
  | .done a, s, Q => Q a s
  | .ask action next, s, Q =>
    ∀ reply, ∃ s', m s ⟨action, reply⟩ = some s' ∧ Passes m (next reply) s' Q

theorem Passes.imp {p : Program α} {s : S} {Q Q' : α → S → Prop} (h : p.Passes m s Q)
    (hQ : ∀ a s', Q a s' → Q' a s') : p.Passes m s Q' := by
  induction p generalizing s with
  | done a => exact hQ a s h
  | ask action next ih =>
    intro reply
    obtain ⟨s', hs', h'⟩ := h reply
    exact ⟨s', hs', ih reply h'⟩

theorem Passes.bind {p : Program α} {f : α → Program β} {s : S} {Q : α → S → Prop}
    {R : β → S → Prop} (h : p.Passes m s Q) (hf : ∀ a s', Q a s' → (f a).Passes m s' R) :
    (p.bind f).Passes m s R := by
  induction p generalizing s with
  | done a => exact hf a s h
  | ask action next ih =>
    intro reply
    obtain ⟨s', hs', h'⟩ := h reply
    exact ⟨s', hs', ih reply h'⟩

/-- The observer lets every run of the program pass. -/
theorem Passes.watch_trace {σ : Type} {p : Program α} {s : S} {Q : α → S → Prop}
    (h : p.Passes m s Q) (env : Environment σ) (x : σ) :
    ∃ s', Trace.watch m (p.trace env x) s = some s' ∧ Q (p.value env x) s' := by
  induction p generalizing s x with
  | done a => exact ⟨s, rfl, h⟩
  | ask action next ih =>
    obtain ⟨s₁, hs₁, h₁⟩ := h (env action x).1
    obtain ⟨s', hs', hQ⟩ := ih _ h₁ (env action x).2
    refine ⟨s', ?_, hQ⟩
    rw [trace_ask, Trace.watch_cons, hs₁]
    exact hs'

/-- Whatever is answered, the observer lets the program pass from the states that satisfy `P`, and
is in one of them in the end. -/
def Preserves (m : Observer S) (P : S → Prop) (p : Program α) : Prop :=
  ∀ s, P s → p.Passes m s fun _ s' ↦ P s'

/-- What is kept by the parts of a program is kept by the program. -/
theorem MadeOf.preserves {part : Parts} {P : S → Prop} {p : Program α} (h : p.MadeOf part)
    (hpart : ∀ (β : Type) (q : Program β), part β q → q.Preserves m P) : p.Preserves m P := by
  induction h with
  | part h => exact hpart _ _ h
  | done a => exact fun s hs ↦ hs
  | bind _ _ ih ihf => exact fun s hs ↦ (ih s hs).bind fun a s' hs' ↦ ihf a s' hs'

/-- A single action keeps what the observer keeps after it. -/
theorem preserves_perform {P : S → Prop} {action : Action}
    (h : ∀ reply s, P s → ∃ s', m s ⟨action, reply⟩ = some s' ∧ P s') :
    (perform action).Preserves m P := fun s hs reply ↦ h reply s hs

end Program

end Transceiver
