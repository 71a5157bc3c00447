import Transceiver.Proofs.Adapter
import Transceiver.Proofs.Conduct.Query

/-!
# Refused transactions

An operation that goes on after the bus has refused a transaction may leave a module half way.  Main
statement: whatever the surroundings answer, a refused transaction is the last one of an operation
but for going back to page zero, and the operation fails with an error that tells the device and the
offset of it.

Going back to page zero may be refused as well, which is reported and nothing more.  The operations
that are done as far as possible are excepted: initialization, the controls of a module, the kind of
an adapter and the presence of a second port.
-/

namespace Transceiver

variable {α β : Type}

/-! ## What is told -/

/-- What an operation fails with if it tells of a refused transaction. -/
def Event.refusal? : Event → Option Error
  | ⟨.read address offset _, .error fault⟩ => some (.bus address offset fault)
  | ⟨.write address offset _, .error fault⟩ => some (.bus address offset fault)
  | _ => none

/-- An error is another one, or that of a packet which failed with it. -/
def Error.Tells (e source : Error) : Prop := e = source ∨ ∃ index, e = .chainFailed index source

/-- The device of an event goes back to page zero after another page was selected. -/
def Event.Restores (e : Event) (past : Trace) : Prop :=
  ∃ device page, (⟨.write device QsfpMap.pageSelect [page], .ok ()⟩ : Event) ∈ past ∧
    e.action = .write device QsfpMap.pageSelect [0]

theorem Event.Restores.mono {e : Event} {past past' : Trace} (h : e.Restores past)
    (hpast : past ⊆ past') : e.Restores past' := by
  obtain ⟨device, page, hmem, haction⟩ := h
  exact ⟨device, page, hpast hmem, haction⟩

/-- An event of two traces in sequence is one of the first or of the second one. -/
theorem Trace.split_append {t t' past future : Trace} {e : Event}
    (h : t ++ t' = past ++ e :: future) :
    (∃ mid, t = past ++ e :: mid ∧ future = mid ++ t') ∨
      ∃ mid, past = t ++ mid ∧ t' = mid ++ e :: future := by
  rcases List.append_eq_append_iff.mp h with ⟨mid, hpast, ht'⟩ | ⟨mid, ht, hfuture⟩
  · exact .inr ⟨mid, hpast, ht'⟩
  · cases mid with
    | nil => exact .inr ⟨[], by simpa using ht.symm, hfuture.symm⟩
    | cons e' mid =>
      obtain ⟨rfl, rfl⟩ := List.cons_eq_cons.mp hfuture
      exact .inl ⟨mid, ht, rfl⟩

namespace Program

/-- After a refused transaction there is none, and what is returned tells of it as `T` says. -/
def Stops (T : α → Error → Prop) (p : Program α) : Prop :=
  ∀ (σ : Type) (env : Environment σ) (s : σ) (past : Trace) (e : Event) (future : Trace)
    (source : Error), (p.trace env s).exchanges = past ++ e :: future →
    e.refusal? = some source → future = [] ∧ T (p.value env s) source

/-- After a refused transaction there is nothing but going back to page zero, unless it is that
itself, and what is returned tells of it as `T` says. -/
def Prompt (T : α → Error → Prop) (p : Program α) : Prop :=
  ∀ (σ : Type) (env : Environment σ) (s : σ) (past : Trace) (e : Event) (future : Trace)
    (source : Error), (p.trace env s).exchanges = past ++ e :: future →
    e.refusal? = some source → ¬(future = [] ∧ e.Restores past) →
    T (p.value env s) source ∧
      (future = [] ∨ ∃ back, future = [back] ∧ back.Restores (past ++ [e]))

variable {p : Program α} {f : α → Program β} {T : α → Error → Prop} {T' : β → Error → Prop}

namespace Stops

theorem offBus (h : p.MadeOf (Single Action.IsOffBus)) : p.Stops T := by
  intro σ env s past e future source hexchanges
  rw [h.exchanges_eq_nil] at hexchanges
  simp at hexchanges

theorem imp {T' : α → Error → Prop} (h : p.Stops T) (hT : ∀ a source, T a source → T' a source) :
    p.Stops T' := fun σ env s past e future source hexchanges he ↦
  (h σ env s past e future source hexchanges he).imp_right (hT _ _)

/-- What comes after a program that stopped does nothing on the bus. -/
theorem bind (h : p.Stops T) (hf : ∀ a, (f a).Stops T')
    (hstop : ∀ a source, T a source → (f a).MadeOf (Single Action.IsOffBus) ∧
      ∀ (σ : Type) (env : Environment σ) (s : σ), T' ((f a).value env s) source) :
    (p.bind f).Stops T' := by
  intro σ env s past e future source hexchanges he
  rw [trace_bind, Trace.exchanges_append] at hexchanges
  rw [value_bind]
  rcases Trace.split_append hexchanges with ⟨mid, hp, rfl⟩ | ⟨mid, rfl, hf'⟩
  · obtain ⟨rfl, htold⟩ := h σ env s past e mid source hp he
    obtain ⟨hquiet, htold⟩ := hstop _ _ htold
    exact ⟨hquiet.exchanges_eq_nil env _, htold σ env _⟩
  · exact hf _ σ env _ mid e future source hf' he

theorem prompt (h : p.Stops T) : p.Prompt T :=
  fun σ env s past e future source hexchanges he _ ↦
    (h σ env s past e future source hexchanges he).symm.imp_right .inl

end Stops

namespace Prompt

/-- A program that stops may come first. -/
theorem after (h : p.Stops T) (hf : ∀ a, (f a).Prompt T')
    (hstop : ∀ a source, T a source → (f a).MadeOf (Single Action.IsOffBus) ∧
      ∀ (σ : Type) (env : Environment σ) (s : σ), T' ((f a).value env s) source) :
    (p.bind f).Prompt T' := by
  intro σ env s past e future source hexchanges he hback
  rw [trace_bind, Trace.exchanges_append] at hexchanges
  rw [value_bind]
  rcases Trace.split_append hexchanges with ⟨mid, hp, rfl⟩ | ⟨mid, rfl, hf'⟩
  · obtain ⟨rfl, htold⟩ := h σ env s past e mid source hp he
    obtain ⟨hquiet, htold⟩ := hstop _ _ htold
    exact ⟨htold σ env _, .inl (hquiet.exchanges_eq_nil env _)⟩
  · have hpast : mid ⊆ (p.trace env s).exchanges ++ mid := List.subset_append_right _ _
    obtain ⟨htold, hrest⟩ := hf _ σ env _ mid e future source hf' he fun h ↦
      hback (h.imp_right (·.mono hpast))
    refine ⟨htold, hrest.imp_right fun ⟨back, hfuture, hrestores⟩ ↦ ⟨back, hfuture, ?_⟩⟩
    rw [List.append_assoc]
    exact hrestores.mono (List.subset_append_right _ _)

/-- What does nothing on the bus may come last, if it passes on what it is told. -/
theorem before (h : p.Prompt T) (hquiet : ∀ a, (f a).MadeOf (Single Action.IsOffBus))
    (hf : ∀ a source, T a source →
      ∀ (σ : Type) (env : Environment σ) (s : σ), T' ((f a).value env s) source) :
    (p.bind f).Prompt T' := by
  intro σ env s past e future source hexchanges he hback
  rw [trace_bind, Trace.exchanges_append, (hquiet _).exchanges_eq_nil, List.append_nil]
    at hexchanges
  rw [value_bind]
  exact (h σ env s past e future source hexchanges he hback).imp_left fun htold ↦
    hf _ _ htold σ env _

end Prompt

end Program

/-! ## Procedures -/

namespace Procedure

/-- A procedure that fails tells of a source as `T` says. -/
def Told (T : Error → Error → Prop) (r : Except Error α) (source : Error) : Prop :=
  ∃ e, r = .error e ∧ T e source

/-- The procedure stops at a refused transaction, and fails with it. -/
def Stops (T : Error → Error → Prop) (p : Procedure α) : Prop := p.run.Stops (Told T)

/-- After a refused transaction the procedure at most goes back to page zero, and it fails with an
error that tells of the transaction. -/
def Prompt (p : Procedure α) : Prop := p.run.Prompt (Told Error.Tells)

variable {T : Error → Error → Prop} {p q : Procedure α} {f : α → Procedure β}

theorem told_andThen {r : Except Error α} {source : Error} (h : Told T r source) :
    (andThen f r).MadeOf (Single Action.IsOffBus) ∧
      ∀ (σ : Type) (env : Environment σ) (s : σ), Told T ((andThen f r).value env s) source := by
  obtain ⟨e, rfl, he⟩ := h
  exact ⟨.done _, fun _ _ _ ↦ ⟨e, rfl, he⟩⟩

namespace Stops

theorem offBus (h : p.MadeOf (Single Action.IsOffBus)) : p.Stops T := Program.Stops.offBus h

theorem pure (a : α) : Stops T (Pure.pure a : Procedure α) := .offBus (.pure a)

theorem throw (e : Error) : Stops T (MonadExcept.throw e : Procedure α) := .offBus (.throw e)

theorem liftExcept (r : Except Error α) : Stops T (liftM r : Procedure α) :=
  .offBus (.liftExcept r)

theorem report (severity : Severity) (message : String) (fields : List (String × String)) :
    Stops T (liftM (Transceiver.report severity message fields) : Procedure Unit) :=
  .offBus (.lift (report_madeOf _ _ _))

theorem settle (span : Duration) : Stops T (liftM (Transceiver.settle span) : Procedure Unit) :=
  .offBus (.lift (settle_madeOf span))

theorem bind (h : p.Stops T) (hf : ∀ a, (f a).Stops T) : Stops T (p >>= f) := by
  unfold Stops
  rw [run_bind]
  refine Program.Stops.bind h (fun r ↦ ?_) fun r source htold ↦ told_andThen htold
  cases r with
  | ok a => exact hf a
  | error e => exact .offBus (.done _)

theorem ite {c : Prop} [Decidable c] (hp : p.Stops T) (hq : q.Stops T) :
    Stops T (if c then p else q) := by
  split
  · exact hp
  · exact hq

/-- A procedure that goes on only if a condition holds. -/
theorem require {c : Prop} [Decidable c] {e : Error} (h : p.Stops T) :
    Stops T (if c then p else (do MonadExcept.throw e; p)) :=
  .ite h (.bind (.throw e) fun _ ↦ h)

/-- A procedure that goes on only if a condition fails. -/
theorem refuse {c : Prop} [Decidable c] {e : Error} (h : p.Stops T) :
    Stops T (if c then (do MonadExcept.throw e; p) else p) :=
  .ite (.bind (.throw e) fun _ ↦ h) h

theorem tells (h : p.Stops Eq) : p.Stops Error.Tells :=
  Program.Stops.imp h fun _ _ ⟨e, hr, he⟩ ↦ ⟨e, hr, .inl he⟩

theorem prompt (h : p.Stops Eq) : p.Prompt := Program.Stops.prompt h.tells

end Stops

namespace Prompt

theorem throw (e : Error) : Prompt (MonadExcept.throw e : Procedure α) := (Stops.throw e).prompt

theorem offBus (h : p.MadeOf (Single Action.IsOffBus)) : p.Prompt := (Stops.offBus h).prompt

theorem after (h : p.Stops Eq) (hf : ∀ a, (f a).Prompt) : Prompt (p >>= f) := by
  unfold Prompt
  rw [run_bind]
  refine Program.Prompt.after h.tells (fun r ↦ ?_) fun r source htold ↦ told_andThen htold
  cases r with
  | ok a => exact hf a
  | error e => exact (Program.Stops.offBus (.done _)).prompt

theorem before (h : p.Prompt) (hf : ∀ a, (f a).MadeOf (Single Action.IsOffBus)) :
    Prompt (p >>= f) := by
  unfold Prompt
  rw [run_bind]
  refine Program.Prompt.before h (fun r ↦ ?_) fun r source htold ↦ (told_andThen htold).2
  cases r with
  | ok a => exact hf a
  | error e => exact .done _

theorem ite {c : Prop} [Decidable c] (hp : p.Prompt) (hq : q.Prompt) :
    Prompt (if c then p else q) := by
  split
  · exact hp
  · exact hq

/-- A procedure that goes on only if a condition holds. -/
theorem require {c : Prop} [Decidable c] {e : Error} (h : p.Prompt) :
    Prompt (if c then p else (do MonadExcept.throw e; p)) :=
  .ite h (.after (.throw e) fun _ ↦ h)

/-- A procedure that goes on only if a condition fails. -/
theorem refuse {c : Prop} [Decidable c] {e : Error} (h : p.Prompt) :
    Prompt (if c then (do MonadExcept.throw e; p) else p) :=
  .ite (.after (.throw e) fun _ ↦ h) h

end Prompt

end Procedure

/-! ## The bus -/

/-- A single transaction stops if what is returned tells that it was refused. -/
theorem Program.Stops.single {T : α → Error → Prop} {action : Action} {g : action.Reply → α}
    (h : ∀ reply source, Event.refusal? ⟨action, reply⟩ = some source → T (g reply) source) :
    (Program.ask action fun r ↦ .done (g r)).Stops T := by
  intro σ env s past e future source hexchanges he
  rw [trace_ask, trace_done] at hexchanges
  have hlength : past.length + (future.length + 1) ≤ 1 := by
    have hle := List.length_filter_le (fun e : Event ↦ e.action.transaction?.isSome)
      [⟨action, (env action s).1⟩]
    rw [show List.filter _ _ = past ++ e :: future from hexchanges] at hle
    simpa using hle
  obtain rfl : past = [] := List.length_eq_zero_iff.mp (by omega)
  obtain rfl : future = [] := List.length_eq_zero_iff.mp (by omega)
  have hmem : e ∈ Trace.exchanges [⟨action, (env action s).1⟩] := by
    rw [hexchanges]
    exact List.mem_singleton_self e
  cases List.mem_singleton.mp (List.mem_filter.mp hmem).1
  exact ⟨rfl, h _ _ he⟩

namespace Bus

theorem read_stops (device offset : UInt8) (length : Nat) :
    (Bus.read device offset length).Stops Eq := by
  unfold Procedure.Stops
  rw [run_read]
  refine .single fun reply source h ↦ ?_
  cases reply with
  | ok bytes => cases h
  | error fault =>
    cases h
    exact ⟨_, rfl, rfl⟩

theorem write_stops (device offset : UInt8) (data : List UInt8) :
    (Bus.write device offset data).Stops Eq := by
  unfold Procedure.Stops
  rw [run_write]
  refine .single fun reply source h ↦ ?_
  cases reply with
  | ok _ => cases h
  | error fault =>
    cases h
    exact ⟨_, rfl, rfl⟩

theorem readByte_stops (device offset : UInt8) : (readByte device offset).Stops Eq :=
  .bind (read_stops _ _ _) fun b ↦ .pure (byteIn b)

theorem readWord_stops (device offset : UInt8) : (readWord device offset).Stops Eq :=
  .bind (read_stops _ _ _) fun b ↦ .pure (wordIn b)

end Bus

namespace Selected

variable {m : Selected} {a : Address}

theorem pagingSupported_stops (m : Selected) : m.pagingSupported.Stops Eq := by
  unfold pagingSupported
  split
  · exact .bind (Bus.readByte_stops _ _) fun _ ↦ .pure _
  · exact .bind (Bus.readByte_stops _ _) fun _ ↦ .pure _
  · exact .pure false

section Unpaged

variable (ha : a.page = .ignore)
include ha

theorem read_stops (length : Nat) : (m.read a length).Stops Eq := by
  refine .bind (.liftExcept _) fun _ ↦ ?_
  rw [paged_unpaged ha]
  exact Bus.read_stops _ _ _

theorem readByte_stops : (m.readByte a).Stops Eq := .bind (read_stops ha 1) fun _ ↦ .pure _

theorem readWord_stops : (m.readWord a).Stops Eq := .bind (read_stops ha 2) fun _ ↦ .pure _

theorem write_stops (data : List UInt8) : (m.write a data).Stops Eq := by
  refine .bind (.liftExcept _) fun _ ↦ ?_
  rw [paged_unpaged ha]
  exact Bus.write_stops _ _ _

theorem modify_stops (f : UInt8 → Except Error UInt8) : (m.modify a f).Stops Eq := by
  refine .bind (readByte_stops ha) fun old ↦ .bind (.liftExcept _) fun new ↦ ?_
  exact .ite (.bind (write_stops ha _) fun _ ↦ .pure _) (.pure _)

end Unpaged

theorem lowerByte_stops (m : Selected) (offset : UInt8) : (m.lowerByte offset).Stops Eq :=
  readByte_stops rfl

section Page

variable {σ : Type} {env : Environment σ} {s : σ} (device page : UInt8) (body : Procedure α)

/-- A page that cannot be selected is the only transaction. -/
theorem exchanges_onPage_of_error {fault : BusFault}
    (h : (env (.write device QsfpMap.pageSelect [page]) s).1 = .error fault) :
    (onPage device page body).run.value env s =
        .error (.bus device QsfpMap.pageSelect fault) ∧
      ((onPage device page body).run.trace env s).exchanges =
        [⟨.write device QsfpMap.pageSelect [page], .error fault⟩] := by
  have hselect : (selectPage device page).run.value env s =
      .error (.bus device QsfpMap.pageSelect fault) := by
    unfold selectPage Bus.writeByte
    rw [Bus.run_write, Program.value_ask, h]
    rfl
  have htrace : (selectPage device page).run.trace env s =
      [⟨.write device QsfpMap.pageSelect [page], .error fault⟩] := by
    unfold selectPage Bus.writeByte
    rw [Bus.run_write, Program.trace_ask, h]
    rfl
  constructor
  · change ((selectPage device page).run.bind _).value env s = _
    rw [Program.value_bind, hselect]
    rfl
  · change (((selectPage device page).run.bind _).trace env s).exchanges = _
    rw [Program.trace_bind, Trace.exchanges_append, hselect, htrace]
    rfl

/-- Around what is done on a page, that is selected and left again. -/
theorem exchanges_onPage (h : (env (.write device QsfpMap.pageSelect [page]) s).1 = .ok ()) :
    (onPage device page body).run.value env s =
        body.run.value env ((selectPage device page).run.final env s) ∧
      ∃ reply, ((onPage device page body).run.trace env s).exchanges =
        ⟨.write device QsfpMap.pageSelect [page], .ok ()⟩ ::
          ((body.run.trace env ((selectPage device page).run.final env s)).exchanges ++
            [⟨.write device QsfpMap.pageSelect [0], reply⟩]) := by
  have hselect : (selectPage device page).run.value env s = .ok () := by
    unfold selectPage Bus.writeByte
    rw [Bus.run_write, Program.value_ask, h]
    rfl
  have htrace : (selectPage device page).run.trace env s =
      [⟨.write device QsfpMap.pageSelect [page], .ok ()⟩] := by
    unfold selectPage Bus.writeByte
    rw [Bus.run_write, Program.trace_ask, h]
    rfl
  have hback (s : σ) : (selectPage device 0).run.trace env s =
      [⟨.write device QsfpMap.pageSelect [0],
        (env (.write device QsfpMap.pageSelect [0]) s).1⟩] := by
    unfold selectPage Bus.writeByte
    rw [Bus.run_write, Program.trace_ask]
    rfl
  refine ⟨?_, (env (.write device QsfpMap.pageSelect [0])
    (body.run.final env ((selectPage device page).run.final env s))).1, ?_⟩
  · change ((selectPage device page).run.bind _).value env s = _
    rw [Program.value_bind, hselect]
    change (body.run.bind _).value env _ = _
    rw [Program.value_bind]
    change ((selectPage device 0).run.bind _).value env _ = _
    rw [Program.value_bind]
    split <;> rfl
  · change (((selectPage device page).run.bind _).trace env s).exchanges = _
    rw [Program.trace_bind, Trace.exchanges_append, hselect, htrace]
    change _ ++ ((body.run.bind _).trace env _).exchanges = _
    rw [Program.trace_bind, Trace.exchanges_append]
    change _ ++ (_ ++ (((selectPage device 0).run.bind _).trace env _).exchanges) = _
    rw [Program.trace_bind, Trace.exchanges_append, hback]
    split <;> rfl

/-- What is done on a page may be refused, and so may be leaving it. -/
theorem onPage_prompt {body : Procedure α} (h : body.Stops Eq) :
    (onPage device page body).Prompt := by
  intro σ env s past e future source hexchanges he hback
  cases hselect : (env (.write device QsfpMap.pageSelect [page]) s).1 with
  | error fault =>
    obtain ⟨hvalue, htrace⟩ := exchanges_onPage_of_error device page body hselect
    rw [htrace] at hexchanges
    cases past with
    | nil =>
      obtain ⟨rfl, rfl⟩ := List.cons_eq_cons.mp hexchanges
      cases he
      exact ⟨⟨_, hvalue, .inl rfl⟩, .inl rfl⟩
    | cons _ past => simp at hexchanges
  | ok _ =>
    obtain ⟨hvalue, reply, htrace⟩ := exchanges_onPage device page body hselect
    rw [htrace] at hexchanges
    cases past with
    | nil =>
      obtain ⟨rfl, -⟩ := List.cons_eq_cons.mp hexchanges
      cases he
    | cons first past =>
      obtain ⟨rfl, hrest⟩ := List.cons_eq_cons.mp hexchanges
      have hrestores {past : Trace} : Event.Restores ⟨.write device QsfpMap.pageSelect [0], reply⟩
          (⟨.write device QsfpMap.pageSelect [page], .ok ()⟩ :: past) :=
        ⟨device, page, List.mem_cons_self, rfl⟩
      rcases Trace.split_append hrest with ⟨mid, hbody, rfl⟩ | ⟨mid, rfl, hlast⟩
      · obtain ⟨rfl, e', he', rfl⟩ := h σ env _ past e mid source hbody he
        exact ⟨⟨e', hvalue.trans he', .inl rfl⟩, .inr ⟨_, rfl, hrestores⟩⟩
      · cases mid with
        | nil =>
          obtain ⟨rfl, rfl⟩ := List.cons_eq_cons.mp hlast
          exact absurd ⟨rfl, hrestores⟩ hback
        | cons _ mid => simp at hlast

end Page

end Selected

namespace Eeprom

variable (e : Eeprom) {body : Selected → Procedure α}

/-- Around a session nothing is done on the bus: there is none, or what is exchanged and returned is
that of its body from some state on. -/
theorem exchanges_session {σ : Type} (env : Environment σ) (s : σ) :
    ((e.session body).run.trace env s).exchanges = [] ∨
      ∃ s', (e.session body).run.value env s = (body e.selected).run.value env s' ∧
        ((e.session body).run.trace env s).exchanges =
          ((body e.selected).run.trace env s').exchanges := by
  rcases e.session_opens env s with hfails | ⟨s', hopens⟩
  · obtain ⟨_, -, hnone⟩ := hfails (body e.selected)
    exact .inl hnone
  · exact .inr ⟨s', hopens (body e.selected)⟩

theorem session_stops {T : Except Error α → Error → Prop}
    (h : (body e.selected).run.Stops T) : (e.session body).run.Stops T := by
  intro σ env s past e' future source hexchanges he'
  rcases e.exchanges_session env s with hnone | ⟨s', hvalue, htrace⟩
  · exact absurd (hnone.symm.trans hexchanges) (by simp)
  · rw [hvalue]
    exact h σ env s' past e' future source (htrace.symm.trans hexchanges) he'

theorem session_prompt (h : (body e.selected).Prompt) : (e.session body).Prompt := by
  intro σ env s past e' future source hexchanges he' hback
  rcases e.exchanges_session env s with hnone | ⟨s', hvalue, htrace⟩
  · exact absurd (hnone.symm.trans hexchanges) (by simp)
  · rw [hvalue]
    exact h σ env s' past e' future source (htrace.symm.trans hexchanges) he' hback

end Eeprom

/-! ## Queries -/

section Queries

variable {S : Scope} {p : Procedure α}

theorem Procedure.Looks.stops (h : p.Looks S) : p.Stops Eq := by
  induction h with
  | pure a => exact .pure a
  | throw e => exact .throw e
  | idle h => exact .offBus (.lift (h.imp fun _ _ hq ↦ by cases hq with
      | perform action ha => exact .perform action ha.isOffBus))
  | line l _ => exact .offBus l.read_madeOf
  | bytes device offset length _ => exact Bus.read_stops device offset length
  | bind _ _ ih ihf => exact .bind ih ihf

/-- What looks at lines alone does nothing on the bus. -/
theorem Procedure.Looks.madeOf_isOffBus (h : p.Looks S.offBus) :
    p.MadeOf (Single Action.IsOffBus) := by
  generalize hS : S.offBus = S' at h
  induction h with
  | pure a => exact .pure a
  | throw e => exact .throw e
  | idle h => exact .lift (h.imp fun _ _ hq ↦ by cases hq with
      | perform action ha => exact .perform action ha.isOffBus)
  | line l _ => exact l.read_madeOf
  | bytes device offset length h =>
    subst hS
    exact h.elim
  | bind _ _ ih ihf => exact .bind ih ihf

theorem Procedure.Queries.prompt (h : p.Queries S) : p.Prompt := by
  induction h with
  | looks h => exact h.stops.prompt
  | onPage device page h => exact Selected.onPage_prompt device page h.stops
  | session e _ _ _ ih => exact e.session_prompt ih
  | after h _ ihf => exact .after h.stops ihf
  | before _ hf ih => exact .before ih fun a ↦ (hf a).madeOf_isOffBus

end Queries

/-! ## PHYs -/

namespace Mailbox

variable (m : Selected) (t : MailboxTiming)

theorem await_stops (n : Nat) : (await m t n).Stops Eq := by
  induction n with
  | zero => exact .throw _
  | succ n ih =>
    refine .bind (Selected.readByte_stops rfl) fun b ↦ ?_
    split
    · exact .pure ()
    · exact .throw _
    · exact .bind (.settle _) fun _ ↦ ih
    · exact .throw _

theorem execute_stops (p : Packet) : (execute m t p).Stops Eq := by
  refine .bind (.report _ _ _) fun _ ↦ .bind (Selected.write_stops rfl _) fun _ ↦
    .bind (await_stops m t _) fun _ ↦ ?_
  split
  · exact .pure _
  · exact Selected.readWord_stops rfl

theorem read_stops (memory : UInt8) (offset : UInt16) : (read m t memory offset).Stops Eq :=
  execute_stops m t _

theorem write_stops (memory : UInt8) (offset data : UInt16) :
    (write m t memory offset data).Stops Eq := .bind (execute_stops m t _) fun _ ↦ .pure ()

/-- A chain stops at a packet that meets a refused transaction, and tells which one it is. -/
theorem chainFrom_stops_refused (index : Nat) (ps : List Packet) :
    (chainFrom m t index ps).Stops fun x source ↦
      ∃ index, x.2 = .error (.chainFailed index source) := by
  induction ps generalizing index with
  | nil => exact .offBus (.done _)
  | cons p ps ih =>
    refine Program.Stops.bind (execute_stops m t p) (fun r ↦ ?_) ?_
    · cases r with
      | ok data =>
        refine Program.Stops.bind (ih (index + 1)) (fun _ ↦ .offBus (.done _)) ?_
        exact fun a source h ↦ ⟨.done _, fun _ _ _ ↦ h⟩
      | error e => exact .offBus (.bind (report_madeOf _ _ _) fun _ ↦ .done _)
    · rintro _ source ⟨e, rfl, rfl⟩
      exact ⟨.bind (report_madeOf _ _ _) fun _ ↦ .done _, fun _ _ _ ↦ ⟨index, rfl⟩⟩

theorem chain_stops (ps : List Packet) :
    (chain m t ps).Stops fun x source ↦ Procedure.Told Error.Tells x.2 source := by
  refine Program.Stops.bind (chainFrom_stops_refused m t 0 ps) (fun x ↦ ?_) ?_
  · obtain ⟨qs, r⟩ := x
    cases r with
    | ok _ => exact .offBus (.bind (report_madeOf _ _ _) fun _ ↦ .done _)
    | error e => exact .offBus (.done _)
  · rintro ⟨qs, _⟩ source ⟨index, rfl⟩
    exact ⟨.done _, fun _ _ _ ↦ ⟨_, rfl, .inr ⟨index, rfl⟩⟩⟩

end Mailbox

/-- What follows a chain is done only if none of its packets failed. -/
theorem Procedure.Stops.bind_lift {γ : Type} {p : Program (γ × Except Error Unit)}
    (h : p.Stops fun x source ↦ Told Error.Tells x.2 source)
    {f : γ × Except Error Unit → Procedure β} (hok : ∀ c, (f (c, .ok ())).Stops Error.Tells)
    (herror : ∀ c e, f (c, .error e) = MonadExcept.throw e) :
    Stops Error.Tells (liftM p >>= f) := by
  unfold Stops
  rw [run_bind, run_lift, Program.bind_assoc]
  refine Program.Stops.bind h ?_ ?_
  · rintro ⟨c, _ | _⟩
    · exact (congrArg (Stops Error.Tells) (herror c _)).mpr (.throw _)
    · exact hok c
  · rintro ⟨c, _⟩ source ⟨e, rfl, he⟩
    change (f (c, .error e)).run.MadeOf _ ∧ ∀ σ env s, Told _ ((f (c, .error e)).run.value env s) _
    rw [herror c e]
    exact ⟨.done _, fun _ _ _ ↦ ⟨e, rfl, he⟩⟩

namespace TenGigPhy

variable (phy : TenGigPhy) (m : Selected)

theorem txEnabled_stops : (phy.txEnabled m).Stops Eq :=
  .bind (Mailbox.read_stops m _ _ _) fun _ ↦ .pure _

theorem setTxEnabled_stops (enable : Bool) : (phy.setTxEnabled m enable).Stops Eq :=
  .bind (Mailbox.read_stops m _ _ _) fun _ ↦ Mailbox.write_stops m _ _ _ _

theorem systemStatus_stops : (phy.systemStatus m).Stops Eq :=
  .bind (Mailbox.read_stops m _ _ _) fun _ ↦ .bind (.liftExcept _) fun _ ↦ .pure _

theorem lineStatus_stops : (phy.lineStatus m).Stops Eq :=
  .bind (Mailbox.read_stops m _ _ _) fun _ ↦ .bind (Mailbox.read_stops m _ _ _) fun _ ↦
    .bind (.liftExcept _) fun _ ↦ .pure _

theorem linkUp_stops : (phy.linkUp m).Stops Eq :=
  .bind (phy.lineStatus_stops m) fun _ ↦ .bind (phy.systemStatus_stops m) fun _ ↦ .pure _

theorem setRate_stops (speed : Speed) : (phy.setRate m speed).Stops Error.Tells := by
  unfold setRate
  split
  · refine .bind (phy.lineStatus_stops m).tells fun line ↦ ?_
    split
    · exact .report _ _ _
    · refine .bind (phy.txEnabled_stops m).tells fun enabled ↦
        .bind (phy.setTxEnabled_stops m false).tells fun _ ↦ .bind (.settle _) fun _ ↦
        .bind_lift (Mailbox.chain_stops m _ _) (fun _ ↦ ?_) fun _ _ ↦ rfl
      refine .bind (.liftExcept _) fun _ ↦ .bind (.settle _) fun _ ↦ ?_
      split
      · exact .bind (phy.setTxEnabled_stops m true).tells fun _ ↦ .report _ _ _
      · exact .report _ _ _
  · exact .throw _

end TenGigPhy

namespace CopperPhy

theorem read_stops (register : UInt8) : (read register).Stops Eq :=
  .bind (Bus.readWord_stops _ _) fun _ ↦ .bind (.report _ _ _) fun _ ↦ .pure _

theorem write_stops (register : UInt8) (value : UInt16) : (write register value).Stops Eq :=
  .bind (.report _ _ _) fun _ ↦ Bus.write_stops _ _ _

theorem update_stops (register : UInt8) (f : UInt16 → UInt16) : (update register f).Stops Eq :=
  .bind (read_stops register) fun _ ↦ write_stops register _

theorem apply_stops : apply.Stops Eq :=
  .bind (read_stops control) fun _ ↦ .ite (update_stops _ _) (.report _ _ _)

theorem setAutoneg_stops (enable : Bool) : (setAutoneg enable).Stops Eq :=
  .bind (update_stops _ _) fun _ ↦ apply_stops

theorem setMode_stops (mode : PhyMode) : (setMode mode).Stops Eq :=
  .bind (update_stops _ _) fun _ ↦ apply_stops

theorem setSpeed_stops (speed : Speed) : (setSpeed speed).Stops Eq := by
  unfold setSpeed
  split
  · exact .bind (update_stops _ _) fun _ ↦ update_stops _ _
  · exact .throw _

theorem setPowerDown_stops (enable : Bool) : (setPowerDown enable).Stops Eq := by
  dsimp only [setPowerDown]
  refine .bind (read_stops control) fun value ↦ .bind (read_stops phyControl) fun phy ↦ ?_
  split
  · exact .bind (write_stops _ _) fun _ ↦ .bind (update_stops _ _) fun _ ↦
      .ite (write_stops _ _) (.pure ())
  · exact .ite (write_stops _ _) (.pure ())

theorem setSerdes_stops (delay : Duration) (enable : Bool) : (setSerdes delay enable).Stops Eq :=
  .bind (write_stops _ _) fun _ ↦ .bind (.settle _) fun _ ↦ write_stops _ _

theorem selectBreakout_stops (channel : UInt8) : (selectBreakout channel).Stops Eq :=
  .bind (.liftExcept _) fun _ ↦ Bus.write_stops _ _ _

end CopperPhy

/-! ## Tuning -/

namespace Tuning

variable (m : Selected)

theorem readGrid_stops : (readGrid m).Stops Eq := by
  refine .bind (Selected.readByte_stops rfl) fun flags ↦
    .bind (Selected.read_stops rfl 10) fun block ↦ ?_
  split
  · exact .pure _
  · exact .throw _

theorem isTunable_stops : (isTunable m).Stops Eq :=
  .bind (Selected.readByte_stops rfl) fun _ ↦ .pure _

theorem requirePaged_stops : (requirePaged m).Stops Eq :=
  .bind (isTunable_stops m) fun _ ↦ .require <|
    .bind m.pagingSupported_stops fun _ ↦ .ite (.pure ()) (.throw _)

theorem awaitSettled_stops (t : TuningTiming) (n : Nat) : (awaitSettled m t n).Stops Eq := by
  induction n with
  | zero => exact .throw _
  | succ n ih =>
    refine .bind (Selected.readByte_stops rfl) fun now ↦
      .bind (Selected.readByte_stops rfl) fun latched ↦ ?_
    dsimp only
    split
    · exact .pure ()
    · split
      · exact .bind (.report _ _ _) fun _ ↦ .bind (.throw _) fun _ ↦ .bind (.settle _) fun _ ↦ ih
      · exact .bind (.settle _) fun _ ↦ ih

theorem request_stops (g : Grid Float) (nm thz : Float) : (request m g nm thz).Stops Eq :=
  .ite (.bind (Selected.write_stops rfl _) fun _ ↦ .pure _) <|
    .ite (.bind (Selected.write_stops rfl _) fun _ ↦ .pure _) (.throw _)

theorem setWavelength_prompt (t : TuningTiming) (nm : Float) :
    (setWavelength m t nm).Prompt :=
  .refuse <| .after (requirePaged_stops m) fun _ ↦ Selected.onPage_prompt _ _ <|
    .bind (readGrid_stops m) fun g ↦ .require <| .bind (request_stops m g nm _) fun _ ↦
    .bind (.report _ _ _) fun _ ↦ .bind (awaitSettled_stops m t _) fun _ ↦ .pure _

theorem setTargetWavelength_stops (nm : Float) : (setTargetWavelength m nm).Stops Eq :=
  .bind (isTunable_stops m) fun _ ↦ .require (Selected.write_stops rfl _)

end Tuning

/-- A write on a page is one of what is done there. -/
theorem Selected.write_prompt (m : Selected) (a : Address) (data : List UInt8) :
    (m.write a data).Prompt := by
  refine .after (.liftExcept _) fun _ ↦ ?_
  unfold paged
  split
  · exact (Bus.write_stops _ _ _).prompt
  · exact .after m.pagingSupported_stops fun _ ↦ .ite
      (onPage_prompt _ _ (Bus.write_stops _ _ _))
      (.after (.report _ _ _) fun _ ↦ (Bus.write_stops _ _ _).prompt)

/-! ## Operations -/

/-- Everything that there is to look at for a cage. -/
def Scope.whole (c : Cage) : Scope := ⟨c.selector, c.presence, fun _ ↦ True, fun _ _ _ ↦ True⟩

theorem Scope.admits_whole (c : Cage) : (Scope.whole c).Admits c :=
  ⟨rfl, rfl, fun _ _ ↦ trivial, fun _ _ _ _ ↦ trivial⟩

namespace Sfp

variable (s : Sfp)

theorem session_prompt {body : Selected → Procedure α} (h : ∀ m, (body m).Prompt) :
    (s.session body).Prompt := s.eeprom.session_prompt (h _)

/-- In a session an SFP module is accessed straight on. -/
theorem session_stops {body : Selected → Procedure α} (h : ∀ m, (body m).Stops Eq) :
    (s.session body).Prompt := s.session_prompt fun m ↦ (h m).prompt

theorem txControl_prompt (channel : UInt8) (enable : Bool) :
    (s.txControl channel enable).Prompt := by
  refine .after (.liftExcept _) fun _ ↦ ?_
  split
  · exact .offBus (Line.write_madeOf _ _)
  · exact s.session_stops fun m ↦
      .bind (requireSoftTxDisable_looks (Scope.admits_whole s.cage).reads m).stops fun _ ↦
      .bind (Selected.modify_stops rfl _) fun _ ↦ .report _ _ _

theorem ledSet_prompt (channel : UInt8) (speed : Speed) : (s.ledSet channel speed).Prompt := by
  refine .after (.liftExcept _) fun _ ↦ ?_
  split
  · exact .after (.liftExcept _) fun _ ↦ .offBus (Line.write_madeOf _ _)
  · exact .throw _

theorem wavelengthSet_prompt (nm : Float) : (s.wavelengthSet nm).Prompt :=
  s.session_prompt fun m ↦ .after (Tuning.isTunable_stops m) fun _ ↦ .require <|
    .after m.pagingSupported_stops fun _ ↦ .ite
      (.before (Tuning.setWavelength_prompt m _ nm) fun _ ↦ .lift (report_madeOf _ _ _))
      (Tuning.setTargetWavelength_stops m nm).prompt

/-- Packets are run up to the first one that fails. -/
theorem chain_stops (ps : List Packet) :
    (s.chain ps).Stops fun x source ↦ Procedure.Told Error.Tells x.2 source := by
  let T (r : Except Error (List Packet × Except Error Unit)) (source : Error) : Prop :=
    ∃ x, r = .ok x ∧ Procedure.Told Error.Tells x.2 source
  have hchain (m : Selected) :
      (liftM (Mailbox.chain m s.phy.timing ps) : Procedure _).run.Stops T := by
    rw [Procedure.run_lift]
    exact Program.Stops.bind (Mailbox.chain_stops m _ ps) (fun _ ↦ .offBus (.done _))
      fun x _ hx ↦ ⟨.done _, fun _ _ _ ↦ ⟨x, rfl, hx⟩⟩
  have hsession :
      (s.session fun m ↦ liftM (Mailbox.chain m s.phy.timing ps)).run.Stops T :=
    s.eeprom.session_stops (hchain _)
  refine Program.Stops.bind hsession (fun r ↦ ?_) ?_
  · cases r <;> exact .offBus (.done _)
  · rintro _ source ⟨x, rfl, hx⟩
    exact ⟨.done _, fun _ _ _ ↦ hx⟩

theorem mailboxChain_prompt (ps : List Packet) : (s.serve (.mailboxChain ps)).Prompt :=
  Program.Stops.prompt <| Procedure.Stops.bind_lift (s.chain_stops ps)
    (fun _ ↦ .bind (.liftExcept _) fun _ ↦ .pure _) fun _ _ ↦ rfl

theorem serve_prompt (op : Operation) : (s.serve op).Prompt := by
  by_cases hquery : op.IsQuery
  · exact (s.serve_queries (Scope.admits_whole _) hquery fun _ _ _ _ ↦ trivial).prompt
  · cases op with
    | txControl channel enable => exact s.txControl_prompt channel enable
    | writeGeneric a data => exact s.session_prompt fun m ↦ m.write_prompt a data
    | write offset data => exact s.session_prompt fun m ↦ m.write_prompt _ data
    | ledSet channel speed => exact s.ledSet_prompt channel speed
    | wavelengthSet nm => exact s.wavelengthSet_prompt nm
    | phyAutonegSet _ _ enable => exact s.session_stops fun _ ↦ CopperPhy.setAutoneg_stops enable
    | phyModeSet _ _ mode => exact s.session_stops fun _ ↦ CopperPhy.setMode_stops mode
    | phySpeedSet _ _ speed => exact s.session_stops fun _ ↦ CopperPhy.setSpeed_stops speed
    | phyPowerDown _ _ enable =>
      exact s.session_stops fun _ ↦ CopperPhy.setPowerDown_stops enable
    | phySerdesControl _ _ enable =>
      exact s.session_stops fun _ ↦ CopperPhy.setSerdes_stops _ enable
    | mailboxChain ps => exact s.mailboxChain_prompt ps
    | tenGigSetRate speed =>
      exact s.session_prompt fun m ↦ Program.Stops.prompt (s.phy.setRate_stops m speed)
    | tenGigTxState => exact s.session_stops fun m ↦ s.phy.txEnabled_stops m
    | tenGigSetTxState enable => exact s.session_stops fun m ↦ s.phy.setTxEnabled_stops m enable
    | tenGigSystemStatus => exact s.session_stops fun m ↦ s.phy.systemStatus_stops m
    | tenGigLineStatus => exact s.session_stops fun m ↦ s.phy.lineStatus_stops m
    | tenGigLinkStatus => exact s.session_stops fun m ↦ s.phy.linkUp_stops m
    | moduleInit _ => exact (Procedure.Stops.pure ()).prompt
    | cdrSet _ _ | moduleControl _ _ | extRateSelect _ _ _ | adapterKind => exact .throw _
    | _ => exact absurd trivial hquery

end Sfp

namespace Qsfp

variable (q : Qsfp)

theorem session_prompt {body : Selected → Procedure α} (h : ∀ m, (body m).Prompt) :
    (q.session body).Prompt := q.eeprom.session_prompt (h _)

theorem session_stops {body : Selected → Procedure α} (h : ∀ m, (body m).Stops Eq) :
    (q.session body).Prompt := q.session_prompt fun m ↦ (h m).prompt

theorem txControl_prompt (channel : UInt8) (enable : Bool) :
    (q.txControl channel enable).Prompt :=
  .after (.liftExcept _) fun _ ↦ .before
    (q.session_stops fun m ↦ .bind (m.lowerByte_stops _) fun _ ↦ .require <|
      .bind (Selected.modify_stops rfl _) fun _ ↦ .pure ()) fun _ ↦
    .bind (.lift (settle_madeOf _)) fun _ ↦ .lift (report_madeOf _ _ _)

theorem setLaneBits_stops (m : Selected) {n : UInt8} (lane : Lane n) (on : Bool)
    (bits : List ChannelBit) : (setLaneBits m lane on bits).Stops Eq := by
  induction bits with
  | nil => exact .pure ()
  | cons bit bits ih => exact .bind (Selected.modify_stops rfl _) fun _ ↦ ih

theorem cdrSet_prompt (channel : UInt8) (enable : Bool) : (q.cdrSet channel enable).Prompt :=
  .after (.liftExcept _) fun lane ↦ q.session_stops fun m ↦
    .bind (.bind (m.lowerByte_stops _) fun _ ↦ .refuse (.pure _)) fun bits ↦
    setLaneBits_stops m lane enable bits

theorem extRateSelect_prompt (channel : UInt8) (revision : FirmwareRevision) (cdrEnable : Bool) :
    (q.extRateSelect channel revision cdrEnable).Prompt :=
  .after (.liftExcept _) fun _ ↦ q.session_stops fun _ ↦
    .bind (Selected.modify_stops rfl _) fun _ ↦ .bind (Selected.modify_stops rfl _) fun _ ↦ .pure ()

theorem breakout_prompt (channel : UInt8) (media : MediaType) {body : Procedure α}
    (h : body.Stops Eq) : (q.breakout channel media body).Prompt :=
  .refuse <| q.session_stops fun _ ↦ .bind (CopperPhy.selectBreakout_stops channel) fun _ ↦ h

theorem serveCage_prompt {op : Operation}
    (hop : ∀ control enable, op ≠ .moduleControl control enable) (hadapter : op ≠ .adapterKind) :
    (q.serveCage op).Prompt := by
  by_cases hquery : op.IsQuery
  · exact (q.serveCage_queries (Scope.admits_whole _) hquery fun _ _ _ _ ↦ trivial).prompt
  · cases op with
    | txControl channel enable => exact q.txControl_prompt channel enable
    | cdrSet channel enable => exact q.cdrSet_prompt channel enable
    | moduleControl control enable => exact absurd rfl (hop control enable)
    | writeGeneric a data => exact q.session_prompt fun m ↦ m.write_prompt a data
    | write offset data => exact q.session_prompt fun m ↦ m.write_prompt _ data
    | extRateSelect channel revision cdrEnable =>
      exact q.extRateSelect_prompt channel revision cdrEnable
    | adapterKind => exact absurd rfl hadapter
    | phyAutonegSet channel media enable =>
      exact q.breakout_prompt channel media (CopperPhy.setAutoneg_stops enable)
    | phyModeSet channel media mode =>
      exact q.breakout_prompt channel media (CopperPhy.setMode_stops mode)
    | phySpeedSet channel media speed =>
      exact q.breakout_prompt channel media (CopperPhy.setSpeed_stops speed)
    | moduleInit _ | ledSet _ _ | wavelengthSet _ | phyPowerDown _ _ _ | phySerdesControl _ _ _
    | mailboxChain _ | tenGigSetRate _ | tenGigTxState | tenGigSetTxState _ | tenGigSystemStatus
    | tenGigLineStatus | tenGigLinkStatus => exact .throw _
    | _ => exact absurd trivial hquery

theorem serve_prompt {op : Operation}
    (hop : ∀ control enable, op ≠ .moduleControl control enable) (hadapter : op ≠ .adapterKind) :
    (q.serve op).Prompt := by
  unfold serve
  split
  · exact Sfp.serve_prompt _ op
  · exact .throw _
  · exact q.serveCage_prompt hop hadapter

theorem chain_stops (ps : List Packet) :
    (q.chain ps).Stops fun x source ↦ Procedure.Told Error.Tells x.2 source := by
  unfold chain
  split
  · exact Sfp.chain_stops _ ps
  · exact .offBus (.done _)

end Qsfp

namespace SubPort

variable (p : SubPort)

theorem serve_prompt {op : Operation}
    (hop : ∀ control enable, op ≠ .moduleControl control enable) (hadapter : op ≠ .adapterKind)
    (hsecond : op = .presence → p.isSecondary = false) : (p.serve op).Prompt := by
  by_cases hquery : op.IsQuery
  · exact (p.serve_queries (Scope.admits_whole _) hquery hsecond fun _ _ _ _ ↦ trivial).prompt
  · cases op with
    | txControl _ _ | cdrSet _ _ | extRateSelect _ _ _ | phyAutonegSet _ _ _ | phyModeSet _ _ _
    | phySpeedSet _ _ _ | phyPowerDown _ _ _ | phySerdesControl _ _ _ =>
      exact .after (.liftExcept _) fun c ↦ p.inner.serve_prompt nofun nofun
    | presence | channelMonitorStatus _ _ | channelStatus _ _ | txControlStatus _ | cdrStatus _
    | channelMonitor _ _ | phyLinkStatus _ _ => exact absurd trivial hquery
    | _ => exact p.inner.serve_prompt hop hadapter

end SubPort

/-! ## Main statement -/

/-- What a refused transaction comes to in an operation that exchanges `t` and returns `r`: there is
nothing after it but going back to page zero, and the operation fails with an error that tells of
it.  That going back itself is refused is not counted. -/
def Trace.Surfaces (t : Trace) (r : Except Error α) : Prop :=
  ∀ past e future source, t = past ++ e :: future → e.refusal? = some source →
    ¬(future = [] ∧ e.Restores past) →
    (∃ error, r = .error error ∧ error.Tells source) ∧
      (future = [] ∨ ∃ back, future = [back] ∧ back.Restores (past ++ [e]))

/-- A procedure that leaves a driver as it is. -/
theorem Procedure.Prompt.keeping {δ : Type} {d : δ} {p : Procedure α} (h : p.Prompt) :
    (keeping d p).Prompt fun x source ↦ Told Error.Tells x.1 source :=
  Program.Prompt.before h (fun _ ↦ .done _) fun _ _ ht _ _ _ ↦ ht

namespace Driver

/-- The operations that are done as far as possible. -/
def BestEffort (v : Driver) : Operation → Prop
  | .moduleInit _ | .moduleControl _ _ | .adapterKind => True
  | .presence => ∃ p, v = .subPort p ∧ p.isSecondary = true
  | _ => False

theorem perform_prompt {v : Driver} {op : Operation} (hop : ¬ v.BestEffort op) :
    (v.perform op).Prompt fun x source ↦ Procedure.Told Error.Tells x.1 source := by
  have hinit {present : Bool} : op ≠ .moduleInit present := fun h ↦ hop (h ▸ trivial)
  have hcontrol (control : ModuleControl) (enable : Bool) : op ≠ .moduleControl control enable :=
    fun h ↦ hop (h ▸ trivial)
  have hadapter : op ≠ .adapterKind := fun h ↦ hop (h ▸ trivial)
  cases v with
  | sfp d =>
    exact .before (d.serve_prompt op).keeping (fun _ ↦ .done _) fun _ _ ht _ _ _ ↦ ht
  | qsfp d =>
    refine .before (T := fun x source ↦ Procedure.Told Error.Tells x.1 source) ?_
      (fun _ ↦ .done _) fun _ _ ht _ _ _ ↦ ht
    have hserve := (d.serve_prompt hcontrol hadapter).keeping (d := d)
    cases op with
    | moduleInit _ => exact absurd rfl hinit
    | _ => exact hserve
  | subPort d =>
    refine .before (T := fun x source ↦ Procedure.Told Error.Tells x.1 source) ?_
      (fun _ ↦ .done _) fun _ _ ht _ _ _ ↦ ht
    have hsecond : op = .presence → d.isSecondary = false := fun h ↦
      Bool.eq_false_iff.mpr fun hd ↦ hop (h ▸ ⟨d, rfl, hd⟩)
    have hserve := (d.serve_prompt hcontrol hadapter hsecond).keeping (d := d)
    cases op with
    | moduleInit _ => exact absurd rfl hinit
    | _ => exact hserve

theorem chain_prompt (v : Driver) (ps : List Packet) :
    (v.chain ps).Prompt fun x source ↦ Procedure.Told Error.Tells x.2 source := by
  cases v with
  | sfp d => exact (d.chain_stops ps).prompt
  | qsfp d => exact (d.chain_stops ps).prompt
  | subPort d => exact (d.inner.chain_stops ps).prompt

/-- Whatever the surroundings of a driver answer, an operation ends at the first transaction that is
refused, with an error that tells of it, and at most goes back to page zero.  So does running
packets. -/
theorem refusal_surfaces {σ : Type} (env : Environment σ) (s : σ) (v : Driver) :
    (∀ op, ¬ v.BestEffort op →
      ((v.perform op).trace env s).exchanges.Surfaces ((v.perform op).value env s).1) ∧
    ∀ ps, ((v.chain ps).trace env s).exchanges.Surfaces ((v.chain ps).value env s).2 :=
  ⟨fun _ hop past e future source ↦ perform_prompt hop σ env s past e future source,
    fun ps past e future source ↦ v.chain_prompt ps σ env s past e future source⟩

/-- Bytes that are written to a page are refused, and the module goes back to page zero. -/
theorem refusal_surfaces_page :
    let c : Cage := {
      instanceId := 0, name := "port0", family := .qsfp, portType := .qsfp, address := 0x50
      selector := ⟨none, none⟩, selectDelay := .zero, presence := ⟨⟨"control", 0⟩, 0⟩
      reset := none, resetDelay := .zero, lowPower := none, txControl := none, rxLoss := none
      txFault := none, portLed := none, defaultSpeedMbps := none, channelOffset := 0
      maxPowerMw := 3500 }
    let v : Driver := .qsfp (.ofCage c)
    let b : Bench := ⟨(Segment.blank.addModule 0x50).failWrites ⟨0x50, 130⟩, fun _ ↦ .ofLevel 1⟩
    let op : Operation := .writeGeneric (.paged 3 128) [1, 2, 3]
    ¬ v.BestEffort op ∧
      (∃ e, ((v.perform op).value Bench.answer b).1 = .error e ∧
        e.Tells (.bus 0x50 128 .notAcknowledged)) ∧
      ((v.perform op).trace Bench.answer b).transactions =
        [.read 0x50 2 1, .write 0x50 127 [3], .write 0x50 128 [1, 2, 3], .write 0x50 127 [0]] := by
  intro c v b op
  refine ⟨id, ?_, by decide +kernel⟩
  have h := (refusal_surfaces Bench.answer b v).1 op id
  have ht : ((v.perform op).trace Bench.answer b).exchanges =
      [⟨.read 0x50 2 1, .ok #v[0]⟩, ⟨.write 0x50 127 [3], .ok ()⟩] ++
        ⟨.write 0x50 128 [1, 2, 3], .error .notAcknowledged⟩ ::
        [⟨.write 0x50 127 [0], .ok ()⟩] := by
    dsimp only [op, b, v, c]
    rfl
  exact (h _ _ _ _ ht rfl fun hlast ↦ nomatch hlast.1).1

end Driver

end Transceiver
