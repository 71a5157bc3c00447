import Transceiver.Proofs.MailboxExchange
import Transceiver.Proofs.TuningProtocol

/-!
# How long a mailbox is waited for

The status of a mailbox is asked for a number of times, with a pause after each time that it is
idle.  The number is counted in whole milliseconds: it is the least with which that many intervals
cover the timeout, where an interval shorter than a millisecond counts as one.  Main statement: a
packet is given up only after all of these pauses, which cover a timeout of whole milliseconds if
the interval is a millisecond or more.

Shorter intervals are not covered: the pauses add up to a part of the timeout that is reported.
-/

namespace Transceiver

variable {α β : Type}

/-! ## The number of polls -/

namespace MailboxTiming

variable (t : MailboxTiming)

/-- The milliseconds that an interval counts for. -/
def step : Nat := max t.interval.millis 1

/-- The time that passes if every status is idle, in nanoseconds. -/
def budget : Nat := t.polls * t.interval.nanos

theorem step_pos : 0 < t.step := Nat.lt_of_lt_of_le Nat.one_pos (Nat.le_max_right _ _)

theorem polls_pos : 0 < t.polls := by
  unfold polls
  split
  · exact Nat.one_pos
  · exact Nat.lt_of_lt_of_le Nat.one_pos (Nat.le_max_right _ _)

variable {t} (h : t.interval.isZero = false)
include h

/-- The polls are the fewest that cover the timeout, both in whole milliseconds. -/
theorem polls_le_iff {n : Nat} (hn : 0 < n) : t.polls ≤ n ↔ t.timeout.millis ≤ n * t.step := by
  have hpolls : t.polls = max ((t.timeout.millis + t.step - 1) / t.step) 1 := by
    unfold polls
    rw [h]
    rfl
  have hone : 1 ≤ n := hn
  rw [hpolls, Nat.max_le, and_iff_left hone, Nat.div_le_iff_le_mul t.step_pos]
  have hstep := t.step_pos
  omega

theorem timeout_le_polls : t.timeout.millis ≤ t.polls * t.step :=
  (polls_le_iff h t.polls_pos).mp (Nat.le_refl _)

/-- Without the last poll the timeout is not covered, unless that is the only one. -/
theorem polls_pred_lt : t.polls = 1 ∨ (t.polls - 1) * t.step < t.timeout.millis := by
  refine Decidable.or_iff_not_imp_left.mpr fun hne ↦ ?_
  have hpos := t.polls_pos
  have hless : ¬ t.polls ≤ t.polls - 1 := by omega
  rwa [polls_le_iff h (by omega), Nat.not_le] at hless

end MailboxTiming

/-! ## The time of the polls -/

/-- A span holds its whole milliseconds, and not one more. -/
theorem Duration.millis_bounds (d : Duration) :
    d.millis * 1000000 ≤ d.nanos ∧ d.nanos < (d.millis + 1) * 1000000 := by
  unfold millis
  omega

namespace MailboxTiming

variable {t : MailboxTiming}

/-- An interval of a millisecond or more lasts as long as it counts for, or longer. -/
theorem step_le_interval (hlong : 1000000 ≤ t.interval.nanos) :
    t.step * 1000000 ≤ t.interval.nanos := by
  unfold step Duration.millis
  omega

/-- A short interval, or one of whole milliseconds, does not last longer. -/
theorem interval_le_step (hwhole : t.interval.nanos ≤ 1000000 ∨ 1000000 ∣ t.interval.nanos) :
    t.interval.nanos ≤ t.step * 1000000 := by
  unfold step Duration.millis
  omega

/-- A short interval counts for a millisecond. -/
theorem step_of_short (hshort : t.interval.nanos < 1000000) : t.step = 1 := by
  unfold step Duration.millis
  omega

variable (h : t.interval.isZero = false)
include h

/-- Intervals of a millisecond or more cover the whole milliseconds of the timeout. -/
theorem millis_le_budget (hlong : 1000000 ≤ t.interval.nanos) :
    t.timeout.millis * 1000000 ≤ t.budget :=
  calc t.timeout.millis * 1000000
    _ ≤ t.polls * t.step * 1000000 := Nat.mul_le_mul_right _ (timeout_le_polls h)
    _ = t.polls * (t.step * 1000000) := Nat.mul_assoc _ _ _
    _ ≤ t.budget := Nat.mul_le_mul_left _ (step_le_interval hlong)

/-- A timeout that shorter intervals cover is covered by the first of them. -/
theorem timeout_le_budget_iff_of_short (hshort : t.interval.nanos < 1000000) :
    t.timeout.nanos ≤ t.budget ↔ t.timeout.nanos ≤ t.interval.nanos := by
  rcases polls_pred_lt h with hone | hmore
  · unfold budget
    rw [hone, Nat.one_mul]
  · -- each poll stands for a millisecond of the timeout, and takes less
    have hpolls : t.polls ≤ t.timeout.millis := by
      rw [step_of_short hshort] at hmore
      omega
    have hbudget : t.budget < t.timeout.nanos :=
      calc t.budget
        _ < t.polls * 1000000 := Nat.mul_lt_mul_of_pos_left hshort t.polls_pos
        _ ≤ t.timeout.millis * 1000000 := Nat.mul_le_mul_right _ hpolls
        _ ≤ t.timeout.nanos := t.timeout.millis_bounds.1
    have hinterval : t.interval.nanos ≤ t.budget := Nat.le_mul_of_pos_left _ t.polls_pos
    exact iff_of_false (Nat.not_le.mpr hbudget) (by omega)

/-- Without its last interval the budget does not reach the timeout. -/
theorem pred_budget_lt (hwhole : t.interval.nanos ≤ 1000000 ∨ 1000000 ∣ t.interval.nanos) :
    t.polls = 1 ∨ (t.polls - 1) * t.interval.nanos < t.timeout.nanos := by
  refine (polls_pred_lt h).imp_right fun hless ↦ ?_
  calc (t.polls - 1) * t.interval.nanos
    _ ≤ (t.polls - 1) * (t.step * 1000000) := Nat.mul_le_mul_left _ (interval_le_step hwhole)
    _ = (t.polls - 1) * t.step * 1000000 := (Nat.mul_assoc _ _ _).symm
    _ < t.timeout.millis * 1000000 := Nat.mul_lt_mul_of_pos_right hless (by decide)
    _ ≤ t.timeout.nanos := t.timeout.millis_bounds.1

end MailboxTiming

/-! ## Waiting -/

/-- The time that an action lets pass, in nanoseconds. -/
def Action.waiting : Action → Nat
  | .pause span => span.nanos
  | _ => 0

/-- The time that passes in the pauses of a trace. -/
def Trace.waiting : Trace → Nat
  | [] => 0
  | e :: t => e.action.waiting + waiting t

theorem Trace.waiting_append (t t' : Trace) : (t ++ t').waiting = t.waiting + t'.waiting := by
  induction t with
  | nil => exact (Nat.zero_add _).symm
  | cons e t ih => exact (congrArg (e.action.waiting + ·) ih).trans (Nat.add_assoc _ _ _).symm

/-- Whatever is answered, what a procedure returns and how long it waits are as `Q` says. -/
def Procedure.Waiting (p : Procedure α) (Q : Except Error α → Nat → Prop) : Prop :=
  ∀ (σ : Type) (env : Environment σ) (s : σ),
    Q (p.run.value env s) (p.run.trace env s).waiting

/-- Nothing is waited for, and no time runs out. -/
def IsPrompt (r : Except Error α) (waited : Nat) : Prop :=
  waited = 0 ∧ ∀ span, r ≠ .error (.timeout span)

namespace Procedure.Waiting

variable {p : Procedure α} {f : α → Procedure β} {P : Except Error α → Nat → Prop}
  {Q : Except Error β → Nat → Prop}

theorem imp {P' : Except Error α → Nat → Prop} (h : p.Waiting P) (hP : ∀ r n, P r n → P' r n) :
    p.Waiting P' := fun σ env s ↦ hP _ _ (h σ env s)

theorem pure {a : α} (h : P (.ok a) 0) : Waiting (Pure.pure a) P := fun _ _ _ ↦ h

theorem throw {e : Error} (h : P (.error e) 0) :
    Waiting (MonadExcept.throw e : Procedure α) P := fun _ _ _ ↦ h

/-- A sequence waits for as long as its parts do together. -/
theorem bind (h : p.Waiting P)
    (hf : ∀ a n, P (.ok a) n → (f a).Waiting fun r k ↦ Q r (n + k))
    (he : ∀ e n, P (.error e) n → Q (.error e) n) : (p >>= f).Waiting Q := by
  intro σ env s
  rw [run_bind, Program.value_bind, Program.trace_bind, Trace.waiting_append]
  have hp := h σ env s
  cases hr : p.run.value env s with
  | ok a =>
    rw [hr] at hp
    exact hf a _ hp σ env _
  | error e =>
    rw [hr] at hp
    exact he e _ hp

/-- What follows a prompt step. -/
theorem after (h : p.Waiting IsPrompt) (hf : ∀ a, (f a).Waiting Q)
    (he : ∀ e, (∀ span, e ≠ .timeout span) → Q (.error e) 0) : (p >>= f).Waiting Q := by
  refine h.bind (fun a n hn ↦ ?_) fun e n hn ↦ ?_
  · rw [hn.1]
    exact (hf a).imp fun r k hk ↦ by rwa [Nat.zero_add]
  · rw [hn.1]
    exact he e fun span hspan ↦ hn.2 span (congrArg _ hspan)

end Procedure.Waiting

theorem report_isPrompt (severity : Severity) (message : String)
    (fields : List (String × String)) :
    Procedure.Waiting (liftM (report severity message fields)) IsPrompt :=
  fun _ _ _ ↦ ⟨rfl, nofun⟩

/-- A pause lasts for its span. -/
theorem settle_waiting (span : Duration) :
    Procedure.Waiting (liftM (settle span)) fun r n ↦ r = .ok () ∧ n = span.nanos := by
  intro σ env s
  unfold settle
  split
  · rename_i hzero
    exact ⟨rfl, (eq_of_beq hzero).symm⟩
  · exact ⟨rfl, rfl⟩

theorem Bus.read_isPrompt (device offset : UInt8) (length : Nat) :
    (Bus.read device offset length).Waiting IsPrompt := by
  intro σ env s
  rw [Bus.run_read]
  refine ⟨rfl, ?_⟩
  rw [Program.value_ask]
  cases (env (.read device offset length) s).1 <;> nofun

theorem Bus.write_isPrompt (device offset : UInt8) (data : List UInt8) :
    (Bus.write device offset data).Waiting IsPrompt := by
  intro σ env s
  rw [Bus.run_write]
  refine ⟨rfl, ?_⟩
  rw [Program.value_ask]
  cases (env (.write device offset data) s).1 <;> nofun

namespace Mailbox

variable (m : Selected) (t : MailboxTiming)

/-- What an exchange waits for: no longer than `n`, and that long if it is given up. -/
def Spends (n : Nat) (r : Except Error α) (waited : Nat) : Prop :=
  waited ≤ n ∧ ∀ span, r = .error (.timeout span) → span = t.timeout ∧ waited = n

/-- A prompt end spends nothing. -/
theorem Spends.of_prompt {n : Nat} {r : Except Error α} (h : ∀ span, r ≠ .error (.timeout span)) :
    Spends t n r 0 := ⟨Nat.zero_le n, fun span hspan ↦ absurd hspan (h span)⟩

theorem readStatus_isPrompt : (m.readByte (.diagnostic mailboxStatusOffset)).Waiting IsPrompt := by
  rw [Selected.readByte_eq rfl]
  exact .after (Bus.read_isPrompt _ _ _) (fun b ↦ .pure ⟨rfl, nofun⟩) fun e he ↦
    ⟨rfl, fun span hspan ↦ he span (Except.error.inj hspan)⟩

/-- One status ends the wait, or an interval passes before the rest of the wait. -/
theorem await_step {n : Nat} (h : (await m t n).Waiting (Spends t (n * t.interval.nanos))) :
    (await m t (n + 1)).Waiting (Spends t ((n + 1) * t.interval.nanos)) := by
  refine .after (readStatus_isPrompt m) (fun b ↦ ?_) fun e he ↦
    .of_prompt t fun span hspan ↦ he span (Except.error.inj hspan)
  split
  · exact .pure (.of_prompt t nofun)
  · exact .throw (.of_prompt t nofun)
  · refine (settle_waiting _).bind (fun _ n hn ↦ h.imp fun r k hk ↦ ?_) fun e n hn ↦ nomatch hn.1
    rw [hn.2, Nat.succ_mul, Nat.add_comm]
    exact ⟨Nat.add_le_add_left hk.1 _, fun span hspan ↦
      ⟨(hk.2 span hspan).1, congrArg (_ + ·) (hk.2 span hspan).2⟩⟩
  · exact .throw (.of_prompt t nofun)

/-- The wait is given up only after all of its intervals, by induction on the polls left. -/
theorem await_waiting (n : Nat) :
    (await m t n).Waiting (Spends t (n * t.interval.nanos)) := by
  induction n with
  | zero =>
    rw [Nat.zero_mul]
    refine .throw ⟨Nat.le_refl _, fun span hspan ↦ ⟨?_, rfl⟩⟩
    cases hspan
    rfl
  | succ n ih => exact await_step m t ih

/-- The packet is sent at once. -/
theorem send_isPrompt (p : Packet) :
    (m.write (.diagnostic packetOffset) p.encode).Waiting IsPrompt := by
  rw [Selected.write_eq_bus rfl (by rw [p.length_encode]; decide)]
  exact Bus.write_isPrompt _ _ _

/-- So is the word of a packet collected. -/
theorem collect_isPrompt (p : Packet) :
    Procedure.Waiting (match p.op with
      | .write => pure p.data
      | .read => m.readWord (.diagnostic resultOffset)) IsPrompt := by
  cases p.op with
  | write => exact .pure ⟨rfl, nofun⟩
  | read =>
    refine .after ?_ (fun b ↦ .pure ⟨rfl, nofun⟩) fun e he ↦
      ⟨rfl, fun span hspan ↦ he span (Except.error.inj hspan)⟩
    rw [Selected.read_eq_bus rfl (by decide)]
    exact Bus.read_isPrompt _ _ _

/-- A packet waits for its end and for nothing else. -/
theorem execute_waiting (p : Packet) : (execute m t p).Waiting (Spends t t.budget) := by
  have hprompt {n : Nat} (e : Error) (he : ∀ span, e ≠ .timeout span) :
      Spends t n (.error e : Except Error UInt16) 0 :=
    .of_prompt t fun span hspan ↦ he span (Except.error.inj hspan)
  refine .after (report_isPrompt _ _ _) (fun _ ↦ .after (send_isPrompt m p) (fun _ ↦ ?_) hprompt)
    hprompt
  refine (await_waiting m t t.polls).bind (fun _ n hn ↦ (collect_isPrompt m p).imp fun r k hk ↦ ?_)
    fun e n hn ↦ ⟨hn.1, fun span hspan ↦ hn.2 span (congrArg _ (Except.error.inj hspan))⟩
  rw [hk.1]
  exact ⟨hn.1, fun span hspan ↦ absurd hspan (hk.2 span)⟩

end Mailbox

/-! ## The budget -/

namespace MailboxTiming

/-- The polls of a timing with an interval are the fewest that cover its timeout in milliseconds.
They cover it up to a part of a millisecond, and do not overrun it by an interval of whole
milliseconds.  Whatever is answered, a packet waits no longer than the polls take, and for all of
them before it is given up with the timeout.

An interval shorter than a millisecond counts for one: then the timeout is covered only if it is no
longer than a single interval. -/
theorem budget_covers (t : MailboxTiming) (h : t.interval.isZero = false) :
    (∀ n, 0 < n → (t.polls ≤ n ↔ t.timeout.millis ≤ n * t.step)) ∧
    (1000000 ≤ t.interval.nanos →
      t.timeout.nanos < t.budget + 1000000 ∧
        (1000000 ∣ t.timeout.nanos → t.timeout.nanos ≤ t.budget)) ∧
    (t.interval.nanos < 1000000 →
      (t.timeout.nanos ≤ t.budget ↔ t.timeout.nanos ≤ t.interval.nanos)) ∧
    (t.interval.nanos ≤ 1000000 ∨ 1000000 ∣ t.interval.nanos →
      t.polls = 1 ∨ (t.polls - 1) * t.interval.nanos < t.timeout.nanos) ∧
    ∀ (m : Selected) (p : Packet) (σ : Type) (env : Environment σ) (s : σ),
      ((Mailbox.execute m t p).run.trace env s).waiting ≤ t.budget ∧
        ∀ span, (Mailbox.execute m t p).run.value env s = .error (.timeout span) →
          span = t.timeout ∧ ((Mailbox.execute m t p).run.trace env s).waiting = t.budget := by
  refine ⟨fun n ↦ polls_le_iff h, fun hlong ↦ ?_, timeout_le_budget_iff_of_short h,
    pred_budget_lt h, fun m p ↦ Mailbox.execute_waiting m t p⟩
  have hcover := millis_le_budget h hlong
  have hmillis := t.timeout.millis_bounds
  unfold Duration.millis at hcover hmillis
  omega

/-- A mailbox that is busy for longer than is waited for is given up. -/
theorem value_execute_busy (t : MailboxTiming) (m : Selected) (p : Packet) (polls : Nat)
    (h : t.polls ≤ polls) :
    (Mailbox.execute m t p).run.value Bench.answer
        (Bench.blank.withModule diagnosticDevice
          { ModuleMemory.blank with
            mailbox := some { PhyMailbox.blank with busyPolls := polls } }) =
      .error (.timeout t.timeout) := by
  have hcarries : Carries (Bench.blank.withModule diagnosticDevice
      { ModuleMemory.blank with mailbox := some { PhyMailbox.blank with busyPolls := polls } })
    _ _ := ⟨rfl, rfl, rfl, rfl⟩
  obtain ⟨_, _, hsend, -⟩ := Mailbox.execute_sends m t hcarries p
  rw [hsend.value]
  exact if_neg (Nat.not_lt.mpr h)

/-- An interval of three milliseconds covers a timeout of seven at the third poll. -/
theorem budget_covers_three_millis :
    let t : MailboxTiming := ⟨.ofMillis 3, .ofMillis 7⟩
    let p := Packet.read 1 9
    let b := Bench.blank.withModule diagnosticDevice
      { ModuleMemory.blank with mailbox := some { PhyMailbox.blank with busyPolls := 5 } }
    let exchange := (Mailbox.execute ⟨0x50, .sff8472⟩ t p).run
    t.polls = 3 ∧ t.timeout.nanos ≤ t.budget ∧ (t.polls - 1) * t.interval.nanos < t.timeout.nanos ∧
      exchange.value Bench.answer b = .error (.timeout (.ofMillis 7)) ∧
      (exchange.trace Bench.answer b).waiting = 9000000 := by
  intro t p b exchange
  have hbusy : exchange.value Bench.answer b = .error (.timeout (.ofMillis 7)) :=
    value_execute_busy t _ p 5 (by decide)
  have hpolls : t.polls = 3 := by decide
  have hbudget : t.budget = 9000000 := by decide
  obtain ⟨-, hlong, -, hwhole, hrun⟩ := budget_covers t rfl
  exact ⟨hpolls, (hlong (by decide)).2 (by decide),
    (hwhole (.inr (by decide))).resolve_left (by rw [hpolls]; decide), hbusy,
    ((hrun _ p _ _ b).2 _ hbusy).2.trans hbudget⟩

/-- Ten polls a hundred microseconds apart give a mailbox up after a millisecond, with a timeout of
ten. -/
theorem not_budget_covers :
    let t : MailboxTiming := ⟨.ofMicros 100, .ofMillis 10⟩
    let p := Packet.read 1 9
    let b := Bench.blank.withModule diagnosticDevice
      { ModuleMemory.blank with mailbox := some { PhyMailbox.blank with busyPolls := 50 } }
    let exchange := (Mailbox.execute ⟨0x50, .sff8472⟩ t p).run
    t.interval.isZero = false ∧ ¬ t.timeout.nanos ≤ t.polls * t.interval.nanos ∧
      exchange.value Bench.answer b = .error (.timeout t.timeout) ∧
      (exchange.trace Bench.answer b).waiting = 1000000 := by
  intro t p b exchange
  have hbusy : exchange.value Bench.answer b = .error (.timeout t.timeout) :=
    value_execute_busy t _ p 50 (by decide)
  have hbudget : t.budget = 1000000 := by decide
  exact ⟨rfl, by decide, hbusy,
    ((Mailbox.execute_waiting _ t p _ _ b).2 _ hbusy).2.trans hbudget⟩

end MailboxTiming

end Transceiver
