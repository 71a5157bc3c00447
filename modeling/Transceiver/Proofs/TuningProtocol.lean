import Transceiver.Proofs.Surfacing

/-!
# How a module is tuned

A tunable module is looked at, its tuning page is selected, and what it supports is read there
before anything is asked of it; from then on only its status is read, until it has settled.  Main
statement: whatever the surroundings answer, an attempt to tune either writes nothing but page
selects and fails, or follows a `Course` with a single request, and it succeeds exactly if that was
acknowledged and the last status read is that of a module which has settled.
-/

namespace Transceiver

variable {α β : Type}

/-! ## What is exchanged -/

/-- Whatever is answered, what a procedure returns and what it exchanges are as `Q` says. -/
def Procedure.Exchanging (p : Procedure α) (Q : Except Error α → Trace → Prop) : Prop :=
  ∀ (σ : Type) (env : Environment σ) (s : σ),
    Q (p.run.value env s) (p.run.trace env s).exchanges

namespace Procedure.Exchanging

variable {p : Procedure α} {f : α → Procedure β} {P : Except Error α → Trace → Prop}
  {Q : Except Error β → Trace → Prop}

theorem imp {P' : Except Error α → Trace → Prop} (h : p.Exchanging P)
    (hP : ∀ r x, P r x → P' r x) : p.Exchanging P' := fun σ env s ↦ hP _ _ (h σ env s)

theorem pure {a : α} (h : P (.ok a) []) : Exchanging (Pure.pure a) P := fun _ _ _ ↦ h

theorem throw {e : Error} (h : P (.error e) []) :
    Exchanging (MonadExcept.throw e : Procedure α) P := fun _ _ _ ↦ h

/-- Nothing is exchanged after a failure. -/
theorem throw_bind {e : Error} (h : Q (.error e) []) :
    Exchanging ((MonadExcept.throw e : Procedure α) >>= f) Q := fun _ _ _ ↦ h

/-- What a sequence exchanges is what its parts do, in order. -/
theorem bind (h : p.Exchanging P)
    (hf : ∀ a x, P (.ok a) x → (f a).Exchanging fun r y ↦ Q r (x ++ y))
    (he : ∀ e x, P (.error e) x → Q (.error e) x) : (p >>= f).Exchanging Q := by
  intro σ env s
  rw [run_bind, Program.value_bind, Program.trace_bind, Trace.exchanges_append]
  have hp := h σ env s
  cases hr : p.run.value env s with
  | ok a =>
    rw [hr] at hp
    exact hf a _ hp σ env _
  | error e =>
    rw [hr] at hp
    have := he e _ hp
    simpa [andThen, Trace.exchanges] using this

/-- Nothing is exchanged by what is done off the bus. -/
theorem lift {q : Program α} (h : q.MadeOf (Single Action.IsOffBus)) (hP : ∀ a, P (.ok a) []) :
    Exchanging (liftM q : Procedure α) P := by
  intro σ env s
  rw [Program.MadeOf.exchanges_eq_nil (Procedure.MadeOf.lift h) env s, (RunsTo.lift q s).value]
  exact hP _

theorem after {q : Program α} (h : q.MadeOf (Single Action.IsOffBus))
    (hf : ∀ a, (f a).Exchanging Q) : (liftM q >>= f).Exchanging Q := by
  refine bind (lift (P := fun r x ↦ x = [] ∧ ∃ a, r = .ok a) h fun a ↦ ⟨rfl, a, rfl⟩)
    (fun a x hx ↦ ?_) fun e x hx ↦ nomatch hx.2
  rw [hx.1]
  exact hf a

end Procedure.Exchanging

/-- A byte that a device told. -/
def told (device offset b : UInt8) : Event := ⟨.read device offset 1, .ok #v[b]⟩

/-- The selection of a page of a device, with what became of it. -/
def pageSelection (device page : UInt8) (reply : Except BusFault Unit) : Event :=
  ⟨.write device QsfpMap.pageSelect [page], reply⟩

namespace Procedure.Exchanging

variable {device offset : UInt8} {Q : Except Error β → Trace → Prop}

/-- A procedure goes on after a read that is answered with bytes. -/
theorem read {length : Nat} {f : Vector UInt8 length → Procedure β}
    (hok : ∀ v, (f v).Exchanging fun r x ↦ Q r (⟨.read device offset length, .ok v⟩ :: x))
    (herror : ∀ fault, Q (.error (.bus device offset fault))
      [⟨.read device offset length, .error fault⟩]) :
    (Bus.read device offset length >>= f).Exchanging Q := by
  intro σ env s
  rw [run_bind, Bus.run_read]
  change Q (Program.value (.ask _ _) env s) (Program.trace (.ask _ _) env s).exchanges
  rw [Program.value_ask, Program.trace_ask]
  cases (env (.read device offset length) s).1 with
  | ok v => exact hok v σ env _
  | error fault => exact herror fault

theorem readByte {f : UInt8 → Procedure β}
    (hok : ∀ b, (f b).Exchanging fun r x ↦ Q r (told device offset b :: x))
    (herror : ∀ fault, Q (.error (.bus device offset fault))
      [⟨.read device offset 1, .error fault⟩]) :
    (Bus.readByte device offset >>= f).Exchanging Q := by
  intro σ env s
  rw [Bus.run_readByte_bind, Program.value_ask, Program.trace_ask]
  cases (env (.read device offset 1) s).1 with
  | ok v =>
    have hbyte : v = #v[byteIn v] := by
      ext i hi
      obtain rfl : i = 0 := by omega
      rfl
    have := hok (byteIn v) σ env (env (.read device offset 1) s).2
    unfold told at this
    rwa [← hbyte] at this
  | error fault => exact herror fault

/-- It goes on after a write that is acknowledged. -/
theorem write {data : List UInt8} {f : Unit → Procedure β}
    (hok : (f ()).Exchanging fun r x ↦ Q r (⟨.write device offset data, .ok ()⟩ :: x))
    (herror : ∀ fault, Q (.error (.bus device offset fault))
      [⟨.write device offset data, .error fault⟩]) :
    (Bus.write device offset data >>= f).Exchanging Q := by
  intro σ env s
  rw [run_bind, Bus.run_write]
  change Q (Program.value (.ask _ _) env s) (Program.trace (.ask _ _) env s).exchanges
  rw [Program.value_ask, Program.trace_ask]
  cases (env (.write device offset data) s).1 with
  | ok _ => exact hok σ env _
  | error fault => exact herror fault

end Procedure.Exchanging

namespace Selected

section Unpaged

variable {m : Selected} {a : Address} (ha : a.page = .ignore)
include ha

/-- An access on whatever page is shown is one transaction. -/
theorem read_eq_bus {length : Nat} (h : a.offset.toNat + length ≤ addressSpace) :
    m.read a length = Bus.read (a.device.resolve m.address) a.offset length := by
  unfold read
  rw [checkRange_bind h, paged_unpaged ha]

theorem write_eq_bus {data : List UInt8} (h : a.offset.toNat + data.length ≤ addressSpace) :
    m.write a data = Bus.write (a.device.resolve m.address) a.offset data := by
  unfold write
  rw [checkRange_bind h, paged_unpaged ha]

end Unpaged

/-- What is done on a page is exchanged between the selections of that page and of page zero. -/
theorem onPage_exchanging {device page : UInt8} {body : Procedure α}
    {P Q : Except Error α → Trace → Prop} (h : body.Exchanging P)
    (hrefused : ∀ fault, Q (.error (.bus device QsfpMap.pageSelect fault))
      [pageSelection device page (.error fault)])
    (hbody : ∀ r x left, P r x →
      Q r (pageSelection device page (.ok ()) :: (x ++ [pageSelection device 0 left]))) :
    (onPage device page body).Exchanging Q := by
  intro σ env s
  cases hselect : (env (.write device QsfpMap.pageSelect [page]) s).1 with
  | error fault =>
    obtain ⟨hvalue, htrace⟩ := exchanges_onPage_of_error device page body hselect
    rw [hvalue, htrace]
    exact hrefused fault
  | ok _ =>
    obtain ⟨hvalue, left, htrace⟩ := exchanges_onPage device page body hselect
    rw [hvalue, htrace]
    exact hbody _ _ left (h σ env _)

end Selected

/-! ## Before a request -/

/-- A byte of the lower half of a device is asked for. -/
def Event.LooksUp (e : Event) : Prop :=
  ∃ device offset, offset < upperHalf ∧ e.action = .read device offset 1

/-- Nothing is written but which page is shown. -/
inductive Event.IsProbe : Event → Prop
  | read (device offset : UInt8) (length : Nat) (reply : Except BusFault (Vector UInt8 length)) :
      IsProbe ⟨.read device offset length, reply⟩
  | select (device page : UInt8) (reply : Except BusFault Unit) :
      IsProbe (pageSelection device page reply)

theorem Event.LooksUp.isProbe {e : Event} (h : e.LooksUp) : e.IsProbe := by
  obtain ⟨action, reply⟩ := e
  obtain ⟨device, offset, -, rfl⟩ := h
  exact .read device offset 1 reply

/-- A procedure only looks up bytes of lower halves. -/
def Procedure.LooksUp (p : Procedure α) : Prop :=
  p.Exchanging fun _ x ↦ ∀ e ∈ x, e.LooksUp

namespace Procedure.LooksUp

variable {p : Procedure α} {f : α → Procedure β}

theorem pure (a : α) : Procedure.LooksUp (Pure.pure a) := Exchanging.pure fun _ he ↦ nomatch he

theorem throw (e : Error) : Procedure.LooksUp (MonadExcept.throw e : Procedure α) :=
  Exchanging.throw fun _ he ↦ nomatch he

theorem bind (h : p.LooksUp) (hf : ∀ a, (f a).LooksUp) : Procedure.LooksUp (p >>= f) :=
  Exchanging.bind h
    (fun a _ hx ↦ (hf a).imp fun _ _ hy e he ↦ (List.mem_append.mp he).elim (hx e) (hy e))
    fun _ _ hx ↦ hx

theorem require {c : Prop} [Decidable c] {e : Error} (h : p.LooksUp) :
    Procedure.LooksUp (if c then p else (do MonadExcept.throw e; p)) := by
  split
  · exact h
  · exact .bind (.throw e) fun _ ↦ h

theorem readByte {device offset : UInt8} (h : offset < upperHalf) {f : UInt8 → Procedure β}
    (hf : ∀ b, (f b).LooksUp) : (Bus.readByte device offset >>= f).LooksUp := by
  have hevent (reply : Except BusFault (Vector UInt8 1)) :
      Event.LooksUp ⟨.read device offset 1, reply⟩ := ⟨device, offset, h, rfl⟩
  refine Exchanging.readByte (fun b ↦ (hf b).imp fun _ _ hx e he ↦ ?_) fun fault e he ↦ ?_
  · rcases List.mem_cons.mp he with rfl | he
    · exact hevent _
    · exact hx e he
  · cases List.mem_singleton.mp he
    exact hevent _

end Procedure.LooksUp

theorem Selected.pagingSupported_looksUp (m : Selected) : m.pagingSupported.LooksUp := by
  unfold pagingSupported
  split
  · exact .readByte (by decide) fun _ ↦ .pure _
  · exact .readByte (by decide) fun _ ↦ .pure _
  · exact .pure _

namespace Tuning

theorem isTunable_looksUp (m : Selected) : (isTunable m).LooksUp := by
  unfold isTunable
  rw [Selected.readByte_eq rfl]
  exact .readByte (by decide) fun _ ↦ .pure _

theorem requirePaged_looksUp (m : Selected) : (requirePaged m).LooksUp := by
  refine .bind (isTunable_looksUp m) fun _ ↦ .require <|
    .bind m.pagingSupported_looksUp fun _ ↦ ?_
  split
  · exact .pure ()
  · exact .throw _

/-! ## After a request -/

/-- Two status bytes, the current and the latched one, tell of no fault, no lost lock and no tuning
in progress. -/
def Settled (p : UInt8 × UInt8) : Prop := p.1 &&& 0x70 = 0 ∧ p.2 &&& 0x70 = 0

theorem tuningSettled_iff (now latched : UInt8) :
    tuningSettled now latched = true ↔ Settled (now, latched) := by
  unfold tuningSettled Settled
  rw [Bool.and_eq_true, beq_iff_eq, beq_iff_eq]
  rfl

/-- Both status bytes, as they were read. -/
def statusPair (p : UInt8 × UInt8) : Trace :=
  [told diagnosticDevice SfpMap.Tuning.status p.1,
    told diagnosticDevice SfpMap.Tuning.latchedStatus p.2]

/-- A status pair that was cut short by a refused read. -/
inductive CutShort : Trace → Prop
  | status (fault : BusFault) :
      CutShort [⟨.read diagnosticDevice SfpMap.Tuning.status 1, .error fault⟩]
  | latched (now : UInt8) (fault : BusFault) :
      CutShort [told diagnosticDevice SfpMap.Tuning.status now,
        ⟨.read diagnosticDevice SfpMap.Tuning.latchedStatus 1, .error fault⟩]

/-- The pairs of status bytes that are read after a request, and what was read of one more when a
read was refused. -/
structure Polled (pairs : List (UInt8 × UInt8)) (cut : Trace) : Prop where
  /-- There is a pair, unless a read is refused. -/
  started : pairs = [] → CutShort cut
  rest : cut = [] ∨ CutShort cut
  /-- Nothing is read after a pair of a module that has settled. -/
  unsettled : ∀ past p future, pairs = past ++ p :: future → Settled p → future = [] ∧ cut = []

/-- The last pair is that of a module that has settled. -/
def EndsSettled (pairs : List (UInt8 × UInt8)) : Prop := ∃ p ∈ pairs.getLast?, Settled p

namespace Polled

variable {pairs : List (UInt8 × UInt8)} {cut : Trace} {p : UInt8 × UInt8}

theorem single (p : UInt8 × UInt8) : Polled [p] [] where
  started := nofun
  rest := .inl rfl
  unsettled past q future h _ := by
    cases past with
    | nil => exact ⟨(List.cons_eq_cons.mp h).2.symm, rfl⟩
    | cons _ past => simp at h

theorem cutShort (h : CutShort cut) : Polled [] cut where
  started _ := h
  rest := .inr h
  unsettled past q future h _ := by simp at h

theorem cons (hp : ¬ Settled p) (h : Polled pairs cut) : Polled (p :: pairs) cut where
  started := nofun
  rest := h.rest
  unsettled past q future heq hq := by
    cases past with
    | nil =>
      cases (List.cons_eq_cons.mp heq).1
      exact absurd hq hp
    | cons _ past => exact h.unsettled past q future (List.cons_eq_cons.mp heq).2 hq

end Polled

theorem endsSettled_single {p : UInt8 × UInt8} : EndsSettled [p] ↔ Settled p := by
  simp [EndsSettled]

theorem not_endsSettled_nil : ¬ EndsSettled [] := by simp [EndsSettled]

/-- A pair of a module that has not settled does not count at the end. -/
theorem endsSettled_cons {p : UInt8 × UInt8} {pairs : List (UInt8 × UInt8)} (hp : ¬ Settled p) :
    EndsSettled (p :: pairs) ↔ EndsSettled pairs := by
  cases pairs with
  | nil => simp [EndsSettled, hp]
  | cons q pairs => simp [EndsSettled, List.getLast?_cons_cons]

/-- The two status bytes are read one after the other, if no read is refused. -/
theorem statusPair_exchanging (m : Selected) {f : UInt8 → UInt8 → Procedure β}
    {Q : Except Error β → Trace → Prop}
    (hf : ∀ p : UInt8 × UInt8, (f p.1 p.2).Exchanging fun r y ↦ Q r (statusPair p ++ y))
    (hcut : ∀ e cut, CutShort cut → Q (.error e) cut) :
    (do
      let now ← m.readByte (.diagnostic SfpMap.Tuning.status)
      let latched ← m.readByte (.diagnostic SfpMap.Tuning.latchedStatus)
      f now latched).Exchanging Q := by
  rw [Selected.readByte_eq rfl, Selected.readByte_eq rfl]
  exact .readByte (fun now ↦ .readByte (fun latched ↦ hf (now, latched))
    fun fault ↦ hcut _ _ (.latched now fault)) fun fault ↦ hcut _ _ (.status fault)

/-- What is read while a module settles, and what comes of it. -/
def Awaited (r : Except Error Unit) (x : Trace) : Prop :=
  ∃ pairs cut, x = pairs.flatMap statusPair ++ cut ∧ Polled pairs cut ∧
    (r = .ok () ↔ EndsSettled pairs)

/-- A pair of status bytes ends the wait, or what is left of the wait follows it. -/
theorem awaitSettled_step (m : Selected) (t : TuningTiming) {n : Nat}
    (h : n ≠ 0 → (awaitSettled m t n).Exchanging Awaited) :
    (awaitSettled m t (n + 1)).Exchanging Awaited := by
  refine statusPair_exchanging m (fun p ↦ ?_) fun e cut hcut ↦
    ⟨[], cut, rfl, .cutShort hcut, iff_of_false nofun not_endsSettled_nil⟩
  dsimp only
  by_cases hp : Settled p
  · rw [if_pos ((tuningSettled_iff _ _).mpr hp)]
    exact .pure ⟨[p], [], rfl, .single p, iff_of_true rfl (endsSettled_single.mpr hp)⟩
  · rw [if_neg (mt (tuningSettled_iff _ _).mp hp)]
    split
    · exact .after (report_madeOf _ _ _) fun _ ↦ .throw
        ⟨[p], [], rfl, .single p, iff_of_false nofun (mt endsSettled_single.mp hp)⟩
    · rename_i hn
      refine .after (settle_madeOf _) fun _ ↦ (h hn).imp ?_
      rintro r x ⟨pairs, cut, rfl, hpolled, hr⟩
      exact ⟨p :: pairs, cut, rfl, hpolled.cons hp, hr.trans (endsSettled_cons hp).symm⟩

/-- The status is read pair by pair until the module has settled, by induction on the number of
reads that are left. -/
theorem awaitSettled_exchanging (m : Selected) (t : TuningTiming) (n : Nat) :
    (awaitSettled m t (n + 1)).Exchanging Awaited := by
  induction n with
  | zero => exact awaitSettled_step m t fun h ↦ absurd rfl h
  | succ n ih => exact awaitSettled_step m t fun _ ↦ ih

/-! ## The request -/

/-- How a module is tuned. -/
structure Course where
  /-- What is looked up before the tuning page is selected. -/
  before : Trace
  /-- What the module supports. -/
  support : UInt8
  /-- The capability block. -/
  block : Vector UInt8 10
  /-- Where the request is written. -/
  offset : UInt8
  data : List UInt8
  reply : Except BusFault Unit
  /-- The status bytes that are read after the request. -/
  pairs : List (UInt8 × UInt8)
  cut : Trace
  /-- What becomes of going back to page zero. -/
  left : Except BusFault Unit

namespace Course

/-- What is read after the request. -/
def polls (c : Course) : Trace := c.pairs.flatMap statusPair ++ c.cut

/-- What is exchanged while the tuning page is selected. -/
def onPage (c : Course) : Trace :=
  told diagnosticDevice 128 c.support :: ⟨.read diagnosticDevice 132 10, .ok c.block⟩ ::
    ⟨.write diagnosticDevice c.offset c.data, c.reply⟩ :: c.polls

/-- What is exchanged. -/
def trace (c : Course) : Trace :=
  c.before ++ pageSelection diagnosticDevice 2 (.ok ()) ::
    (c.onPage ++ [pageSelection diagnosticDevice 0 c.left])

/-- The request is the one for a wavelength, and what is read fits together. -/
structure Proper (c : Course) (nm : Float) : Prop where
  before : ∀ e ∈ c.before, e.LooksUp
  valid : nm.isFinite = true ∧ ¬ nm ≤ 0
  /-- The frequency is in the range of the capability block.  The module is asked for a channel if
  it supports that, and for a wavelength otherwise, if it supports that. -/
  request : ∃ g, Grid.ofBlock c.block c.support = .ok g ∧ g.contains (thzOfNm nm) = true ∧
    (hasBit c.support .b1 = true ∧ c.offset = 144 ∧ c.data = bytes16 (g.channelFor (thzOfNm nm)) ∨
      hasBit c.support .b1 = false ∧ hasBit c.support .b0 = true ∧ c.offset = 146 ∧
        c.data = bytes16 (wavelengthWord nm))
  /-- Nothing is read after a request that is refused. -/
  refused : c.reply ≠ .ok () → c.pairs = [] ∧ c.cut = []
  polled : c.reply = .ok () → Polled c.pairs c.cut

/-- The request was acknowledged and the module has settled. -/
def Succeeds (c : Course) : Prop := c.reply = .ok () ∧ EndsSettled c.pairs

end Course

/-- A module is only looked at, and the attempt fails, or it is tuned as a course says, of which
`exchanged` is done. -/
def Attempted (nm : Float) (exchanged : Course → Trace) (r : Except Error Tuned) (x : Trace) :
    Prop :=
  (∀ e ∈ x, e.IsProbe) ∧ (∃ e, r = .error e) ∨
    ∃ c : Course, c.Proper nm ∧ x = exchanged c ∧ ((∃ tuned, r = .ok tuned) ↔ c.Succeeds)

/-- The support byte and then the capability block are read, or it fails. -/
theorem readGrid_exchanging (m : Selected) :
    (readGrid m).Exchanging fun r x ↦
      (∀ e ∈ x, e.IsProbe) ∧ (∃ e, r = .error e) ∨
        ∃ support block, ∃ g : Grid Float, Grid.ofBlock block support = .ok g ∧ r = .ok g ∧
          x = [told diagnosticDevice 128 support,
            ⟨.read diagnosticDevice 132 10, .ok block⟩] := by
  unfold readGrid
  rw [Selected.readByte_eq rfl, Selected.read_eq_bus rfl (by decide)]
  refine .readByte (fun support ↦ .read (fun block ↦ ?_) fun fault ↦ ?_) fun fault ↦ ?_
  · cases hg : (Grid.ofBlock block support : Except (Float × Float) (Grid Float)) with
    | ok g => exact .pure (.inr ⟨support, block, g, hg, rfl, rfl⟩)
    | error range =>
      refine .throw (.inl ⟨?_, _, rfl⟩)
      simp only [List.forall_mem_cons]
      exact ⟨.read .., .read .., nofun⟩
  · refine .inl ⟨?_, _, rfl⟩
    simp only [List.forall_mem_cons]
    exact ⟨.read .., .read .., nofun⟩
  · refine .inl ⟨?_, _, rfl⟩
    simp only [List.forall_mem_cons]
    exact ⟨.read .., nofun⟩

/-- A word is asked for with a single write. -/
theorem ask_exchanging (m : Selected) {offset : UInt8} (h : offset.toNat + 2 ≤ addressSpace)
    (w : UInt16) (a : α) :
    (do
      m.write (.diagnostic offset) (bytes16 w)
      return a : Procedure α).Exchanging fun r x ↦
        ∃ reply, x = [⟨.write diagnosticDevice offset (bytes16 w), reply⟩] ∧
          ((∃ a, r = .ok a) ↔ reply = .ok ()) := by
  rw [Selected.write_eq_bus rfl (show _ + (bytes16 w).length ≤ _ from h)]
  exact .write (.pure ⟨.ok (), rfl, iff_of_true ⟨a, rfl⟩ rfl⟩) fun fault ↦
    ⟨.error fault, rfl, iff_of_false nofun nofun⟩

/-- A channel is asked for if the module takes one, otherwise a wavelength. -/
theorem request_exchanging (m : Selected) (g : Grid Float) (nm thz : Float) :
    (request m g nm thz).Exchanging fun r x ↦
      x = [] ∧ (∃ e, r = .error e) ∨
        ∃ offset data reply, x = [⟨.write diagnosticDevice offset data, reply⟩] ∧
          ((∃ a, r = .ok a) ↔ reply = .ok ()) ∧
          (g.channelTuning = true ∧ offset = 144 ∧ data = bytes16 (g.channelFor thz) ∨
            g.channelTuning = false ∧ g.wavelengthTuning = true ∧ offset = 146 ∧
              data = bytes16 (wavelengthWord nm)) := by
  unfold request
  split
  · rename_i hchannel
    exact (ask_exchanging m (by decide) _ _).imp fun r x ⟨reply, hx, hr⟩ ↦
      .inr ⟨_, _, reply, hx, hr, .inl ⟨hchannel, rfl, rfl⟩⟩
  · rename_i hchannel
    split
    · rename_i hwavelength
      exact (ask_exchanging m (by decide) _ _).imp fun r x ⟨reply, hx, hr⟩ ↦
        .inr ⟨_, _, reply, hx, hr,
          .inr ⟨eq_false_of_ne_true hchannel, hwavelength, rfl, rfl⟩⟩
    · exact .throw (.inl ⟨rfl, _, rfl⟩)

/-- What a module takes is told by its support byte. -/
theorem tuning_of_ofBlock {block : Vector UInt8 10} {support : UInt8} {g : Grid Float}
    (h : Grid.ofBlock block support = .ok g) :
    g.channelTuning = hasBit support .b1 ∧ g.wavelengthTuning = hasBit support .b0 := by
  unfold Grid.ofBlock at h
  dsimp only at h
  split at h
  · cases h
  · cases h
    exact ⟨rfl, rfl⟩

/-- There is a single request, and what follows it is the wait for the module. -/
theorem request_bind_exchanging (m : Selected) {k : TuneRequest → Procedure Tuned} {nm : Float}
    {support : UInt8} {block : Vector UInt8 10} {g : Grid Float}
    (hvalid : nm.isFinite = true ∧ ¬ nm ≤ 0) (hg : Grid.ofBlock block support = .ok g)
    (hcontains : g.contains (thzOfNm nm) = true)
    (hk : ∀ a, (k a).Exchanging fun r x ↦ ∃ r', Awaited r' x ∧
      ((∃ tuned, r = .ok tuned) ↔ r' = .ok ())) :
    (request m g nm (thzOfNm nm) >>= k).Exchanging fun r x ↦
      Attempted nm Course.onPage r (told diagnosticDevice 128 support ::
        ⟨.read diagnosticDevice 132 10, .ok block⟩ :: x) := by
  obtain ⟨hchannel, hwavelength⟩ := tuning_of_ofBlock hg
  refine .bind (request_exchanging m g nm (thzOfNm nm)) ?_ ?_
  · rintro a x (⟨-, _, ha⟩ | ⟨offset, data, reply, rfl, hreply, hasked⟩)
    · cases ha
    rw [hchannel, hwavelength] at hasked
    refine (hk a).imp ?_
    rintro r x ⟨r', ⟨pairs, cut, rfl, hpolled, hr'⟩, hr⟩
    have hacknowledged : reply = .ok () := hreply.mp ⟨a, rfl⟩
    refine .inr ⟨⟨[], support, block, offset, data, reply, pairs, cut, .ok ()⟩, ?_, rfl, ?_⟩
    · exact ⟨nofun, hvalid, ⟨g, hg, hcontains, hasked⟩, absurd hacknowledged, fun _ ↦ hpolled⟩
    · rw [hr, hr', Course.Succeeds, and_iff_right hacknowledged]
  · rintro e x (⟨rfl, -⟩ | ⟨offset, data, reply, rfl, hreply, hasked⟩)
    · refine .inl ⟨?_, e, rfl⟩
      simp only [List.forall_mem_cons]
      exact ⟨.read .., .read .., nofun⟩
    rw [hchannel, hwavelength] at hasked
    have hrefused : reply ≠ .ok () := fun h ↦ nomatch hreply.mpr h
    refine .inr ⟨⟨[], support, block, offset, data, reply, [], [], .ok ()⟩, ?_, rfl, ?_⟩
    · exact ⟨nofun, hvalid, ⟨g, hg, hcontains, hasked⟩, fun _ ↦ ⟨rfl, rfl⟩, (absurd · hrefused)⟩
    · exact iff_of_false nofun fun h ↦ hrefused h.1

/-- A module is tuned on its tuning page, once it is known to have one. -/
theorem setWavelength_exchanging (m : Selected) (t : TuningTiming) (nm : Float) :
    (setWavelength m t nm).Exchanging (Attempted nm Course.trace) := by
  unfold setWavelength
  split
  · exact .throw_bind (.inl ⟨nofun, _, rfl⟩)
  rename_i hnm
  have hvalid : nm.isFinite = true ∧ ¬ nm ≤ 0 := by simpa using hnm
  refine .bind (requirePaged_looksUp m) (fun _ before hbefore ↦ ?_) fun e x hx ↦
    .inl ⟨fun e he ↦ (hx e he).isProbe, e, rfl⟩
  refine Selected.onPage_exchanging (P := Attempted nm Course.onPage) ?_ (fun fault ↦ ?_) ?_
  · refine .bind (readGrid_exchanging m) ?_ ?_
    · rintro g x (⟨-, _, hg⟩ | ⟨support, block, _, hg, hok, rfl⟩)
      · cases hg
      cases hok
      dsimp only
      split
      · rename_i hcontains
        refine request_bind_exchanging m hvalid hg hcontains fun a ↦
          .after (report_madeOf _ _ _) fun _ ↦ .bind (awaitSettled_exchanging m t _) ?_ ?_
        · exact fun u x hx ↦ .pure ⟨.ok u, by simpa using hx, iff_of_true ⟨_, rfl⟩ rfl⟩
        · exact fun e x hx ↦ ⟨.error e, hx, iff_of_false nofun nofun⟩
      · refine .throw_bind (.inl ⟨?_, _, rfl⟩)
        simp only [List.append_nil, List.forall_mem_cons]
        exact ⟨.read .., .read .., nofun⟩
    · rintro e x (h | ⟨_, _, _, -, he, -⟩)
      · exact .inl ⟨h.1, e, rfl⟩
      · cases he
  · refine .inl ⟨fun e he ↦ ?_, _, rfl⟩
    rcases List.mem_append.mp he with he | he
    · exact (hbefore e he).isProbe
    · exact List.mem_singleton.mp he ▸ .select ..
  · rintro r x left (⟨hprobes, hfails⟩ | ⟨c, hc, rfl, hr⟩)
    · refine .inl ⟨fun e he ↦ ?_, hfails⟩
      simp only [List.mem_append, List.mem_cons, List.not_mem_nil, or_false] at he
      rcases he with he | rfl | he | rfl
      · exact (hbefore e he).isProbe
      · exact .select ..
      · exact hprobes e he
      · exact .select ..
    · exact .inr ⟨{ c with before, left }, { hc with before := hbefore }, rfl, hr⟩

/-- Whatever the surroundings answer, an attempt to tune a module writes nothing but which page is
shown, and fails, or it has a single request, as `Course.trace` and `Course.Proper` say: the request
goes to the diagnostics while the tuning page is selected, after what the module supports was read
there, and only status reads and the way back to page zero come after it.  It succeeds exactly if
the request was acknowledged and the last status that was read is that of a module which has
settled. -/
theorem setWavelength_course {σ : Type} (env : Environment σ) (s : σ) (m : Selected)
    (t : TuningTiming) (nm : Float) :
    let r := (setWavelength m t nm).run.value env s
    let x := ((setWavelength m t nm).run.trace env s).exchanges
    (∀ e ∈ x, e.IsProbe) ∧ (∃ e, r = .error e) ∨
      ∃ c : Course, c.Proper nm ∧ x = c.trace ∧ ((∃ tuned, r = .ok tuned) ↔ c.Succeeds) :=
  setWavelength_exchanging m t nm σ env s

end Tuning

end Transceiver
