import Transceiver.Proofs.PagedMemory
import Transceiver.Proofs.TuningProtocol
import Transceiver.Simulation.Modules

/-!
# Wavelengths that are refused

A module must not be tuned to a wavelength that is none, nor to one outside of its grid.  Main
statement: on every bench, whatever faults it has, such a request fails and writes no register that
tunes a module, unless the module is tunable and tells that it has no pages.  A module without pages
is asked for whatever it is given; the example shows a negative wavelength written as zero.
-/

namespace Transceiver

/-! ## Traces on a bench -/

namespace Bench

/-- What is done off the bus leaves the segment alone. -/
theorem segment_answer {a : Action} (ha : a.transaction? = none) (b : Bench) :
    (answer a b).2.segment = b.segment := by
  cases a with
  | read _ _ _ | write _ _ _ => cases ha
  | _ => rfl

/-- A transaction depends on the segment alone. -/
theorem answer_eq {a : Action} (ha : a.transaction? ≠ none) {b b' : Bench}
    (h : b.segment = b'.segment) :
    (answer a b).1 = (answer a b').1 ∧ (answer a b).2.segment = (answer a b').2.segment := by
  cases a with
  | read _ _ _ | write _ _ _ => simp only [answer, h, and_self]
  | _ => exact absurd rfl ha

end Bench

/-- What is exchanged on a bench is answered as if there were nothing else. -/
theorem Trace.Answered.exchanges {t : Trace} {b b' : Bench} (h : t.Answered Bench.answer b)
    (hb : b.segment = b'.segment) : t.exchanges.Answered Bench.answer b' := by
  induction t generalizing b b' with
  | nil => trivial
  | cons e t ih =>
    unfold Trace.exchanges
    by_cases he : e.action.transaction? = none
    · rw [List.filter_cons_of_neg (by simp [he])]
      exact ih h.2 ((Bench.segment_answer he b).trans hb)
    · rw [List.filter_cons_of_pos (by simpa [Option.isSome_iff_ne_none] using he)]
      obtain ⟨hreply, hsegment⟩ := Bench.answer_eq he hb
      exact ⟨h.1.trans hreply, ih h.2 hsegment⟩

/-- A read that does not reach the status of a mailbox changes nothing. -/
theorem Segment.read_eq_self (s : Segment) (address : UInt8) {offset : UInt8} {length : Nat}
    (h : offset.toNat + length ≤ mailboxStatusOffset.toNat) :
    (s.read address offset length).2 = s := by
  unfold read
  split
  · rfl
  · split
    · rfl
    · rename_i m hm
      have hafter : m.afterRead offset length = m := if_neg (Nat.not_lt.mpr h)
      rw [hafter]
      exact setDevice_self hm
    · rfl

/-- A byte of a lower half is read without a change. -/
theorem Event.LooksUp.answer {e : Event} (h : e.LooksUp) (b : Bench) :
    (Bench.answer e.action b).2 = b := by
  obtain ⟨device, offset, hlower, ha⟩ := h
  rw [ha]
  exact congrArg (Bench.mk · b.pin) <|
    b.segment.read_eq_self device <| Nat.le_trans hlower <| by decide

/-- Nothing changes while bytes of lower halves are looked up. -/
theorem Trace.Answered.after_lookups {t t' : Trace} {b : Bench} (ht : ∀ e ∈ t, e.LooksUp)
    (h : (t ++ t').Answered Bench.answer b) : t'.Answered Bench.answer b := by
  induction t with
  | nil => exact h
  | cons e t ih =>
    have hrest := h.2
    rw [(ht e (.head _)).answer b] at hrest
    exact ih (fun e he ↦ ht e (.tail _ he)) hrest

/-! ## What is asked for -/

/-- One of the words that tune a module is written, or a byte of it. -/
def Action.Tunes (a : Action) : Prop :=
  ∃ offset data, a = .write diagnosticDevice offset data ∧
    ∃ o, 144 ≤ o ∧ o ≤ 147 ∧ Covers offset data.length o

theorem Event.IsProbe.not_tunes {e : Event} (h : e.IsProbe) : ¬ e.action.Tunes := by
  rintro ⟨offset, data, ha, o, hlow, -, hcovers⟩
  cases h with
  | read => cases ha
  | select =>
    cases ha
    obtain rfl : QsfpMap.pageSelect = o := covers_one.mp hcovers
    exact absurd hlow (by decide)

section Float

open Float.Model

/-- What is no number, infinite or not above zero is refused as a wavelength. -/
theorem not_finite_pos_of {nm : Float} (h : nm.isNaN = true ∨ nm.isInf = true ∨ ¬ 0 < nm) :
    ¬ (nm.isFinite = true ∧ ¬ nm ≤ 0) := by
  have hzero : (0 : Float).toModel.unpack = .zero .positive := rfl
  have hlt : 0 < nm ↔ UnpackedFloat.lt (.zero .positive) nm.toModel.unpack = true := by
    rw [← hzero]
    exact decide_eq_true_iff
  have hle : nm ≤ 0 ↔ UnpackedFloat.le nm.toModel.unpack (.zero .positive) = true := by
    rw [← hzero]
    exact decide_eq_true_iff
  change nm.toModel.unpack.isNaN = true ∨ nm.toModel.unpack.isInf = true ∨ _ at h
  change ¬ (nm.toModel.unpack.isFinite = true ∧ _)
  rw [hlt] at h
  rw [hle]
  rintro ⟨hfinite, hpositive⟩
  cases hu : nm.toModel.unpack with
  | infinity sign =>
    rw [hu] at hfinite
    cases hfinite
  | notANumber =>
    rw [hu] at hfinite
    cases hfinite
  | zero sign =>
    rw [hu] at hpositive
    exact hpositive rfl
  | finite sign mantissa exponent hmantissa =>
    rw [hu] at h hpositive
    cases sign with
    | negative => exact hpositive rfl
    | positive =>
      rcases h with hnan | hinf | hlt
      · cases hnan
      · cases hinf
      · exact hlt rfl

end Float

namespace Bench

variable (b : Bench)

/-- A bit of the serial ID, as it is read. -/
def SerialBit (offset : UInt8) (bit : Bit) (on : Bool) : Prop :=
  ∃ bytes, (b.segment.read serialDevice offset 1).1 = .ok bytes ∧ hasBit (byteIn bytes) bit = on

/-- The module tells that it is tunable and that it has no pages. -/
def TunedUnpaged : Prop :=
  b.SerialBit SfpMap.tunableOptions SfpMap.tunableBit true ∧
    b.SerialBit SfpMap.options SfpMap.pagingBit false

/-- The capability block that is read once the tuning page was selected is that of a grid. -/
def ShowsGrid (g : Grid Float) : Prop :=
  (b.segment.write diagnosticDevice QsfpMap.pageSelect [2]).1 = .ok () ∧
    ∃ block support,
      ((Selected.turned diagnosticDevice 2 b).segment.read diagnosticDevice 132 10).1 = .ok block ∧
        Grid.ofBlock block support = .ok g

variable {b}

/-- Where the selection of a page is not lost, the capability block is that on page 2. -/
theorem ShowsGrid.of_memory {g : Grid Float} (h : b.ShowsGrid g) {m : ModuleMemory}
    (hm : b.segment.device? diagnosticDevice = some (.memory m))
    (hkept : b.segment.discards diagnosticDevice QsfpMap.pageSelect = false) :
    ∃ support, Grid.ofBlock (.ofFn fun i ↦ m.get 2 (.ofNat (132 + i))) support = .ok g := by
  obtain ⟨hselect, block, support, hblock, hg⟩ := h
  have htouches :
      touches b.segment.faults.writes diagnosticDevice QsfpMap.pageSelect 1 = false := by
    rcases b.segment.write_cases diagnosticDevice QsfpMap.pageSelect [2] with
      ⟨-, hrefused⟩ | ⟨htouches, -⟩
    · rw [hrefused] at hselect
      cases hselect
    · exact htouches
  have hturned : (Selected.turned diagnosticDevice 2 b).segment.device? diagnosticDevice =
      some (.memory (m.showing 2)) := by
    unfold Selected.turned
    rw [Segment.write_memory hm htouches, ModuleMemory.write_pageSelect, hkept]
    rfl
  have hshown : (m.showing 2).read 132 10 = .ofFn fun i ↦ m.get 2 (.ofNat (132 + i)) := by
    have hplain : (m.showing 2).Plain 132 10 := by
      refine ⟨by decide, fun _ o ho hcovers ↦ ?_⟩
      have hlow : 250 ≤ o.toNat := ho
      have hhigh : o.toNat < 142 := hcovers.2
      omega
    rw [ModuleMemory.read_eq_get hplain (by decide), ModuleMemory.currentPage_showing]
    refine congrArg Vector.ofFn (funext fun i ↦ ModuleMemory.get_showing_of_ne fun h ↦ ?_)
    have hi := i.isLt
    have hoffset : (132 + i.val) % 256 = 127 := congrArg UInt8.toNat h
    omega
  refine ⟨support, ?_⟩
  unfold Segment.read at hblock
  rw [hturned] at hblock
  split at hblock
  · cases hblock
  · rw [← hshown]
    cases hblock
    exact hg

end Bench

/-- There is no session, or what is exchanged and returned is that of its body. -/
theorem Eeprom.session_exchanging {α : Type} {e : Eeprom} {body : Selected → Procedure α}
    {Q : Except Error α → Trace → Prop} (h : (body e.selected).Exchanging Q)
    (hfails : ∀ error, Q (.error error) []) : (e.session body).Exchanging Q := by
  intro σ env s
  rcases e.session_opens env s with hnone | ⟨s', hopens⟩
  · obtain ⟨error, hvalue, htrace⟩ := hnone (body e.selected)
    change Q ((e.session fun _ ↦ body e.selected).run.value env s) _
    rw [hvalue]
    exact htrace ▸ hfails error
  · obtain ⟨hvalue, htrace⟩ := hopens (body e.selected)
    change Q ((e.session fun _ ↦ body e.selected).run.value env s) _
    rw [hvalue]
    exact htrace ▸ h σ env s'

/-- A bit of a lower half is looked up. -/
theorem Bus.readBit_exchanging (device : UInt8) {offset : UInt8} (h : offset < upperHalf)
    (bit : Bit) :
    (do
      let v ← Bus.readByte device offset
      return hasBit v bit : Procedure Bool).Exchanging fun r x ↦
        (∀ e ∈ x, e.LooksUp) ∧
          ∀ on, r = .ok on → ∃ v, x = [told device offset v] ∧ hasBit v bit = on := by
  have hlook (reply : Except BusFault (Vector UInt8 1)) :
      Event.LooksUp ⟨.read device offset 1, reply⟩ := ⟨device, offset, h, rfl⟩
  refine .readByte (fun v ↦ .pure ⟨?_, ?_⟩) fun fault ↦ ⟨?_, nofun⟩
  · exact fun e he ↦ List.mem_singleton.mp he ▸ hlook _
  · rintro on ⟨⟩
    exact ⟨v, rfl, rfl⟩
  · exact fun e he ↦ List.mem_singleton.mp he ▸ hlook _

/-- Whether a module is tunable is looked up in its serial ID. -/
theorem Tuning.isTunable_exchanging (m : Selected) :
    (isTunable m).Exchanging fun r x ↦
      (∀ e ∈ x, e.LooksUp) ∧ ∀ on, r = .ok on →
        ∃ v, x = [told serialDevice SfpMap.tunableOptions v] ∧ hasBit v SfpMap.tunableBit = on := by
  unfold isTunable
  rw [Selected.readByte_eq rfl]
  exact Bus.readBit_exchanging serialDevice (by decide) SfpMap.tunableBit

/-- What becomes of the request for a wavelength: it fails and nothing but looks are exchanged, or
it follows a course that tunes a module with pages, or the module tells first that it is tunable and
has no pages. -/
def Tuning.Requested (nm : Float) (r : Except Error Unit) (x : Trace) : Prop :=
  (∀ e ∈ x, e.IsProbe) ∧ (∃ e, r = .error e) ∨
    (∃ c : Course, c.Proper nm ∧ x = c.trace) ∨
    ∃ tunable options y, x = told serialDevice SfpMap.tunableOptions tunable ::
        told serialDevice SfpMap.options options :: y ∧
      hasBit tunable SfpMap.tunableBit = true ∧ hasBit options SfpMap.pagingBit = false

/-- An attempt to tune may follow looks. -/
theorem Tuning.Attempted.requested {nm : Float} {r : Except Error Tuned} {x before : Trace}
    (h : Attempted nm Course.trace r x) (hbefore : ∀ e ∈ before, e.LooksUp) {r' : Except Error Unit}
    (hr : ∀ e, r = .error e → r' = .error e) : Requested nm r' (before ++ x) := by
  rcases h with ⟨hprobes, e, he⟩ | ⟨c, hc, rfl, -⟩
  · refine .inl ⟨fun e' he' ↦ ?_, e, hr e he⟩
    rcases List.mem_append.mp he' with he' | he'
    · exact (hbefore e' he').isProbe
    · exact hprobes e' he'
  · refine .inr (.inl ⟨{ c with before := before ++ c.before }, { hc with before := ?_ }, ?_⟩)
    · exact fun e he ↦ (List.mem_append.mp he).elim (hbefore e) (hc.before e)
    · unfold Course.trace
      rw [List.append_assoc]
      rfl

theorem Sfp.wavelengthSet_exchanging (s : Sfp) (nm : Float) :
    (s.wavelengthSet nm).Exchanging (Tuning.Requested nm) := by
  have hfails {x : Trace} (hx : ∀ e ∈ x, e.LooksUp) (e : Error) :
      Tuning.Requested nm (.error e) x := .inl ⟨fun e he ↦ (hx e he).isProbe, e, rfl⟩
  unfold wavelengthSet session
  refine Eeprom.session_exchanging ?_ (hfails nofun)
  refine .bind (Tuning.isTunable_exchanging _) (fun tunable x ⟨hx, htunable⟩ ↦ ?_) fun e x hx ↦
    hfails hx.1 e
  cases tunable with
  | false =>
    refine .throw_bind ?_
    rw [List.append_nil]
    exact hfails hx _
  | true =>
    have hpaging : s.eeprom.selected.pagingSupported.Exchanging _ :=
      Bus.readBit_exchanging serialDevice (by decide) SfpMap.pagingBit
    refine .bind hpaging (fun paged y ⟨hy, hpaged⟩ ↦ ?_) fun e y hy ↦ ?_
    · have hboth : ∀ e ∈ x ++ y, e.LooksUp := fun e he ↦
        (List.mem_append.mp he).elim (hx e) (hy e)
      simp only [← List.append_assoc]
      cases paged with
      | true =>
        refine .bind (Tuning.setWavelength_exchanging _ _ nm) (fun tuned z hz ↦ ?_) fun e z hz ↦
          hz.requested hboth fun _ he ↦ by cases he; rfl
        refine .lift (report_madeOf _ _ _) fun _ ↦ ?_
        rw [List.append_nil]
        exact hz.requested hboth nofun
      | false =>
        obtain ⟨v, rfl, hv⟩ := htunable true rfl
        obtain ⟨w, rfl, hw⟩ := hpaged false rfl
        exact fun σ env s ↦ .inr (.inr ⟨v, w, _, rfl, hv, hw⟩)
    · exact hfails (fun e he ↦ (List.mem_append.mp he).elim (hx e) (hy.1 e)) e

/-- On every bench, whatever faults it has, the request for a wavelength that is no number, infinite
or not above zero, or whose frequency is outside of the grid that the module shows, fails and writes
no register that tunes the module.  Excepted is a module that tells that it is tunable and has no
pages. -/
theorem Sfp.wavelengthSet_refuses (s : Sfp) (b : Bench) {nm : Float} (hpaged : ¬ b.TunedUnpaged)
    (h : (nm.isNaN = true ∨ nm.isInf = true ∨ ¬ 0 < nm) ∨
      ∀ g, b.ShowsGrid g → g.contains (thzOfNm nm) = false) :
    (∃ e, (s.wavelengthSet nm).run.value Bench.answer b = .error e) ∧
      ∀ e ∈ (s.wavelengthSet nm).run.trace Bench.answer b, ¬ e.action.Tunes := by
  have hanswered := (Program.answered_trace Bench.answer (s.wavelengthSet nm).run b).exchanges rfl
  rcases s.wavelengthSet_exchanging nm _ Bench.answer b with ⟨hprobes, hfails⟩ |
    ⟨c, hc, hx⟩ | ⟨tunable, options, y, hx, htunable, hoptions⟩
  · refine ⟨hfails, fun e he htunes ↦ (hprobes e (List.mem_filter.mpr ⟨he, ?_⟩)).not_tunes htunes⟩
    obtain ⟨offset, data, ha, -⟩ := htunes
    rw [ha]
    rfl
  · exfalso
    rw [hx] at hanswered
    obtain ⟨hselect, -, hblock, -⟩ := hanswered.after_lookups hc.before
    obtain ⟨g, hg, hcontains, -⟩ := hc.request
    rcases h with hinvalid | houtside
    · exact not_finite_pos_of hinvalid hc.valid
    have hlook : (Bench.answer (told diagnosticDevice 128 c.support).action
        (Bench.answer (pageSelection diagnosticDevice 2 (.ok ())).action b).2).2 =
          Selected.turned diagnosticDevice 2 b :=
      congrArg (Bench.mk · b.pin) (Segment.read_eq_self _ _ (by decide))
    have hshows : b.ShowsGrid g := by
      refine ⟨hselect.symm, c.block, c.support, ?_, hg⟩
      rw [hlook] at hblock
      exact hblock.symm
    rw [houtside g hshows] at hcontains
    cases hcontains
  · rw [hx] at hanswered
    obtain ⟨hfirst, hsecond, -⟩ := hanswered
    refine absurd ⟨⟨#v[tunable], hfirst.symm, htunable⟩, #v[options], ?_, hoptions⟩ hpaged
    rw [Event.LooksUp.answer ⟨_, _, by decide, rfl⟩] at hsecond
    exact hsecond.symm

/-- The tunable module of the simulation is not tuned to 1000 nm, which is outside of its grid. -/
theorem Sfp.wavelengthSet_refuses_outside :
    let c : Cage := {
      instanceId := 0, name := "port0", family := .sfp, portType := .sfp, address := 0x50
      selector := ⟨none, none⟩, selectDelay := .zero, presence := ⟨⟨"control", 0⟩, 0⟩
      reset := none, resetDelay := .zero, lowPower := none, txControl := none, rxLoss := none
      txFault := none, portLed := none, defaultSpeedMbps := none, channelOffset := 0
      maxPowerMw := 3500 }
    let s : Sfp := .ofCage c
    let b : Bench := ⟨Segment.blank.addTunableSfp, fun _ ↦ .ofLevel 1⟩
    ¬ b.TunedUnpaged ∧ (∀ g, b.ShowsGrid g → g.contains (thzOfNm 1000) = false) ∧
      ∃ e, (s.wavelengthSet 1000).run.value Bench.answer b = .error e := by
  intro c s b
  have hpaged : ¬ b.TunedUnpaged := by
    rintro ⟨-, v, hread, hbit⟩
    have hoptions : (b.segment.read serialDevice SfpMap.options 1).1 = .ok #v[0x10] := rfl
    rw [hoptions] at hread
    cases hread
    cases hbit
  have houtside : ∀ g, b.ShowsGrid g → g.contains (thzOfNm 1000) = false := by
    rintro g ⟨-, block, support, hread, hg⟩
    have hblock : ((Selected.turned diagnosticDevice 2 b).segment.read diagnosticDevice 132 10).1 =
        .ok #v[0, 191, 0, 0, 0, 196, 0, 0, 0x01, 0xf4] := rfl
    have hmax : ¬ thzOfNm 1000 ≤
        Scalar.ofInt (word16 0 196).toNat +
          Scalar.ofInt (word16 0 0).toNat * Grid.fractionUnit := by
      decide +kernel
    rw [hblock] at hread
    cases hread
    unfold Grid.ofBlock at hg
    dsimp only at hg
    split at hg
    · cases hg
    · cases hg
      exact Bool.and_eq_false_iff.mpr (.inr (decide_eq_false hmax))
  exact ⟨hpaged, houtside, (s.wavelengthSet_refuses b hpaged (.inr houtside)).1⟩

/-- A module without pages is asked for a wavelength below zero, which reaches it as the word
zero. -/
theorem Sfp.not_wavelengthSet_refuses_unpaged :
    let c : Cage := {
      instanceId := 0, name := "port0", family := .sfp, portType := .sfp, address := 0x50
      selector := ⟨none, none⟩, selectDelay := .zero, presence := ⟨⟨"control", 0⟩, 0⟩
      reset := none, resetDelay := .zero, lowPower := none, txControl := none, rxLoss := none
      txFault := none, portLed := none, defaultSpeedMbps := none, channelOffset := 0
      maxPowerMw := 3500 }
    let s : Sfp := .ofCage c
    let b : Bench := ⟨((Segment.blank.addModule 0x50).poke 0x50 0 65 [64]).addModule 0x51,
      fun _ ↦ .ofLevel 1⟩
    ¬ 0 < (-1550 : Float) ∧ (s.wavelengthSet (-1550)).run.value Bench.answer b = .ok () ∧
      .write diagnosticDevice 146 [0, 0] ∈
        ((s.wavelengthSet (-1550)).run.trace Bench.answer b).transactions := by
  intro c s b
  refine ⟨by decide, ?_, by decide +kernel⟩
  have hok : ((s.wavelengthSet (-1550)).run.value Bench.answer b).isOk = true := by
    decide +kernel
  cases hvalue : (s.wavelengthSet (-1550)).run.value Bench.answer b with
  | ok _ => rfl
  | error e =>
    rw [hvalue] at hok
    cases hok

end Transceiver
