import Transceiver.CopperPhy
import Transceiver.Proofs.Run
import Transceiver.TenGigPhy

/-!
# Failures

An access fails because the surroundings refuse it, because a module tells what means nothing, or
because an argument is wrong.  Main statements: whatever the surroundings answer, the accesses of a
module in a session and those of the PHYs fail with nothing else.

What may fail with more goes on in the same way: a procedure in sequence fails with what its parts
fail with.
-/

namespace Transceiver

variable {α β : Type}

/-! ## Kinds of errors -/

namespace Error

/-- What the surroundings, the module or the caller is to blame for. -/
def IsForeign : Error → Prop
  | .invalidArgument _ | .bus _ _ _ | .timeout _ | .protocol _ | .gpio _ _ | .notPresent => True
  | .chainFailed _ source => source.IsForeign
  | _ => False

/-- The errors `E` take in all that others are to blame for. -/
class HasForeign (E : Error → Prop) : Prop where
  foreign {e : Error} : e.IsForeign → E e

/-- The errors `E` take in that something is not supported. -/
class HasRefusal (E : Error → Prop) : Prop extends HasForeign E where
  refusal : E .notSupported

instance : HasForeign IsForeign := ⟨id⟩

theorem IsForeign.isNotSupported {e : Error} (h : e.IsForeign) : e.isNotSupported = false := by
  induction e with
  | chainFailed index source ih => exact ih h
  | notSupported => exact h.elim
  | _ => rfl

end Error

/-- What is returned is no failure, or one as `E` says. -/
def FailsBy (E : Error → Prop) : Except Error α → Prop
  | .ok _ => True
  | .error e => E e

/-! ## Procedures -/

/-- Whatever is answered, the procedure does not fail, or it fails as `E` says. -/
def Procedure.FailsBy (E : Error → Prop) (p : Procedure α) : Prop :=
  p.run.Returns (Transceiver.FailsBy E)

namespace Procedure.FailsBy

variable {E : Error → Prop} {p q : Procedure α} {f : α → Procedure β}

theorem pure (a : α) : FailsBy E (Pure.pure a) := .done trivial

theorem throw {e : Error} (h : E e) : FailsBy E (MonadExcept.throw e : Procedure α) := .done h

theorem foreign [Error.HasForeign E] {e : Error} (h : e.IsForeign) :
    FailsBy E (MonadExcept.throw e : Procedure α) := .throw (Error.HasForeign.foreign h)

theorem refusal [Error.HasRefusal E] :
    FailsBy E (MonadExcept.throw .notSupported : Procedure α) := .throw Error.HasRefusal.refusal

theorem liftExcept {r : Except Error α} (h : Transceiver.FailsBy E r) : FailsBy E (liftM r) :=
  .done h

theorem lift (p : Program α) : FailsBy E (liftM p) :=
  Program.Returns.bind (.trivial p) fun _ _ ↦ .done trivial

theorem bind (h : p.FailsBy E) (hf : ∀ a, (f a).FailsBy E) : FailsBy E (p >>= f) := by
  unfold Procedure.FailsBy
  rw [run_bind]
  refine Program.Returns.bind h fun r hr ↦ ?_
  cases r with
  | ok a => exact hf a
  | error e => exact .done hr

/-- What a program returns counts in what follows it. -/
theorem bind_lift {p : Program α} {Q : α → Prop} (h : p.Returns Q)
    (hf : ∀ a, Q a → (f a).FailsBy E) : FailsBy E (liftM p >>= f) := by
  unfold Procedure.FailsBy
  rw [run_bind, run_lift, Program.bind_assoc]
  exact Program.Returns.bind h hf

theorem map {f : α → β} (h : p.FailsBy E) : FailsBy E (f <$> p) := by
  rw [map_eq_pure_bind]
  exact h.bind fun a ↦ .pure (f a)

theorem ite {c : Prop} [Decidable c] (hp : p.FailsBy E) (hq : q.FailsBy E) :
    FailsBy E (if c then p else q) := by
  split
  · exact hp
  · exact hq

/-- A procedure that goes on only if a condition holds. -/
theorem require [Error.HasRefusal E] {c : Prop} [Decidable c] (h : p.FailsBy E) :
    FailsBy E (if c then p else (do MonadExcept.throw Error.notSupported; p)) :=
  .ite h (.bind .refusal fun _ ↦ h)

/-- A procedure that goes on only if a condition fails. -/
theorem refuse {c : Prop} [Decidable c] {e : Error} (he : E e) (h : p.FailsBy E) :
    FailsBy E (if c then (do MonadExcept.throw e; p) else p) := .ite (.bind (.throw he) fun _ ↦ h) h

end Procedure.FailsBy

/-! ## Lines and sessions -/

section Access

variable {E : Error → Prop} [Error.HasForeign E]

open Error (HasForeign)

/-- Failures that others are to blame for are as `Q` says. -/
def Tolerant (Q : Except Error α → Prop) : Prop := ∀ e : Error, e.IsForeign → Q (.error e)

theorem FailsBy.tolerant : Tolerant (FailsBy E : Except Error α → Prop) :=
  fun _ ↦ HasForeign.foreign

namespace PinGroup

variable (g : PinGroup)

theorem hold_returns {Q : Except Error α → Prop} (hQ : Tolerant Q) {body : Procedure α}
    (h : body.run.Returns Q) : (g.hold body).run.Returns Q := by
  refine Program.Returns.bind (.trivial _) fun r _ ↦ ?_
  cases r with
  | error fault => exact .done (hQ _ trivial)
  | ok _ => exact Program.Returns.bind h fun r hr ↦ .ask fun _ ↦ .done hr

theorem hold_failsBy {body : Procedure α} (h : body.FailsBy E) : (g.hold body).FailsBy E :=
  g.hold_returns FailsBy.tolerant h

theorem readLevel_failsBy : g.readLevel.FailsBy E := by
  refine Program.Returns.bind (.trivial _) fun r _ ↦ ?_
  cases r with
  | ok _ => exact .done trivial
  | error fault => exact .done (HasForeign.foreign trivial)

theorem writeLevel_failsBy (level : UInt32) : (g.writeLevel level).FailsBy E := by
  refine Program.Returns.bind (.trivial _) fun r _ ↦ ?_
  cases r with
  | ok _ => exact .done trivial
  | error fault => exact .done (HasForeign.foreign trivial)

end PinGroup

namespace Line

variable (l : Line)

theorem mask_failsBy : FailsBy E l.mask := by
  unfold mask
  split
  · trivial
  · exact HasForeign.foreign trivial

theorem read_failsBy : l.read.FailsBy E :=
  l.group.hold_failsBy <| .bind (.liftExcept l.mask_failsBy) fun _ ↦
    .bind l.group.readLevel_failsBy fun _ ↦ .pure _

theorem write_failsBy (on : Bool) : (l.write on).FailsBy E :=
  l.group.hold_failsBy <| .bind (.liftExcept l.mask_failsBy) fun _ ↦
    .bind l.group.readLevel_failsBy fun _ ↦ l.group.writeLevel_failsBy _

end Line

theorem Lane.check_failsBy (channel channels : UInt8) : FailsBy E (check channel channels) := by
  unfold check
  split
  · trivial
  · exact HasForeign.foreign trivial

section Returns

variable {Q : Except Error α → Prop} (hQ : Tolerant Q)
include hQ

/-- What fails as `Q` says may follow a procedure that fails for want of others. -/
theorem Procedure.returns_bind {p : Procedure β} {f : β → Procedure α}
    (h : p.FailsBy Error.IsForeign) (hf : ∀ b, (f b).run.Returns Q) : (p >>= f).run.Returns Q := by
  rw [run_bind]
  refine Program.Returns.bind h fun r hr ↦ ?_
  cases r with
  | ok b => exact hf b
  | error e => exact .done (hQ e hr)

theorem Selector.under_returns (t? : Option SelectTarget) {body : Procedure α}
    (h : body.run.Returns Q) : (under t? body).run.Returns Q := by
  cases t? with
  | none => exact h
  | some t =>
    exact t.group.hold_returns hQ <|
      Procedure.returns_bind hQ (t.group.writeLevel_failsBy _) fun _ ↦ h

/-- Around what is done in a session only lines are accessed. -/
theorem Eeprom.session_returns (e : Eeprom) {body : Selected → Procedure α}
    (h : ∀ m, (body m).run.Returns Q) : (e.session body).run.Returns Q := by
  have hvisit : (e.selector.during (do
      settle e.settleTime
      body ⟨e.address, e.scheme⟩)).run.Returns Q :=
    Selector.under_returns hQ _ <| Selector.under_returns hQ _ <|
      Procedure.returns_bind hQ (.lift _) fun _ ↦ h _
  unfold session
  split
  · refine Procedure.returns_bind hQ (Line.read_failsBy _) fun present ↦ ?_
    split
    · exact hvisit
    · exact .done (hQ _ trivial)
  · exact hvisit

end Returns

theorem Eeprom.session_failsBy (e : Eeprom) {body : Selected → Procedure α}
    (h : ∀ m, (body m).FailsBy E) : (e.session body).FailsBy E :=
  e.session_returns FailsBy.tolerant h

/-! ## The memory of a module -/

namespace Bus

variable (device offset : UInt8)

theorem read_failsBy (length : Nat) : (Bus.read device offset length).FailsBy E := by
  refine Program.Returns.bind (.trivial _) fun r _ ↦ ?_
  cases r with
  | ok _ => exact .done trivial
  | error fault => exact .done (HasForeign.foreign trivial)

theorem write_failsBy (data : List UInt8) : (Bus.write device offset data).FailsBy E := by
  refine Program.Returns.bind (.trivial _) fun r _ ↦ ?_
  cases r with
  | ok _ => exact .done trivial
  | error fault => exact .done (HasForeign.foreign trivial)

theorem readByte_failsBy : (readByte device offset).FailsBy E :=
  .bind (read_failsBy _ _ 1) fun _ ↦ .pure _

theorem readWord_failsBy : (readWord device offset).FailsBy E :=
  .bind (read_failsBy _ _ 2) fun _ ↦ .pure _

end Bus

namespace Selected

variable (m : Selected) (a : Address)

theorem onPage_failsBy (device page : UInt8) {body : Procedure α} (h : body.FailsBy E) :
    (onPage device page body).FailsBy E := by
  have hselect : (selectPage device page).FailsBy E := Bus.write_failsBy _ _ _
  refine Program.Returns.bind hselect fun r hr ↦ ?_
  cases r with
  | error e => exact .done hr
  | ok _ =>
    refine Program.Returns.bind h fun r hr ↦ Program.Returns.bind (.trivial _) fun back _ ↦ ?_
    cases back with
    | ok _ => exact .done hr
    | error e => exact .ask fun _ ↦ .done hr

theorem pagingSupported_failsBy : m.pagingSupported.FailsBy E := by
  unfold pagingSupported
  split
  · exact .bind (Bus.readByte_failsBy _ _) fun _ ↦ .pure _
  · exact .bind (Bus.readByte_failsBy _ _) fun _ ↦ .pure _
  · exact .pure _

theorem checkRange_failsBy (length : Nat) : FailsBy E (checkRange a length) := by
  unfold checkRange
  split
  · exact HasForeign.foreign trivial
  · trivial

theorem paged_failsBy {body : UInt8 → Procedure α} (h : ∀ device, (body device).FailsBy E) :
    (m.paged a body).FailsBy E := by
  unfold paged
  split
  · exact h _
  · exact .bind m.pagingSupported_failsBy fun _ ↦
      .ite (onPage_failsBy _ _ (h _)) (.bind (.lift _) fun _ ↦ h _)

theorem read_failsBy (length : Nat) : (m.read a length).FailsBy E :=
  .bind (.liftExcept (checkRange_failsBy a length)) fun _ ↦
    m.paged_failsBy a fun device ↦ Bus.read_failsBy device a.offset length

theorem write_failsBy (data : List UInt8) : (m.write a data).FailsBy E :=
  .bind (.liftExcept (checkRange_failsBy a data.length)) fun _ ↦
    m.paged_failsBy a fun device ↦ Bus.write_failsBy device a.offset data

theorem readByte_failsBy : (m.readByte a).FailsBy E := .bind (m.read_failsBy a 1) fun _ ↦ .pure _

theorem readWord_failsBy : (m.readWord a).FailsBy E := .bind (m.read_failsBy a 2) fun _ ↦ .pure _

theorem modify_failsBy (f : UInt8 → UInt8) : (m.modify a fun old ↦ .ok (f old)).FailsBy E :=
  .bind (m.readByte_failsBy a) fun _ ↦ .bind (.liftExcept trivial) fun _ ↦
    .ite (.bind (m.write_failsBy a _) fun _ ↦ .pure _) (.pure _)

end Selected

/-! ## PHYs -/

namespace CopperPhy

theorem read_failsBy (register : UInt8) : (read register).FailsBy E :=
  .bind (Bus.readWord_failsBy _ _) fun _ ↦ .bind (.lift _) fun _ ↦ .pure _

theorem write_failsBy (register : UInt8) (value : UInt16) : (write register value).FailsBy E :=
  .bind (.lift _) fun _ ↦ Bus.write_failsBy _ _ _

theorem update_failsBy (register : UInt8) (f : UInt16 → UInt16) : (update register f).FailsBy E :=
  .bind (read_failsBy _) fun _ ↦ write_failsBy _ _

theorem apply_failsBy : apply.FailsBy E :=
  .bind (read_failsBy _) fun _ ↦ .ite (update_failsBy _ _) (.lift _)

theorem setAutoneg_failsBy (enable : Bool) : (setAutoneg enable).FailsBy E :=
  .bind (update_failsBy _ _) fun _ ↦ apply_failsBy

theorem setMode_failsBy (mode : PhyMode) : (setMode mode).FailsBy E :=
  .bind (update_failsBy _ _) fun _ ↦ apply_failsBy

theorem setSpeed_failsBy (speed : Speed) : (setSpeed speed).FailsBy E := by
  unfold setSpeed
  split
  · exact .bind (update_failsBy _ _) fun _ ↦ update_failsBy _ _
  · exact .foreign trivial

theorem linkUp_failsBy : linkUp.FailsBy E := .bind (read_failsBy _) fun _ ↦ .pure _

theorem setPowerDown_failsBy (enable : Bool) : (setPowerDown enable).FailsBy E := by
  refine .bind (read_failsBy _) fun value ↦ .bind (read_failsBy _) fun phy ↦ ?_
  have hpower : Procedure.FailsBy E (if (value &&& controlPowerDown != 0) ≠ enable then
      write control (if enable then value ||| controlPowerDown else value &&& ~~~ controlPowerDown)
    else pure ()) := .ite (write_failsBy _ _) (.pure _)
  exact .ite (.bind (write_failsBy _ _) fun _ ↦ .bind (update_failsBy _ _) fun _ ↦ hpower) hpower

theorem setSerdes_failsBy (delay : Duration) (enable : Bool) : (setSerdes delay enable).FailsBy E :=
  .bind (write_failsBy _ _) fun _ ↦ .bind (.lift _) fun _ ↦ write_failsBy _ _

theorem selectBreakout_failsBy (channel : UInt8) : (selectBreakout channel).FailsBy E :=
  .bind (.liftExcept (Lane.check_failsBy _ _)) fun _ ↦ Bus.write_failsBy _ _ _

end CopperPhy

namespace Mailbox

variable (m : Selected) (t : MailboxTiming)

theorem await_failsBy (n : Nat) : (await m t n).FailsBy E := by
  induction n with
  | zero => exact .foreign trivial
  | succ n ih =>
    refine .bind (m.readByte_failsBy _) fun b ↦ ?_
    split
    · exact .pure _
    · exact .foreign trivial
    · exact .bind (.lift _) fun _ ↦ ih
    · exact .foreign trivial

theorem execute_failsBy (p : Packet) : (execute m t p).FailsBy E := by
  refine .bind (.lift _) fun _ ↦ .bind (m.write_failsBy _ _) fun _ ↦
    .bind (await_failsBy m t _) fun _ ↦ ?_
  split
  · exact .pure _
  · exact m.readWord_failsBy _

theorem read_failsBy (memory : UInt8) (offset : UInt16) : (read m t memory offset).FailsBy E :=
  execute_failsBy m t _

theorem write_failsBy (memory : UInt8) (offset data : UInt16) :
    (write m t memory offset data).FailsBy E := .bind (execute_failsBy m t _) fun _ ↦ .pure _

/-- A chain tells of the failure of a packet. -/
theorem chainFrom_returns_foreign (index : Nat) (ps : List Packet) :
    (chainFrom m t index ps).Returns fun r ↦ FailsBy Error.IsForeign r.2 := by
  induction ps generalizing index with
  | nil => exact .done trivial
  | cons p ps ih =>
    have hexecute : (execute m t p).FailsBy Error.IsForeign := execute_failsBy m t p
    refine Program.Returns.bind hexecute fun r hr ↦ ?_
    cases r with
    | ok data => exact Program.Returns.bind (ih (index + 1)) fun _ h ↦ .done h
    | error e => exact Program.Returns.bind (.trivial _) fun _ _ ↦ .done hr

theorem chain_returns_foreign (ps : List Packet) :
    (chain m t ps).Returns fun r ↦ FailsBy Error.IsForeign r.2 := by
  refine Program.Returns.bind (chainFrom_returns_foreign m t 0 ps) fun r hr ↦ ?_
  obtain ⟨qs, r⟩ := r
  cases r with
  | ok _ => exact Program.Returns.bind (.trivial _) fun _ _ ↦ .done hr
  | error e => exact .done hr

end Mailbox

theorem FailsBy.of_foreign {r : Except Error α} (h : FailsBy Error.IsForeign r) : FailsBy E r := by
  cases r with
  | ok a => trivial
  | error e => exact HasForeign.foreign h

namespace TenGigPhy

variable (phy : TenGigPhy) (m : Selected)

theorem decodeSpeed_failsBy (code : UInt16) : FailsBy E (decodeSpeed code) := by
  unfold decodeSpeed
  split
  case h_7 => exact HasForeign.foreign trivial
  all_goals trivial

theorem txEnabled_failsBy : (phy.txEnabled m).FailsBy E :=
  .bind (Mailbox.read_failsBy m _ _ _) fun _ ↦ .pure _

theorem setTxEnabled_failsBy (enable : Bool) : (phy.setTxEnabled m enable).FailsBy E :=
  .bind (Mailbox.read_failsBy m _ _ _) fun _ ↦ Mailbox.write_failsBy m _ _ _ _

theorem systemStatus_failsBy : (phy.systemStatus m).FailsBy E :=
  .bind (Mailbox.read_failsBy m _ _ _) fun _ ↦
    .bind (.liftExcept (decodeSpeed_failsBy _)) fun _ ↦ .pure _

theorem lineStatus_failsBy : (phy.lineStatus m).FailsBy E :=
  .bind (Mailbox.read_failsBy m _ _ _) fun _ ↦ .bind (Mailbox.read_failsBy m _ _ _) fun _ ↦
    .bind (.liftExcept (decodeSpeed_failsBy _)) fun _ ↦ .pure _

theorem setRate_failsBy (speed : Speed) : (phy.setRate m speed).FailsBy E := by
  unfold setRate
  split
  · refine .bind (phy.lineStatus_failsBy m) fun line ↦ .ite (.lift _) ?_
    refine .bind (phy.txEnabled_failsBy m) fun enabled ↦
      .bind (phy.setTxEnabled_failsBy m false) fun _ ↦ .bind (.lift _) fun _ ↦
      .bind_lift (Mailbox.chain_returns_foreign m _ _) fun _ hr ↦
      .bind (.liftExcept hr.of_foreign) fun _ ↦ .bind (.lift _) fun _ ↦ ?_
    exact .ite (.bind (phy.setTxEnabled_failsBy m true) fun _ ↦ .lift _) (.lift _)
  · exact .foreign trivial

theorem linkUp_failsBy : (phy.linkUp m).FailsBy E :=
  .bind (phy.lineStatus_failsBy m) fun _ ↦ .bind (phy.systemStatus_failsBy m) fun _ ↦ .pure _

end TenGigPhy

end Access

end Transceiver
