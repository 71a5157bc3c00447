import Transceiver.CopperPhy
import Transceiver.Proofs.Conduct.Session
import Transceiver.TenGigPhy

/-!
# What is done to a PHY

Neither the mailbox of a module nor a PHY on the bus has pages, and no register of theirs lies where
a module selects its page.
-/

namespace Transceiver

variable {part : Parts}

/-! ## The mailbox -/

namespace Mailbox

variable [part.Includes Action.IsIdle] (m : Selected) (t : MailboxTiming)

theorem await_madeOf [part.Includes (Action.ReadsFrom diagnosticDevice)] (n : Nat) :
    (await m t n).MadeOf part := by
  induction n with
  | zero => exact .throw _
  | succ n ih =>
    refine .bind (Selected.readByte_unpaged_madeOf rfl) fun b ↦ ?_
    split
    · exact .pure ()
    · exact .throw _
    · exact .bind (.lift (settle_madeOf _)) fun _ ↦ ih
    · exact .throw _

variable [part.Includes (Action.SparesPageOf diagnosticDevice)]

theorem execute_madeOf (p : Packet) : (execute m t p).MadeOf part := by
  have hp : ¬ Covers packetOffset p.encode.length QsfpMap.pageSelect := by
    rw [Packet.length_encode]
    decide
  refine .bind (.lift (report_madeOf _ _ _)) fun _ ↦
    .bind (Selected.write_unpaged_madeOf rfl hp) fun _ ↦ .bind (await_madeOf m t _) fun _ ↦ ?_
  split
  · exact .pure _
  · exact Selected.readWord_unpaged_madeOf rfl

theorem read_madeOf (memory : UInt8) (offset : UInt16) : (read m t memory offset).MadeOf part :=
  execute_madeOf m t _

theorem write_madeOf (memory : UInt8) (offset data : UInt16) :
    (write m t memory offset data).MadeOf part :=
  .bind (execute_madeOf m t _) fun _ ↦ .pure ()

theorem chainFrom_madeOf (index : Nat) (ps : List Packet) :
    (chainFrom m t index ps).MadeOf part := by
  induction ps generalizing index with
  | nil => exact .done _
  | cons p ps ih =>
    refine Program.MadeOf.bind (execute_madeOf m t p) fun r ↦ ?_
    cases r with
    | ok data => exact .bind (ih _) fun _ ↦ .done _
    | error e => exact .bind (report_madeOf _ _ _) fun _ ↦ .done _

theorem chain_madeOf (ps : List Packet) : (chain m t ps).MadeOf part := by
  refine Program.MadeOf.bind (chainFrom_madeOf m t 0 ps) fun qr ↦ ?_
  obtain ⟨qs, r⟩ := qr
  cases r with
  | ok _ => exact .bind (report_madeOf _ _ _) fun _ ↦ .done _
  | error e => exact .done _

end Mailbox

/-! ## The PHY behind the mailbox -/

namespace TenGigPhy

variable [part.Includes Action.IsIdle] [part.Includes (Action.SparesPageOf diagnosticDevice)]
  (phy : TenGigPhy) (m : Selected)

theorem txEnabled_madeOf : (phy.txEnabled m).MadeOf part :=
  .bind (Mailbox.read_madeOf m _ _ _) fun _ ↦ .pure _

theorem setTxEnabled_madeOf (enable : Bool) : (phy.setTxEnabled m enable).MadeOf part :=
  .bind (Mailbox.read_madeOf m _ _ _) fun _ ↦ Mailbox.write_madeOf m _ _ _ _

theorem systemStatus_madeOf : (phy.systemStatus m).MadeOf part :=
  .bind (Mailbox.read_madeOf m _ _ _) fun _ ↦ .bind (.liftExcept _) fun _ ↦ .pure _

theorem lineStatus_madeOf : (phy.lineStatus m).MadeOf part :=
  .bind (Mailbox.read_madeOf m _ _ _) fun _ ↦ .bind (Mailbox.read_madeOf m _ _ _) fun _ ↦
    .bind (.liftExcept _) fun _ ↦ .pure _

theorem linkUp_madeOf : (phy.linkUp m).MadeOf part :=
  .bind (phy.lineStatus_madeOf m) fun _ ↦ .bind (phy.systemStatus_madeOf m) fun _ ↦ .pure _

theorem setRate_madeOf (speed : Speed) : (phy.setRate m speed).MadeOf part := by
  unfold setRate
  split
  · refine .bind (phy.lineStatus_madeOf m) fun line ↦ ?_
    split
    · exact .lift (report_madeOf _ _ _)
    · refine .bind (phy.txEnabled_madeOf m) fun enabled ↦
        .bind (phy.setTxEnabled_madeOf m false) fun _ ↦ .bind (.lift (settle_madeOf _)) fun _ ↦
        .bind (.lift (Mailbox.chain_madeOf m _ _)) fun _ ↦ .bind (.liftExcept _) fun _ ↦
        .bind (.lift (settle_madeOf _)) fun _ ↦ ?_
      split
      · exact .bind (phy.setTxEnabled_madeOf m true) fun _ ↦ .lift (report_madeOf _ _ _)
      · exact .lift (report_madeOf _ _ _)
  · exact .throw _

end TenGigPhy

/-! ## The PHY on the bus -/

namespace CopperPhy

section Phy

variable [part.Includes Action.IsIdle]

section Query

variable [part.Includes (Action.ReadsFrom CopperPhy.device)]

theorem read_madeOf (register : UInt8) : (read register).MadeOf part :=
  .bind (Bus.readWord_madeOf _ _) fun value ↦
    .bind (.lift (report_madeOf _ _ _)) fun _ ↦ .pure value

theorem linkUp_madeOf : linkUp.MadeOf part := .bind (read_madeOf linkStatus) fun _ ↦ .pure _

end Query

variable [part.Includes (Action.SparesPageOf CopperPhy.device)]

theorem write_madeOf {register : UInt8} (h : ¬ Covers register 2 QsfpMap.pageSelect)
    (value : UInt16) : (write register value).MadeOf part :=
  .bind (.lift (report_madeOf _ _ _)) fun _ ↦
    Bus.write_madeOf (Parts.single (Action.SparesPageOf _) ⟨rfl, h⟩)

theorem update_madeOf {register : UInt8} (h : ¬ Covers register 2 QsfpMap.pageSelect)
    (f : UInt16 → UInt16) : (update register f).MadeOf part :=
  .bind (read_madeOf register) fun _ ↦ write_madeOf h _

theorem softReset_madeOf : softReset.MadeOf part := update_madeOf (by decide) _

theorem apply_madeOf : apply.MadeOf part := by
  refine .bind (read_madeOf control) fun value ↦ ?_
  split
  · exact softReset_madeOf
  · exact .lift (report_madeOf _ _ _)

theorem setAutoneg_madeOf (enable : Bool) : (setAutoneg enable).MadeOf part :=
  .bind (update_madeOf (by decide) _) fun _ ↦ apply_madeOf

theorem setMode_madeOf (mode : PhyMode) : (setMode mode).MadeOf part :=
  .bind (update_madeOf (by decide) _) fun _ ↦ apply_madeOf

theorem setSpeed_madeOf (speed : Speed) : (setSpeed speed).MadeOf part := by
  unfold setSpeed
  split
  · exact .bind (update_madeOf (by decide) _) fun _ ↦ update_madeOf (by decide) _
  · exact .throw _

theorem setPowerDown_madeOf (enable : Bool) : (setPowerDown enable).MadeOf part := by
  have hcontrol : ∀ value, (write control value).MadeOf part := write_madeOf (by decide)
  have hphy : ∀ value, (write phyControl value).MadeOf part := write_madeOf (by decide)
  dsimp only [setPowerDown]
  refine .bind (read_madeOf control) fun value ↦ .bind (read_madeOf phyControl) fun phy ↦ ?_
  split
  · refine .bind (hphy _) fun _ ↦ .bind softReset_madeOf fun _ ↦ ?_
    split
    · exact hcontrol _
    · exact .pure ()
  · split
    · exact hcontrol _
    · exact .pure ()

theorem setSerdes_madeOf (delay : Duration) (enable : Bool) :
    (setSerdes delay enable).MadeOf part :=
  .bind (write_madeOf (by decide) _) fun _ ↦ .bind (.lift (settle_madeOf _)) fun _ ↦
    write_madeOf (by decide) _

end Phy

theorem selectBreakout_madeOf [part.Includes (Action.SparesPageOf breakoutMux)] (channel : UInt8) :
    (selectBreakout channel).MadeOf part :=
  .bind (.liftExcept _) fun lane ↦ Bus.write_madeOf <|
    Parts.single (Action.SparesPageOf _) ⟨rfl, mt covers_one.mp (by decide)⟩

end CopperPhy

end Transceiver
