import Transceiver.Proofs.Conduct.Qsfp
import Transceiver.Resource

/-!
# What a driver does

Main statement: whatever the family of a driver and whatever it has found before, each of its
operations is made of the parts of an operation on its cage.
-/

namespace Transceiver

/-- Keeping a driver as it is does nothing. -/
theorem keeping_madeOf {part : Parts} {δ α : Type} (d : δ) {p : Procedure α}
    (h : p.MadeOf part) : (keeping d p).MadeOf part := .bind h fun _ ↦ .done _

namespace Qsfp

theorem perform_madeOf (q : Qsfp) (op : Operation) :
    (q.perform op).MadeOf (OperationPart q.cage op.Allows) := by
  cases op with
  | moduleInit present => exact q.moduleInit_madeOf present
  | _ => exact keeping_madeOf q (q.serve_madeOf _)

end Qsfp

namespace SubPort

variable (p : SubPort)

theorem presence_madeOf {part inner : Parts} [part.Hosts inner p.inner.eeprom]
    [part.Includes Action.IsIdle] [inner.Includes (Action.ReadsFrom p.inner.eeprom.address)] :
    p.presence.MadeOf part := by
  have hread : (p.inner.session fun m ↦ m.lowerByte QsfpMap.identifier).MadeOf part :=
    p.inner.session_madeOf (Selected.lowerByte_madeOf _ _)
  have hdouble : p.doubleDensity.MadeOf part := by
    refine Program.MadeOf.bind hread fun r ↦ ?_
    cases r with
    | ok b => exact .done _
    | error e => exact .bind (report_madeOf _ _ _) fun _ ↦ .done _
  dsimp only [presence]
  refine .bind (Parts.Hosts.line p.inner.eeprom _) fun present ↦ ?_
  split
  · split
    · exact .lift hdouble
    · exact .pure true
  · exact .pure false

/-- An operation on a channel of the port is one on a channel of the cage. -/
theorem serve_madeOf (op : Operation) :
    (p.serve op).MadeOf (OperationPart p.inner.cage op.Allows) := by
  cases op with
  | presence => exact p.presence_madeOf
  | channelMonitorStatus _ _ | channelStatus _ _ | txControl _ _ | txControlStatus _
  | cdrSet _ _ | cdrStatus _ | channelMonitor _ _ | extRateSelect _ _ _ | phyAutonegSet _ _ _
  | phyModeSet _ _ _ | phySpeedSet _ _ _ | phyLinkStatus _ _ | phyPowerDown _ _ _
  | phySerdesControl _ _ _ =>
    exact .bind (.liftExcept _) fun c ↦
      (p.inner.serve_madeOf _).imp fun _ _ hp ↦ hp.imp fun _ ha ↦ ha
  | _ => exact p.inner.serve_madeOf _

theorem perform_madeOf (op : Operation) :
    (p.perform op).MadeOf (OperationPart p.inner.cage op.Allows) := by
  cases op with
  | moduleInit present => exact .bind (p.inner.moduleInit_madeOf present) fun _ ↦ .done _
  | _ => exact keeping_madeOf p (p.serve_madeOf _)

end SubPort

namespace Driver

/-- The cage of a driver. -/
def cage : Driver → Cage
  | .sfp d => d.cage
  | .qsfp d => d.cage
  | .subPort d => d.inner.cage

variable (d : Driver)

/-- Every operation of a driver is made of the parts of an operation on its cage. -/
theorem perform_madeOf (op : Operation) :
    (d.perform op).MadeOf (OperationPart d.cage op.Allows) := by
  cases d with
  | sfp d => exact .bind (keeping_madeOf d (d.serve_madeOf op)) fun _ ↦ .done _
  | qsfp d => exact .bind (d.perform_madeOf op) fun _ ↦ .done _
  | subPort d => exact .bind (d.perform_madeOf op) fun _ ↦ .done _

/-- So is running packets. -/
theorem chain_madeOf {A : Action → Prop} [(Single A).Includes Action.SparesPage]
    (ps : List Packet) : (d.chain ps).MadeOf (OperationPart d.cage A) := by
  cases d with
  | sfp d =>
    change (d.chain ps).MadeOf (OperationPart d.cage A)
    exact d.chain_madeOf ps
  | qsfp d => exact d.chain_madeOf ps
  | subPort d => exact d.inner.chain_madeOf ps

end Driver

end Transceiver
