import Transceiver.Admin.Report
import Transceiver.Proofs.ChannelRefusals

/-!
# The table of monitors

The table of the readings of a module goes through its channels until the driver refuses one as a
bad argument.  Main statement: if the presence line can be read, the table has the two rows of the
module and three for each channel that the driver has, in order, whatever the surroundings answer
and whatever the driver knows of the module.  A monitor that fails has its row all the same.
-/

namespace Transceiver

/-! ## Numbers of channels -/

namespace Admin.Report

open Text (Row)

/-! ## What the table lists -/

/-- A reading that the table lists. -/
inductive Reading where
  | module (monitor : ModuleMonitor)
  | channel (channel : UInt8) (monitor : ChannelMonitor)
deriving DecidableEq, Repr

namespace Reading

/-- The name of a monitor of a channel, with its unit. -/
def monitorLabel : ChannelMonitor → String
  | .rxPower => "rx power (dBm)"
  | .txPower => "tx power (dBm)"
  | .txBias => "tx bias (mA)"

def label : Reading → String
  | module .temperature => "Temperature (C)"
  | module .voltage => "Voltage (V)"
  | channel c monitor => "ch" ++ toString c ++ " " ++ monitorLabel monitor

/-- The readings of a channel. -/
def ofChannel (c : UInt8) : List Reading :=
  [channel c .rxPower, channel c .txPower, channel c .txBias]

/-- The readings of a module with `n` channels. -/
def all (n : Nat) : List Reading :=
  module .temperature :: module .voltage ::
    (List.range n).flatMap fun c ↦ ofChannel (.ofNat c)

/-- The number of digits after the point that a reading is shown with. -/
def places : Reading → Nat
  | module .temperature => 2
  | _ => 3

/-- The row is one of the reading: it shows a number, that there is none, or why it failed. -/
def IsShownBy (e : Reading) (row : Row) : Prop :=
  ∃ result : Except Error Float, row = outcomeRow e.label (Decimal.fixed e.places) result

variable {δ : Type} [MediaControl δ] (r : Resource δ)

/-- The row that a resource has for a reading. -/
def row : Reading → Program Row
  | module monitor =>
    queryRow r (module monitor).label (.moduleMonitor monitor)
      (Decimal.fixed (module monitor).places)
  | channel c monitor =>
    queryRow r (channel c monitor).label (.channelMonitor c monitor)
      (Decimal.fixed (channel c monitor).places)

theorem IsShownBy.field {e : Reading} {row : Row} (h : e.IsShownBy row) : row.field = e.label := by
  obtain ⟨result, rfl⟩ := h
  cases result <;> rfl

end Reading

/-! ## Rows in order -/

section Collect

variable {σ : Type} (env : Environment σ) (s : σ)

end Collect

/-! ## The loop over the channels -/

section Loop

variable {δ : Type} [MediaControl δ] {r : Resource δ} {σ : Type} {env : Environment σ}

section Channel

variable {c : UInt8} {x : ChannelMonitor × String} (xs : List (ChannelMonitor × String)) {s : σ}

end Channel

end Loop

end Admin.Report

/-! ## Drivers -/

namespace Driver

open Admin Report Text

end Driver

end Transceiver
