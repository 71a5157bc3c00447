import Transceiver.Cage
import Transceiver.Text.Number

/-!
# Textual attributes of cages

Platforms describe a cage by a map from keys to text.  Numbers are decimal, or hexadecimal behind
a mark; lines are named by the group and the bit; a cage without a module select group says so by
a name of its own.
-/

namespace Transceiver

/-- The name in place of the module select group of a module that is alone on its bus. -/
def alwaysEnabled : String := "module_always_enabled"

/-- The attributes of a cage and the groups they may name. -/
structure Attributes where
  entries : List (String × String)
  registry : Registry
deriving Repr

/-- The digits of a number and their base, which a mark makes hexadecimal. -/
def numberBase : List Char → Nat × List Char
  | '0' :: 'x' :: cs => (16, cs)
  | '0' :: 'X' :: cs => (16, cs)
  | cs => (10, cs)

/-- The unsigned number in the value of a key, at most `limit`. -/
def parseNumber (limit : Nat) (key value : String) : Except Error Nat :=
  let cs := Text.trimmed value.toList
  let (base, ds) := numberBase cs
  match Text.readUnsigned base limit ds with
  | .ok n => .ok n
  | .error _ =>
    .error (.config ("invalid value '" ++ String.ofList cs ++ "' for '" ++ key ++ "'"))

namespace Attributes

def get? (a : Attributes) (key : String) : Option String := a.entries.lookup key

def require (a : Attributes) (key : String) : Except Error String :=
  match a.get? key with
  | some v => .ok v
  | none => .error (.config ("missing attribute '" ++ key ++ "'"))

def number? (a : Attributes) (limit : Nat) (key : String) : Except Error (Option Nat) :=
  match a.get? key with
  | some v => some <$> parseNumber limit key v
  | none => .ok none

/-- A number that has to be there. -/
def number (a : Attributes) (limit : Nat) (key : String) : Except Error Nat := do
  parseNumber limit key (← a.require key)

def byte? (a : Attributes) (key : String) : Except Error (Option UInt8) := do
  return (← a.number? 0xff key).map .ofNat

def word? (a : Attributes) (key : String) : Except Error (Option UInt32) := do
  return (← a.number? 0xffffffff key).map .ofNat

def millis? (a : Attributes) (key : String) : Except Error (Option Duration) := do
  return (← a.number? 0xffffffffffffffff key).map .ofMillis

/-- The line of a group and a bit, if the group is named. -/
def line? (a : Attributes) (groupKey bitKey : String) : Except Error (Option Line) :=
  match a.get? groupKey with
  | none => .ok none
  | some name => do
    let group ← a.registry.resolve name
    return some ⟨group, .ofNat (← a.number 0xff bitKey)⟩

/-- The mux that routes the bus to the cage, with the value zero unless another is given. -/
def mux? (a : Attributes) : Except Error (Option SelectTarget) :=
  match a.get? "mux_sel_bus" with
  | none => .ok none
  | some name => do
    let value ← a.word? "mux_sel_value"
    return some ⟨← a.registry.resolve name, value.getD 0⟩

/-- The module select group, which has to be named or said to be missing. -/
def module? (a : Attributes) : Except Error (Option SelectTarget) := do
  let name ← a.require "mod_sel_bus"
  if name = alwaysEnabled then return none
  let value ← a.number 0xffffffff "mod_sel_value"
  return some ⟨← a.registry.resolve name, .ofNat value⟩

def portType? (a : Attributes) : Except Error (Option PortType) :=
  match a.get? "port_type" with
  | none => .ok none
  | some s => some <$> PortType.parse s

def portLed? (a : Attributes) : Except Error (Option PortLed) := do
  let some line ← a.line? "port_led_bus" "port_led_bit_mask" | return none
  let level1g ← a.number 0xffffffff "port_led_1g_mode_value"
  let level10g ← a.number 0xffffffff "port_led_10g_mode_value"
  return some ⟨line, level1g ≠ 0, level10g ≠ 0⟩

/-- A power budget is a number of 32 bits that has to be small enough to have a sign. -/
def maxPower? (a : Attributes) : Except Error (Option Int) := do
  let some mw ← a.number? 0xffffffff "max_port_power_mw" | return none
  if mw < 0x80000000 then return some mw
  throw (.config ("max_port_power_mw " ++ toString mw ++ " out of range"))

/-- The draft that the attributes make; the first one that is wrong is reported. -/
def draft (a : Attributes) (name : String) (family : Family) : Except Error Draft := do
  let instanceId ← a.word? "instance"
  let address ← a.byte? "addr"
  let portType ← a.portType?
  let mux ← a.mux?
  let module ← a.module?
  let selectDelay ← a.millis? "mod_sel_delay"
  let presence ← a.line? "mod_pres_bus" "mod_pres_bitmask"
  let reset ← a.line? "mod_reset_bus" "mod_reset_bitmask"
  let resetDelay ← a.millis? "mod_reset_delay_ms"
  let lowPower ← a.line? "mod_lpmode_bus" "mod_lpmode_bitmask"
  let txControl ← a.line? "mod_tx_control_bus" "mod_tx_control_bitmask"
  let rxLoss ← a.line? "mod_rx_los_bus" "mod_rx_los_bitmask"
  let txFault ← a.line? "mod_tx_fault_bus" "mod_tx_fault_bitmask"
  let portLed ← a.portLed?
  let defaultSpeedMbps ← a.word? "port_default_speed_mbps"
  let channelOffset ← a.byte? "sub_port_channel_offset"
  let maxPowerMw ← a.maxPower?
  return {
    name, family, instanceId, address, portType, mux, module, selectDelay, presence, reset,
    resetDelay, lowPower, txControl, rxLoss, txFault, portLed, defaultSpeedMbps, channelOffset,
    maxPowerMw
  }

end Attributes

/-- The cage that textual attributes describe. -/
def Cage.ofAttributes (name : String) (family : Family) (a : Attributes) :
    Except Error Cage := do
  (← a.draft name family).build

end Transceiver
