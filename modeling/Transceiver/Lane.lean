import Transceiver.Error

/-!
# Lanes

A channel that an operation names is checked once against the module, and is a lane of it from
then on.
-/

namespace Transceiver

/-- A channel below a bound. -/
structure Lane (channels : UInt8) where
  channel : UInt8
  lt : channel < channels
deriving DecidableEq, Repr

/-- A channel as a lane of a module that has `channels`. -/
def Lane.check (channel channels : UInt8) : Except Error (Lane channels) :=
  if h : channel < channels then .ok ⟨channel, h⟩
  else
    .error (.invalidArgument ("channel " ++ toString channel ++ " out of range, module has " ++
      toString channels))

end Transceiver
