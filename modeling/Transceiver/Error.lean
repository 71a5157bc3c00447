import Transceiver.Decoding
import Transceiver.Duration

/-!
# Errors of operations

An error is a cause.  That a module lacks a capability is an expected outcome and told apart from
failures.
-/

namespace Transceiver

/-- Why the bus refused a transaction. -/
inductive BusFault where
  | notAcknowledged
deriving DecidableEq, Repr

def BusFault.wording : BusFault → String
  | .notAcknowledged => "Device did not acknowledge"

/-- Why a pin group refused an access. -/
inductive PinFault where
  | unavailable (reason : String)
deriving DecidableEq, Repr

def PinFault.wording : PinFault → String
  | .unavailable reason => "Pin group unavailable: " ++ reason

/-- Why an operation failed. -/
inductive Error where
  | notSupported
  | invalidArgument (reason : String)
  | bus (address offset : UInt8) (fault : BusFault)
  | timeout (allowed : Duration)
  | protocol (reason : String)
  | permission (reason : String)
  | gpio (group : String) (fault : PinFault)
  | unimplemented (operation : String)
  | chainFailed (index : Nat) (source : Error)
  | notPresent
  | config (reason : String)
  | decode (e : DecodeError)
  | message (e : MessageError)
deriving Repr, Inhabited

namespace Error

/-- The wording of an error, without that of its causes. -/
def wording : Error → String
  | .notSupported => "Operation not supported"
  | .invalidArgument reason => "Invalid argument: " ++ reason
  | .bus address offset _ =>
    "Bus failure at address " ++ Text.hex 2 address.toNat ++ " offset " ++
      Text.hex 2 offset.toNat
  | .timeout allowed => "Operation timed out after " ++ allowed.text
  | .protocol reason => "Protocol error: " ++ reason
  | .permission reason => "Permission denied: " ++ reason
  | .gpio group _ => "GPIO failure on pin group '" ++ group ++ "'"
  | .unimplemented operation => "Operation is not implemented: " ++ operation
  | .chainFailed index _ => "Mailbox chain failed at packet " ++ toString index
  | .notPresent => "No module is present"
  | .config reason => "Invalid configuration: " ++ reason
  | .decode _ => "Decode error"
  | .message _ => "Message error"

/-- The wordings of the causes, outermost first. -/
def causes : Error → List String
  | .bus _ _ fault => [fault.wording]
  | .gpio _ fault => [fault.wording]
  | .chainFailed _ source => source.wording :: source.causes
  | .decode e =>
    match e with
    | .message m => [e.wording, m.wording]
    | _ => [e.wording]
  | _ => []

/-- Whether a capability is missing.  A failed chain tells of its packet. -/
def isNotSupported : Error → Bool
  | .notSupported => true
  | .chainFailed _ source => source.isNotSupported
  | _ => false

/-- A bad selector is a bad argument. -/
def ofMessage : MessageError → Error
  | .invalidPage n => .invalidArgument (MessageError.invalidPage n).wording
  | .invalidDevice n => .invalidArgument (MessageError.invalidDevice n).wording
  | e => .message e

end Error

end Transceiver
