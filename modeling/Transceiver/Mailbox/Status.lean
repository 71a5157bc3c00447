/-! # State of a mailbox -/

namespace Transceiver

/-- The state of the last mailbox operation, in bits 3 and 2 of the status byte. -/
inductive MailboxStatus where
  | idle
  | done
  | failed
deriving DecidableEq, Repr

namespace MailboxStatus

/-- The state in a status byte; one of the four patterns means nothing. -/
def ofByte? (b : UInt8) : Option MailboxStatus :=
  match (b &&& 0b1100) >>> 2 with
  | 0 => some .idle
  | 1 => some .done
  | 2 => some .failed
  | _ => none

def code : MailboxStatus → UInt8
  | .idle => 0
  | .done => 1
  | .failed => 2

/-- A status byte with this state and no operation. -/
def toByte (s : MailboxStatus) : UInt8 := s.code <<< 2

def name : MailboxStatus → String
  | .idle => "Idle"
  | .done => "Done"
  | .failed => "Error"

@[simp] theorem ofByte?_toByte (s : MailboxStatus) : ofByte? s.toByte = some s := by
  cases s <;> rfl

end MailboxStatus

end Transceiver
