import Transceiver.Program

/-!
# The bus

A transaction goes to a device and starts at an offset.  When it is refused the operation fails
with both.
-/

namespace Transceiver.Bus

def read (address offset : UInt8) (length : Nat) : Procedure (Vector UInt8 length) := .mk do
  match ← perform (.read address offset length) with
  | .ok bytes => return .ok bytes
  | .error fault => return .error (.bus address offset fault)

def write (address offset : UInt8) (data : List UInt8) : Procedure Unit := .mk do
  match ← perform (.write address offset data) with
  | .ok () => return .ok ()
  | .error fault => return .error (.bus address offset fault)

def readByte (address offset : UInt8) : Procedure UInt8 := do
  let b ← read address offset 1
  return byteIn b

def writeByte (address offset value : UInt8) : Procedure Unit := write address offset [value]

/-- Read a word, high byte first. -/
def readWord (address offset : UInt8) : Procedure UInt16 := do
  let b ← read address offset 2
  return wordIn b

/-- Write a word, high byte first. -/
def writeWord (address offset : UInt8) (value : UInt16) : Procedure Unit :=
  write address offset (bytes16 value)

end Transceiver.Bus
