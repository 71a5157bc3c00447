import Transceiver.Admin.Command

/-!
# The command line

Administer the module of one cage.
-/

namespace Transceiver.Admin

/-- A record as it is shown. -/
def recordLine (r : Record) : String :=
  r.severity.name ++ " " ++ ", ".intercalate (r.message :: r.fields.map fun (k, v) ↦ k ++ ": " ++ v)

/-- Carry out the arguments, and return the exit code. -/
def serve (args : List String) : IO UInt32 := do
  let outcome := run args
  for record in outcome.log do
    IO.eprintln (recordLine record)
  IO.print outcome.output
  if let some failure := outcome.failure then IO.eprintln failure
  return outcome.exitCode.toUInt32

end Transceiver.Admin

def main (args : List String) : IO UInt32 := Transceiver.Admin.serve args
