import Transceiver.Media

/-! # Commands by name -/

namespace Transceiver.Admin

/-- What can be asked for. -/
inductive Verb where
  | presence | identity | monitors | thresholds | read | write | tx | wavelength | help
deriving DecidableEq, Repr

namespace Verb

instance : Enumeration Verb where
  members := [.presence, .identity, .monitors, .thresholds, .read, .write, .tx, .wavelength, .help]
  name
    | .presence => "presence" | .identity => "identity" | .monitors => "monitors"
    | .thresholds => "thresholds" | .read => "read" | .write => "write" | .tx => "tx"
    | .wavelength => "wavelength" | .help => "help"

/-- What a command does, in a line. -/
def about : Verb → String
  | .presence => "Report whether a module is inserted"
  | .identity => "Print the vendor information and capabilities of the module"
  | .monitors => "Print the module and channel monitors"
  | .thresholds => "Print the alarm and warning thresholds of the module"
  | .read => "Read bytes of module memory"
  | .write => "Write bytes of module memory"
  | .tx => "Enable or disable the transmitter of a channel"
  | .wavelength => "Tune the module to a wavelength, in nanometers"
  | .help => "Print this message or the help of the given subcommand(s)"

end Verb

end Transceiver.Admin
