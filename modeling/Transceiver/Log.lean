/-! # Log records -/

namespace Transceiver

/-- How much a record matters, the most severe first. -/
inductive Severity where
  | critical | error | warning | info | debug | trace
deriving DecidableEq, Repr

namespace Severity

def rank (s : Severity) : Nat := s.ctorIdx

/-- Whether a record of this severity passes a filter that lets `threshold` through. -/
def passes (s threshold : Severity) : Bool := s.rank ≤ threshold.rank

def name : Severity → String
  | .critical => "CRITICAL" | .error => "ERROR" | .warning => "WARNING" | .info => "INFO"
  | .debug => "DEBUG" | .trace => "TRACE"

/-- The name in four letters. -/
def shortName : Severity → String
  | .critical => "CRIT" | .error => "ERRO" | .warning => "WARN" | .info => "INFO"
  | .debug => "DEBG" | .trace => "TRCE"

/-- All severities, the most severe first. -/
def all : List Severity := [.critical, .error, .warning, .info, .debug, .trace]

/-- The severity that a text starts to name, in either case; whole names go before short ones. -/
def ofText? (s : String) : Option Severity :=
  let cs := s.toList.map Char.toUpper
  -- A start of the name for silence names no severity.
  if cs.isEmpty ∨ cs.isPrefixOf "OFF".toList then none
  else
    (all.find? fun a ↦ cs.isPrefixOf a.name.toList).or
      (all.find? fun a ↦ cs.isPrefixOf a.shortName.toList)

end Severity

/-- One line of the log, with the values it was written about. -/
structure Record where
  severity : Severity
  message : String
  fields : List (String × String)
deriving DecidableEq, Repr

end Transceiver
