import Transceiver.Text.Combining
import Transceiver.Text.Hex
import Transceiver.Text.Invisible

/-!
# Quoted text

A text between double quotes, with a backslash before quotes and backslashes, short escapes for
the common controls, and a code point in braces for any other character that draws nothing or
attaches to the one before it.
-/

namespace Transceiver.Text

/-- The written form of one character. -/
def escaped (c : Char) : String :=
  if c = '"' then "\\\""
  else if c = '\\' then "\\\\"
  else if c = '\n' then "\\n"
  else if c = '\r' then "\\r"
  else if c = '\t' then "\\t"
  else if c.toNat = 0 then "\\0"
  else if isInvisible c || isCombining c then
    "\\u\x7b" ++ digits 16 1 c.toNat ++ "\x7d"
  else c.toString

/-- A text in double quotes. -/
def quoted (s : String) : String :=
  "\"" ++ String.join (s.toList.map escaped) ++ "\""

end Transceiver.Text
