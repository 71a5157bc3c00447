/-! # Records in text -/

namespace Transceiver.Text

/-- Named parts in braces, behind the name of the whole. -/
def record (name : String) (parts : List (String × String)) : String :=
  name ++ " \x7b " ++ ", ".intercalate (parts.map fun (k, v) ↦ k ++ ": " ++ v) ++ " \x7d"

end Transceiver.Text
