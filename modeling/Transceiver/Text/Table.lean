/-!
# Tables of text

Columns are as wide as their widest cell, with a blank on either side of every cell, and a rule
parts the head from the rows.  Widths count characters.
-/

namespace Transceiver.Text

/-- A cell filled up with blanks on the right. -/
def padRight (width : Nat) (s : String) : String :=
  s ++ String.ofList (List.replicate (width - s.length) ' ')

/-- One line of a table of two columns. -/
structure Row where
  field : String
  value : String
deriving DecidableEq, Repr

namespace Row

/-- The line of a row in columns of given widths. -/
def line (fieldWidth valueWidth : Nat) (r : Row) : String :=
  " " ++ padRight fieldWidth r.field ++ " | " ++ padRight valueWidth r.value ++ " "

end Row

/-- The length of the longest of some texts. -/
def widest (ss : List String) : Nat := ss.foldl (fun w s ↦ max w s.length) 0

/-- The rule under the head, of the width of the columns. -/
def rule (fieldWidth valueWidth : Nat) : String :=
  String.ofList (List.replicate (fieldWidth + 2) '-') ++ "+" ++
    String.ofList (List.replicate (valueWidth + 2) '-')

/-- The lines of a table. -/
def table (head : Row) (rows : List Row) : List String :=
  let fieldWidth := widest ((head :: rows).map Row.field)
  let valueWidth := widest ((head :: rows).map Row.value)
  head.line fieldWidth valueWidth :: rule fieldWidth valueWidth ::
    rows.map (Row.line fieldWidth valueWidth)

end Transceiver.Text
