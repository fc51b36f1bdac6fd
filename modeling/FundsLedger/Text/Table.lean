import FundsLedger.Text.Radix
import FundsLedger.Text.Split

/-!
# Tables of numbers

A long table is written as lines of text. A semicolon parts its rows, a comma the cells of a row,
and a blank the numbers of a cell, which are hexadecimal. A cell may be empty.
-/

namespace FundsLedger.Text

def readCell (s : List Char) : List Nat :=
  ((pieces ' ' s).filter (!·.isEmpty)).filterMap (radixValue? 16)

/-- The rows of a table, each with its cells. -/
def tableRows (lines : List String) : List (List (List Nat)) :=
  lines.flatMap fun line => (pieces ';' line.toList).map fun row => (pieces ',' row).map readCell

end FundsLedger.Text
