/-!
# Sets of characters

A set of code points is given by the points at which membership changes, in ascending order, so
that a property of the character database is one list.
-/

namespace FundsLedger.Text

/-- A set of code points, named by the points where membership starts and stops in turn. -/
structure CharSet where
  turns : List Nat

/-- A character belongs to the set when an odd number of turns lies at or before it. -/
def CharSet.contains (set : CharSet) (c : Char) : Bool :=
  (set.turns.takeWhile (· ≤ c.toNat)).length % 2 == 1

end FundsLedger.Text
