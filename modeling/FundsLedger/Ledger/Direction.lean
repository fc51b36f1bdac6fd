/-!
# Directions

Funds enter a user's holdings as deposits and leave them as withdrawals. Each direction has a table
of its own, and both tables have the same columns.
-/

namespace FundsLedger

/-- Which way funds move. -/
inductive Direction where
  | deposit
  | withdrawal
deriving DecidableEq, Repr, Inhabited

namespace Direction

def all : List Direction := [.deposit, .withdrawal]

def table : Direction → String
  | .deposit => "deposits"
  | .withdrawal => "withdrawals"

/-- The name under which a direction is sent. -/
def name : Direction → String
  | .deposit => "deposit"
  | .withdrawal => "withdrawal"

def label : Direction → String
  | .deposit => "Deposit"
  | .withdrawal => "Withdrawal"

def ofName? (s : String) : Option Direction :=
  all.find? (·.name == s)

end Direction

end FundsLedger
