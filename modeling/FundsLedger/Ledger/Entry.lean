import FundsLedger.Ledger.Direction
import FundsLedger.Ledger.Status
import FundsLedger.Signed
import FundsLedger.Time.Text
import FundsLedger.Uuid

/-!
# What the ledger keeps

Users and currencies belong to other parts of a system, and the ledger needs little of them. A
posting is a row of either ledger table; an entry is a posting together with its direction.
-/

namespace FundsLedger

open Time (Timestamp)

structure User where
  id : Uuid
  createdAt : Timestamp
deriving DecidableEq

/-- A currency, with the digits between its major and its minor unit. -/
structure Currency where
  id : Uuid
  code : String
  minorUnitDigits : DigitCount
  createdAt : Timestamp
deriving DecidableEq

structure Posting where
  id : Uuid
  userId : Uuid
  currencyId : Uuid
  amount : Amount
  status : Status
  createdAt : Timestamp
  updatedAt : Timestamp
deriving DecidableEq

structure Entry extends Posting where
  direction : Direction
deriving DecidableEq

def Posting.entry (p : Posting) (direction : Direction) : Entry :=
  { p with direction }

/-- What is asked for when a deposit or withdrawal is recorded. -/
structure NewEntry where
  userId : Uuid
  currencyId : Uuid
  amount : Amount
  status : Option Status := none
deriving DecidableEq

def NewEntry.withStatus (e : NewEntry) (status : Status) : NewEntry :=
  { e with status := some status }

end FundsLedger
