import FundsLedger.Database.Failure
import FundsLedger.Ledger.Entry

/-!
# How ledger operations fail

A failure of the database that the ledger cannot tell more about is carried as it is.
-/

namespace FundsLedger

open Database (Failure)

instance {bits : Nat} : ToString (Signed bits) :=
  ⟨fun n => String.ofList (Text.signedDecimal n.toInt)⟩

inductive LedgerError where
  /-- The amount to record is zero or less. -/
  | nonPositiveAmount (amount : Amount)
  /-- There is no such row. -/
  | notFound (direction : Direction) (id : Uuid)
  /-- The row to record references a user or currency that is not there. -/
  | unknownReference (message : String)
  /-- The lifecycle has no such step. -/
  | invalidMove (current next : Status)
  /-- The row left the expected status before it could be moved. -/
  | statusConflict (direction : Direction) (id : Uuid) (expected : Status)
  | database (failure : Failure)
deriving DecidableEq

namespace LedgerError

def message : LedgerError → String
  | nonPositiveAmount amount => s!"amount must be a positive number of minor units, got {amount}"
  | notFound direction id => s!"{direction.label} {id} not found"
  | unknownReference message => s!"referenced user or currency does not exist: {message}"
  | invalidMove current next => s!"cannot move from {current} to {next}"
  | statusConflict direction id expected => s!"{direction.label} {id} is no longer {expected}"
  | database failure => s!"database error: {failure.message}"

/-- What a failure means to one who inserts a row. -/
def ofInsert (failure : Failure) : LedgerError :=
  match failure.missingReference? with
  | some message => unknownReference message
  | none => database failure

end LedgerError

end FundsLedger
