import FundsLedger.Ledger.Operations

/-!
# The migrations

The first migration provides users and currencies. Both belong to other parts of a system, so a
table that is there already is left alone, and only a table that carries the owner's comment is
dropped again. The second migration adds the enumeration of statuses and the two ledger tables with
their indexes.
-/

namespace FundsLedger

open Database (Failure Index Parent Program Row Statement Table)

/-- A named change of the schema and its reverse. -/
structure Migration where
  name : String
  up : Program Failure Unit
  down : Program Failure Unit

namespace Migration

def actAll : List Statement → Program Failure Unit
  | [] => .done ()
  | s :: rest => do
    let _ ← s.act
    actAll rest

/-- The comment that marks a table as created by a migration. -/
def ownerComment : String := "created by the wallet-ledger migration"

def isPresent (table : Table) : Program Failure Bool := do
  let found ← (Statement.tableFound table.name).first (·.flag "found")
  return found.getD false

/-- Whether a table is there and carries the owner's comment. -/
def isOwned (table : Table) : Program Failure Bool := do
  let owned ← (Statement.tableOwned table.name ownerComment).first (·.flag "owned")
  return owned.getD false

/-- Creates a table and marks it as owned, unless it is there. -/
def provide (table : Table) : Program Failure Unit := do
  if ← isPresent table then return ()
  actAll [.createTable table, .commentOnTable table ownerComment]

def withdraw (table : Table) : Program Failure Unit := do
  if ← isOwned table then actAll [.dropTable table]

def usersAndCurrencies : Migration where
  name := "m20250301_000001_create_users_and_currencies"
  up := do
    provide .users
    provide .currencies
  down := do
    withdraw .currencies
    withdraw .users

/-- The indexes of the ledger tables, in the order in which they are created. -/
def ledgerIndexes : List Index :=
  [⟨.deposit, .user⟩, ⟨.deposit, .currency⟩, ⟨.withdrawal, .user⟩, ⟨.withdrawal, .currency⟩]

def depositsAndWithdrawals : Migration where
  name := "m20250301_000002_create_deposits_and_withdrawals"
  up := do
    let found ← Statement.statusTypeFound.first fun _ => .ok ()
    if found.isNone then actAll [.createStatusType]
    actAll [.createTable (.ledger .deposit), .createTable (.ledger .withdrawal)]
    actAll (ledgerIndexes.map .createIndex)
  down :=
    actAll [.dropTable (.ledger .withdrawal), .dropTable (.ledger .deposit), .dropStatusType]

def all : List Migration := [usersAndCurrencies, depositsAndWithdrawals]

end Migration

end FundsLedger
