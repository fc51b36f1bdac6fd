import FundsLedger.Store.Execute

/-!
# Rows from elsewhere

Whoever reaches the database can insert ledger rows without asking the ledger. Any column may be left
out then: some have a default, the others are refused. The constraints of the table hold all the
same.
-/

namespace FundsLedger

open Time (Timestamp)

/-- A ledger row as it is handed to the database, with the columns that are given. -/
structure Draft where
  id : Option Uuid := none
  userId : Option Uuid := none
  currencyId : Option Uuid := none
  amount : Option Amount := none
  status : Option Status := none
  createdAt : Option Timestamp := none
  updatedAt : Option Timestamp := none
deriving DecidableEq

def Draft.given {α : Type} (d : Direction) (column : String) (value : Option α) :
    Except Refusal α :=
  match value with
  | some a => .ok a
  | none => .error (.missingValue d.table column)

/-- The row of a draft at a given time. An id is drawn for it in case that it has none. -/
def Draft.row (draft : Draft) (now : Timestamp) (d : Direction) (drawn : Uuid) :
    Except Refusal Posting := do
  return {
    id := draft.id.getD drawn
    userId := ← given d "user_id" draft.userId
    currencyId := ← given d "currency_id" draft.currencyId
    amount := ← given d "amount" draft.amount
    status := draft.status.getD .initial
    createdAt := draft.createdAt.getD now
    updatedAt := draft.updatedAt.getD now }

def Store.insertDraft (store : Store) (now : Timestamp) (d : Direction) (drawn : Uuid)
    (draft : Draft) : Except Refusal (Posting × Store) := do
  let _ ← require d.table (store.ledger d)
  let row ← draft.row now d drawn
  return (row, ← store.insertRow d row)

end FundsLedger
