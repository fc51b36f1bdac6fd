import FundsLedger.Database.Statement

/-!
# A store

What a database holds: tables with their comments and rows, types and indexes. A table that is not
there has no rows to speak of, so each table is optional.
-/

namespace FundsLedger

open Database (Index Parent Table historyTable statusType)
open Time (Timestamp)

/-- A table with rows of type `ρ`, in the order in which they were inserted. -/
structure Relation (ρ : Type) where
  comment : Option String := none
  rows : List ρ := []
deriving DecidableEq

structure HistoryRow where
  version : String
  appliedAt : Timestamp
deriving DecidableEq

/-- A type of the database. Types of other schemas may have the same name. -/
structure TypeName where
  schema : String
  name : String
deriving DecidableEq

/-- The schema in which tables are created and looked for. -/
def currentSchema : String := "public"

def TypeName.status : TypeName := ⟨currentSchema, statusType⟩

structure Store where
  users : Option (Relation User) := none
  currencies : Option (Relation Currency) := none
  deposits : Option (Relation Posting) := none
  withdrawals : Option (Relation Posting) := none
  history : Option (Relation HistoryRow) := none
  /-- Tables that the ledger knows nothing of, by name, with their comments. -/
  others : List (String × Option String) := []
  types : List TypeName := []
  indexes : List Index := []
deriving DecidableEq

namespace Store

def blank : Store := {}

/-- A store with the four tables and the enumeration, and no rows. -/
def provided : Store where
  users := some {}
  currencies := some {}
  deposits := some {}
  withdrawals := some {}
  types := [.status]

def ledger (store : Store) : Direction → Option (Relation Posting)
  | .deposit => store.deposits
  | .withdrawal => store.withdrawals

def setLedger (store : Store) (direction : Direction) (table : Option (Relation Posting)) : Store :=
  match direction with
  | .deposit => { store with deposits := table }
  | .withdrawal => { store with withdrawals := table }

/-- The rows of a direction, none where there is no table. -/
def postings (store : Store) (direction : Direction) : List Posting :=
  (store.ledger direction).elim [] (·.rows)

/-- The ids of what ledger rows may reference, if the table is there. -/
def parentIds (store : Store) : Parent → Option (List Uuid)
  | .user => store.users.map fun t => t.rows.map User.id
  | .currency => store.currencies.map fun t => t.rows.map Currency.id

def hasTable (store : Store) : Table → Bool
  | .users => store.users.isSome
  | .currencies => store.currencies.isSome
  | .ledger direction => (store.ledger direction).isSome

/-- Whether there is a ledger table, which keeps what it references from being dropped. -/
def hasLedger (store : Store) : Bool :=
  store.deposits.isSome || store.withdrawals.isSome

def tables (store : Store) : List (String × Option String × Nat) :=
  let entry {ρ : Type} (name : String) (table : Option (Relation ρ)) :=
    table.toList.map fun t => (name, t.comment, t.rows.length)
  entry Table.users.name store.users ++ entry Table.currencies.name store.currencies ++
    entry Direction.deposit.table store.deposits ++
    entry Direction.withdrawal.table store.withdrawals ++
    entry historyTable store.history ++ store.others.map fun (name, comment) => (name, comment, 0)

def comment? (store : Store) (name : String) : Option (Option String) :=
  (store.tables.lookup name).map (·.1)

def setComment (store : Store) (table : Table) (comment : String) : Store :=
  match table with
  | .users => { store with users := store.users.map ({ · with comment := some comment }) }
  | .currencies =>
    { store with currencies := store.currencies.map ({ · with comment := some comment }) }
  | .ledger direction =>
    store.setLedger direction ((store.ledger direction).map ({ · with comment := some comment }))

/-- The store with a table of no rows, in place of any other of that name. -/
def addTable (store : Store) (name : String) (comment : Option String) : Store :=
  if name = Table.users.name then { store with users := some { comment } }
  else if name = Table.currencies.name then { store with currencies := some { comment } }
  else if name = Direction.deposit.table then { store with deposits := some { comment } }
  else if name = Direction.withdrawal.table then { store with withdrawals := some { comment } }
  else if name = historyTable then { store with history := some { comment } }
  else { store with others := store.others.filter (·.1 ≠ name) ++ [(name, comment)] }

def addType (store : Store) (name : String) : Store :=
  if store.types.contains ⟨currentSchema, name⟩ then store
  else { store with types := store.types ++ [⟨currentSchema, name⟩] }

/-- The store with a migration recorded as applied once more than before. The table of the record is
made if it is not there. -/
def addHistory (store : Store) (version : String) (now : Timestamp) : Store :=
  let table := store.history.getD {}
  { store with history := some { table with rows := table.rows ++ [⟨version, now⟩] } }

end Store

end FundsLedger
