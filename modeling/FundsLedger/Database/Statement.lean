import FundsLedger.Database.Failure
import FundsLedger.Ledger.Entry

/-!
# Statements

Everything the ledger and its migrations ask of a database, as data. What a statement is called in
SQL is told elsewhere.
-/

namespace FundsLedger.Database

/-- What a ledger row references. -/
inductive Parent where
  | user
  | currency
deriving DecidableEq, Repr

inductive Table where
  | users
  | currencies
  | ledger (direction : Direction)
deriving DecidableEq, Repr

def Table.name : Table → String
  | .users => "users"
  | .currencies => "currencies"
  | .ledger direction => direction.table

def Parent.table : Parent → Table
  | .user => .users
  | .currency => .currencies

def Parent.column : Parent → String
  | .user => "user_id"
  | .currency => "currency_id"

/-- An index on one of the references of a ledger table. -/
structure Index where
  direction : Direction
  parent : Parent
deriving DecidableEq, Repr

def Index.name (i : Index) : String :=
  s!"idx_{i.direction.table}_{i.parent.column}"

def statusType : String := "transaction_status"

/-- The table in which applied migrations are recorded. -/
def historyTable : String := "seaql_migrations"

inductive Statement where
  | insertUser (id : Uuid)
  | insertCurrency (id : Uuid) (code : String) (digits : DigitCount)
  | insertPosting (direction : Direction) (id : Uuid) (entry : NewEntry)
  /-- The row of a table with the given id. -/
  | selectById (table : Table) (id : Uuid)
  /-- The rows of a user, newest first. -/
  | selectByUser (direction : Direction) (user : Uuid)
  /-- The ledger rows that reference a user or currency. -/
  | selectPostingsOf (parent : Parent) (direction : Direction) (id : Uuid)
  /-- The user or currency that a ledger row references. -/
  | selectParentOf (direction : Direction) (parent : Parent) (id : Uuid)
  /-- Set the status, and the time of the change, of the row that has both the given id and the
  expected status. -/
  | updateStatus (direction : Direction) (id : Uuid) (expected next : Status)
  /-- Whether a table is there. -/
  | tableFound (name : String)
  /-- Whether a table is there and carries the given comment. -/
  | tableOwned (name comment : String)
  /-- Whether the enumeration of statuses is there, in the schema in which tables are created. -/
  | statusTypeFound
  | createStatusType
  | createTable (table : Table)
  | commentOnTable (table : Table) (comment : String)
  | createIndex (index : Index)
  | dropTable (table : Table)
  | dropStatusType
  | createHistory
  | selectHistory
  | insertHistory (version : String)
  | deleteHistory (version : String)
deriving DecidableEq

/-- Whether a statement asks for rows or only acts. -/
def Statement.channel : Statement → Channel
  | insertUser .. | insertCurrency .. | insertPosting .. => .query
  | selectById .. | selectByUser .. | selectPostingsOf .. | selectParentOf .. => .query
  | tableFound .. | tableOwned .. | statusTypeFound | selectHistory => .query
  | updateStatus .. => .execution
  | createStatusType | createTable .. | commentOnTable .. | createIndex .. => .execution
  | dropTable .. | dropStatusType => .execution
  | createHistory | insertHistory .. | deleteHistory .. => .execution

end FundsLedger.Database
