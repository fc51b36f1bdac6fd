import FundsLedger.Database.Answer
import FundsLedger.Store.Basic

/-!
# What statements do to a store

Each statement either changes the store and is answered, or is refused and changes nothing. The
constraints that the tables were created with are checked here.
-/

namespace FundsLedger

open Database (Answer Index Parent Row Statement Table historyTable statusType)
open Time (Timestamp)

inductive Refusal where
  | noTable (name : String)
  | noType (name : String)
  | typeExists (name : String)
  /-- A code has more characters than its column. -/
  | codeTooLong
  | nonPositiveAmount (table : String)
  /-- A column that needs a value is given none. -/
  | missingValue (table column : String)
  /-- A value that has to be unique is there already. -/
  | duplicate (key : String)
  /-- A row references one that is not there. -/
  | noReference (table column : String)
  | tableInUse (name : String)
  | typeInUse (name : String)
  /-- A statement failed before in the same transaction. -/
  | aborted
deriving DecidableEq, Repr

namespace Refusal

def code : Refusal → String
  | noTable _ => "42P01"
  | noType _ => "42704"
  | typeExists _ => "42710"
  | codeTooLong => "22001"
  | nonPositiveAmount _ => "23514"
  | missingValue .. => "23502"
  | duplicate _ => "23505"
  | noReference .. => "23503"
  | tableInUse _ => "2BP01"
  | typeInUse _ => "2BP01"
  | aborted => "25P02"

def message : Refusal → String
  | noTable name => s!"relation \"{name}\" does not exist"
  | noType name => s!"type \"{name}\" does not exist"
  | typeExists name => s!"type \"{name}\" already exists"
  | codeTooLong => "value too long for type character varying(16)"
  | nonPositiveAmount table =>
    s!"new row for relation \"{table}\" violates check constraint \"{table}_amount_check\""
  | missingValue table column =>
    s!"null value in column \"{column}\" of relation \"{table}\" violates not-null constraint"
  | duplicate key => s!"duplicate key value violates unique constraint \"{key}\""
  | noReference table column =>
    s!"insert or update on table \"{table}\" violates foreign key constraint \"fk_{table}_{column}\""
  | tableInUse name => s!"cannot drop table {name} because other objects depend on it"
  | typeInUse name => s!"cannot drop type {name} because other objects depend on it"
  | aborted => "current transaction is aborted, commands ignored until end of transaction block"

end Refusal

namespace Store

def codeLength : Nat := 16

def require {ρ : Type} (name : String) (table : Option (Relation ρ)) : Except Refusal (Relation ρ) :=
  match table with
  | some t => .ok t
  | none => .error (.noTable name)

def check (condition : Prop) [Decidable condition] (refusal : Refusal) : Except Refusal Unit :=
  if condition then .ok () else .error refusal

def appendRow {ρ : Type} (table : Relation ρ) (row : ρ) : Relation ρ :=
  { table with rows := table.rows ++ [row] }

def checkReference (store : Store) (d : Direction) (parent : Parent) (id : Uuid) :
    Except Refusal Unit :=
  match store.parentIds parent with
  | none => .error (.noTable parent.table.name)
  | some ids => check (id ∈ ids) (.noReference d.table parent.column)

def insertUser (store : Store) (now : Timestamp) (id : Uuid) : Except Refusal (User × Store) := do
  let table ← require "users" store.users
  check (id ∉ table.rows.map User.id) (.duplicate "users_pkey")
  let row : User := ⟨id, now⟩
  return (row, { store with users := some (appendRow table row) })

/-- A currency code as its column holds it: blanks beyond the last character are cut off, and anything
else there is refused. -/
def fitCode (code : String) : Except Refusal String :=
  if (code.toList.drop codeLength).all (· = ' ') then
    .ok (String.ofList (code.toList.take codeLength))
  else .error .codeTooLong

def insertCurrency (store : Store) (now : Timestamp) (id : Uuid) (code : String)
    (digits : DigitCount) : Except Refusal (Currency × Store) := do
  let table ← require "currencies" store.currencies
  let code ← fitCode code
  check (id ∉ table.rows.map Currency.id) (.duplicate "currencies_pkey")
  check (code ∉ table.rows.map Currency.code) (.duplicate "currencies_code_key")
  let row : Currency := ⟨id, code, digits, now⟩
  return (row, { store with currencies := some (appendRow table row) })

/-- Adds a ledger row. Its amount is positive, its id new, and what it references is there. -/
def insertRow (store : Store) (d : Direction) (row : Posting) : Except Refusal Store := do
  let table ← require d.table (store.ledger d)
  check (0 < row.amount.toInt) (.nonPositiveAmount d.table)
  check (row.id ∉ table.rows.map Posting.id) (.duplicate (d.table ++ "_pkey"))
  store.checkReference d .user row.userId
  store.checkReference d .currency row.currencyId
  return store.setLedger d (some (appendRow table row))

def insertPosting (store : Store) (now : Timestamp) (d : Direction) (id : Uuid) (e : NewEntry) :
    Except Refusal (Posting × Store) := do
  let row : Posting :=
    { id, userId := e.userId, currencyId := e.currencyId, amount := e.amount
      status := e.status.getD .initial, createdAt := now, updatedAt := now }
  return (row, ← store.insertRow d row)

def rowsById (store : Store) (t : Table) (id : Uuid) : Except Refusal (List Row) :=
  match t with
  | .users => do
    let table ← require t.name store.users
    return (table.rows.find? (·.id == id)).toList.map .ofUser
  | .currencies => do
    let table ← require t.name store.currencies
    return (table.rows.find? (·.id == id)).toList.map .ofCurrency
  | .ledger d => do
    let table ← require t.name (store.ledger d)
    return (table.rows.find? (·.id == id)).toList.map .ofPosting

/-- Ledger rows with the newest first. Rows of one time keep their order. -/
def newestFirst (rows : List Posting) : List Posting :=
  rows.mergeSort fun a b => b.createdAt ≤ a.createdAt

def parentId (p : Posting) : Parent → Uuid
  | .user => p.userId
  | .currency => p.currencyId

def parentRows (store : Store) (parent : Parent) (ids : List Uuid) : Except Refusal (List Row) :=
  match parent with
  | .user => do
    let table ← require parent.table.name store.users
    return (table.rows.filter (·.id ∈ ids)).map .ofUser
  | .currency => do
    let table ← require parent.table.name store.currencies
    return (table.rows.filter (·.id ∈ ids)).map .ofCurrency

/-- Whether a row is the one to move: it has the id and still has the expected status. -/
def isTarget (id : Uuid) (expected : Status) (p : Posting) : Bool :=
  p.id = id && p.status = expected

def moved (now : Timestamp) (next : Status) (p : Posting) : Posting :=
  { p with status := next, updatedAt := now }

/-- Sets the status of the row that has both the id and the expected status, and tells how many
rows there were. -/
def updateStatus (store : Store) (now : Timestamp) (d : Direction) (id : Uuid)
    (expected next : Status) : Except Refusal (Nat × Store) := do
  let table ← require d.table (store.ledger d)
  let rows := table.rows.map fun p => if isTarget id expected p then moved now next p else p
  return (table.rows.countP (isTarget id expected), store.setLedger d (some { table with rows }))

/-- Creates a table unless it is there. A ledger table needs the enumeration and both tables that it
references. -/
def createTable (store : Store) (t : Table) : Except Refusal Store :=
  if store.hasTable t then .ok store
  else match t with
    | .users => .ok { store with users := some {} }
    | .currencies => .ok { store with currencies := some {} }
    | .ledger d => do
      check (TypeName.status ∈ store.types) (.noType statusType)
      let _ ← require Table.users.name store.users
      let _ ← require Table.currencies.name store.currencies
      return store.setLedger d (some {})

/-- Drops a table if it is there and nothing depends on it. The indexes of a ledger table go with
it. -/
def dropTable (store : Store) (t : Table) : Except Refusal Store :=
  if !store.hasTable t then .ok store
  else match t with
    | .users => do
      check (store.hasLedger = false) (.tableInUse t.name)
      return { store with users := none }
    | .currencies => do
      check (store.hasLedger = false) (.tableInUse t.name)
      return { store with currencies := none }
    | .ledger d =>
      .ok { store.setLedger d none with indexes := store.indexes.filter (·.direction ≠ d) }

/-- Drops the enumeration of statuses if it is there and nothing depends on it. -/
def dropStatusType (store : Store) : Except Refusal Store := do
  if TypeName.status ∉ store.types then return store
  check (store.hasLedger = false) (.typeInUse statusType)
  return { store with types := store.types.filter (· ≠ .status) }

/-- Creates an index on a table that is there, unless the index is. -/
def createIndex (store : Store) (i : Index) : Except Refusal Store := do
  let _ ← require i.direction.table (store.ledger i.direction)
  return if i ∈ store.indexes then store else { store with indexes := store.indexes ++ [i] }

def historyRows (table : Relation HistoryRow) : List Row :=
  (table.rows.mergeSort fun a b => a.version ≤ b.version).map fun h =>
    [("version", .text h.version),
      ("applied_at", ((Signed.ofInt? h.appliedAt.unixSeconds).map .big).getD .null)]

def execute (store : Store) (now : Timestamp) : Statement → Except Refusal (Answer × Store)
  | .insertUser id => do
    let (row, store) ← store.insertUser now id
    return (.rows [.ofUser row], store)
  | .insertCurrency id code digits => do
    let (row, store) ← store.insertCurrency now id code digits
    return (.rows [.ofCurrency row], store)
  | .insertPosting d id e => do
    let (row, store) ← store.insertPosting now d id e
    return (.rows [.ofPosting row], store)
  | .selectById t id => do
    return (.rows (← store.rowsById t id), store)
  | .selectByUser d user => do
    let table ← require d.table (store.ledger d)
    return (.rows ((newestFirst (table.rows.filter (·.userId == user))).map .ofPosting), store)
  | .selectPostingsOf parent d id => do
    let table ← require d.table (store.ledger d)
    let parents ← store.parentRows parent [id]
    let rows := if parents.isEmpty then [] else table.rows.filter (parentId · parent == id)
    return (.rows (rows.map .ofPosting), store)
  | .selectParentOf d parent id => do
    let _ ← store.parentRows parent []
    let table ← require d.table (store.ledger d)
    let ids := (table.rows.filter (·.id == id)).map (parentId · parent)
    return (.rows (← store.parentRows parent ids), store)
  | .updateStatus d id expected next => do
    let (count, store) ← store.updateStatus now d id expected next
    return (.affected count, store)
  | .tableFound name => return (.rows [[("found", .flag (store.comment? name).isSome)]], store)
  | .tableOwned name comment =>
    return (.rows [[("owned", .flag (store.comment? name == some (some comment)))]], store)
  | .statusTypeFound =>
    return (.rows (if TypeName.status ∈ store.types then [[]] else []), store)
  | .createStatusType => do
    check (TypeName.status ∉ store.types) (.typeExists statusType)
    return (.affected 0, { store with types := store.types ++ [.status] })
  | .createTable t => return (.affected 0, ← store.createTable t)
  | .commentOnTable t comment => do
    check (store.hasTable t) (.noTable t.name)
    return (.affected 0, store.setComment t comment)
  | .createIndex i => return (.affected 0, ← store.createIndex i)
  | .dropTable t => return (.affected 0, ← store.dropTable t)
  | .dropStatusType => return (.affected 0, ← store.dropStatusType)
  | .createHistory => return (.affected 0, { store with history := some (store.history.getD {}) })
  | .selectHistory => do
    let table ← require historyTable store.history
    return (.rows (historyRows table), store)
  | .insertHistory version => do
    let table ← require historyTable store.history
    check (version ∉ table.rows.map HistoryRow.version) (.duplicate (historyTable ++ "_pkey"))
    return (.affected 1, { store with history := some (appendRow table ⟨version, now⟩) })
  | .deleteHistory version => do
    let table ← require historyTable store.history
    let kept := table.rows.filter (·.version ≠ version)
    return (.affected (table.rows.length - kept.length),
      { store with history := some { table with rows := kept } })

end Store

end FundsLedger
