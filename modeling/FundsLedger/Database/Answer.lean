import FundsLedger.Database.Failure
import FundsLedger.Ledger.Entry

/-!
# Answers

A database answers a statement with rows or with the number of rows it affected. Rows are not typed:
reading a column says what it has to hold, and fails where it holds something else.
-/

namespace FundsLedger.Database

open Time (Timestamp)

inductive Cell where
  | null
  | uuid (id : Uuid)
  | big (n : Signed 64)
  | medium (n : Signed 32)
  | small (n : Signed 16)
  | flag (b : Bool)
  | time (t : Timestamp)
  | text (s : String)
deriving DecidableEq

abbrev Row := List (String × Cell)

namespace Row

/-- The content of a column, null where there is no such column. -/
def cell (row : Row) (column : String) : Cell :=
  (row.lookup column).getD .null

/-- Reads a column, with what its content has to be. -/
def get {α : Type} (row : Row) (column : String) (content? : Cell → Option α) :
    Except Failure α :=
  match content? (row.cell column) with
  | some a => .ok a
  | none => .error (.nullColumn column)

def uuid (row : Row) (column : String) : Except Failure Uuid :=
  row.get column fun | .uuid id => some id | _ => none

def big (row : Row) (column : String) : Except Failure (Signed 64) :=
  row.get column fun | .big n => some n | _ => none

def small (row : Row) (column : String) : Except Failure (Signed 16) :=
  row.get column fun | .small n => some n | _ => none

def flag (row : Row) (column : String) : Except Failure Bool :=
  row.get column fun | .flag b => some b | _ => none

def time (row : Row) (column : String) : Except Failure Timestamp :=
  row.get column fun | .time t => some t | _ => none

def text (row : Row) (column : String) : Except Failure String :=
  row.get column fun | .text s => some s | _ => none

def status (row : Row) (column : String) : Except Failure Status :=
  match row.text column with
  | .error failure => .error failure
  | .ok name =>
    match Status.ofName? name with
    | some status => .ok status
    | none => .error (.unknownStatus name)

def user (row : Row) : Except Failure User := do
  return { id := ← row.uuid "id", createdAt := ← row.time "created_at" }

def currency (row : Row) : Except Failure Currency := do
  return {
    id := ← row.uuid "id"
    code := ← row.text "code"
    minorUnitDigits := ← row.small "minor_unit_digits"
    createdAt := ← row.time "created_at" }

/-- Reads a ledger row. The first column that is wrong, in this order, decides the failure. -/
def posting (row : Row) : Except Failure Posting := do
  return {
    id := ← row.uuid "id"
    userId := ← row.uuid "user_id"
    currencyId := ← row.uuid "currency_id"
    amount := ← row.big "amount"
    status := ← row.status "status"
    createdAt := ← row.time "created_at"
    updatedAt := ← row.time "updated_at" }

def ofUser (u : User) : Row :=
  [("id", .uuid u.id), ("created_at", .time u.createdAt)]

def ofCurrency (c : Currency) : Row :=
  [("id", .uuid c.id), ("code", .text c.code), ("minor_unit_digits", .small c.minorUnitDigits),
    ("created_at", .time c.createdAt)]

def ofPosting (p : Posting) : Row :=
  [("id", .uuid p.id), ("user_id", .uuid p.userId), ("currency_id", .uuid p.currencyId),
    ("amount", .big p.amount), ("status", .text p.status.name), ("created_at", .time p.createdAt),
    ("updated_at", .time p.updatedAt)]

end Row

/-- What a database answers when it does as it was asked. -/
inductive Answer where
  | rows (found : List Row)
  | affected (number : Nat)

namespace Answer

/-- The rows of an answer. A count is no row. -/
def toRows : Answer → List Row
  | .rows found => found
  | .affected _ => []

/-- How many rows were affected. Rows count as that many. -/
def count : Answer → Nat
  | .rows found => found.length
  | .affected number => number

end Answer

/-- The answer to a statement, or why there is none. -/
abbrev Response := Except Failure Answer

end FundsLedger.Database
