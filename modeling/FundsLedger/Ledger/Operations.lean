import FundsLedger.Database.Program
import FundsLedger.Ledger.Error

/-!
# Recording, finding, listing and moving

The operations of the ledger as programs. An amount is checked before anything is sent. A status is
changed by an update that names the status that was read, so that of two writers only one wins.
Nothing is ever deleted.
-/

namespace FundsLedger

open Database (Answer Failure Level Parent Program Row Statement Table)

namespace Database.Statement

variable {α : Type}

/-- Sends an insert and reads the row it returns. -/
def insertAnd (s : Statement) (read : Row → Except Failure α) : Program Failure α := do
  let answer ← Program.ask s
  match answer.toRows with
  | [] => .fail .notReturned
  | row :: _ => .ofExcept (read row)

/-- Sends a query and reads the first row of the answer, if there is one. -/
def first (s : Statement) (read : Row → Except Failure α) : Program Failure (Option α) := do
  let answer ← Program.ask s
  match answer.toRows with
  | [] => return none
  | row :: _ => some <$> Program.ofExcept (read row)

def every (s : Statement) (read : Row → Except Failure α) : Program Failure (List α) := do
  let answer ← Program.ask s
  .ofExcept (answer.toRows.mapM read)

/-- Sends a statement that only acts, and tells how many rows it affected. -/
def act (s : Statement) : Program Failure Nat := do
  let answer ← Program.ask s
  return answer.count

end Database.Statement

namespace Ledger

def addUser (id : Uuid) : Program Failure User :=
  (Statement.insertUser id).insertAnd Row.user

def addCurrency (id : Uuid) (code : String) (digits : DigitCount) : Program Failure Currency :=
  (Statement.insertCurrency id code digits).insertAnd Row.currency

/-- Records a deposit or withdrawal under a new id, and gives the row as it was stored. -/
def record (id : Uuid) (direction : Direction) (e : NewEntry) : Program LedgerError Entry :=
  if e.amount.toInt ≤ 0 then .fail (.nonPositiveAmount e.amount)
  else do
    let inserted := (Statement.insertPosting direction id e).insertAnd Row.posting
    let posting ← inserted.mapError .ofInsert
    Program.log .info <|
      s!"Recorded {direction.table} {posting.id} of {posting.amount} " ++
        s!"for user {posting.userId} ({posting.status})"
    return posting.entry direction

def find (direction : Direction) (id : Uuid) : Program LedgerError Entry := do
  let posting ← ((Statement.selectById (.ledger direction) id).first Row.posting).mapError .database
  match posting with
  | some posting => return posting.entry direction
  | none => .fail (.notFound direction id)

/-- The rows of a direction and a user, newest first. -/
def listForUser (direction : Direction) (user : Uuid) : Program LedgerError (List Entry) := do
  let postings ← ((Statement.selectByUser direction user).every Row.posting).mapError .database
  Program.log .debug s!"Found {postings.length} {direction.table} for user {user}"
  return postings.map (·.entry direction)

/-- Ends a change of status, given how many rows its update affected. -/
def confirmMove (direction : Direction) (id : Uuid) (current next : Status) (affected : Nat) :
    Program LedgerError Entry :=
  if affected = 0 then do
    Program.log .warn
      s!"{direction.table} {id} changed status concurrently, expected {current}"
    .fail (.statusConflict direction id current)
  else do
    Program.log .info s!"{direction.table} {id}: {current} -> {next}"
    find direction id

/-- Moves a row on from the status that was read, provided that it still has it. -/
def moveFrom (direction : Direction) (id : Uuid) (current next : Status) :
    Program LedgerError Entry :=
  if !current.canMoveTo next then .fail (.invalidMove current next)
  else do
    let affected ← (Statement.updateStatus direction id current next).act.mapError .database
    confirmMove direction id current next affected

/-- Moves a row to the next status, provided that it still has the status that was read. -/
def updateStatus (direction : Direction) (id : Uuid) (next : Status) :
    Program LedgerError Entry := do
  let current ← find direction id
  moveFrom direction id current.status next

/-- The ledger rows of a direction that reference a user or currency, if that is there. -/
def postingsOf (parent : Parent) (id : Uuid) (direction : Direction) :
    Program Failure (Option (List Posting)) := do
  let found ← match parent with
    | .user => Option.map User.id <$> (Statement.selectById .users id).first Row.user
    | .currency => Option.map Currency.id <$> (Statement.selectById .currencies id).first Row.currency
  match found with
  | none => return none
  | some id => some <$> (Statement.selectPostingsOf parent direction id).every Row.posting

/-- What a ledger row references, read with `read`, if the row is there. -/
def parentsOf {α : Type} (direction : Direction) (id : Uuid) (parent : Parent)
    (read : Row → Except Failure α) : Program Failure (Option (List α)) := do
  let found ← (Statement.selectById (.ledger direction) id).first Row.posting
  match found with
  | none => return none
  | some posting => some <$> (Statement.selectParentOf direction parent posting.id).every read

end Ledger

end FundsLedger
