import FundsLedger.Database.Script
import FundsLedger.Store.Execute

/-!
# Sessions

A session is a store in use: a clock, the transactions that are open, and whether one of them has
failed. Starting a transaction saves the store, rolling back restores it. What goes wrong from
outside, other writers and failing statements, is told by a disturbance.
-/

namespace FundsLedger

open Database (Answer Bound Connection Mishap Response Statement)
open Time (Timestamp)

inductive Meddling where
  | setStatus (status : Status)
  | delete
deriving DecidableEq, Repr

/-- What goes wrong from outside, by the number of the statement, counted from one. -/
structure Disturbance where
  /-- What other writers do just before a statement, and to which row. -/
  races : Nat → List (Direction × Uuid × Meddling) := fun _ => []
  /-- The failure of a statement that then has no effect. -/
  faults : Nat → Option Mishap := fun _ => none

/-- The store as it was when a transaction was started, and whether it had failed before. -/
structure Savepoint where
  store : Store
  aborted : Bool
deriving DecidableEq

structure Session where
  store : Store
  /-- Seconds from the start of 1970. -/
  clock : Int
  /-- The open transactions, the innermost first. -/
  saved : List Savepoint := []
  /-- Whether a statement of an open transaction has failed. -/
  aborted : Bool := false
  /-- How many statements were sent since counting began. -/
  count : Nat := 0

namespace Session

def now (session : Session) : Timestamp :=
  Timestamp.ofUnixSeconds session.clock

/-- One second later, with the count of statements at zero. -/
def tick (session : Session) : Session :=
  { session with clock := session.clock + 1, count := 0 }

def meddle (session : Session) : Direction × Uuid × Meddling → Session
  | (d, id, what) =>
    let change (rows : List Posting) : List Posting :=
      match what with
      | .setStatus status =>
        rows.map fun p => if p.id = id then Store.moved session.now status p else p
      | .delete => rows.filter (·.id ≠ id)
    let table := (session.store.ledger d).map fun t => { t with rows := change t.rows }
    { session with store := session.store.setLedger d table }

/-- Marks the open transaction, if there is one, as failed. -/
def abort (session : Session) : Session :=
  { session with aborted := !session.saved.isEmpty }

/-- Answers a statement: other writers come first, then a failure from outside, then the refusal of
a transaction that has failed, and last the store itself. -/
def answer (d : Disturbance) (s : Statement) (session : Session) : Response × Session :=
  let session := { session with count := session.count + 1 }
  let session := (d.races session.count).foldl meddle session
  match d.faults session.count with
  | some mishap => (.error (mishap s.channel), session.abort)
  | none =>
    let outcome :=
      if session.aborted then .error .aborted else session.store.execute session.now s
    match outcome with
    | .ok (answer, store) => (.ok answer, { session with store })
    | .error refusal => (.error (.server s.channel refusal.code refusal.message), session.abort)

/-- Restores the store as it was when the innermost transaction was started. -/
def rollback (session : Session) : Session :=
  match session.saved with
  | [] => session
  | save :: saved => { session with store := save.store, aborted := save.aborted, saved }

/-- Starts or ends a transaction. A transaction that has failed cannot be committed: it is rolled
back instead. -/
def move : Bound → Session → Session
  | .start, session =>
    { session with saved := ⟨session.store, session.aborted⟩ :: session.saved }
  | .rollback, session => session.rollback
  | .commit, session =>
    if session.aborted then session.rollback
    else { session with saved := session.saved.tail }

def connection (d : Disturbance) : Connection Session where
  answer := answer d
  move := move

def close (session : Session) : Session :=
  match session.saved.getLast? with
  | none => session
  | some save => { session with store := save.store, aborted := false, saved := [] }

end Session

end FundsLedger
