import FundsLedger.Proofs.Ledger.Requests
import FundsLedger.Proofs.Store.Statements

/-!
# Many clients at one store

Every request is served by a call, and calls take turns. In a turn one call sends one statement,
which the store carries out as a whole or not at all. Nothing is said of the order of the turns, of
the times of the statements or of which of them fail, so a run is any list of events. A client that
asks for one thing after another is one whose later requests arrive after the earlier have ended.
What took effect is kept in a list of commits, which no call reads.
-/

namespace FundsLedger

open Database (Answer Failure Program Response Row Statement)
open Time (Timestamp)

/-- A request that is being served, with the responses that were heard so far. -/
structure Call where
  request : Request
  heard : List Response := []

namespace Call

def rest (c : Call) : Program LedgerError (List Entry) :=
  c.request.program.after c.heard

def next? (c : Call) : Option Statement :=
  c.rest.next?

def result? (c : Call) : Option (Except LedgerError (List Entry)) :=
  c.rest.result?

/-- The row that the first response held. -/
def saw? (c : Call) : Option Posting :=
  c.heard.head?.bind fun r => (firstRow Row.posting r).toOption.join

def hear (c : Call) (r : Response) : Call :=
  { c with heard := c.heard ++ [r] }

end Call

/-- How a statement fares between a call and the store. -/
inductive Delivery where
  | answered
  /-- The statement fails and has no effect. -/
  | refused (failure : Failure)
  /-- The statement is carried out, but the call is told that it failed. -/
  | lost (failure : Failure)
deriving DecidableEq

def Delivery.reaches : Delivery → Bool
  | refused _ => false
  | answered | lost _ => true

def Delivery.tells (r : Response) : Delivery → Response
  | answered => r
  | refused failure | lost failure => .error failure

/-- Whether a statement, given the response of the store, has written a ledger row. -/
def Database.Statement.takesEffect : Statement → Response → Bool
  | .insertPosting .., .ok answer => answer.count ≠ 0
  | .updateStatus .., .ok answer => answer.count ≠ 0
  | _, _ => false

/-- A write that took effect: which call sent it, what for, and when. -/
structure Commit where
  call : Nat
  request : Request
  statement : Statement
  time : Timestamp
deriving DecidableEq

/-- A store with the calls that it serves, numbered as they came, and the writes that took effect,
the latest one last. -/
structure Traffic where
  store : Store
  calls : List Call := []
  commits : List Commit := []

inductive Event where
  | arrival (request : Request)
  /-- The call of the given number sends its next statement, if it has one. -/
  | turn (call : Nat) (time : Timestamp) (delivery : Delivery)
deriving DecidableEq

namespace Traffic

/-- The traffic after the call number `k`, which is `c`, has sent the statement `s`. -/
def serve (t : Traffic) (k : Nat) (c : Call) (s : Statement) (time : Timestamp)
    (delivery : Delivery) : Traffic where
  store := if delivery.reaches then (t.store.respond time s).2 else t.store
  calls := t.calls.set k (c.hear (delivery.tells (t.store.respond time s).1))
  commits :=
    if delivery.reaches && s.takesEffect (t.store.respond time s).1 then
      t.commits ++ [⟨k, c.request, s, time⟩]
    else t.commits

def step (t : Traffic) : Event → Traffic
  | .arrival request => { t with calls := t.calls ++ [{ request }] }
  | .turn k time delivery =>
    match t.calls[k]? with
    | none => t
    | some c =>
      match c.next? with
      | none => t
      | some s => t.serve k c s time delivery

def run (t : Traffic) (events : List Event) : Traffic :=
  events.foldl step t

end Traffic

/-- The traffic after some events at a store that no call has used before. -/
def Store.traffic (store : Store) (events : List Event) : Traffic :=
  Traffic.run { store } events

end FundsLedger
