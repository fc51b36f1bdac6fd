import FundsLedger.Database.Answer
import FundsLedger.Database.Statement

/-!
# Programs that talk to a database

A program is a tree: it asks one thing, and how it goes on depends on the answer. The same program
can be given scripted answers, a store of its own or one that others write to as well.
-/

namespace FundsLedger.Database

inductive Level where
  | error
  | warn
  | info
  | debug
  | trace
deriving DecidableEq, Repr

/-- What a program says while it runs. -/
inductive Note where
  /-- A message of the ledger itself. -/
  | log (level : Level) (message : String)
  /-- A message about the progress of migrations. -/
  | progress (message : String)
  /-- A line of the program's output. -/
  | line (text : String)
  /-- A message of the driver about a statement. -/
  | statement (message : String)
deriving DecidableEq, Repr

inductive Bound where
  | start
  | commit
  | rollback
deriving DecidableEq, Repr

/-- A program with results of type `α` and errors of type `ε`. -/
inductive Program (ε α : Type) where
  | done (a : α)
  | fail (e : ε)
  /-- Send a statement and go on with the response. -/
  | send (statement : Statement) (next : Response → Program ε α)
  /-- Start or end a transaction. -/
  | bound (b : Bound) (next : Program ε α)
  /-- Say something. -/
  | say (note : Note) (next : Program ε α)

namespace Program

variable {ε ε' α β : Type}

def bind : Program ε α → (α → Program ε β) → Program ε β
  | done a, f => f a
  | fail e, _ => fail e
  | send s next, f => send s fun r => (next r).bind f
  | bound b next, f => bound b (next.bind f)
  | say note next, f => say note (next.bind f)

instance : Monad (Program ε) where
  pure := done
  bind := bind

def mapError (f : ε → ε') : Program ε α → Program ε' α
  | done a => done a
  | fail e => fail (f e)
  | send s next => send s fun r => (next r).mapError f
  | bound b next => bound b (next.mapError f)
  | say note next => say note (next.mapError f)

/-- The program with its error as a result. -/
def attempt : Program ε α → Program ε' (Except ε α)
  | done a => done (.ok a)
  | fail e => done (.error e)
  | send s next => send s fun r => (next r).attempt
  | bound b next => bound b next.attempt
  | say note next => say note next.attempt

def ofExcept : Except ε α → Program ε α
  | .ok a => done a
  | .error e => fail e

/-- Sends a statement and stops if it fails. -/
def ask (s : Statement) : Program Failure Answer :=
  send s ofExcept

def log (level : Level) (message : String) : Program ε Unit :=
  say (.log level message) (done ())

def report (message : String) : Program ε Unit :=
  say (.progress message) (done ())

def print (text : String) : Program ε Unit :=
  say (.line text) (done ())

/-- Runs a program in a transaction of its own: an error undoes all of it and is then passed on. -/
def inTransaction (body : Program ε α) : Program ε α :=
  bound .start <| body.attempt.bind fun
    | .ok a => bound .commit (done a)
    | .error e => bound .rollback (fail e)

end Program

/-- What passes between a program and the database. -/
inductive Passage where
  | statement (s : Statement) (r : Response)
  | bound (b : Bound)

namespace Program

variable {ε α : Type}

def told (messages : List String) (p : Program ε α) : Program ε α :=
  messages.foldr (fun message => say (.statement message)) p

/-- The program with a driver that tells of all that passes. What it says of the passage of a given
number, counted from `n`, is up to `messages`: there is the time it took, too. -/
def overheard (messages : Nat → Passage → List String) : Nat → Program ε α → Program ε α
  | _, done a => done a
  | _, fail e => fail e
  | n, send s next => send s fun r =>
    told (messages n (.statement s r)) (overheard messages (n + 1) (next r))
  | n, bound b next =>
    bound b (told (messages n (.bound b)) (overheard messages (n + 1) next))
  | n, say note next => say note (overheard messages n next)

end Program

/-- What a program sent. -/
inductive Sent where
  | statement (s : Statement)
  | bound (b : Bound)

/-- A way to a database whose state is `σ`. -/
structure Connection (σ : Type) where
  answer : Statement → σ → Response × σ
  move : Bound → σ → σ

/-- How a program ended: its result, the state it left behind, and all it sent and said. -/
structure Outcome (σ ε α : Type) where
  result : Except ε α
  state : σ
  sent : List Sent
  notes : List Note

def Program.run {σ ε α : Type} (c : Connection σ) : Program ε α → σ → Outcome σ ε α
  | .done a, state => ⟨.ok a, state, [], []⟩
  | .fail e, state => ⟨.error e, state, [], []⟩
  | .send s next, state =>
    let (response, state) := c.answer s state
    let rest := (next response).run c state
    { rest with sent := .statement s :: rest.sent }
  | .bound b next, state =>
    let rest := next.run c (c.move b state)
    { rest with sent := .bound b :: rest.sent }
  | .say note next, state =>
    let rest := next.run c state
    { rest with notes := note :: rest.notes }

end FundsLedger.Database
