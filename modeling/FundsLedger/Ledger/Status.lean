/-!
# The lifecycle of a ledger row

A row is created, becomes pending and ends completed or failed. Failure can be reached from both
states before the end, and the two ends are final.
-/

namespace FundsLedger

inductive Status where
  | created
  | pending
  | completed
  | failed
deriving DecidableEq, Repr, Inhabited

namespace Status

def all : List Status := [.created, .pending, .completed, .failed]

/-- The status of a row for which none was given. -/
def initial : Status := .created

def name : Status → String
  | .created => "CREATED"
  | .pending => "PENDING"
  | .completed => "COMPLETED"
  | .failed => "FAILED"

instance : ToString Status := ⟨name⟩

def ofName? (s : String) : Option Status :=
  all.find? (·.name == s)

def label : Status → String
  | .created => "Created"
  | .pending => "Pending"
  | .completed => "Completed"
  | .failed => "Failed"

def isTerminal : Status → Bool
  | .completed | .failed => true
  | .created | .pending => false

/-- Whether a row may move from one status to the other in one step. -/
def canMoveTo : Status → Status → Bool
  | .created, .pending => true
  | .created, .failed => true
  | .pending, .completed => true
  | .pending, .failed => true
  | _, _ => false

def moves (s : Status) : List Status :=
  all.filter s.canMoveTo

/-- The status after an attempt to move: the wanted one where the lifecycle allows the step, else
the old one. -/
def attempt (current wanted : Status) : Status :=
  if current.canMoveTo wanted then wanted else current

/-- The statuses passed through when each of the given ones is attempted in turn. -/
def path : Status → List Status → List (Bool × Status)
  | _, [] => []
  | current, wanted :: rest =>
    let next := current.attempt wanted
    (current.canMoveTo wanted, next) :: path next rest

theorem ofName?_name (s : Status) : ofName? s.name = some s := by
  cases s <;> decide

end Status

end FundsLedger
