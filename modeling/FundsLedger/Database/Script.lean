import FundsLedger.Database.Program

/-!
# Scripted answers

A connection whose answers are fixed beforehand: each statement takes the next one, whatever it
asks. Failures that do not say through which channel they came take that of the statement.
-/

namespace FundsLedger.Database

/-- A failure that may still lack its channel. -/
abbrev Mishap := Channel → Failure

inductive Reply where
  | answer (a : Answer)
  | mishap (m : Mishap)

def exhausted : Mishap := fun channel => .internal channel "script exhausted"

/-- Answers in turn from a list. Transactions have no effect. -/
def scripted : Connection (List Reply) where
  answer s
    | [] => (.error (exhausted s.channel), [])
    | .answer a :: rest => (.ok a, rest)
    | .mishap m :: rest => (.error (m s.channel), rest)
  move _ replies := replies

end FundsLedger.Database
