import FundsLedger.Command.Migrate
import FundsLedger.Command.RandomNumbers
import FundsLedger.Command.Seed
import FundsLedger.Command.Setup
import FundsLedger.Store.Session

/-!
# The command line

The first word names a command, the others are its arguments. The database is a store that lives as
long as the command: a blank one for those that create its tables, one with tables for the one that
fills them.
-/

namespace FundsLedger

open Config (Assignment Environment Piece)

def mentioned (assignments : List Assignment) : List String :=
  assignments.flatMap fun a =>
    String.ofList a.key :: a.value.filterMap fun
      | .reference name => some (String.ofList name)
      | .char _ => none

/-- The variables that matter to a command, besides those that a file mentions. -/
def ownVariables : List String :=
  [Config.urlVariable, Config.connectionsVariable, Config.timeoutVariable, Config.loggingVariable,
    Command.LogFilter.variableName]

/-- The environment of the process, as far as it matters. -/
def readEnvironment (file : Option String) : IO Environment := do
  let names := ownVariables ++ mentioned (file.elim [] Config.assignments)
  let values ← names.eraseDups.mapM fun name => do return (name, ← IO.getEnv name)
  return ⟨values⟩

def readAssignments : IO (Option String) := do
  try return some (← IO.FS.readFile ".env") catch _ => return none

def commandNamed (name : String) (seed : UInt64) : Option ((Surroundings → Command) × Store) :=
  match name with
  | "setup" => some (Command.setup, .blank)
  | "seed" => some (Command.seed (Command.randomNumber seed), .provided)
  | "migrate" => some (Command.migrate, .blank)
  | _ => none

def usage : String := "Usage: funds-ledger setup|seed|migrate"

def runNamed (name : String) (arguments : List String) : IO UInt32 := do
  let seed ← IO.rand 0 (Nat.pow 2 64 - 1)
  match commandNamed name seed.toUInt64 with
  | none =>
    IO.eprintln usage
    return 1
  | some (command, store) =>
    let file ← readAssignments
    let environment ← readEnvironment file
    let session : Session := { store, clock := 0 }
    let surroundings : Surroundings := { name, arguments, environment, file }
    let finished := (command surroundings).run (Session.connection {}) session
    IO.print finished.output
    IO.eprint finished.errors
    return finished.exitCode.toUInt32

end FundsLedger

def main (args : List String) : IO UInt32 :=
  match args with
  | [] => do
    IO.eprintln FundsLedger.usage
    return 1
  | name :: arguments => FundsLedger.runNamed name arguments
