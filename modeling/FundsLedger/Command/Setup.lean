import FundsLedger.Command.Basic
import FundsLedger.Command.LogFilter
import FundsLedger.Migration.History

/-!
# Setting up the database

The command applies what is pending and then lists what is applied, in the log. That the schema is
up to date is the last thing it says, after both went well.
-/

namespace FundsLedger.Command

open Database (Level Note Program)

def ledgerTarget : String := "wallet_ledger"

def migratorTarget : String := "sea_orm_migration::migrator"

def statementTarget : String := "sqlx::query"

def logLine (filter : LogFilter) (target : String) (level : Level) (message : String) :
    Option String :=
  if filter.shows target level then some s!"{level.name} {target}: {message}" else none

def logged (filter : LogFilter) : Note → Option String
  | .log level message => logLine filter ledgerTarget level message
  | .progress message => logLine filter migratorTarget .info message
  | .line text => some text
  | .statement message => logLine filter statementTarget .info message

def listApplied : List Migration → Program CommandError Unit
  | [] => .done ()
  | m :: rest => do
    Program.log .info s!"Applied migration {m.name}"
    listApplied rest

/-- Brings the schema up to date, once connected. -/
def bringUpToDate : Program CommandError Unit := do
  Program.log .info "Running migrations..."
  (Migration.upTo none).mapError .database
  listApplied (← Migration.applied.mapError .database)
  Program.log .info "Ledger schema is up to date"

/-- The command that sets up the database. It takes no notice of its arguments. -/
def setup (s : Surroundings) : Command where
  program := do
    let settings ← settings s
    Program.log .info "Connecting to database..."
    connect s settings
    overConnection s settings bringUpToDate
    return none
  shown := logged (.ofEnvironment s.environment)
  complaint := inFull

end FundsLedger.Command
