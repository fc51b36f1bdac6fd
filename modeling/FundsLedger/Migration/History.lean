import FundsLedger.Migration.Steps

/-!
# Applying and rolling back

Which migrations are applied is recorded in a table of its own. A command runs in one transaction:
what is pending is applied in order, what is applied is rolled back in reverse, and the record is
changed after each migration.
-/

namespace FundsLedger.Migration

open Database (Failure Program Row Statement)

/-- Provides the table of applied migrations as many times as it is asked for. -/
def provideHistory (times : Nat) : Program Failure Unit :=
  actAll (List.replicate times .createHistory)

def versionOf (row : Row) : Except Failure String := do
  let version ← row.text "version"
  let _ ← row.big "applied_at"
  return version

/-- The versions that no migration has, each of them once. -/
def unknownVersions (versions : List String) : List String :=
  (versions.filter fun version => !all.any (·.name == version)).eraseDups

/-- The migrations, each with whether it is applied. Versions that no migration has are refused. -/
def standing : Program Failure (List (Migration × Bool)) := do
  provideHistory 2
  let versions ← Statement.selectHistory.every versionOf
  match unknownVersions versions with
  | [] => return all.map fun m => (m, versions.contains m.name)
  | unknown => .fail (.unknownMigrations unknown)

def applied : Program Failure (List Migration) := do
  provideHistory 1
  return (← standing).filterMap fun (m, isApplied) => if isApplied then some m else none

def pending : Program Failure (List Migration) := do
  provideHistory 1
  return (← standing).filterMap fun (m, isApplied) => if isApplied then none else some m

def limited (steps : Option Nat) (migrations : List Migration) : List Migration :=
  match steps with
  | none => migrations
  | some n => migrations.take n

/-- Applies migrations and records each of them. -/
def applyAll : List Migration → Program Failure Unit
  | [] => .done ()
  | m :: rest => do
    Program.report s!"Applying migration '{m.name}'"
    m.up
    Program.report s!"Migration '{m.name}' has been applied"
    let inserted ← (Statement.insertHistory m.name).act
    if inserted = 0 then .fail .nothingInserted
    applyAll rest

/-- Rolls migrations back and strikes each of them from the record. -/
def rollBackAll : List Migration → Program Failure Unit
  | [] => .done ()
  | m :: rest => do
    Program.report s!"Rolling back migration '{m.name}'"
    m.down
    Program.report s!"Migration '{m.name}' has been rollbacked"
    let _ ← (Statement.deleteHistory m.name).act
    rollBackAll rest

/-- Applies what is pending, within a transaction that is open. -/
def applyPending (steps : Option Nat) : Program Failure Unit := do
  provideHistory 1
  match steps with
  | some n => Program.report s!"Applying {n} pending migrations"
  | none => Program.report "Applying all pending migrations"
  let migrations ← pending
  if migrations.isEmpty then Program.report "No pending migrations"
  applyAll (limited steps migrations)

/-- Rolls back what is applied, the last migration first, within a transaction that is open. -/
def rollBackApplied (steps : Option Nat) : Program Failure Unit := do
  provideHistory 1
  match steps with
  | some n => Program.report s!"Rolling back {n} applied migrations"
  | none => Program.report "Rolling back all applied migrations"
  let migrations ← applied
  if migrations.isEmpty then Program.report "No applied migrations"
  rollBackAll (limited steps migrations.reverse)

def upTo (steps : Option Nat) : Program Failure Unit :=
  (applyPending steps).inTransaction

def downTo (steps : Option Nat) : Program Failure Unit :=
  (rollBackApplied steps).inTransaction

def reset : Program Failure Unit := downTo none

/-- Rolls back every migration and applies them all again, in one transaction. -/
def refresh : Program Failure Unit :=
  Program.inTransaction do
    rollBackApplied none
    applyPending none

def status : Program Failure Unit := do
  provideHistory 1
  Program.report "Checking migration status"
  tell (← standing)
where
  tell : List (Migration × Bool) → Program Failure Unit
    | [] => .done ()
    | (m, isApplied) :: rest => do
      let word := if isApplied then "Applied" else "Pending"
      Program.report s!"Migration '{m.name}'... {word}"
      tell rest

end FundsLedger.Migration
