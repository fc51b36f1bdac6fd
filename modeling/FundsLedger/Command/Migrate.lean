import FundsLedger.Command.Basic
import FundsLedger.Command.Words
import FundsLedger.Migration.Task
import FundsLedger.Text.Decimal

/-!
# Migrating by hand

The command does one task with the migrations and shows its progress. Of the configuration it needs
the address of the database alone. The task is a word of the command line, and no such word asks to
apply everything; going down without a number takes one step.
-/

namespace FundsLedger.Command

open Database (Program)
open Migration (Task)

inductive MigrateOption where
  /-- How many migrations are applied or rolled back. -/
  | steps
  /-- The schema in which unqualified names are looked for. -/
  | schema
deriving DecidableEq, Repr

def MigrateOption.names : MigrateOption → List String
  | steps => ["-n", "--num"]
  | schema => ["-s", "--database-schema"]

def optionOf? (allowed : List MigrateOption) (name : List Char) : Option MigrateOption :=
  allowed.find? (·.names.contains (String.ofList name))

/-- The largest number of steps that can be asked for. -/
def stepLimit : Nat := Nat.pow 2 32 - 1

/-- The number of steps that a text denotes. A zero may have either sign. -/
def readSteps (s : List Char) : Option Nat :=
  match s with
  | '-' :: digits =>
    if digits.head? = some '+' then none else (Text.readCount? digits).filter (· = 0)
  | s => (Text.readCount? s).filter (· ≤ stepLimit)

def optionsOf (task : String) : List MigrateOption :=
  if task ∈ ["up", "down"] then [.steps, .schema] else [.schema]

def taskOf? (name : String) (steps : Option Nat) : Option Task :=
  match name with
  | "up" => some (.up steps)
  | "down" => some (.down (steps.getD 1))
  | "reset" => some .reset
  | "refresh" => some .refresh
  | "status" => some .status
  | _ => none

def taskOfLine? (line : List Word) : Option Task := do
  let (_, line) ← readOptionsOnce (optionOf? [.schema]) line
  match line with
  | [] => some (.up none)
  | .plain name :: line =>
    let name := String.ofList name
    let (given, line) ← readOptionsOnce (optionOf? (optionsOf name)) line
    if !line.isEmpty then none
    let steps ← (given.lookup .steps).mapM readSteps
    taskOf? name steps
  | _ => none

def databaseUrl (s : Surroundings) : Program CommandError String :=
  match s.environment.load s.file with
  | none => .fail (.crash s.crashReport)
  | some loaded =>
    match loaded.value? Config.urlVariable with
    | some url => .done url
    | none => .fail (.config (.missing Config.urlVariable))

/-- Connects to the database at an address, with settings of its own for the rest. -/
def connectTo (s : Surroundings) (url : String) : Program CommandError Unit :=
  .ofExcept ((Config.connect url s.greeting).mapError .database)

def migrate (s : Surroundings) : Command where
  program :=
    match taskOfLine? (words s.arguments) with
    | none => .fail (.usage s!"Usage: {s.name} [up|down [-n <NUM>]|reset|refresh|status]")
    | some task => do
      connectTo s (← databaseUrl s)
      task.program.mapError .database
      return none
  shown
    | .progress message => some message
    | _ => none
  complaint := CommandError.message

end FundsLedger.Command
