import FundsLedger.Command.Detail
import FundsLedger.Config.Endpoint
import FundsLedger.Database.Program

/-!
# Commands

A command is a program together with what it shows: which notes go to its output, and what it writes
at its end, where it went well and where it did not. A command that fails keeps the output it had
until then.
-/

namespace FundsLedger

open Config (ConfigError Environment Opening Settings)
open Database (Connection Failure Note Passage Program Sent)

/-- Why a command ends early. -/
inductive CommandError where
  /-- The words of the command line ask for nothing that the command does. -/
  | usage (text : String)
  | config (error : ConfigError)
  | database (failure : Failure)
  | ledger (error : LedgerError)
  /-- The process is stopped. -/
  | crash (report : String)
deriving DecidableEq

def CommandError.detail : CommandError → String
  | usage text => text
  | config error => error.detail
  | database failure => failure.detail
  | ledger error => error.detail
  | crash report => report

def CommandError.message : CommandError → String
  | usage text => text
  | config error => error.message
  | database failure => failure.message
  | ledger error => error.message
  | crash report => report

def CommandError.exitCode : CommandError → Nat
  | crash _ => 101
  | _ => 1

structure Surroundings where
  /-- The name under which the command was called. -/
  name : String
  arguments : List String
  environment : Environment
  /-- The file of assignments in the working directory, if there is one. -/
  file : Option String := none
  /-- How the server at the address of the database answers those who connect. -/
  greeting : Except Failure Unit := .ok ()
  /-- How the driver opens a pool of connections. -/
  pool : Settings → Opening := Opening.ofGreeting greeting
  /-- What the driver tells of all that passes, where it is asked to. -/
  messages : Nat → Passage → List String := fun _ _ => []
  /-- What is written when the process is stopped. -/
  crashReport : String := ""

/-- A program, and how what it says and its end are shown. -/
structure Command where
  /-- The result is a closing line, if there is one. -/
  program : Program CommandError (Option String)
  /-- The line of output that a note gives. -/
  shown : Note → Option String
  /-- The line that tells an error. -/
  complaint : CommandError → String

/-- What is left of a command that has ended. -/
structure Finished (σ : Type) where
  exitCode : Nat
  output : String
  errors : String
  state : σ
  sent : List Sent

namespace Command

def lines (texts : List String) : String :=
  String.join (texts.map (· ++ "\n"))

def run {σ : Type} (command : Command) (c : Connection σ) (state : σ) : Finished σ :=
  let outcome := command.program.run c state
  let output := lines (outcome.notes.filterMap command.shown)
  match outcome.result with
  | .ok closing => ⟨0, output, lines closing.toList, outcome.state, outcome.sent⟩
  | .error e => ⟨e.exitCode, output, lines [command.complaint e], outcome.state, outcome.sent⟩

def settings (s : Surroundings) : Program CommandError Settings :=
  match Settings.load s.environment s.file with
  | some settings => .ofExcept (settings.mapError .config)
  | none => .fail (.crash s.crashReport)

/-- Opens a pool of connections with all the settings. -/
def connect (s : Surroundings) (settings : Settings) : Program CommandError Unit :=
  match settings.connect s.pool with
  | .opened => .done ()
  | .refused failure => .fail (.database failure)
  | .crashed => .fail (.crash s.crashReport)

/-- A program as it runs over a connection that was opened with the settings. -/
def overConnection {α : Type} (s : Surroundings) (settings : Settings)
    (p : Program CommandError α) : Program CommandError α :=
  if settings.sqlLogging then p.overheard s.messages 0 else p

/-- How errors are told in full: everything but a line on how to call the command, and what is not
its own, has a heading. -/
def inFull : CommandError → String
  | .usage text => text
  | .crash report => report
  | e => "Error: " ++ e.detail

end Command

end FundsLedger
