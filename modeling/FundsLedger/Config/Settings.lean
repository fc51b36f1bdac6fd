import FundsLedger.Config.Environment
import FundsLedger.Text.Decimal
import FundsLedger.Text.Quoted

/-!
# Settings

The address of the database has to be given. How many connections there may be, how long connecting
may take and whether statements are logged have defaults.
-/

namespace FundsLedger.Config

inductive ConfigError where
  | missing (name : String)
  | invalid (name value : String)
deriving DecidableEq, Repr

def ConfigError.message : ConfigError → String
  | .missing name => s!"{name} must be set"
  | .invalid name value => s!"{name} has an invalid value {Text.quoted value}"

/-- How to reach the database. -/
structure Settings where
  databaseUrl : String
  maxConnections : Nat
  connectTimeoutSecs : Nat
  sqlLogging : Bool
deriving DecidableEq, Repr

def urlVariable : String := "DATABASE_URL"

def connectionsVariable : String := "DB_MAX_CONNECTIONS"

def timeoutVariable : String := "DB_CONNECT_TIMEOUT_SECS"

def loggingVariable : String := "DB_SQL_LOGGING"

def maxConnectionsLimit : Nat := Nat.pow 2 32 - 1

def timeoutLimit : Nat := Nat.pow 2 64 - 1

/-- The number that a trimmed text denotes, up to a limit. -/
def countUpTo (limit : Nat) (s : List Char) : Option Nat :=
  (Text.readCount? s).filter (· ≤ limit)

def flag? (s : List Char) : Option Bool :=
  if s = "true".toList then some true
  else if s = "false".toList then some false
  else none

/-- The value of a variable, read with `parse` after trimming, or a default where it is absent. -/
def readOr {α : Type} (lookup : String → Option String) (name : String)
    (parse : List Char → Option α) (default : α) : Except ConfigError α :=
  match lookup name with
  | none => .ok default
  | some value =>
    match parse (Text.trim value.toList) with
    | some a => .ok a
    | none => .error (.invalid name value)

namespace Settings

/-- The settings that a lookup of variables gives. The first variable that is wrong, in this order,
decides the error. -/
def ofLookup (lookup : String → Option String) : Except ConfigError Settings := do
  let databaseUrl ← match lookup urlVariable with
    | some url => .ok url
    | none => .error (.missing urlVariable)
  let maxConnections ← readOr lookup connectionsVariable (countUpTo maxConnectionsLimit) 10
  let connectTimeoutSecs ← readOr lookup timeoutVariable (countUpTo timeoutLimit) 8
  let sqlLogging ← readOr lookup loggingVariable flag? false
  return { databaseUrl, maxConnections, connectTimeoutSecs, sqlLogging }

/-- The settings that an environment gives together with a file of assignments. -/
def ofEnvironment (env : Environment) (file : Option String) : Except ConfigError Settings :=
  ofLookup (env.merged file)

/-- The settings of a process that loads a file of assignments into its environment first, unless it
is stopped over that. -/
def load (env : Environment) (file : Option String) : Option (Except ConfigError Settings) :=
  (env.load file).map fun loaded => ofLookup loaded.value?

end Settings

end FundsLedger.Config
