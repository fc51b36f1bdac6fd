import FundsLedger.Address.Url
import FundsLedger.Config.Settings
import FundsLedger.Database.Failure

/-!
# Reaching the database

The address of the database is checked before anybody is asked: it has to be an absolute URL, and of
a scheme that there is a driver for. After that the server may still refuse. Connections are kept in
a pool, which is opened with the settings as they are; how that goes is for the driver to say.
-/

namespace FundsLedger.Config

open Database (Failure)

/-- The schemes that there is a driver for. -/
def databaseSchemes : List String :=
  ["postgres", "postgresql"]

def checkUrl (url : String) : Except Failure Unit :=
  match Address.scheme? url with
  | none => .error (.internal .connection s!"The connection string '{url}' cannot be parsed.")
  | some scheme =>
    if scheme ∈ databaseSchemes then .ok ()
    else .error (.internal .connection s!"The connection string '{url}' has no supporting driver.")

/-- Connects to a database, where `greeting` is how its server answers. -/
def connect (url : String) (greeting : Except Failure Unit) : Except Failure Unit :=
  match checkUrl url with
  | .ok () => greeting
  | .error failure => .error failure

inductive Opening where
  | opened
  | refused (failure : Failure)
  /-- The process is stopped. -/
  | crashed
deriving DecidableEq

/-- How many seconds the clock of a process counts at most. -/
def clockLimit : Nat := Nat.pow 2 63 - 1

/-- What comes of opening a pool at a server that greets. There is no pool without room for one
connection, none is waited for beyond the end of the clock, and none is ready at once. -/
def Opening.ofGreeting (greeting : Except Failure Unit) (s : Settings) : Opening :=
  if s.maxConnections = 0 ∨ clockLimit < s.connectTimeoutSecs then .crashed
  else if s.connectTimeoutSecs = 0 then .refused (.link .connection .poolTimedOut)
  else
    match greeting with
    | .ok () => .opened
    | .error failure => .refused failure

def Settings.connect (s : Settings) (pool : Settings → Opening) : Opening :=
  match checkUrl s.databaseUrl with
  | .ok () => pool s
  | .error failure => .refused failure

end FundsLedger.Config
