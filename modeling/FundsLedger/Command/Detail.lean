import FundsLedger.Config.Settings
import FundsLedger.Ledger.Error

/-!
# Errors in full

What a command shows of the error it ends with: the cause with all that is known of it. Texts stand
in quotes.
-/

namespace FundsLedger

open Text (quoted)

def withFields (name : String) (fields : List (String × String)) : String :=
  let field (f : String × String) : String := f.1 ++ ": " ++ f.2
  name ++ " \x7b " ++ ", ".intercalate (fields.map field) ++ " \x7d"

namespace Database

/-- What the channel puts around its failures. -/
def Channel.word : Channel → String
  | .query => "Query"
  | .execution => "Exec"
  | .connection => "Conn"

def LinkFault.detail : LinkFault → String
  | .noRow => "RowNotFound"
  | .poolTimedOut => "PoolTimedOut"
  | .poolClosed => "PoolClosed"
  | .workerCrashed => "WorkerCrashed"
  | .protocol text => s!"Protocol({quoted text})"
  | .columnNotFound text => s!"ColumnNotFound({quoted text})"

/-- What a server may tell of a refusal besides its code and its message. -/
def refusalExtras : List String :=
  ["detail", "hint", "position", "where", "schema", "table", "column", "data_type", "constraint",
    "file", "line", "routine"]

def refusalDetail (code message : String) : String :=
  withFields "PgDatabaseError" <|
    [("severity", "Error"), ("code", quoted code), ("message", quoted message)] ++
      refusalExtras.map fun name => (name, "None")

def Failure.detail : Failure → String
  | server channel code message =>
    s!"{channel.word}(SqlxError(Database({refusalDetail code message})))"
  | link channel fault => s!"{channel.word}(SqlxError({fault.detail}))"
  | internal channel text => s!"{channel.word}(Internal({quoted text}))"
  | nullColumn column => s!"Type({quoted (nullColumnText column)})"
  | unknownStatus name => s!"Type({quoted (unknownStatusText name)})"
  | notReturned => s!"RecordNotFound({quoted notReturnedText})"
  | nothingInserted => "RecordNotInserted"
  | unknownMigrations versions => s!"Custom({quoted (unknownMigrationsText versions)})"
  | nothingUpdated => "RecordNotUpdated"
  | noInsertedId => "UnpackInsertId"
  | noPrimaryKey => "UpdateGetPrimaryKey"
  | acquireTimedOut => "ConnectionAcquire(Timeout)"
  | acquireClosed => "ConnectionAcquire(ConnectionClosed)"
  | custom text => s!"Custom({quoted text})"
  | badType text => s!"Type({quoted text})"
  | badJson text => s!"Json({quoted text})"
  | badMigration text => s!"Migration({quoted text})"
  | recordNotFound text => s!"RecordNotFound({quoted text})"
  | attributeNotSet text => s!"AttrNotSet({quoted text})"

end Database

def LedgerError.detail : LedgerError → String
  | nonPositiveAmount amount => s!"NonPositiveAmount({amount})"
  | notFound direction id =>
    withFields "NotFound" [("direction", direction.label), ("id", toString id)]
  | unknownReference message => s!"UnknownReference({quoted message})"
  | invalidMove current next =>
    withFields "InvalidTransition" [("from", current.label), ("to", next.label)]
  | statusConflict direction id expected =>
    withFields "StatusConflict"
      [("direction", direction.label), ("id", toString id), ("expected", expected.label)]
  | database failure => s!"Database({failure.detail})"

def Config.ConfigError.detail : Config.ConfigError → String
  | .missing name => s!"Missing({quoted name})"
  | .invalid name value =>
    withFields "Invalid" [("name", quoted name), ("value", quoted value)]

end FundsLedger
