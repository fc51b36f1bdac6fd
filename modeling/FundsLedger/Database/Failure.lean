/-!
# What a database reports when it fails

A failure names its cause. Those that come from the server or from the way to it also say through
which channel the statement went.
-/

namespace FundsLedger.Database

/-- How a statement was on its way when it failed. -/
inductive Channel where
  /-- A statement that asks for rows. -/
  | query
  /-- A statement that only acts. -/
  | execution
  /-- The connection itself. -/
  | connection
deriving DecidableEq, Repr

def Channel.heading : Channel → String
  | .query => "Query Error: "
  | .execution => "Execution Error: "
  | .connection => "Connection Error: "

inductive LinkFault where
  | noRow
  | poolTimedOut
  | poolClosed
  | workerCrashed
  | protocol (text : String)
  | columnNotFound (text : String)
deriving DecidableEq, Repr

def LinkFault.message : LinkFault → String
  | .noRow => "no rows returned by a query that expected to return at least one row"
  | .poolTimedOut => "pool timed out while waiting for an open connection"
  | .poolClosed => "attempted to acquire a connection on a closed pool"
  | .workerCrashed => "attempted to communicate with a crashed background worker"
  | .protocol text => "encountered unexpected or invalid data: " ++ text
  | .columnNotFound text => "no column found for name: " ++ text

/-- Why the database did not do as it was asked. -/
inductive Failure where
  /-- The server refused a statement, with a code of five characters. -/
  | server (channel : Channel) (code message : String)
  /-- The statement or its answer got lost. -/
  | link (channel : Channel) (fault : LinkFault)
  | internal (channel : Channel) (text : String)
  /-- A column of an answer is null, missing or of another type. -/
  | nullColumn (column : String)
  /-- A stored status has a name that no status has. -/
  | unknownStatus (name : String)
  /-- An insert returned no row. -/
  | notReturned
  /-- An insert that returns nothing affected no row. -/
  | nothingInserted
  /-- Migrations are recorded that nobody knows. -/
  | unknownMigrations (versions : List String)
  | nothingUpdated
  | noInsertedId
  | noPrimaryKey
  | acquireTimedOut
  | acquireClosed
  | custom (text : String)
  | badType (text : String)
  | badJson (text : String)
  | badMigration (text : String)
  | recordNotFound (text : String)
  | attributeNotSet (text : String)
deriving DecidableEq, Repr

namespace Failure

/-- What is wrong with a column that holds no value of the wanted type. -/
def nullColumnText (column : String) : String :=
  s!"A null value was encountered while decoding \"{column}\""

def unknownStatusText (name : String) : String :=
  s!"unexpected value for TransactionStatus enum: {name}"

def notReturnedText : String := "Failed to find inserted item"

def unknownMigrationsText (versions : List String) : String :=
  "\n".intercalate <| versions.map fun version =>
    s!"Migration file of version '{version}' is missing, " ++
      "this migration has been applied but its file is missing"

def message : Failure → String
  | server channel _ message => channel.heading ++ "error returned from database: " ++ message
  | link channel fault => channel.heading ++ fault.message
  | internal channel text => channel.heading ++ text
  | nullColumn column => "Type Error: " ++ nullColumnText column
  | unknownStatus name => "Type Error: " ++ unknownStatusText name
  | notReturned => "RecordNotFound Error: " ++ notReturnedText
  | nothingInserted => "None of the records are inserted"
  | unknownMigrations versions => "Custom Error: " ++ unknownMigrationsText versions
  | nothingUpdated => "None of the records are updated"
  | noInsertedId => "Failed to unpack last_insert_id"
  | noPrimaryKey => "Failed to get primary key from model"
  | acquireTimedOut => "Failed to acquire connection from pool: Connection pool timed out"
  | acquireClosed => "Failed to acquire connection from pool: Connection closed"
  | custom text => "Custom Error: " ++ text
  | badType text => "Type Error: " ++ text
  | badJson text => "Json Error: " ++ text
  | badMigration text => "Migration Error: " ++ text
  | recordNotFound text => "RecordNotFound Error: " ++ text
  | attributeNotSet text => s!"Attribute {text} is NotSet"

/-- The code with which a server refuses a row that references a missing one. -/
def foreignKeyViolation : String := "23503"

/-- The server's message, where a statement was refused because of a missing reference. A
connection error is never taken for one. -/
def missingReference? : Failure → Option String
  | server .query code message => if code = foreignKeyViolation then some message else none
  | server .execution code message => if code = foreignKeyViolation then some message else none
  | _ => none

end Failure

end FundsLedger.Database
