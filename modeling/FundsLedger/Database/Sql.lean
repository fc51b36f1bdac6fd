import FundsLedger.Database.Statement

/-!
# Statements as SQL

The text of each statement and the values bound to its parameters.
-/

namespace FundsLedger.Database

inductive Param where
  | uuid (id : Uuid)
  | text (s : String)
  | integer (n : Int)
  /-- The time of the statement. -/
  | now

/-- A statement as it is sent. Statements without a parameter list are sent as plain text. -/
structure Sql where
  text : String
  params : Option (List Param)

def ident (name : String) : String := s!"\"{name}\""

def column (table name : String) : String := ident table ++ "." ++ ident name

def commaSeparated (items : List String) : String := ", ".intercalate items

/-- A status column is read as text. -/
def asText (expression : String) : String := s!"CAST({expression} AS \"text\")"

/-- A text is stored as a status. -/
def asStatus (expression : String) : String := s!"CAST({expression} AS {ident statusType})"

def Table.columns : Table → List String
  | .users => ["id", "created_at"]
  | .currencies => ["id", "code", "minor_unit_digits", "created_at"]
  | .ledger _ => ["id", "user_id", "currency_id", "amount", "status", "created_at", "updated_at"]

/-- The columns of a table as they are read, each under the given spelling. -/
def Table.selected (t : Table) (spell : String → String) : String :=
  commaSeparated <| t.columns.map fun name =>
    if name = "status" then asText (spell name) else spell name

def Table.selection (t : Table) : String := t.selected (column t.name)

def Table.returning (t : Table) : String := "RETURNING " ++ t.selected ident

def Table.insertion (t : Table) (columns values : List String) : String :=
  s!"INSERT INTO {ident t.name} ({commaSeparated (columns.map ident)}) " ++
    s!"VALUES ({commaSeparated values}) {t.returning}"

def idColumn : String := "\"id\" uuid NOT NULL PRIMARY KEY DEFAULT gen_random_uuid()"

def timeColumn (name : String) : String :=
  s!"{ident name} timestamp with time zone NOT NULL DEFAULT CURRENT_TIMESTAMP"

/-- The constraint that a column of a ledger table references a row that is there. -/
def reference (d : Direction) (p : Parent) : String :=
  s!"CONSTRAINT \"fk_{d.table}_{p.column}\" FOREIGN KEY ({ident p.column}) " ++
    s!"REFERENCES {ident p.table.name} (\"id\") ON DELETE RESTRICT ON UPDATE RESTRICT"

def Table.definitions : Table → List String
  | .users => [idColumn, timeColumn "created_at"]
  | .currencies =>
    [idColumn, "\"code\" varchar(16) NOT NULL UNIQUE",
      "\"minor_unit_digits\" smallint NOT NULL DEFAULT 2", timeColumn "created_at"]
  | .ledger d =>
    [idColumn, "\"user_id\" uuid NOT NULL", "\"currency_id\" uuid NOT NULL",
      "\"amount\" bigint NOT NULL CHECK (\"amount\" > 0)",
      s!"\"status\" {statusType} NOT NULL DEFAULT '{Status.initial.name}'",
      timeColumn "created_at", timeColumn "updated_at", reference d .user, reference d .currency]

/-- The text that creates a table unless it is there. -/
def creation (name : String) (definitions : List String) : String :=
  s!"CREATE TABLE IF NOT EXISTS {ident name} ( {commaSeparated definitions} )"

namespace Statement

def sql : Statement → Sql
  | insertUser id => ⟨Table.users.insertion ["id"] ["$1"], some [.uuid id]⟩
  | insertCurrency id code digits =>
    ⟨Table.currencies.insertion ["id", "code", "minor_unit_digits"] ["$1", "$2", "$3"],
      some [.uuid id, .text code, .integer digits.toInt]⟩
  | insertPosting d id e =>
    let columns := ["id", "user_id", "currency_id", "amount"]
    let values := ["$1", "$2", "$3", "$4"]
    let params := [.uuid id, .uuid e.userId, .uuid e.currencyId, .integer e.amount.toInt]
    match e.status with
    | none => ⟨(Table.ledger d).insertion columns values, some params⟩
    | some status =>
      ⟨(Table.ledger d).insertion (columns ++ ["status"]) (values ++ [asStatus "$5"]),
        some (params ++ [.text status.name])⟩
  | selectById t id =>
    let idColumn := column t.name "id"
    ⟨s!"SELECT {t.selection} FROM {ident t.name} WHERE {idColumn} = $1 LIMIT $2",
      some [.uuid id, .integer 1]⟩
  | selectByUser d user =>
    let t := Table.ledger d
    let userColumn := column t.name "user_id"
    let timeColumn := column t.name "created_at"
    ⟨s!"SELECT {t.selection} FROM {ident t.name} WHERE {userColumn} = $1 " ++
        s!"ORDER BY {timeColumn} DESC",
      some [.uuid user]⟩
  | selectPostingsOf p d id =>
    let t := Table.ledger d
    let parent := p.table.name
    let parentId := column parent "id"
    ⟨s!"SELECT {t.selection} FROM {ident t.name} INNER JOIN {ident parent} " ++
        s!"ON {parentId} = {column t.name p.column} WHERE {parentId} = $1",
      some [.uuid id]⟩
  | selectParentOf d p id =>
    let parent := p.table.name
    let parentId := column parent "id"
    let rowId := column d.table "id"
    ⟨s!"SELECT {p.table.selection} FROM {ident parent} INNER JOIN {ident d.table} " ++
        s!"ON {column d.table p.column} = {parentId} WHERE {rowId} = $1",
      some [.uuid id]⟩
  | updateStatus d id expected next =>
    let rowId := column d.table "id"
    let rowStatus := column d.table "status"
    let wanted := asStatus "$1"
    let held := asStatus "$3"
    ⟨s!"UPDATE {ident d.table} SET \"status\" = {wanted}, \"updated_at\" = CURRENT_TIMESTAMP " ++
        s!"WHERE {rowId} = $2 AND {rowStatus} = ({held})",
      some [.text next.name, .uuid id, .text expected.name]⟩
  | tableFound name => ⟨"SELECT to_regclass($1::text) IS NOT NULL AS found", some [.text name]⟩
  | tableOwned name comment =>
    ⟨"SELECT COALESCE(obj_description(to_regclass($1::text), 'pg_class') = $2::text, false) AS owned",
      some [.text name, .text comment]⟩
  | statusTypeFound =>
    ⟨"SELECT 1 FROM pg_type t JOIN pg_namespace n ON n.oid = t.typnamespace " ++
        "WHERE t.typname = $1 AND t.typtype = 'e' AND n.nspname = current_schema()",
      some [.text statusType]⟩
  | createStatusType =>
    let names := commaSeparated (Status.all.map fun s => s!"'{s.name}'")
    ⟨s!"CREATE TYPE {ident statusType} AS ENUM ({names})", none⟩
  | createTable t => ⟨creation t.name t.definitions, none⟩
  | commentOnTable t comment => ⟨s!"COMMENT ON TABLE {ident t.name} IS '{comment}'", none⟩
  | createIndex i =>
    ⟨s!"CREATE INDEX IF NOT EXISTS {ident i.name} ON {ident i.direction.table} " ++
        s!"({ident i.parent.column})", none⟩
  | dropTable t => ⟨s!"DROP TABLE IF EXISTS {ident t.name}", none⟩
  | dropStatusType => ⟨s!"DROP TYPE IF EXISTS {ident statusType}", none⟩
  | createHistory =>
    ⟨creation historyTable
      ["\"version\" varchar NOT NULL PRIMARY KEY", "\"applied_at\" bigint NOT NULL"], none⟩
  | selectHistory =>
    ⟨s!"SELECT \"version\", \"applied_at\" FROM {ident historyTable} ORDER BY \"version\" ASC",
      some []⟩
  | insertHistory version =>
    ⟨s!"INSERT INTO {ident historyTable} (\"version\", \"applied_at\") VALUES ($1, $2) " ++
        "RETURNING \"version\"", some [.text version, .now]⟩
  | deleteHistory version =>
    ⟨s!"DELETE FROM {ident historyTable} WHERE \"version\" = $1", some [.text version]⟩

end Statement

end FundsLedger.Database
