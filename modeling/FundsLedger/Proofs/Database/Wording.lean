import FundsLedger.Database.Sql
import Mathlib.Data.List.Infix

/-!
# The wording of statements

What the ledger asks of the table of a direction is worded in SQL in one of five ways. None of them
names the table of the other direction or deletes anything, and only one is an update. The main
statements are `Concerns.words` and `Concerns.update_of_mentions`.
-/

namespace FundsLedger.Database

/-- Whether a text occurs in a statement as it is sent. -/
def Sql.Mentions (sql : Sql) (text : String) : Prop :=
  text.toList <:+: sql.text.toList

instance (sql : Sql) (text : String) : Decidable (sql.Mentions text) :=
  inferInstanceAs (Decidable (_ <:+: _))

/-- The statement names the table of a direction and none of the given words. -/
def Sql.KeepsTo (sql : Sql) (d : Direction) (words : List String) : Prop :=
  sql.Mentions d.table ∧ ∀ word ∈ words, ¬ sql.Mentions word

theorem Sql.KeepsTo.subset {sql : Sql} {d : Direction} {words words' : List String}
    (h : sql.KeepsTo d words) (sub : words' ⊆ words) : sql.KeepsTo d words' :=
  ⟨h.1, fun word hword => h.2 word (sub hword)⟩

/-- What the ledger asks of the table of a direction. -/
inductive Statement.Concerns (d : Direction) : Statement → Prop
  | insert (id : Uuid) (e : NewEntry) : Concerns d (.insertPosting d id e)
  | look (id : Uuid) : Concerns d (.selectById (.ledger d) id)
  | list (user : Uuid) : Concerns d (.selectByUser d user)
  | update (id : Uuid) (expected next : Status) : Concerns d (.updateStatus d id expected next)

/-! ### The letters of a statement -/

theorem toList_ident (name : String) : (ident name).toList = '"' :: name.toList ++ ['"'] := by
  simp [ident, toString]

theorem toList_column (table name : String) :
    (column table name).toList = (ident table).toList ++ '.' :: (ident name).toList := by
  simp [column]

theorem toList_asText (expression : String) :
    (asText expression).toList = "CAST(".toList ++ expression.toList ++ " AS \"text\")".toList := by
  simp [asText, toString]

theorem toList_asStatus (expression : String) :
    (asStatus expression).toList =
      "CAST(".toList ++ expression.toList ++ " AS ".toList ++ (ident statusType).toList ++ [')'] := by
  simp [asStatus, toString]

theorem toList_commaSeparated (items : List String) :
    (commaSeparated items).toList = [',', ' '].intercalate (items.map String.toList) := by
  simp [commaSeparated]

namespace Statement

variable {d : Direction} {id : Uuid} {e : NewEntry} {s : Statement}

theorem selected_ledger (d : Direction) (spell : String → String) :
    (Table.ledger d).selected spell =
      commaSeparated [spell "id", spell "user_id", spell "currency_id", spell "amount",
        asText (spell "status"), spell "created_at", spell "updated_at"] := by
  simp [Table.selected, Table.columns]

theorem text_selectById (d : Direction) (id : Uuid) :
    (selectById (.ledger d) id).sql.text =
      "SELECT " ++ (Table.ledger d).selected (column d.table) ++ " FROM " ++ ident d.table ++
        " WHERE " ++ column d.table "id" ++ " = $1 LIMIT $2" := rfl

theorem text_selectByUser (d : Direction) (user : Uuid) :
    (selectByUser d user).sql.text =
      "SELECT " ++ (Table.ledger d).selected (column d.table) ++ " FROM " ++ ident d.table ++
        " WHERE " ++ column d.table "user_id" ++ " = $1 " ++
        ("ORDER BY " ++ column d.table "created_at" ++ " DESC") := rfl

theorem text_insertion (d : Direction) (columns values : List String) :
    (Table.ledger d).insertion columns values =
      "INSERT INTO " ++ ident d.table ++ " (" ++ commaSeparated (columns.map ident) ++ ") " ++
        ("VALUES (" ++ commaSeparated values ++ ") " ++
          ("RETURNING " ++ (Table.ledger d).selected ident)) := rfl

theorem text_insertPosting (d : Direction) (id : Uuid) (e : NewEntry) :
    (insertPosting d id e).sql.text =
        (Table.ledger d).insertion ["id", "user_id", "currency_id", "amount"]
          ["$1", "$2", "$3", "$4"] ∨
      (insertPosting d id e).sql.text =
        (Table.ledger d).insertion ["id", "user_id", "currency_id", "amount", "status"]
          ["$1", "$2", "$3", "$4", asStatus "$5"] := by
  rcases e with ⟨userId, currencyId, amount, _ | status⟩
  · exact .inl rfl
  · exact .inr rfl

theorem text_updateStatus (d : Direction) (id : Uuid) (expected next : Status) :
    (updateStatus d id expected next).sql.text =
      "UPDATE " ++ ident d.table ++ " SET \"status\" = " ++ asStatus "$1" ++
        ", \"updated_at\" = CURRENT_TIMESTAMP " ++
        ("WHERE " ++ column d.table "id" ++ " = $2 AND " ++ column d.table "status" ++ " = (" ++
          asStatus "$3" ++ ")") := rfl

/-- What is not to be found in a statement on the table of a direction. -/
def forbidden : Direction → List String
  | .deposit => ["DELETE", "withdrawals"]
  | .withdrawal => ["DELETE", "deposits"]

theorem mem_forbidden_of_ne {d' : Direction} (h : d' ≠ d) : d'.table ∈ forbidden d := by
  match d, d', h with
  | .deposit, .withdrawal, _ => decide
  | .withdrawal, .deposit, _ => decide

theorem keepsTo_selectById :
    (selectById (.ledger d) id).sql.KeepsTo d ("UPDATE" :: forbidden d) := by
  simp only [Sql.KeepsTo, Sql.Mentions, text_selectById, selected_ledger, toList_commaSeparated,
    toList_ident, toList_column, toList_asText, String.toList_append, List.map_cons, List.map_nil]
  cases d <;> decide +kernel

theorem keepsTo_selectByUser (user : Uuid) :
    (selectByUser d user).sql.KeepsTo d ("UPDATE" :: forbidden d) := by
  simp only [Sql.KeepsTo, Sql.Mentions, text_selectByUser, selected_ledger, toList_commaSeparated,
    toList_ident, toList_column, toList_asText, String.toList_append, List.map_cons, List.map_nil]
  cases d <;> decide +kernel

theorem keepsTo_insertPosting :
    (insertPosting d id e).sql.KeepsTo d ("UPDATE" :: forbidden d) := by
  unfold Sql.KeepsTo Sql.Mentions
  rcases text_insertPosting d id e with h | h
  all_goals
    simp only [h, text_insertion, selected_ledger, toList_commaSeparated, toList_ident,
      toList_asText, toList_asStatus, String.toList_append, List.map_cons, List.map_nil]
    cases d <;> decide +kernel

theorem keepsTo_updateStatus (expected next : Status) :
    (updateStatus d id expected next).sql.KeepsTo d (forbidden d) := by
  simp only [Sql.KeepsTo, Sql.Mentions, text_updateStatus, toList_ident, toList_column,
    toList_asStatus, String.toList_append]
  cases d <;> decide +kernel

theorem Concerns.keepsTo (h : s.Concerns d) : s.sql.KeepsTo d (forbidden d) := by
  cases h with
  | insert id e => exact keepsTo_insertPosting.subset (List.subset_cons_self _ _)
  | look id => exact keepsTo_selectById.subset (List.subset_cons_self _ _)
  | list user => exact (keepsTo_selectByUser user).subset (List.subset_cons_self _ _)
  | update id expected next => exact keepsTo_updateStatus expected next

/-- What is asked of a direction's table names that table and not the other one, and deletes
nothing. -/
theorem Concerns.words (h : s.Concerns d) :
    s.sql.Mentions d.table ∧ (∀ d', d' ≠ d → ¬ s.sql.Mentions d'.table) ∧
      ¬ s.sql.Mentions "DELETE" := by
  rcases h.keepsTo with ⟨own, words⟩
  refine ⟨own, fun d' hd => words _ (mem_forbidden_of_ne hd), words _ ?_⟩
  cases d <;> exact List.mem_cons_self

/-- The guarded change of a status is the only update. -/
theorem Concerns.update_of_mentions (h : s.Concerns d) (word : s.sql.Mentions "UPDATE") :
    ∃ id expected next, s = .updateStatus d id expected next := by
  cases h with
  | insert id e => exact absurd word (keepsTo_insertPosting.2 _ List.mem_cons_self)
  | look id => exact absurd word (keepsTo_selectById.2 _ List.mem_cons_self)
  | list user => exact absurd word ((keepsTo_selectByUser user).2 _ List.mem_cons_self)
  | update id expected next => exact ⟨id, expected, next, rfl⟩

end Statement

end FundsLedger.Database
