import FundsLedger.Proofs.Store.Statements

/-!
# Stores that agree on a row

What a statement about a row does depends on that row alone, besides the users, the currencies and
whether the table is there. So two stores that agree on the row give the same response and still
agree on it afterwards. The main statements are `insertPosting`, `updateStatus` and `selectById` of
`Store.Agree`.
-/

namespace FundsLedger

open Database (Parent Response Statement)
open Time (Timestamp)

namespace Store

/-- Two stores have the same users and currencies, and in one ledger table the same rows of one
id. -/
structure Agree (d : Direction) (id : Uuid) (store store' : Store) : Prop where
  users : store.users = store'.users
  currencies : store.currencies = store'.currencies
  table : (store.ledger d).isSome = (store'.ledger d).isSome
  rows : (store.postings d).filter (·.id == id) = (store'.postings d).filter (·.id == id)

/-- Two stores give the same response to a statement, and agree on a row afterwards. -/
structure Alike (d : Direction) (id : Uuid) (time : Timestamp) (s : Statement)
    (store store' : Store) : Prop where
  response : (store.respond time s).1 = (store'.respond time s).1
  after : (store.respond time s).2.Agree d id (store'.respond time s).2

variable {store store' : Store} {d d' : Direction} {id id' : Uuid} {p : Posting}
  {table table' : Relation Posting} {time : Timestamp} {expected next : Status}

theorem users_setLedger (table? : Option (Relation Posting)) :
    (store.setLedger d table?).users = store.users := by
  cases d <;> rfl

theorem currencies_setLedger (table? : Option (Relation Posting)) :
    (store.setLedger d table?).currencies = store.currencies := by
  cases d <;> rfl

theorem filter_map_turned (rows : List Posting) :
    (rows.map (turned time id' expected next)).filter (·.id == id) =
      (rows.filter (·.id == id)).map (turned time id' expected next) := by
  rw [List.filter_map]
  simp only [Function.comp_def, turned_id]

theorem countP_isTarget (rows : List Posting) :
    rows.countP (isTarget id expected) =
      (rows.filter (·.id == id)).countP (isTarget id expected) := by
  rw [List.countP_filter]
  refine List.countP_congr fun p _ => ?_
  simp only [isTarget_iff, Bool.and_eq_true, beq_iff_eq]
  exact ⟨fun target => ⟨target, target.1⟩, fun both => both.1⟩

theorem not_mem_ids_iff (rows : List Posting) :
    id ∉ rows.map Posting.id ↔ rows.filter (·.id == id) = [] := by
  rw [List.filter_eq_nil_iff, List.mem_map]
  simp only [beq_iff_eq, not_exists, not_and]

namespace Agree

protected theorem refl (d : Direction) (id : Uuid) (store : Store) : store.Agree d id store :=
  ⟨rfl, rfl, rfl, rfl⟩

theorem symm (h : store.Agree d id store') : store'.Agree d id store :=
  ⟨h.users.symm, h.currencies.symm, h.table.symm, h.rows.symm⟩

theorem trans {store'' : Store} (h : store.Agree d id store') (h' : store'.Agree d id store'') :
    store.Agree d id store'' :=
  ⟨h.users.trans h'.users, h.currencies.trans h'.currencies, h.table.trans h'.table,
    h.rows.trans h'.rows⟩

theorem posting?_eq (h : store.Agree d id store') : store.posting? d id = store'.posting? d id := by
  unfold posting?
  rw [← List.head?_filter, h.rows, List.head?_filter]

/-- The table is missing in both stores, or it is there in both with the same rows of the id. -/
theorem ledger_cases (h : store.Agree d id store') :
    (store.ledger d = none ∧ store'.ledger d = none) ∨
      ∃ table table', store.ledger d = some table ∧ store'.ledger d = some table' ∧
        table.rows.filter (·.id == id) = table'.rows.filter (·.id == id) := by
  have both := h.table
  have rows := h.rows
  cases here : store.ledger d with
  | none =>
    rw [here] at both
    exact .inl ⟨rfl, Option.isSome_eq_false_iff.mp both.symm |> Option.isNone_iff_eq_none.mp⟩
  | some table =>
    rw [here] at both
    obtain ⟨table', here'⟩ := Option.isSome_iff_exists.mp both.symm
    rw [postings_of_ledger here, postings_of_ledger here'] at rows
    exact .inr ⟨table, table', rfl, here', rows⟩

theorem setLedger (h : store.Agree d id store')
    (rows : table.rows.filter (·.id == id) = table'.rows.filter (·.id == id)) :
    (store.setLedger d (some table)).Agree d id (store'.setLedger d (some table')) where
  users := by rw [users_setLedger, users_setLedger, h.users]
  currencies := by rw [currencies_setLedger, currencies_setLedger, h.currencies]
  table := by rw [ledger_setLedger, ledger_setLedger, if_pos rfl, if_pos rfl]; rfl
  rows := by rw [postings_setLedger, postings_setLedger, if_pos rfl, if_pos rfl, rows]

/-- A store with other rows of other ids agrees with the one before. -/
theorem setLedger_right (here : store.ledger d' = some table)
    (rows : d = d' → table.rows.filter (·.id == id) = table'.rows.filter (·.id == id)) :
    store.Agree d id (store.setLedger d' (some table')) where
  users := by rw [users_setLedger]
  currencies := by rw [currencies_setLedger]
  table := by
    rw [ledger_setLedger]
    split
    · rename_i hd
      rw [hd, here]
      rfl
    · rfl
  rows := by
    rw [postings_setLedger]
    split
    · rename_i hd
      rw [hd, postings_of_ledger here, rows hd]
    · rfl

theorem appendRow_of_other (here : store.ledger d' = some table) (other : (d', p.id) ≠ (d, id)) :
    store.Agree d id (store.setLedger d' (some (appendRow table p))) := by
  refine setLedger_right here fun hd => ?_
  have hid : p.id ≠ id := fun hid => other (by rw [hd, hid])
  simp [appendRow, List.filter_append, hid]

theorem turned_of_other (here : store.ledger d' = some table) (other : (d', id') ≠ (d, id)) :
    store.Agree d id (store.setLedger d' (some { table with
      rows := table.rows.map (turned time id' expected next) })) := by
  refine setLedger_right here fun hd => ?_
  have hid : id ≠ id' := fun hid => other (by rw [hd, hid])
  have same : ∀ q ∈ table.rows.filter (·.id == id), turned time id' expected next q = q := by
    intro q hq
    have hq : q.id = id := by simpa using (List.mem_filter.mp hq).2
    exact turned_of_ne (hq ▸ hid)
  rw [filter_map_turned, List.map_congr_left same, List.map_id']

theorem checkReference_eq (h : store.Agree d id store') (parent : Parent) (referenced : Uuid) :
    store.checkReference d parent referenced = store'.checkReference d parent referenced := by
  have ids : store.parentIds parent = store'.parentIds parent := by
    cases parent with
    | user => rw [parentIds, parentIds, h.users]
    | currency => rw [parentIds, parentIds, h.currencies]
  rw [checkReference, checkReference, ids]

/-- Both stores refuse to insert a row for the same reason, or both insert it. -/
theorem insertRow_cases (h : store.Agree d p.id store') :
    (∃ refusal, store.insertRow d p = .error refusal ∧ store'.insertRow d p = .error refusal) ∨
      ∃ s s', store.insertRow d p = .ok s ∧ store'.insertRow d p = .ok s' ∧ s.Agree d p.id s' := by
  rcases h.ledger_cases with ⟨here, here'⟩ | ⟨table, table', here, here', rows⟩
  · exact .inl ⟨.noTable d.table, by simp only [insertRow, here]; rfl,
      by simp only [insertRow, here']; rfl⟩
  have agree : (store.setLedger d (some (appendRow table p))).Agree d p.id
      (store'.setLedger d (some (appendRow table' p))) := by
    refine h.setLedger ?_
    rw [appendRow, appendRow, List.filter_append, List.filter_append, rows]
  have fresh : check (p.id ∉ table.rows.map Posting.id) (.duplicate (d.table ++ "_pkey")) =
      check (p.id ∉ table'.rows.map Posting.id) (.duplicate (d.table ++ "_pkey")) := by
    simp only [check, not_mem_ids_iff, rows]
  simp only [insertRow, here, here', require, fresh, h.checkReference_eq, bind, Except.bind]
  -- Each check fails in both stores or in none.
  cases check (0 < p.amount.toInt) (.nonPositiveAmount d.table) with
  | error refusal => exact .inl ⟨refusal, rfl, rfl⟩
  | ok =>
    cases check (p.id ∉ table'.rows.map Posting.id) (.duplicate (d.table ++ "_pkey")) with
    | error refusal => exact .inl ⟨refusal, rfl, rfl⟩
    | ok =>
      cases store'.checkReference d .user p.userId with
      | error refusal => exact .inl ⟨refusal, rfl, rfl⟩
      | ok =>
        cases store'.checkReference d .currency p.currencyId with
        | error refusal => exact .inl ⟨refusal, rfl, rfl⟩
        | ok => exact .inr ⟨_, _, rfl, rfl, agree⟩

theorem insertPosting (h : store.Agree d id store') (time : Timestamp) (e : NewEntry) :
    store.Alike d id time (.insertPosting d id e) store' := by
  have insert : ∀ s : Store, s.insertPosting time d id e = (do
      return (e.stored id time, ← s.insertRow d (e.stored id time))) := fun _ => rfl
  rcases @insertRow_cases _ _ _ (e.stored id time) h with
    ⟨refusal, hrow, hrow'⟩ | ⟨s, s', hrow, hrow', agree⟩
  · constructor <;> simp only [respond, execute, insert, hrow, hrow']
    · rfl
    · exact h
  · constructor <;> simp only [respond, execute, insert, hrow, hrow']
    · rfl
    · exact agree

theorem updateStatus (h : store.Agree d id store') (time : Timestamp) (expected next : Status) :
    store.Alike d id time (.updateStatus d id expected next) store' := by
  rcases h.ledger_cases with ⟨here, here'⟩ | ⟨table, table', here, here', rows⟩
  · constructor <;> simp only [respond, execute, Store.updateStatus, here, here']
    · rfl
    · exact h
  have count : table.rows.countP (isTarget id expected) =
      table'.rows.countP (isTarget id expected) := by
    rw [countP_isTarget, rows, ← countP_isTarget]
  constructor <;> rw [respond_updateStatus_of_ledger here, respond_updateStatus_of_ledger here']
  · rw [count]
  · refine h.setLedger ?_
    rw [filter_map_turned, filter_map_turned, rows]

theorem selectById (h : store.Agree d id store') (time : Timestamp) :
    store.Alike d id time (.selectById (.ledger d) id) store' := by
  rcases h.ledger_cases with ⟨here, here'⟩ | ⟨table, table', here, here', _⟩
  · constructor <;> simp only [respond, execute, rowsById, here, here']
    · rfl
    · exact h
  · constructor <;> rw [respond_selectById_of_ledger here, respond_selectById_of_ledger here']
    · rw [h.posting?_eq]
    · exact h

end Agree

end Store

end FundsLedger
