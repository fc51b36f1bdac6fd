import FundsLedger.Proofs.Store.Rows

/-!
# What the statements of the ledger do

An insert adds one row of a new id at the end of its table. An update turns the rows that have both
its id and the expected status, and no others. Either may be refused, and then nothing changes. The
main statements are `respond_insertPosting` and `respond_updateStatus`.
-/

namespace FundsLedger

open Database (Answer Failure Parent Response Row Statement)
open Time (Timestamp)

def NewEntry.stored (e : NewEntry) (id : Uuid) (time : Timestamp) : Posting where
  id
  userId := e.userId
  currencyId := e.currencyId
  amount := e.amount
  status := e.status.getD .created
  createdAt := time
  updatedAt := time

namespace Store

variable {store : Store} {d d' : Direction} {id id' : Uuid} {p q : Posting} {time : Timestamp}
  {table : Relation Posting} {expected next : Status}

theorem bind_eq_ok {ε α β : Type} {x : Except ε α} {f : α → Except ε β} {b : β} :
    (x >>= f) = .ok b ↔ ∃ a, x = .ok a ∧ f a = .ok b := by
  cases x with
  | error e => simp [bind, Except.bind]
  | ok a => simp [bind, Except.bind]

theorem check_eq_ok {condition : Prop} [Decidable condition] {refusal : Refusal} {u : Unit} :
    check condition refusal = .ok u ↔ condition := by
  unfold check
  split <;> simp_all

theorem require_eq_ok {ρ : Type} {name : String} {table? : Option (Relation ρ)} {t : Relation ρ} :
    require name table? = .ok t ↔ table? = some t := by
  cases table? with
  | none => simp [require]
  | some t' => simp [require]

/-- A code that fits is held as it is. -/
theorem fitCode_of_le {code : String} (fits : code.length ≤ codeLength) :
    fitCode code = .ok code := by
  have none : code.toList.drop codeLength = [] := List.drop_eq_nil_of_le fits
  have all : code.toList.take codeLength = code.toList := List.take_of_length_le fits
  simp [fitCode, none, all]

theorem checkReference_eq_ok {parent : Parent} {u : Unit} :
    store.checkReference d parent id = .ok u ↔
      ∃ ids, store.parentIds parent = some ids ∧ id ∈ ids := by
  unfold checkReference
  cases store.parentIds parent with
  | none => simp
  | some ids => simp [check_eq_ok]

/-- A row that is inserted satisfies all the constraints, and comes last in its table. -/
theorem insertRow_eq_ok {store' : Store} (h : store.insertRow d p = .ok store') :
    ∃ table, store.ledger d = some table ∧ 0 < p.amount.toInt ∧
      p.id ∉ table.rows.map Posting.id ∧
      (∃ ids, store.parentIds .user = some ids ∧ p.userId ∈ ids) ∧
      (∃ ids, store.parentIds .currency = some ids ∧ p.currencyId ∈ ids) ∧
      store' = store.setLedger d (some (appendRow table p)) := by
  simp only [insertRow, bind_eq_ok, check_eq_ok, require_eq_ok, checkReference_eq_ok] at h
  rcases h with ⟨table, here, _, positive, _, fresh, _, user, _, currency, last⟩
  cases last
  exact ⟨table, here, positive, fresh, user, currency, rfl⟩

theorem insertPosting_eq_ok {e : NewEntry} {store' : Store}
    (h : store.insertPosting time d id e = .ok (p, store')) :
    p = e.stored id time ∧ store.insertRow d p = .ok store' := by
  obtain ⟨inserted, hinsert, hrow⟩ := bind_eq_ok.mp h
  cases hrow
  exact ⟨rfl, hinsert⟩

/-- An insert is refused, or adds one row of a new id at the end of the table. -/
theorem respond_insertPosting (store : Store) (time : Timestamp) (d : Direction) (id : Uuid)
    (e : NewEntry) :
    (∃ f, store.respond time (.insertPosting d id e) = (.error f, store)) ∨
      ∃ table, store.ledger d = some table ∧ id ∉ table.rows.map Posting.id ∧
        store.respond time (.insertPosting d id e) =
          (.ok (.rows [.ofPosting (e.stored id time)]),
            store.setLedger d (some (appendRow table (e.stored id time)))) := by
  cases h : store.insertPosting time d id e with
  | error refusal => exact .inl ⟨_, by simp only [respond, execute, h]; rfl⟩
  | ok result =>
    rcases result with ⟨p, store'⟩
    obtain ⟨rfl, hinsert⟩ := insertPosting_eq_ok h
    obtain ⟨table, here, _, fresh, _, _, rfl⟩ := insertRow_eq_ok hinsert
    exact .inr ⟨table, here, fresh, by simp only [respond, execute, h]; rfl⟩

def turned (time : Timestamp) (id : Uuid) (expected next : Status) (p : Posting) : Posting :=
  if isTarget id expected p then moved time next p else p

@[simp] theorem turned_id : (turned time id expected next p).id = p.id := by
  unfold turned
  split <;> rfl

theorem isTarget_iff : isTarget id expected p = true ↔ p.id = id ∧ p.status = expected := by
  simp [isTarget]

theorem turned_of_ne (other : p.id ≠ id) : turned time id expected next p = p :=
  if_neg fun target => other (isTarget_iff.mp target).1

theorem respond_updateStatus_of_ledger (here : store.ledger d = some table) (time : Timestamp)
    (id : Uuid) (expected next : Status) :
    store.respond time (.updateStatus d id expected next) =
      (.ok (.affected (table.rows.countP (isTarget id expected))),
        store.setLedger d
          (some { table with rows := table.rows.map (turned time id expected next) })) := by
  simp only [respond, execute, updateStatus, here]
  rfl

/-- An update is refused where there is no table, and otherwise turns the rows that it names. -/
theorem respond_updateStatus (store : Store) (time : Timestamp) (d : Direction) (id : Uuid)
    (expected next : Status) :
    (store.ledger d = none ∧
      ∃ f, store.respond time (.updateStatus d id expected next) = (.error f, store)) ∨
      ∃ table, store.ledger d = some table ∧
        store.respond time (.updateStatus d id expected next) =
          (.ok (.affected (table.rows.countP (isTarget id expected))),
            store.setLedger d
              (some { table with rows := table.rows.map (turned time id expected next) })) := by
  cases h : store.ledger d with
  | none => exact .inl ⟨rfl, _, by simp only [respond, execute, updateStatus, h]; rfl⟩
  | some table => exact .inr ⟨table, rfl, respond_updateStatus_of_ledger h time id expected next⟩

theorem respond_selectById_of_ledger (here : store.ledger d = some table) (time : Timestamp)
    (id : Uuid) :
    store.respond time (.selectById (.ledger d) id) =
      (.ok (.rows ((store.posting? d id).toList.map .ofPosting)), store) := by
  simp only [respond, execute, rowsById, here, posting?, postings_of_ledger here]
  rfl

theorem respond_selectById (store : Store) (time : Timestamp) (d : Direction) (id : Uuid) :
    (store.ledger d = none ∧
      ∃ f, store.respond time (.selectById (.ledger d) id) = (.error f, store)) ∨
      (∃ table, store.ledger d = some table) ∧
        store.respond time (.selectById (.ledger d) id) =
          (.ok (.rows ((store.posting? d id).toList.map .ofPosting)), store) := by
  cases h : store.ledger d with
  | none => exact .inl ⟨rfl, _, by simp only [respond, execute, rowsById, h]; rfl⟩
  | some table => exact .inr ⟨⟨table, rfl⟩, respond_selectById_of_ledger h time id⟩

theorem respond_selectById_of_posting? (h : store.posting? d id = some p) (time : Timestamp) :
    store.respond time (.selectById (.ledger d) id) = (.ok (.rows [.ofPosting p]), store) := by
  rcases store.respond_selectById time d id with ⟨none, _⟩ | ⟨_, hr⟩
  · exact absurd none (ledger_ne_none h)
  · rw [hr, h]
    rfl

theorem respond_selectByUser (store : Store) (time : Timestamp) (d : Direction) (user : Uuid) :
    (store.respond time (.selectByUser d user)).2 = store := by
  cases h : store.ledger d with
  | none => simp only [respond, execute, h]; rfl
  | some table => simp only [respond, execute, h]; rfl

theorem posting?_appendRow (here : store.ledger d = some table) :
    (store.setLedger d (some (appendRow table p))).posting? d' id' =
      if d' = d then (store.posting? d id').or (if p.id = id' then some p else none)
      else store.posting? d' id' := by
  unfold posting?
  rw [postings_setLedger, postings_of_ledger here]
  by_cases hd : d' = d
  · rw [if_pos hd, if_pos hd, appendRow, List.find?_append, List.find?_singleton]
    simp only [beq_iff_eq]
  · rw [if_neg hd, if_neg hd]

/-- A row of a new id is there once it has been added. -/
theorem posting?_appendRow_self (here : store.ledger d = some table)
    (fresh : p.id ∉ table.rows.map Posting.id) :
    (store.setLedger d (some (appendRow table p))).posting? d p.id = some p := by
  have new : store.posting? d p.id = none := by
    simpa [posting?, postings_of_ledger here] using fresh
  rw [posting?_appendRow here, if_pos rfl, new, if_pos rfl]
  rfl

theorem posting?_turned (here : store.ledger d = some table) :
    (store.setLedger d (some { table with
        rows := table.rows.map (turned time id expected next) })).posting? d' id' =
      if d' = d then (store.posting? d id').map (turned time id expected next)
      else store.posting? d' id' := by
  unfold posting?
  rw [postings_setLedger, postings_of_ledger here]
  by_cases hd : d' = d
  · rw [if_pos hd, if_pos hd, List.find?_map]
    simp only [Function.comp_def, turned_id]
  · rw [if_neg hd, if_neg hd]

/-- An update that expects the status that the row has moves it. -/
theorem respond_updateStatus_of_posting? (h : store.posting? d id = some p) (time : Timestamp)
    (next : Status) :
    ∃ table n, store.ledger d = some table ∧ n ≠ 0 ∧
      store.respond time (.updateStatus d id p.status next) =
        (.ok (.affected n), store.setLedger d
          (some { table with rows := table.rows.map (turned time id p.status next) })) ∧
      (store.respond time (.updateStatus d id p.status next)).2.posting? d id =
        some (moved time next p) := by
  have target : isTarget id p.status p = true := isTarget_iff.mpr ⟨id_of_posting? h, rfl⟩
  rcases store.respond_updateStatus time d id p.status next with ⟨none, _⟩ | ⟨table, here, hr⟩
  · exact absurd none (ledger_ne_none h)
  · refine ⟨table, table.rows.countP (isTarget id p.status), here, fun zero => ?_, hr, ?_⟩
    · have hmem : p ∈ table.rows := postings_of_ledger here ▸ mem_of_posting? h
      exact List.countP_eq_zero.mp zero p hmem target
    · rw [hr, posting?_turned here, if_pos rfl, h, Option.map_some, turned, if_pos target]

theorem Keyed.appendRow (h : store.Keyed) (here : store.ledger d = some table)
    (fresh : p.id ∉ table.rows.map Posting.id) :
    (store.setLedger d (some (Store.appendRow table p))).Keyed := by
  intro d'
  rw [postings_setLedger]
  by_cases hd : d' = d
  · have hnodup := h d
    rw [postings_of_ledger here] at hnodup
    rw [if_pos hd, Store.appendRow, List.map_append, List.nodup_append']
    refine ⟨hnodup, List.nodup_singleton _, ?_⟩
    simpa using fresh
  · rw [if_neg hd]
    exact h d'

theorem Keyed.turned (h : store.Keyed) (here : store.ledger d = some table) :
    (store.setLedger d
      (some { table with rows := table.rows.map (turned time id expected next) })).Keyed := by
  intro d'
  rw [postings_setLedger]
  by_cases hd : d' = d
  · have hnodup := h d
    rw [postings_of_ledger here] at hnodup
    rw [if_pos hd, List.map_map]
    simpa only [Function.comp_def, turned_id] using hnodup
  · rw [if_neg hd]
    exact h d'

end Store

end FundsLedger
