import FundsLedger.Proofs.Traffic.Basic

/-!
# What one turn can write

A turn either leaves the store as it was, or adds a row for a request to record one, or turns the
row of a request to move one from the status that its call saw. Every fact about the store is derived
from `Write`.
-/

namespace FundsLedger

open Database (Answer Response Row Statement)
open Time (Timestamp)
open Request (Sends)

namespace Store

variable {store : Store} {d : Direction} {id : Uuid} {table : Relation Posting} {time : Timestamp}
  {expected next : Status}

theorem setLedger_turned_eq_self (here : store.ledger d = some table)
    (h : ∀ q ∈ table.rows, ¬ isTarget id expected q = true) :
    store.setLedger d (some { table with rows := table.rows.map (turned time id expected next) }) =
      store := by
  have hrows : table.rows.map (turned time id expected next) = table.rows := by
    conv_rhs => rw [← List.map_id table.rows]
    refine List.map_congr_left fun q hq => ?_
    rw [turned, if_neg (h q hq)]
    rfl
  rw [hrows, ← here]
  exact setLedger_ledger

end Store

/-- What the statement `s`, sent at a given time for a request that has heard some responses, can
write to a store, with the response and the store after it. -/
inductive Write (store : Store) (time : Timestamp) :
    Request → List Response → Statement → Response → Store → Prop
  | insert {id d e table} (positive : 0 < e.amount.toInt) (here : store.ledger d = some table)
      (fresh : id ∉ table.rows.map Posting.id) :
      Write store time (.record id d e) [] (.insertPosting d id e)
        (.ok (.rows [.ofPosting (e.stored id time)]))
        (store.setLedger d (some (Store.appendRow table (e.stored id time))))
  | update {d id next r p table} (saw : firstRow Row.posting r = .ok (some p))
      (allowed : p.status.canMoveTo next = true) (here : store.ledger d = some table)
      (target : ∃ q ∈ table.rows, Store.isTarget id p.status q = true) :
      Write store time (.move d id next) [r] (.updateStatus d id p.status next)
        (.ok (.affected (table.rows.countP (Store.isTarget id p.status))))
        (store.setLedger d
          (some { table with rows := table.rows.map (Store.turned time id p.status next) }))

/-- What is carried out in a turn writes something that takes effect, or nothing. -/
theorem Request.Sends.respond_cases {request : Request} {heard : List Response} {s : Statement}
    (hs : Sends request heard s) (store : Store) (time : Timestamp) :
    (s.takesEffect (store.respond time s).1 = false ∧ (store.respond time s).2 = store) ∨
      ∃ r store', store.respond time s = (r, store') ∧
        Write store time request heard s r store' := by
  have idle : ∀ d id, (store.respond time (.selectById (.ledger d) id)).2 = store := by
    intro d id
    rcases store.respond_selectById time d id with ⟨_, f, h⟩ | ⟨_, h⟩
    · rw [h]
    · rw [h]
  cases hs with
  | @insert id d e positive =>
    rcases store.respond_insertPosting time d id e with ⟨f, h⟩ | ⟨table, here, fresh, h⟩
    · rw [h]
      exact .inl ⟨rfl, rfl⟩
    · exact .inr ⟨_, _, h, .insert positive here fresh⟩
  | look => exact .inl ⟨rfl, idle _ _⟩
  | list => exact .inl ⟨rfl, store.respond_selectByUser time _ _⟩
  | read => exact .inl ⟨rfl, idle _ _⟩
  | @update d id next r p saw allowed =>
    rcases store.respond_updateStatus time d id p.status next with ⟨_, f, h⟩ | ⟨table, here, h⟩
    · rw [h]
      exact .inl ⟨rfl, rfl⟩
    by_cases target : ∃ q ∈ table.rows, Store.isTarget id p.status q = true
    · exact .inr ⟨_, _, h, .update saw allowed here target⟩
    · have none : ∀ q ∈ table.rows, ¬ Store.isTarget id p.status q = true :=
        fun q hq ht => target ⟨q, hq, ht⟩
      rw [h, Store.setLedger_turned_eq_self here none, List.countP_eq_zero.mpr none]
      exact .inl ⟨rfl, rfl⟩
  | confirm saw allowed affected => exact .inl ⟨rfl, idle _ _⟩

/-- What a row may become in one turn: it stays as it is or takes a step of the lifecycle. -/
inductive Posting.Next (p : Posting) : Posting → Prop
  | same : Next p p
  | moved (time : Timestamp) {next : Status} (allowed : p.status.canMoveTo next = true) :
      Next p (Store.moved time next p)

theorem Posting.next_turned {p : Posting} {time : Timestamp} {id : Uuid} {expected next : Status}
    (allowed : expected.canMoveTo next = true) :
    p.Next (Store.turned time id expected next p) := by
  unfold Store.turned
  split
  · rename_i target
    rcases Store.isTarget_iff.mp target with ⟨_, rfl⟩
    exact .moved time allowed
  · exact .same

namespace Write

variable {store store' : Store} {time : Timestamp} {request : Request} {heard : List Response}
  {s : Statement} {r : Response} {d : Direction} {id : Uuid} {p q : Posting}

theorem sends (h : Write store time request heard s r store') : Sends request heard s := by
  cases h with
  | insert positive here fresh => exact .insert positive
  | update saw allowed here target => exact .update saw allowed

theorem takesEffect (h : Write store time request heard s r store') : s.takesEffect r = true := by
  cases h with
  | insert positive here fresh => rfl
  | update saw allowed here target =>
    rcases target with ⟨q, hq, ht⟩
    exact decide_eq_true fun zero => List.countP_eq_zero.mp zero q hq ht

/-- No write takes a row away, and none changes it but by a step of the lifecycle. -/
theorem posting?_of_some (h : Write store time request heard s r store')
    (hp : store.posting? d id = some p) : ∃ q, store'.posting? d id = some q ∧ p.Next q := by
  cases h with
  | @insert id' d' e table positive here fresh =>
    refine ⟨p, ?_, .same⟩
    rw [Store.posting?_appendRow here]
    by_cases hd : d = d'
    · rw [if_pos hd, ← hd, hp, Option.some_or]
    · rw [if_neg hd, hp]
  | @update d' id' next r p' table saw allowed here target =>
    rw [Store.posting?_turned here]
    by_cases hd : d = d'
    · rw [if_pos hd, ← hd, hp]
      exact ⟨_, rfl, Posting.next_turned allowed⟩
    · rw [if_neg hd]
      exact ⟨p, hp, .same⟩

/-- A row that was not there before a write was recorded by it. -/
theorem posting?_of_none (h : Write store time request heard s r store')
    (hp : store.posting? d id = none) (hq : store'.posting? d id = some q) :
    ∃ e, request = .record id d e ∧ q = e.stored id time := by
  cases h with
  | @insert id' d' e table positive here fresh =>
    rw [Store.posting?_appendRow here] at hq
    by_cases hd : d = d'
    · subst hd
      rw [if_pos rfl, hp, Option.none_or] at hq
      by_cases hid : (e.stored id' time).id = id
      · rw [if_pos hid] at hq
        cases hq
        cases hid
        exact ⟨e, rfl, rfl⟩
      · rw [if_neg hid] at hq
        cases hq
    · rw [if_neg hd, hp] at hq
      cases hq
  | @update d' id' next r p' table saw allowed here target =>
    rw [Store.posting?_turned here] at hq
    by_cases hd : d = d'
    · rw [if_pos hd, ← hd, hp] at hq
      cases hq
    · rw [if_neg hd, hp] at hq
      cases hq

/-- No write makes a table or takes one away. -/
theorem ledger_isSome (h : Write store time request heard s r store') (d : Direction) :
    (store'.ledger d).isSome = (store.ledger d).isSome := by
  cases h with
  | @insert id' d' e table positive here fresh =>
    rw [Store.ledger_setLedger]
    split
    · rename_i hd
      simp [hd, here]
    · rfl
  | @update d' id' next r p' table saw allowed here target =>
    rw [Store.ledger_setLedger]
    split
    · rename_i hd
      simp [hd, here]
    · rfl

theorem keyed (h : Write store time request heard s r store') (hk : store.Keyed) :
    store'.Keyed := by
  cases h with
  | insert positive here fresh => exact hk.appendRow here fresh
  | update saw allowed here target => exact hk.turned here

end Write

end FundsLedger
