import FundsLedger.Proofs.Ledger.Requests
import FundsLedger.Proofs.Store.Statements
import FundsLedger.Store.Draft

/-!
# Valid stores

In a valid store the ids of each ledger table are distinct, every ledger row has a positive amount
and references what is there, and no two currencies have one code. Every statement that adds a row,
and every one that the ledger sends, keeps a store valid and takes away nothing that is referenced.
-/

namespace FundsLedger

open Database (Parent Response Statement)
open Time (Timestamp)
open Request (Sends)

namespace Store

def Holds (store : Store) (parent : Parent) (id : Uuid) : Prop :=
  ∃ ids, store.parentIds parent = some ids ∧ id ∈ ids

/-- Whether a ledger row has a positive amount and references what is there. -/
structure Backs (store : Store) (p : Posting) : Prop where
  positive : 0 < p.amount.toInt
  user : store.Holds .user p.userId
  currency : store.Holds .currency p.currencyId

def codes (store : Store) : List String :=
  (store.currencies.elim [] (·.rows)).map Currency.code

structure Valid (store : Store) : Prop where
  keyed : store.Keyed
  backed : ∀ d, ∀ p ∈ store.postings d, store.Backs p
  codes : store.codes.Nodup

/-- A change that keeps a store valid and all of its users and currencies. -/
structure Keeps (store store' : Store) : Prop where
  valid : store.Valid → store'.Valid
  holds : ∀ parent id, store.Holds parent id → store'.Holds parent id

variable {store store' : Store} {d : Direction} {id : Uuid} {p : Posting} {time : Timestamp}
  {table : Relation Posting} {expected next : Status}

theorem Keeps.refl (store : Store) : store.Keeps store where
  valid := id
  holds _ _ := id

theorem Backs.mono (h : store.Backs p)
    (grows : ∀ parent id, store.Holds parent id → store'.Holds parent id) : store'.Backs p where
  positive := h.positive
  user := grows _ _ h.user
  currency := grows _ _ h.currency

theorem Keeps.backs (h : store.Keeps store') (hp : store.Backs p) : store'.Backs p :=
  hp.mono h.holds

theorem holds_setLedger {table? : Option (Relation Posting)} {parent : Parent} :
    (store.setLedger d table?).Holds parent id ↔ store.Holds parent id := by
  cases d <;> cases parent <;> exact Iff.rfl

theorem codes_setLedger {table? : Option (Relation Posting)} :
    (store.setLedger d table?).codes = store.codes := by
  cases d <;> rfl

/-! ### Ledger rows -/

theorem keeps_insertRow (h : store.insertRow d p = .ok store') :
    store.Keeps store' ∧ p ∈ store'.postings d := by
  obtain ⟨table, here, positive, fresh, user, currency, rfl⟩ := insertRow_eq_ok h
  have rows : (store.setLedger d (some (appendRow table p))).postings d = table.rows ++ [p] := by
    rw [postings_setLedger, if_pos rfl, appendRow]
  refine ⟨⟨fun valid => ?_, fun _ _ => holds_setLedger.mpr⟩, ?_⟩
  · refine ⟨valid.keyed.appendRow here fresh, fun d' q hq => ?_, ?_⟩
    -- The new row is backed by the constraints, the others by the store before.
    · have grows : ∀ parent id, store.Holds parent id →
          (store.setLedger d (some (appendRow table p))).Holds parent id :=
        fun _ _ => holds_setLedger.mpr
      rw [postings_setLedger] at hq
      by_cases hd : d' = d
      · rw [if_pos hd, appendRow, ← postings_of_ledger here] at hq
        rcases List.mem_append.mp hq with old | new
        · exact (valid.backed d q old).mono grows
        · rw [List.mem_singleton.mp new]
          exact Backs.mono ⟨positive, user, currency⟩ grows
      · rw [if_neg hd] at hq
        exact (valid.backed d' q hq).mono grows
    · rw [codes_setLedger]
      exact valid.codes
  · rw [rows]
    exact List.mem_append_right _ (List.mem_singleton_self _)

theorem keeps_turned (here : store.ledger d = some table) :
    store.Keeps (store.setLedger d
      (some { table with rows := table.rows.map (turned time id expected next) })) := by
  have grows : ∀ parent id', store.Holds parent id' → (store.setLedger d
      (some { table with rows := table.rows.map (turned time id expected next) })).Holds parent id' :=
    fun _ _ => holds_setLedger.mpr
  refine ⟨fun valid => ⟨valid.keyed.turned here, fun d' q hq => ?_, ?_⟩, grows⟩
  · rw [postings_setLedger] at hq
    by_cases hd : d' = d
    · rw [if_pos hd] at hq
      obtain ⟨p, hp, rfl⟩ := List.mem_map.mp hq
      rw [← postings_of_ledger here] at hp
      have backed := (valid.backed d p hp).mono grows
      -- The columns in question are none of those that an update sets.
      unfold turned
      split
      · exact ⟨backed.positive, backed.user, backed.currency⟩
      · exact backed
    · rw [if_neg hd] at hq
      exact (valid.backed d' q hq).mono grows
  · rw [codes_setLedger]
    exact valid.codes

theorem keeps_insertDraft {drawn : Uuid} {draft : Draft}
    (h : store.insertDraft time d drawn draft = .ok (p, store')) : store.Keeps store' := by
  simp only [insertDraft, bind_eq_ok] at h
  rcases h with ⟨_, _, row, _, inserted, hinsert, hrow⟩
  cases hrow
  exact (keeps_insertRow hinsert).1

/-! ### Users and currencies -/

theorem mem_map_appendRow {ρ α : Type} {f : ρ → α} {t : Relation ρ} {row : ρ} {a : α}
    (h : a ∈ t.rows.map f) : a ∈ (appendRow t row).rows.map f := by
  rw [appendRow, List.map_append]
  exact List.mem_append_left _ h

theorem keeps_insertUser {user : User} (h : store.insertUser time id = .ok (user, store')) :
    store.Keeps store' := by
  simp only [insertUser, bind_eq_ok, require_eq_ok] at h
  rcases h with ⟨users, here, _, _, hrow⟩
  cases hrow
  have grows : ∀ parent id', store.Holds parent id' →
      Holds { store with users := some (appendRow users ⟨id, time⟩) } parent id' := by
    rintro parent id' ⟨ids, hids, hmem⟩
    cases parent with
    | user =>
      rw [parentIds, here] at hids
      cases hids
      exact ⟨_, rfl, mem_map_appendRow hmem⟩
    | currency => exact ⟨ids, hids, hmem⟩
  exact ⟨fun valid => ⟨valid.keyed, fun d p hp => (valid.backed d p hp).mono grows, valid.codes⟩,
    grows⟩

theorem keeps_insertCurrency {code : String} {digits : DigitCount} {currency : Currency}
    (h : store.insertCurrency time id code digits = .ok (currency, store')) :
    store.Keeps store' := by
  simp only [insertCurrency, bind_eq_ok, require_eq_ok, check_eq_ok] at h
  rcases h with ⟨currencies, here, held, _, _, _, _, fresh, hrow⟩
  cases hrow
  have grows : ∀ parent id', store.Holds parent id' → Holds
      { store with currencies := some (appendRow currencies ⟨id, held, digits, time⟩) }
      parent id' := by
    rintro parent id' ⟨ids, hids, hmem⟩
    cases parent with
    | user => exact ⟨ids, hids, hmem⟩
    | currency =>
      rw [parentIds, here] at hids
      cases hids
      exact ⟨_, rfl, mem_map_appendRow hmem⟩
  refine ⟨fun valid => ⟨valid.keyed, fun d p hp => (valid.backed d p hp).mono grows, ?_⟩, grows⟩
  have distinct := valid.codes
  rw [codes, here] at distinct
  change ((appendRow currencies ⟨id, held, digits, time⟩).rows.map Currency.code).Nodup
  rw [appendRow, List.map_append, List.nodup_append']
  refine ⟨distinct, List.nodup_singleton _, ?_⟩
  simpa using fresh

end Store

/-! ### Statements of the ledger -/

/-- What the ledger sends keeps a store valid, and what it is given are rows that are there. -/
theorem Request.Sends.keeps {request : Request} {heard : List Response} {s : Statement}
    (hs : Sends request heard s) (store : Store) (time : Timestamp) :
    store.Keeps (store.respond time s).2 ∧
      ∀ answer, (store.respond time s).1 = .ok answer → ∀ row ∈ answer.toRows,
        ∃ d p, row = .ofPosting p ∧ p ∈ (store.respond time s).2.postings d := by
  have look : ∀ d id, store.Keeps (store.respond time (.selectById (.ledger d) id)).2 ∧
      ∀ answer, (store.respond time (.selectById (.ledger d) id)).1 = .ok answer →
        ∀ row ∈ answer.toRows, ∃ d' p, row = .ofPosting p ∧
          p ∈ (store.respond time (.selectById (.ledger d) id)).2.postings d' := by
    intro d id
    rcases store.respond_selectById time d id with ⟨_, f, h⟩ | ⟨_, h⟩
    · rw [h]
      exact ⟨.refl store, fun answer ha => by cases ha⟩
    · rw [h]
      refine ⟨.refl store, fun answer ha row hrow => ?_⟩
      cases ha
      obtain ⟨p, hp, rfl⟩ := List.mem_map.mp hrow
      exact ⟨d, p, rfl, Store.mem_of_posting? (Option.mem_toList.mp hp)⟩
  cases hs with
  | @insert id d e positive =>
    cases h : store.insertPosting time d id e with
    | error refusal =>
      simp only [Store.respond, Store.execute, h]
      exact ⟨.refl store, fun answer ha => by cases ha⟩
    | ok result =>
      rcases result with ⟨p, store'⟩
      obtain ⟨keeps, inserted⟩ := Store.keeps_insertRow (Store.insertPosting_eq_ok h).2
      simp only [Store.respond, Store.execute, h]
      refine ⟨keeps, fun answer ha row hrow => ?_⟩
      cases ha
      exact ⟨d, p, List.mem_singleton.mp hrow, inserted⟩
  | look => exact look _ _
  | @list d user =>
    rw [store.respond_selectByUser time d user]
    refine ⟨.refl store, fun answer ha row hrow => ?_⟩
    cases h : store.ledger d with
    | none =>
      simp only [Store.respond, Store.execute, h] at ha
      cases ha
    | some table =>
      simp only [Store.respond, Store.execute, h] at ha
      cases ha
      obtain ⟨p, hp, rfl⟩ := List.mem_map.mp hrow
      rw [Store.newestFirst, List.mem_mergeSort] at hp
      refine ⟨d, p, rfl, ?_⟩
      rw [Store.postings_of_ledger h]
      exact List.mem_of_mem_filter hp
  | read => exact look _ _
  | @update d id next r p saw allowed =>
    rcases store.respond_updateStatus time d id p.status next with ⟨_, f, h⟩ | ⟨table, here, h⟩
    · rw [h]
      exact ⟨.refl store, fun answer ha => by cases ha⟩
    · rw [h]
      refine ⟨Store.keeps_turned here, fun answer ha row hrow => ?_⟩
      cases ha
      cases hrow
  | confirm saw allowed affected => exact look _ _

end FundsLedger
