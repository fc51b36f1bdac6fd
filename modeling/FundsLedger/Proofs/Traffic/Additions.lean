import FundsLedger.Proofs.Ledger.Returns
import FundsLedger.Proofs.Migration.Levels
import FundsLedger.Proofs.Store.Validity
import FundsLedger.Proofs.Traffic.Lifecycle

/-!
# Others that add rows

While calls are served, users and currencies are added, and others insert ledger rows of their own.
Nothing is said of what they insert and when. The constraints of the tables keep the store valid all
the same, and what the ledger returns is backed by it. The main statement is `stored_data_valid`.
-/

namespace FundsLedger

open Database (Response Row)
open Time (Timestamp)

inductive Addition where
  | user (id : Uuid)
  | currency (id : Uuid) (code : String) (digits : DigitCount)
  /-- A ledger row with any columns. An id is drawn for it in case that it has none. -/
  | row (direction : Direction) (drawn : Uuid) (draft : Draft)
deriving DecidableEq

/-- The store after an insert, which it may refuse. -/
def Store.afterInsert {ρ : Type} (store : Store) : Except Refusal (ρ × Store) → Store
  | .ok (_, store') => store'
  | .error _ => store

def Store.add (store : Store) (time : Timestamp) : Addition → Store
  | .user id => store.afterInsert (store.insertUser time id)
  | .currency id code digits => store.afterInsert (store.insertCurrency time id code digits)
  | .row d drawn draft => store.afterInsert (store.insertDraft time d drawn draft)

inductive Happening where
  | event (event : Event)
  | addition (what : Addition) (time : Timestamp) (delivery : Delivery)
deriving DecidableEq

namespace Traffic

def happen (t : Traffic) : Happening → Traffic
  | .event event => t.step event
  | .addition what time delivery =>
    { t with store := if delivery.reaches then t.store.add time what else t.store }

end Traffic

/-- The traffic after all that has happened at a store that no call has used before. -/
def Store.busy (store : Store) (happenings : List Happening) : Traffic :=
  happenings.foldl Traffic.happen { store }

/-- A store without rows, but for the record of migrations. -/
structure Store.Rowless (store : Store) : Prop where
  users : store.users.elim [] (·.rows) = []
  currencies : store.currencies.elim [] (·.rows) = []
  postings : ∀ d, store.postings d = []

namespace Store.Rowless

theorem blank : Store.blank.Rowless where
  users := rfl
  currencies := rfl
  postings d := by cases d <;> rfl

theorem valid {store : Store} (h : store.Rowless) : store.Valid where
  keyed d := by
    rw [h.postings d]
    exact List.nodup_nil
  backed d p hp := by
    rw [h.postings d] at hp
    cases hp
  codes := by
    rw [codes, h.currencies]
    exact List.nodup_nil

theorem rows_getD {ρ : Type} {table : Option (Relation ρ)} {comment : Option String}
    (h : table.elim [] (·.rows) = []) : (table.getD { comment }).rows = [] := by
  cases table with
  | none => rfl
  | some t => exact h

theorem provideParents {store : Store} (h : store.Rowless) : store.provideParents.Rowless where
  users := rows_getD h.users
  currencies := rows_getD h.currencies
  postings
    | .deposit => h.postings .deposit
    | .withdrawal => h.postings .withdrawal

theorem provideLedger {store : Store} (h : store.Rowless) : store.provideLedger.Rowless where
  users := h.users
  currencies := h.currencies
  postings
    | .deposit => rows_getD (h.postings .deposit)
    | .withdrawal => rows_getD (h.postings .withdrawal)

end Store.Rowless

/-- The migrations add no rows. -/
theorem Store.At.rowless {base store : Store} {k : Nat} (h : base.At k store)
    (rowless : base.Rowless) : store.Rowless := by
  have reached : (base.reached k).Rowless := by
    match k, h.le with
    | 0, _ => exact rowless
    | 1, _ => exact rowless.provideParents
    | 2, _ => exact rowless.provideParents.provideLedger
  rw [h.schema]
  exact ⟨reached.users, reached.currencies, fun
    | .deposit => reached.postings .deposit
    | .withdrawal => reached.postings .withdrawal⟩

theorem Store.keeps_afterInsert {ρ : Type} {store : Store} {inserted : Except Refusal (ρ × Store)}
    (h : ∀ row store', inserted = .ok (row, store') → store.Keeps store') :
    store.Keeps (store.afterInsert inserted) := by
  cases inserted with
  | error refusal => exact .refl store
  | ok result => exact h _ _ rfl

theorem Store.keeps_add (store : Store) (time : Timestamp) (what : Addition) :
    store.Keeps (store.add time what) := by
  cases what with
  | user id => exact keeps_afterInsert fun _ _ => keeps_insertUser
  | currency id code digits => exact keeps_afterInsert fun _ _ => keeps_insertCurrency
  | row d drawn draft => exact keeps_afterInsert fun _ _ => keeps_insertDraft

namespace Traffic

/-- The store is valid, and it backs every row that a call has heard of. -/
structure Backed (t : Traffic) : Prop where
  valid : t.store.Valid
  heard : ∀ c ∈ t.calls, ∀ r ∈ c.heard, Database.Response.Tells t.store.Backs r

variable {t : Traffic}

theorem Backed.keeps {store : Store} (h : t.Backed) (keeps : t.store.Keeps store) :
    Backed { t with store } where
  valid := keeps.valid h.valid
  heard c hc r hr answer ha row hrow p hp := keeps.backs (h.heard c hc r hr answer ha row hrow p hp)

/-- A call hears a response that the store backs. -/
theorem Backed.hear {store : Store} {commits : List Commit} {c : Call} {r : Response} {k : Nat}
    (h : t.Backed) (keeps : t.store.Keeps store) (hc : c ∈ t.calls)
    (hr : Database.Response.Tells store.Backs r) :
    Backed { store, calls := t.calls.set k (c.hear r), commits } where
  valid := keeps.valid h.valid
  heard c' hc' r' hr' := by
    have old : ∀ c ∈ t.calls, ∀ r ∈ c.heard, Database.Response.Tells store.Backs r :=
      (h.keeps keeps).heard
    rcases List.mem_or_eq_of_mem_set hc' with hc' | rfl
    · exact old c' hc' r' hr'
    · rcases List.mem_append.mp hr' with hr' | hr'
      · exact old c hc r' hr'
      · rw [List.mem_singleton.mp hr']
        exact hr

theorem Backed.step (h : t.Backed) (event : Event) : (t.step event).Backed := by
  rcases t.step_cases event with
    ⟨request, _, ht⟩ | ⟨k, c, s, time, delivery, _, hc, hs, ht⟩ | ht
  · rw [ht]
    refine ⟨h.valid, fun c hc r hr => ?_⟩
    rcases List.mem_append.mp hc with old | new
    · exact h.heard c old r hr
    · rw [List.mem_singleton.mp new] at hr
      cases hr
  · have hc := List.mem_of_getElem? hc
    obtain ⟨keeps, rows⟩ := hs.keeps t.store time
    -- A call that is told of a failure hears of no row, whether or not the store has changed.
    have failed : ∀ store failure, Database.Response.Tells (Store.Backs store) (.error failure) :=
      fun store failure answer ha => nomatch ha
    rw [ht]
    cases delivery with
    | answered =>
      refine h.hear keeps hc fun answer ha row hrow p hp => ?_
      obtain ⟨d, q, rfl, hq⟩ := rows answer ha row hrow
      rw [Row.posting_ofPosting] at hp
      cases hp
      exact (keeps.valid h.valid).backed d p hq
    | refused failure => exact h.hear (.refl t.store) hc (failed _ failure)
    | lost failure => exact h.hear keeps hc (failed _ failure)
  · rw [ht]
    exact h

theorem Backed.happen (h : t.Backed) (what : Happening) : (t.happen what).Backed := by
  cases what with
  | event event => exact h.step event
  | addition what time delivery =>
    refine h.keeps ?_
    split
    · exact t.store.keeps_add time what
    · exact .refl t.store

/-- What a call returned is backed by the store. -/
theorem Backed.entries (h : t.Backed) {c : Call} (hc : c ∈ t.calls) {entries : List Entry}
    (result : c.result? = some (.ok entries)) : ∀ e ∈ entries, t.store.Backs e.toPosting :=
  (c.request.returns.after (h.heard c hc)).of_result? result

theorem backed_busy {store : Store} (valid : store.Valid) (happenings : List Happening) :
    (store.busy happenings).Backed := by
  have run : ∀ t : Traffic, t.Backed → (happenings.foldl happen t).Backed := by
    induction happenings with
    | nil => exact fun t h => h
    | cons what rest ih => exact fun t h => ih _ (h.happen what)
  exact run _ ⟨valid, fun c hc => absurd hc List.not_mem_nil⟩

end Traffic

/-- Whatever happens at a store that has no rows at first, whether calls are served or rows are added
by others, in any order and with any failures: the ids of each ledger table are distinct, every
ledger row has a positive amount and references a user and a currency that are there, and so has
every entry that a call returned; and the codes of the currencies are distinct. -/
theorem stored_data_valid (store : Store) (rowless : store.Rowless)
    (happenings : List Happening) :
    (∀ d, (((store.busy happenings).store.postings d).map Posting.id).Nodup) ∧
    (∀ d, ∀ p ∈ (store.busy happenings).store.postings d,
      (store.busy happenings).store.Backs p) ∧
    (store.busy happenings).store.codes.Nodup ∧
    ∀ c ∈ (store.busy happenings).calls, ∀ entries, c.result? = some (.ok entries) →
      ∀ e ∈ entries, (store.busy happenings).store.Backs e.toPosting := by
  have backed := Traffic.backed_busy rowless.valid happenings
  exact ⟨backed.valid.keyed, backed.valid.backed, backed.valid.codes,
    fun c hc entries result => backed.entries hc result⟩

/-- A user and a currency are added. A deposit of nothing is refused, then one is recorded, and
another one of its id is refused. -/
def Race.additions : List Happening :=
  [.addition (.user user.id) (time 1) .answered,
    .addition (.currency currency.id currency.code currency.minorUnitDigits) (time 2) .answered,
    .addition (.row .deposit row
      { userId := user.id, currencyId := currency.id, amount := some .zero }) (time 3) .answered,
    .event (.arrival (.record row .deposit
      { userId := user.id, currencyId := currency.id, amount := (deposit .created (time 0)).amount })),
    .event (.turn 0 (time 10) .answered),
    .addition (.row .deposit row
      { userId := user.id, currencyId := currency.id, amount := (deposit .created (time 0)).amount })
      (time 11) .answered]

theorem stored_data_valid_migrated :
    (Store.blank.migrate [(.up none, 0)]).Rowless ∧
      ((Store.blank.migrate [(.up none, 0)]).busy Race.additions).store.postings .deposit =
        [Race.deposit .created (Race.time 10)] ∧
      ((Store.blank.migrate [(.up none, 0)]).busy Race.additions).store.Backs
        (Race.deposit .created (Race.time 10)) := by
  have rowless : (Store.blank.migrate [(.up none, 0)]).Rowless :=
    (Store.untouched_blank.at.migrate Store.untouched_blank _).rowless .blank
  have recorded : ((Store.blank.migrate [(.up none, 0)]).busy Race.additions).store.postings
      .deposit = [Race.deposit .created (Race.time 10)] := by decide +kernel
  obtain ⟨_, backed, _⟩ := stored_data_valid _ rowless Race.additions
  refine ⟨rowless, recorded, backed .deposit _ ?_⟩
  rw [recorded]
  exact List.mem_singleton_self _

end FundsLedger
