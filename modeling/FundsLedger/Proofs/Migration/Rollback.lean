import FundsLedger.Proofs.Migration.Schema
import FundsLedger.Proofs.Traffic.Additions

/-!
# Rolling the schema back

Between the times when the schema is provided and withdrawn, the ledger is used and others insert
ledger rows. All of it concerns the ledger tables alone, so a store is either as it was at first or
as it was with the schema and some ledger rows besides. Withdrawing the schema leads from both back
to the first. The main statement is `rollback_exact`.
-/

namespace FundsLedger

open Database (Parent Program Table)
open Database.Program (Succeeds)
open Migration (ownerComment provideSchema withdrawSchema)
open Time (Timestamp)

namespace Store

/-- A change that concerns the rows of ledger tables alone, and makes or drops no table. -/
structure LedgerOnly (store store' : Store) : Prop where
  others : store' =
    { store with deposits := store'.deposits, withdrawals := store'.withdrawals }
  tables : ∀ d, store'.ledger d = none ↔ store.ledger d = none

variable {store store' store'' : Store} {d : Direction} {time : Timestamp}

theorem LedgerOnly.refl (store : Store) : store.LedgerOnly store where
  others := rfl
  tables _ := Iff.rfl

theorem LedgerOnly.trans (h : store.LedgerOnly store') (h' : store'.LedgerOnly store'') :
    store.LedgerOnly store'' where
  others := by
    rw [h'.others, h.others]
  tables d := (h'.tables d).trans (h.tables d)

theorem ledgerOnly_setLedger {table table' : Relation Posting}
    (here : store.ledger d = some table) :
    store.LedgerOnly (store.setLedger d (some table')) where
  others := by cases d <;> rfl
  tables d' := by
    rw [ledger_setLedger]
    split
    · rename_i hd
      rw [hd, here]
      simp
    · rfl

theorem ledgerOnly_insertDraft {drawn : Uuid} {draft : Draft} {p : Posting}
    (h : store.insertDraft time d drawn draft = .ok (p, store')) : store.LedgerOnly store' := by
  simp only [insertDraft, bind_eq_ok] at h
  rcases h with ⟨_, _, row, _, inserted, hinsert, hrow⟩
  cases hrow
  obtain ⟨table, here, _, _, _, _, rfl⟩ := insertRow_eq_ok hinsert
  exact ledgerOnly_setLedger here

end Store

def Happening.SparesParents : Happening → Prop
  | .event _ => True
  | .addition (.row ..) _ _ => True
  | .addition (.user ..) _ _ => False
  | .addition (.currency ..) _ _ => False

theorem Write.ledgerOnly {store store' : Store} {time : Timestamp} {request : Request}
    {heard : List Database.Response} {s : Database.Statement} {r : Database.Response}
    (h : Write store time request heard s r store') : store.LedgerOnly store' := by
  cases h with
  | insert positive here fresh => exact Store.ledgerOnly_setLedger here
  | update saw allowed here target => exact Store.ledgerOnly_setLedger here

theorem Traffic.ledgerOnly_happen (t : Traffic) {what : Happening} (spares : what.SparesParents) :
    t.store.LedgerOnly (t.happen what).store := by
  cases what with
  | event event =>
    rcases t.write_step event with ⟨idle, _⟩ | ⟨m, heard, r, written⟩
    · rw [happen, idle]
      exact .refl _
    · exact written.write.ledgerOnly
  | addition what time delivery =>
    rw [happen]
    dsimp only
    split
    · cases what with
      | user id => cases spares
      | currency id code digits => cases spares
      | row d drawn draft =>
        rw [Store.add]
        cases h : t.store.insertDraft time d drawn draft with
        | error refusal => exact .refl _
        | ok result => exact Store.ledgerOnly_insertDraft h
    · exact .refl _

theorem Store.ledgerOnly_busy (store : Store) {happenings : List Happening}
    (spares : ∀ what ∈ happenings, what.SparesParents) :
    store.LedgerOnly (store.busy happenings).store := by
  have run : ∀ t : Traffic, t.store.LedgerOnly (happenings.foldl Traffic.happen t).store := by
    induction happenings with
    | nil => exact fun t => .refl t.store
    | cons what rest ih =>
      exact fun t => (t.ledgerOnly_happen (spares what List.mem_cons_self)).trans
        (ih (fun w hw => spares w (List.mem_cons_of_mem _ hw)) (t.happen what))
  exact run { store }

inductive Phase where
  /-- Every migration is applied. -/
  | up (clock : Int)
  /-- Every migration is rolled back, the last one first. -/
  | down (clock : Int)
  /-- The ledger is used, and others insert rows. -/
  | use (happenings : List Happening)

/-- Whether no user or currency is inserted. -/
def Phase.SparesParents : Phase → Prop
  | .use happenings => ∀ what ∈ happenings, what.SparesParents
  | .up _ | .down _ => True

namespace Store

def phase (store : Store) : Phase → Store
  | .up clock => (provideSchema.run (Session.connection {}) { store, clock }).state.store
  | .down clock => (withdrawSchema.run (Session.connection {}) { store, clock }).state.store
  | .use happenings => (store.busy happenings).store

def through (store : Store) (phases : List Phase) : Store :=
  phases.foldl phase store

/-- A store that has no ledger tables and nothing of what belongs to them. Users and currencies may
be there, as long as they are not marked as owned. -/
structure Clear (store : Store) : Prop where
  foreign : ∀ parent : Parent, store.commentOf parent.table ≠ some (some ownerComment)
  deposits : store.deposits = none
  withdrawals : store.withdrawals = none
  types : TypeName.status ∉ store.types
  indexes : store.indexes = []
  named : store.Named

/-- The store is `base`, or `base` with the schema and some ledger rows. -/
inductive Between (base : Store) : Store → Prop
  | bare : Between base base
  | provided (deposits withdrawals : Relation Posting) : Between base
      { base.withSchema with deposits := some deposits, withdrawals := some withdrawals }

variable {base store store' : Store} {time : Timestamp}

/-- Withdrawing the schema undoes providing it, whatever the ledger tables hold by then. -/
theorem Clear.withdraw_withSchema (clean : base.Clear) (deposits withdrawals : Relation Posting) :
    (withdrawLedger { base.withSchema with
      deposits := some deposits, withdrawals := some withdrawals }).withdrawParents = base := by
  have ledger : base.provideParents.provideLedger.withdrawLedger = base.provideParents :=
    withdrawLedger_provideLedger clean.deposits clean.withdrawals clean.types clean.indexes
  -- What the ledger tables hold makes no difference to a store without them.
  change base.provideParents.provideLedger.withdrawLedger.withdrawParents = base
  rw [ledger, withdrawParents_provideParents clean.foreign]

/-- Withdrawing the schema changes nothing where it never was provided. -/
theorem Clear.withdraw_self (clean : base.Clear) :
    base.withdrawLedger.withdrawParents = base := by
  have ledger : base.withdrawLedger = base := by
    have kept : base.types.filter (· ≠ .status) = base.types :=
      List.filter_eq_self.mpr fun t ht => decide_eq_true fun h => clean.types (h ▸ ht)
    rw [withdrawLedger, kept]
    rcases base with ⟨users, currencies, _, _, history, others, types, _⟩
    cases clean.deposits
    cases clean.withdrawals
    cases clean.indexes
    rfl
  rw [ledger, withdrawParents, withdrawParent_eq_self (clean.foreign .currency),
    withdrawParent_eq_self (clean.foreign .user)]

theorem succeeds_withdrawSchema (named : store.Named)
    (onTables : ∀ i ∈ store.indexes, store.ledger i.direction ≠ none) :
    Succeeds time withdrawSchema store () store.withdrawLedger.withdrawParents := by
  have named' : store.withdrawLedger.Named := named
  have unused : store.withdrawLedger.hasLedger = false := rfl
  exact (Migration.succeeds_withdrawLedger onTables).bind
    ((Migration.succeeds_withdrawParents named' unused).bind .done)

namespace Between

theorem leadsTo_up (h : base.Between store) (clean : base.Clear) :
    provideSchema.LeadsTo store store.withSchema := by
  refine Program.leadsTo_of_succeeds fun time => Migration.succeeds_provideSchema ?_
  cases h with
  | bare => exact clean.named
  | provided deposits withdrawals => exact clean.named

theorem leadsTo_down (h : base.Between store) (clean : base.Clear) :
    withdrawSchema.LeadsTo store base := by
  refine Program.leadsTo_of_succeeds fun time => ?_
  cases h with
  | bare =>
    have onTables : ∀ i ∈ base.indexes, base.ledger i.direction ≠ none := by
      rw [clean.indexes]
      exact fun i hi => absurd hi List.not_mem_nil
    have down : Succeeds time withdrawSchema base () base.withdrawLedger.withdrawParents :=
      succeeds_withdrawSchema clean.named onTables
    rw [clean.withdraw_self] at down
    exact down
  | provided deposits withdrawals =>
    let store : Store :=
      { base.withSchema with deposits := some deposits, withdrawals := some withdrawals }
    have onTables : ∀ i ∈ store.indexes, store.ledger i.direction ≠ none := by
      intro i _
      cases i.direction with
      | deposit => exact Option.some_ne_none _
      | withdrawal => exact Option.some_ne_none _
    have named : store.Named := clean.named
    have down : Succeeds time withdrawSchema store () store.withdrawLedger.withdrawParents :=
      succeeds_withdrawSchema named onTables
    rw [clean.withdraw_withSchema deposits withdrawals] at down
    exact down

theorem withSchema (h : base.Between store) : base.Between store.withSchema := by
  cases h with
  | bare => exact .provided _ _
  | provided deposits withdrawals =>
    rw [base.withSchema_of_ledger deposits withdrawals]
    exact .provided deposits withdrawals

theorem ledgerOnly (h : base.Between store) (clean : base.Clear)
    (change : store.LedgerOnly store') : base.Between store' := by
  cases h with
  | bare =>
    have deposits : store'.deposits = none := (change.tables .deposit).mpr clean.deposits
    have withdrawals : store'.withdrawals = none :=
      (change.tables .withdrawal).mpr clean.withdrawals
    have same : store' = base := by
      rw [← clean.deposits] at deposits
      rw [← clean.withdrawals] at withdrawals
      rw [change.others, deposits, withdrawals]
    rw [same]
    exact .bare
  | provided deposits withdrawals =>
    have there : ∀ d, store'.ledger d ≠ none := fun d none => by
      have before := (change.tables d).mp none
      cases d <;> cases before
    obtain ⟨deposits', hdeposits⟩ := Option.ne_none_iff_exists'.mp (there .deposit)
    obtain ⟨withdrawals', hwithdrawals⟩ := Option.ne_none_iff_exists'.mp (there .withdrawal)
    have same : store' = { base.withSchema with
        deposits := some deposits', withdrawals := some withdrawals' } := by
      rw [change.others, show store'.deposits = _ from hdeposits,
        show store'.withdrawals = _ from hwithdrawals]
    rw [same]
    exact .provided deposits' withdrawals'

theorem phase (h : base.Between store) (clean : base.Clear) {phase : Phase}
    (spares : phase.SparesParents) : base.Between (store.phase phase) := by
  cases phase with
  | up clock =>
    obtain ⟨_, count, state⟩ := h.leadsTo_up clean { store, clock } rfl rfl
    rw [Store.phase, state]
    exact h.withSchema
  | down clock =>
    obtain ⟨_, count, state⟩ := h.leadsTo_down clean { store, clock } rfl rfl
    rw [Store.phase, state]
    exact .bare
  | use happenings => exact h.ledgerOnly clean (store.ledgerOnly_busy spares)

theorem through (h : base.Between store) (clean : base.Clear) {phases : List Phase}
    (spares : ∀ phase ∈ phases, phase.SparesParents) : base.Between (store.through phases) := by
  induction phases generalizing store with
  | nil => exact h
  | cons phase rest ih =>
    exact ih (h.phase clean (spares phase List.mem_cons_self)) fun p hp =>
      spares p (List.mem_cons_of_mem _ hp)

/-- Users and currencies that were there at first are there still, with all their rows. -/
theorem parents (h : base.Between store) :
    (∀ table, base.users = some table → store.users = some table) ∧
      ∀ table, base.currencies = some table → store.currencies = some table := by
  cases h with
  | bare => exact ⟨fun _ => id, fun _ => id⟩
  | provided deposits withdrawals =>
    exact ⟨base.within_withSchema.users, base.within_withSchema.currencies⟩

end Between

end Store

/-- A store has no ledger tables, and its users and currencies, if it has any, belong to somebody
else. However often the schema is provided and withdrawn there, and the ledger used in between:
providing it succeeds, and all of its tables are there; withdrawing it succeeds, and the store is
what it was at first, so that what was created is gone; and the users and currencies that were there
at first are there all the time, with all their rows and not marked as owned. -/
theorem rollback_exact (base : Store) (clean : base.Clear) (phases : List Phase)
    (spares : ∀ phase ∈ phases, phase.SparesParents) :
    (∃ store, provideSchema.LeadsTo (base.through phases) store ∧
      (∀ clock, base.through (phases ++ [.up clock]) = store) ∧
      ∀ t : Table, store.hasTable t = true) ∧
    (withdrawSchema.LeadsTo (base.through phases) base ∧
      ∀ clock, base.through (phases ++ [.down clock]) = base) ∧
    (∀ table, base.users = some table →
      (base.through phases).users = some table ∧ table.comment ≠ some ownerComment) ∧
    ∀ table, base.currencies = some table →
      (base.through phases).currencies = some table ∧ table.comment ≠ some ownerComment := by
  have between : base.Between (base.through phases) :=
    Store.Between.bare.through clean spares
  have up := between.leadsTo_up clean
  have down := between.leadsTo_down clean
  refine ⟨⟨_, up, fun clock => ?_, Store.hasTable_withSchema _⟩, ⟨down, fun clock => ?_⟩,
    fun table here => ⟨between.parents.1 table here, fun owned => ?_⟩,
    fun table here => ⟨between.parents.2 table here, fun owned => ?_⟩⟩
  · obtain ⟨_, count, state⟩ := up { store := base.through phases, clock } rfl rfl
    rw [Store.through, List.foldl_append]
    exact congrArg Session.store state
  · obtain ⟨_, count, state⟩ := down { store := base.through phases, clock } rfl rfl
    rw [Store.through, List.foldl_append]
    exact congrArg Session.store state
  · refine clean.foreign .user ?_
    change base.users.map (·.comment) = _
    rw [here, Option.map_some, owned]
  · refine clean.foreign .currency ?_
    change base.currencies.map (·.comment) = _
    rw [here, Option.map_some, owned]

namespace Race

/-- Users and currencies of somebody else. -/
def accounts : Store where
  users := some { rows := [user] }
  currencies := some { comment := some "rates", rows := [currency] }

/-- The schema is withdrawn although it is not there, and provided. Then deposits are inserted, of
which one is taken. -/
def phases : List Phase :=
  [.down 5, .up 6, .use (additions.drop 2)]

end Race

theorem rollback_exact_accounts :
    Race.accounts.Clear ∧
      (Race.accounts.through Race.phases).postings .deposit =
        [Race.deposit .created (Race.time 10)] ∧
      Race.accounts.through (Race.phases ++ [.down 20]) = Race.accounts := by
  have clean : Race.accounts.Clear := {
    foreign := by
      intro parent
      cases parent <;> decide
    deposits := rfl
    withdrawals := rfl
    types := by decide
    indexes := rfl
    named := fun x hx => absurd hx List.not_mem_nil }
  have spares : ∀ phase ∈ Race.phases, phase.SparesParents := by
    simp [Race.phases, Race.additions, Phase.SparesParents, Happening.SparesParents]
  obtain ⟨_, ⟨_, down⟩, _⟩ := rollback_exact Race.accounts clean Race.phases spares
  exact ⟨clean, by decide +kernel, down 20⟩

end FundsLedger
