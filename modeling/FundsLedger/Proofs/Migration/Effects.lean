import FundsLedger.Migration.History
import FundsLedger.Proofs.Session.Success
import FundsLedger.Proofs.Store.Statements

/-!
# What the migrations do to a store

Applying a migration provides what is not there yet and leaves the rest alone. Rolling it back
withdraws what it owns. Each of the two is told here as a change of the store, and the second change
undoes the first one on a store that had nothing of the migration before.
-/

namespace FundsLedger

open Database (Answer Index Parent Statement Table)
open Database.Program (Succeeds)
open Migration (ledgerIndexes ownerComment)
open Time (Timestamp)

namespace Store

def commentOf (store : Store) : Table → Option (Option String)
  | .users => store.users.map (·.comment)
  | .currencies => store.currencies.map (·.comment)
  | .ledger d => (store.ledger d).map (·.comment)

/-- Whether the relations that the ledger knows nothing of have names of their own. Tables and indexes
share one space of names. -/
def Named (store : Store) : Prop :=
  ∀ x ∈ store.others, (∀ t : Table, x.1 ≠ t.name) ∧ ∀ i : Index, x.1 ≠ i.name

/-- The store with the table of a parent. It is marked as owned if it was not there before. -/
def provideParent (store : Store) : Parent → Store
  | .user => { store with users := some (store.users.getD { comment := some ownerComment }) }
  | .currency =>
    { store with currencies := some (store.currencies.getD { comment := some ownerComment }) }

/-- The store without the table of a parent, if that is marked as owned. -/
def withdrawParent (store : Store) : Parent → Store
  | .user => { store with users := store.users.filter (·.comment ≠ some ownerComment) }
  | .currency =>
    { store with currencies := store.currencies.filter (·.comment ≠ some ownerComment) }

def provideParents (store : Store) : Store :=
  (store.provideParent .user).provideParent .currency

/-- The store without users and currencies, as far as they are marked as owned. -/
def withdrawParents (store : Store) : Store :=
  (store.withdrawParent .currency).withdrawParent .user

def addIndex (indexes : List Index) (i : Index) : List Index :=
  if i ∈ indexes then indexes else indexes ++ [i]

def provideLedger (store : Store) : Store :=
  { store with
    types := if TypeName.status ∈ store.types then store.types else store.types ++ [.status]
    deposits := some (store.deposits.getD {})
    withdrawals := some (store.withdrawals.getD {})
    indexes := ledgerIndexes.foldl addIndex store.indexes }

def withdrawLedger (store : Store) : Store :=
  { store with
    types := store.types.filter (· ≠ .status)
    deposits := none
    withdrawals := none
    indexes := [] }

variable {store : Store} {time : Timestamp}

/-! ### Looking tables up -/

theorem lookup_entry {ρ : Type} (name key : String) (table : Option (Relation ρ)) :
    (table.toList.map fun t => (name, t.comment, t.rows.length)).lookup key =
      if key = name then table.map fun t => (t.comment, t.rows.length) else none := by
  cases table with
  | none => simp
  | some t =>
    by_cases h : key = name
    · simp [h]
    · simp [h, List.lookup_cons, beq_eq_false_iff_ne.mpr h]

theorem comment?_name (named : store.Named) (t : Table) :
    store.comment? t.name = store.commentOf t := by
  have unknown : (store.others.map fun x => (x.1, x.2, 0)).lookup t.name = none := by
    simp only [List.lookup_eq_none_iff, List.mem_map, bne_iff_ne, forall_exists_index, and_imp]
    rintro _ x hx rfl
    exact ((named x hx).1 t).symm
  simp only [comment?, tables, List.lookup_append, lookup_entry, unknown]
  rcases t with _ | _ | d
  · simp [Table.name, Direction.table, Database.historyTable, commentOf, Function.comp_def]
  · simp [Table.name, Direction.table, Database.historyTable, commentOf, Function.comp_def]
  · cases d <;>
      simp [Table.name, Direction.table, Database.historyTable, commentOf, ledger, Function.comp_def]

theorem isSome_commentOf (t : Table) : (store.commentOf t).isSome = store.hasTable t := by
  rcases t with _ | _ | d <;> simp [commentOf, hasTable]

/-! ### Tables of somebody else -/

theorem filter_foreign {ρ : Type} {table : Option (Relation ρ)}
    (foreign : table.map (·.comment) ≠ some (some ownerComment)) :
    table.filter (·.comment ≠ some ownerComment) = table := by
  cases table with
  | none => rfl
  | some t =>
    have notOwned : t.comment ≠ some ownerComment := fun owned => foreign (congrArg some owned)
    simp [notOwned]

theorem withdrawParent_eq_self {parent : Parent}
    (foreign : store.commentOf parent.table ≠ some (some ownerComment)) :
    store.withdrawParent parent = store := by
  cases parent with
  | user => simp only [withdrawParent, filter_foreign foreign]
  | currency => simp only [withdrawParent, filter_foreign foreign]

end Store

namespace Migration

variable {store store' : Store} {time : Timestamp}

theorem succeeds_isPresent (named : store.Named) (t : Table) :
    Succeeds time (isPresent t) store (store.hasTable t) store := by
  rw [← Store.isSome_commentOf, ← Store.comment?_name named]
  exact (Succeeds.first rfl rfl).bind .done

theorem succeeds_isOwned (named : store.Named) (t : Table) :
    Succeeds time (isOwned t) store (store.commentOf t == some (some ownerComment)) store := by
  rw [← Store.comment?_name named]
  exact (Succeeds.first rfl rfl).bind .done

theorem succeeds_actAll_cons {s : Statement} {rest : List Statement} {answer : Answer}
    {store'' : Store} (h : store.execute time s = .ok (answer, store'))
    (hrest : Succeeds time (actAll rest) store' () store'') :
    Succeeds time (actAll (s :: rest)) store () store'' :=
  (Succeeds.act h).bind hrest

/-! ### Users and currencies -/

theorem succeeds_provide (named : store.Named) (parent : Parent) :
    Succeeds time (provide parent.table) store () (store.provideParent parent) := by
  refine (succeeds_isPresent named _).bind ?_
  cases parent with
  | user =>
    rcases store with ⟨_ | users, currencies, deposits, withdrawals, history, others, types, indexes⟩
    · exact succeeds_actAll_cons rfl (succeeds_actAll_cons rfl .done)
    · exact .done
  | currency =>
    rcases store with ⟨users, _ | currencies, deposits, withdrawals, history, others, types, indexes⟩
    · exact succeeds_actAll_cons rfl (succeeds_actAll_cons rfl .done)
    · exact .done

theorem dropTable_parent {parent : Parent}
    (h : store.commentOf parent.table = some (some ownerComment))
    (unused : store.hasLedger = false) :
    store.dropTable parent.table = .ok (store.withdrawParent parent) := by
  cases parent with
  | user =>
    obtain ⟨table, htable, owned⟩ := Option.map_eq_some_iff.mp h
    simp [Store.dropTable, Store.hasTable, Store.check, Store.withdrawParent, Parent.table,
      Option.filter, htable, owned, unused, bind, Except.bind, pure, Except.pure]
  | currency =>
    obtain ⟨table, htable, owned⟩ := Option.map_eq_some_iff.mp h
    simp [Store.dropTable, Store.hasTable, Store.check, Store.withdrawParent, Parent.table,
      Option.filter, htable, owned, unused, bind, Except.bind, pure, Except.pure]

theorem succeeds_withdraw (named : store.Named) (unused : store.hasLedger = false)
    (parent : Parent) :
    Succeeds time (withdraw parent.table) store () (store.withdrawParent parent) := by
  refine (succeeds_isOwned named _).bind ?_
  by_cases owned : store.commentOf parent.table = some (some ownerComment)
  · rw [beq_iff_eq.mpr owned]
    have drop : store.execute time (.dropTable parent.table) =
        .ok (.affected 0, store.withdrawParent parent) := by
      simp only [Store.execute, dropTable_parent owned unused]
      rfl
    exact succeeds_actAll_cons drop .done
  · rw [beq_eq_false_iff_ne.mpr owned, Store.withdrawParent_eq_self owned]
    exact .done

theorem succeeds_provideParents (named : store.Named) :
    Succeeds time usersAndCurrencies.up store () store.provideParents := by
  have named' : (store.provideParent .user).Named := named
  exact (succeeds_provide named .user).bind (succeeds_provide named' .currency)

theorem succeeds_withdrawParents (named : store.Named) (unused : store.hasLedger = false) :
    Succeeds time usersAndCurrencies.down store () store.withdrawParents := by
  have named' : (store.withdrawParent .currency).Named := named
  have unused' : (store.withdrawParent .currency).hasLedger = false := unused
  exact (succeeds_withdraw named unused .currency).bind (succeeds_withdraw named' unused' .user)

/-! ### The ledger tables -/

theorem createTable_ledger {d : Direction} (types : TypeName.status ∈ store.types)
    (users : store.users ≠ none) (currencies : store.currencies ≠ none) :
    store.createTable (.ledger d) =
      .ok (store.setLedger d (some ((store.ledger d).getD {}))) := by
  obtain ⟨users, husers⟩ := Option.ne_none_iff_exists'.mp users
  obtain ⟨currencies, hcurrencies⟩ := Option.ne_none_iff_exists'.mp currencies
  cases h : store.ledger d with
  | none =>
    simp [Store.createTable, Store.hasTable, Store.check, Store.require, h, types, husers,
      hcurrencies, bind, Except.bind, pure, Except.pure]
  | some table =>
    rw [Option.getD_some, ← h, Store.setLedger_ledger]
    simp [Store.createTable, Store.hasTable, h]

theorem succeeds_createIndexes {indexes : List Index}
    (h : ∀ i ∈ indexes, store.ledger i.direction ≠ none) :
    Succeeds time (actAll (indexes.map .createIndex)) store ()
      { store with indexes := indexes.foldl Store.addIndex store.indexes } := by
  induction indexes generalizing store with
  | nil => exact .done
  | cons i rest ih =>
    obtain ⟨table, htable⟩ := Option.ne_none_iff_exists'.mp (h i List.mem_cons_self)
    let created : Store := { store with indexes := Store.addIndex store.indexes i }
    have create : store.createIndex i = .ok created := by
      by_cases hi : i ∈ store.indexes
      · simp [created, Store.createIndex, Store.require, Store.addIndex, htable, hi, bind,
          Except.bind, pure, Except.pure]
      · simp [created, Store.createIndex, Store.require, Store.addIndex, htable, hi, bind,
          Except.bind, pure, Except.pure]
    have answered : store.execute time (.createIndex i) = .ok (.affected 0, created) := by
      simp only [Store.execute, create]
      rfl
    have tables : ∀ j ∈ rest, created.ledger j.direction ≠ none := fun j hj =>
      h j (List.mem_cons_of_mem _ hj)
    exact succeeds_actAll_cons answered (ih tables)

/-- The tables of the second migration and their indexes, once the enumeration is there. -/
theorem succeeds_ledgerTables (typed : TypeName.status ∈ store.types) (users : store.users ≠ none)
    (currencies : store.currencies ≠ none) :
    Succeeds time (do
      actAll [.createTable (.ledger .deposit), .createTable (.ledger .withdrawal)]
      actAll (ledgerIndexes.map .createIndex)) store ()
      { store with
        deposits := some (store.deposits.getD {})
        withdrawals := some (store.withdrawals.getD {})
        indexes := ledgerIndexes.foldl Store.addIndex store.indexes } := by
  let first : Store := { store with deposits := some (store.deposits.getD {}) }
  let both : Store := { first with withdrawals := some (store.withdrawals.getD {}) }
  have deposits : store.execute time (.createTable (.ledger .deposit)) =
      .ok (.affected 0, first) := by
    rw [Store.execute, createTable_ledger typed users currencies]
    rfl
  have withdrawals : first.execute time (.createTable (.ledger .withdrawal)) =
      .ok (.affected 0, both) := by
    have typed : TypeName.status ∈ first.types := typed
    rw [Store.execute, createTable_ledger typed users currencies]
    rfl
  have there : ∀ d, both.ledger d ≠ none := by
    intro d
    cases d with
    | deposit => exact Option.some_ne_none _
    | withdrawal => exact Option.some_ne_none _
  exact (succeeds_actAll_cons deposits (succeeds_actAll_cons withdrawals .done)).bind
    (succeeds_createIndexes fun i _ => there i.direction)

theorem succeeds_provideLedger (users : store.users ≠ none) (currencies : store.currencies ≠ none) :
    Succeeds time depositsAndWithdrawals.up store () store.provideLedger := by
  unfold Store.provideLedger
  by_cases typed : TypeName.status ∈ store.types
  · have found : store.execute time .statusTypeFound = .ok (.rows [[]], store) := by
      simp only [Store.execute, if_pos typed]
      rfl
    rw [if_pos typed]
    exact (Succeeds.first found rfl).bind (succeeds_ledgerTables typed users currencies)
  · have found : store.execute time .statusTypeFound = .ok (.rows [], store) := by
      simp only [Store.execute, if_neg typed]
      rfl
    let typedStore : Store := { store with types := store.types ++ [.status] }
    have create : store.execute time .createStatusType = .ok (.affected 0, typedStore) := by
      simp only [Store.execute, Store.check, if_pos typed]
      rfl
    have typedStore_types : TypeName.status ∈ typedStore.types :=
      List.mem_append_right _ (List.mem_singleton_self _)
    rw [if_neg typed]
    exact (Succeeds.first found rfl).bind ((succeeds_actAll_cons create .done).bind
      (succeeds_ledgerTables typedStore_types users currencies))

theorem dropTable_ledger {d : Direction}
    (onTables : ∀ i ∈ store.indexes, store.ledger i.direction ≠ none) :
    store.dropTable (.ledger d) =
      .ok { store.setLedger d none with indexes := store.indexes.filter (·.direction ≠ d) } := by
  cases h : store.ledger d with
  | none =>
    have kept : store.indexes.filter (·.direction ≠ d) = store.indexes :=
      List.filter_eq_self.mpr fun i hi => decide_eq_true fun hd => onTables i hi (hd ▸ h)
    rw [kept, ← h, Store.setLedger_ledger]
    simp [Store.dropTable, Store.hasTable, h]
  | some table => simp [Store.dropTable, Store.hasTable, h]

theorem dropStatusType_eq_ok (unused : store.hasLedger = false) :
    store.dropStatusType = .ok { store with types := store.types.filter (· ≠ .status) } := by
  by_cases typed : TypeName.status ∈ store.types
  · simp [Store.dropStatusType, Store.check, typed, unused, bind, Except.bind, pure, Except.pure]
  · have kept : store.types.filter (· ≠ .status) = store.types :=
      List.filter_eq_self.mpr fun t ht => decide_eq_true fun h => typed (h ▸ ht)
    rw [kept]
    simp [Store.dropStatusType, typed, pure, Except.pure]

theorem succeeds_withdrawLedger (onTables : ∀ i ∈ store.indexes, store.ledger i.direction ≠ none) :
    Succeeds time depositsAndWithdrawals.down store () store.withdrawLedger := by
  let first : Store :=
    { store with
      withdrawals := none
      indexes := store.indexes.filter (·.direction ≠ .withdrawal) }
  let both : Store :=
    { first with
      deposits := none
      indexes := first.indexes.filter (·.direction ≠ .deposit) }
  have withdrawals : store.execute time (.dropTable (.ledger .withdrawal)) =
      .ok (.affected 0, first) := by
    rw [Store.execute, dropTable_ledger onTables]
    rfl
  -- The indexes on withdrawals are gone by now, and those on deposits still have their table.
  have onDeposits : ∀ i ∈ first.indexes, first.ledger i.direction ≠ none := by
    intro i hi
    obtain ⟨hi, hd⟩ := List.mem_filter.mp hi
    have there := onTables i hi
    cases h : i.direction with
    | deposit =>
      rw [h] at there
      exact there
    | withdrawal =>
      rw [h] at hd
      exact absurd hd (by decide)
  have deposits : first.execute time (.dropTable (.ledger .deposit)) = .ok (.affected 0, both) := by
    rw [Store.execute, dropTable_ledger onDeposits]
    rfl
  have types : both.execute time .dropStatusType = .ok (.affected 0, store.withdrawLedger) := by
    have none : both.indexes = [] := by
      rw [List.filter_eq_nil_iff]
      intro i hi
      obtain ⟨-, hd⟩ := List.mem_filter.mp hi
      cases h : i.direction with
      | deposit => decide
      | withdrawal => exact absurd hd (by rw [h]; decide)
    have unused : both.hasLedger = false := rfl
    rw [Store.execute, dropStatusType_eq_ok unused, none]
    rfl
  exact succeeds_actAll_cons withdrawals (succeeds_actAll_cons deposits
    (succeeds_actAll_cons types .done))

end Migration

namespace Store

variable {store : Store}

/-! ### Back again -/

/-- What the second migration does is undone on a store that had nothing of it. -/
theorem withdrawLedger_provideLedger (deposits : store.deposits = none)
    (withdrawals : store.withdrawals = none) (types : TypeName.status ∉ store.types)
    (indexes : store.indexes = []) : store.provideLedger.withdrawLedger = store := by
  have kept : store.types.filter (· ≠ .status) = store.types :=
    List.filter_eq_self.mpr fun t ht => decide_eq_true fun h => types (h ▸ ht)
  rw [provideLedger, withdrawLedger, if_neg types, List.filter_append, kept]
  rw [List.filter_cons_of_neg (by simp), List.filter_nil, List.append_nil]
  rcases store with ⟨users, currencies, _, _, history, others, types, _⟩
  cases deposits
  cases withdrawals
  cases indexes
  rfl

theorem filter_provided {ρ : Type} {table : Option (Relation ρ)}
    (foreign : table.map (·.comment) ≠ some (some ownerComment)) :
    (some (table.getD { comment := some ownerComment })).filter (·.comment ≠ some ownerComment) =
      table := by
  cases table with
  | none => simp
  | some t => exact filter_foreign foreign

/-- What the first migration does is undone on a store whose users and currencies, if they are there,
belong to somebody else. -/
theorem withdrawParents_provideParents
    (foreign : ∀ parent : Parent, store.commentOf parent.table ≠ some (some ownerComment)) :
    store.provideParents.withdrawParents = store := by
  have users : (some (store.users.getD { comment := some ownerComment })).filter
      (·.comment ≠ some ownerComment) = store.users := filter_provided (foreign .user)
  have currencies : (some (store.currencies.getD { comment := some ownerComment })).filter
      (·.comment ≠ some ownerComment) = store.currencies := filter_provided (foreign .currency)
  simp only [provideParents, withdrawParents, provideParent, withdrawParent]
  rw [users, currencies]

end Store

end FundsLedger
