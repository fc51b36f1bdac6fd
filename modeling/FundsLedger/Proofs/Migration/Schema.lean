import FundsLedger.Proofs.Migration.Effects
import Mathlib.Data.List.Count
import Mathlib.Data.List.Nodup

/-!
# The schema as a whole

The migrations can be applied and rolled back without any record of it. Whatever part of the schema
is there already, applying them creates what is missing and leaves alone what is there, and a second
time there is nothing left to do. The main statement is `schema_idempotent`.
-/

namespace FundsLedger

open Database (Failure Index Program Table)
open Database.Program (Succeeds)
open Migration (ledgerIndexes)
open Time (Timestamp)

namespace Migration

/-- Applies migrations in order, without any record of it. -/
def applyEach : List Migration → Program Failure Unit
  | [] => .done ()
  | m :: rest => do
    m.up
    applyEach rest

def undoEach : List Migration → Program Failure Unit
  | [] => .done ()
  | m :: rest => do
    m.down
    undoEach rest

def provideSchema : Program Failure Unit := applyEach all

def withdrawSchema : Program Failure Unit := undoEach all.reverse

end Migration

/-- In every session that has the store `store` and no failed transaction, the program succeeds and
leaves `store'`, and all else of the session is as before but for the count of statements. -/
def Database.Program.LeadsTo {ε : Type} (p : Program ε Unit) (store store' : Store) : Prop :=
  ∀ session : Session, session.store = store → session.aborted = false →
    (p.run (Session.connection {}) session).result = .ok () ∧
      ∃ count, (p.run (Session.connection {}) session).state =
        { session with store := store', count }

theorem Database.Program.leadsTo_of_succeeds {ε : Type} {p : Program ε Unit} {store store' : Store}
    (h : ∀ time, Succeeds time p store () store') : p.LeadsTo store store' := fun _ hstore sound =>
  (h _).run hstore rfl sound

namespace Store

def withSchema (store : Store) : Store :=
  store.provideParents.provideLedger

/-- What has a name in a store is the only thing of that name and kind. -/
structure Distinct (store : Store) : Prop where
  named : store.Named
  types : store.types.Nodup
  indexes : store.indexes.Nodup

/-- The whole schema is there, and all of it once. -/
structure Complete (store : Store) : Prop where
  tables : ∀ t : Table, (store.tables.map (·.1)).count t.name = 1
  type : store.types.count .status = 1
  indexes : ∀ i : Index, store.indexes.count i = 1

/-- Everything that is in the first store is in the second, just as it was: each table with its rows
and its comment, each type and each index. -/
structure Within (store store' : Store) : Prop where
  users : ∀ table, store.users = some table → store'.users = some table
  currencies : ∀ table, store.currencies = some table → store'.currencies = some table
  ledger : ∀ d table, store.ledger d = some table → store'.ledger d = some table
  history : store'.history = store.history
  others : store'.others = store.others
  types : store.types <+: store'.types
  indexes : store.indexes <+: store'.indexes

variable {store : Store} {indexes added : List Index} {i : Index}

/-! ### Indexes -/

theorem mem_addIndex {j : Index} : i ∈ addIndex indexes j ↔ i ∈ indexes ∨ i = j := by
  unfold addIndex
  split
  · rename_i hj
    constructor
    · exact .inl
    · rintro (hi | rfl)
      · exact hi
      · exact hj
  · simp

theorem mem_foldl_addIndex : i ∈ added.foldl addIndex indexes ↔ i ∈ indexes ∨ i ∈ added := by
  induction added generalizing indexes with
  | nil => simp
  | cons j rest ih => rw [List.foldl_cons, ih, mem_addIndex, List.mem_cons, or_assoc]

theorem nodup_addIndex (h : indexes.Nodup) (j : Index) : (addIndex indexes j).Nodup := by
  unfold addIndex
  split
  · exact h
  · rename_i hj
    rw [List.nodup_append']
    refine ⟨h, List.nodup_singleton _, ?_⟩
    simpa using hj

theorem nodup_foldl_addIndex (h : indexes.Nodup) : (added.foldl addIndex indexes).Nodup := by
  induction added generalizing indexes with
  | nil => exact h
  | cons j rest ih => exact ih (nodup_addIndex h j)

theorem prefix_foldl_addIndex : indexes <+: added.foldl addIndex indexes := by
  induction added generalizing indexes with
  | nil => exact List.prefix_rfl
  | cons j rest ih =>
    refine List.IsPrefix.trans ?_ ih
    unfold addIndex
    split
    · exact List.prefix_rfl
    · exact List.prefix_append _ _

theorem foldl_addIndex_of_subset (h : ∀ j ∈ added, j ∈ indexes) :
    added.foldl addIndex indexes = indexes := by
  induction added with
  | nil => rfl
  | cons j rest ih =>
    have here : addIndex indexes j = indexes := if_pos (h j List.mem_cons_self)
    rw [List.foldl_cons, here]
    exact ih fun k hk => h k (List.mem_cons_of_mem _ hk)

theorem mem_ledgerIndexes (i : Index) : i ∈ ledgerIndexes := by
  rcases i with ⟨d, parent⟩
  cases d <;> cases parent <;> decide

/-! ### Everything is there -/

theorem count_entry {ρ : Type} (name key : String) (table : Option (Relation ρ)) :
    ((table.toList.map fun t => (name, t.comment, t.rows.length)).map (·.1)).count key =
      if key = name then table.isSome.toNat else 0 := by
  cases table with
  | none => simp
  | some t =>
    by_cases h : key = name
    · simp [h]
    · simp [h, Ne.symm h]

/-- A table that the ledger knows of is listed once if it is there. -/
theorem count_tables (named : store.Named) (t : Table) :
    (store.tables.map (·.1)).count t.name = (store.hasTable t).toNat := by
  have unknown : ((store.others.map fun x => (x.1, x.2, 0)).map (·.1)).count t.name = 0 := by
    rw [List.count_eq_zero, List.map_map]
    intro hmem
    obtain ⟨x, hx, heq⟩ := List.mem_map.mp hmem
    exact (named x hx).1 t heq
  simp only [tables, List.map_append, List.count_append, count_entry, unknown]
  rcases t with _ | _ | d
  · simp [Table.name, Direction.table, Database.historyTable, hasTable]
  · simp [Table.name, Direction.table, Database.historyTable, hasTable]
  · cases d <;> simp [Table.name, Direction.table, Database.historyTable, hasTable, ledger]

theorem hasTable_withSchema (store : Store) (t : Table) : store.withSchema.hasTable t = true := by
  rcases t with _ | _ | _ | _ <;> rfl

theorem complete_withSchema (distinct : store.Distinct) : store.withSchema.Complete where
  tables t := by
    have named : store.withSchema.Named := distinct.named
    rw [count_tables named, hasTable_withSchema, Bool.toNat_true]
  type := by
    change List.count TypeName.status
      (if TypeName.status ∈ store.types then store.types else store.types ++ [.status]) = 1
    split
    · rename_i typed
      exact List.count_eq_one_of_mem distinct.types typed
    · rename_i typed
      rw [List.count_append, List.count_eq_zero.mpr typed, List.count_singleton_self]
  indexes i := List.count_eq_one_of_mem (nodup_foldl_addIndex distinct.indexes)
    (mem_foldl_addIndex.mpr (.inr (mem_ledgerIndexes i)))

theorem within_withSchema (store : Store) : store.Within store.withSchema where
  users table h := by
    change some (store.users.getD _) = _
    rw [h, Option.getD_some]
  currencies table h := by
    change some (store.currencies.getD _) = _
    rw [h, Option.getD_some]
  ledger d table h := by
    cases d with
    | deposit =>
      change some (store.deposits.getD _) = _
      rw [show store.deposits = some table from h, Option.getD_some]
    | withdrawal =>
      change some (store.withdrawals.getD _) = _
      rw [show store.withdrawals = some table from h, Option.getD_some]
  history := rfl
  others := rfl
  types := by
    change store.types <+:
      if TypeName.status ∈ store.types then store.types else store.types ++ [.status]
    split
    · exact List.prefix_rfl
    · exact List.prefix_append _ _
  indexes := prefix_foldl_addIndex

theorem status_mem_withSchema (store : Store) : TypeName.status ∈ store.withSchema.types := by
  change TypeName.status ∈
    if TypeName.status ∈ store.types then store.types else store.types ++ [.status]
  split
  · assumption
  · exact List.mem_append_right _ (List.mem_singleton_self _)

/-- The schema is provided only once, whatever the ledger tables hold by then. -/
theorem withSchema_of_ledger (store : Store) (deposits withdrawals : Relation Posting) :
    withSchema { store.withSchema with
        deposits := some deposits, withdrawals := some withdrawals } =
      { store.withSchema with deposits := some deposits, withdrawals := some withdrawals } := by
  have indexes : ledgerIndexes.foldl addIndex store.withSchema.indexes =
      store.withSchema.indexes :=
    foldl_addIndex_of_subset fun j hj => mem_foldl_addIndex.mpr (.inr hj)
  change Store.mk _ _ _ _ _ _ (if TypeName.status ∈ store.withSchema.types then _ else _)
    (ledgerIndexes.foldl addIndex store.withSchema.indexes) = _
  rw [if_pos store.status_mem_withSchema, indexes]
  rfl

end Store

namespace Migration

variable {store : Store} {time : Timestamp}

theorem succeeds_provideSchema (named : store.Named) :
    Succeeds time provideSchema store () store.withSchema :=
  (succeeds_provideParents named).bind
    ((succeeds_provideLedger (Option.some_ne_none _) (Option.some_ne_none _)).bind .done)

end Migration

/-- Whatever part of the schema is there already, with whatever rows, and whatever types there are
elsewhere: applying the migrations succeeds, all of the schema is there afterwards and all of it
once, everything that was there before is as it was, and applying the migrations again succeeds and
changes nothing. -/
theorem schema_idempotent (store : Store) (distinct : store.Distinct) :
    Migration.provideSchema.LeadsTo store store.withSchema ∧ store.withSchema.Complete ∧
      store.Within store.withSchema ∧
      Migration.provideSchema.LeadsTo store.withSchema store.withSchema := by
  have again : store.withSchema.withSchema = store.withSchema :=
    store.withSchema_of_ledger (store.deposits.getD {}) (store.withdrawals.getD {})
  have named : store.withSchema.Named := distinct.named
  refine ⟨Program.leadsTo_of_succeeds fun _ => Migration.succeeds_provideSchema distinct.named,
    Store.complete_withSchema distinct, store.within_withSchema,
    Program.leadsTo_of_succeeds fun time => ?_⟩
  have second : Succeeds time Migration.provideSchema store.withSchema ()
      store.withSchema.withSchema := Migration.succeeds_provideSchema named
  rw [again] at second
  exact second

/-- Currencies of somebody else and a ledger table are there, with rows. Users are not, and the
enumeration is there only in another schema. -/
def Store.halfProvided : Store where
  currencies := some { rows := [⟨.nil, "USD", .zero, default⟩] }
  deposits := some {
    comment := some "kept"
    rows := [⟨.nil, .nil, .nil, .zero, .failed, default, default⟩] }
  types := [⟨"legacy", Database.statusType⟩]
  indexes := [⟨.deposit, .currency⟩]

theorem schema_idempotent_halfProvided :
    Store.halfProvided.Distinct ∧
      Migration.provideSchema.LeadsTo Store.halfProvided Store.halfProvided.withSchema ∧
      Store.halfProvided.withSchema.deposits = Store.halfProvided.deposits ∧
      Store.halfProvided.withSchema.types = [⟨"legacy", Database.statusType⟩, .status] ∧
      Migration.provideSchema.LeadsTo Store.halfProvided.withSchema
        Store.halfProvided.withSchema := by
  have distinct : Store.halfProvided.Distinct := {
    named := fun x hx => absurd hx List.not_mem_nil
    types := by decide
    indexes := by decide }
  obtain ⟨first, _, kept, second⟩ := schema_idempotent .halfProvided distinct
  exact ⟨distinct, first, kept.ledger .deposit _ rfl, by decide, second⟩

end FundsLedger
