import FundsLedger.Proofs.Migration.Effects

/-!
# The record of migrations

The record names the migrations that are applied, and what they created is there. What is said of a
store at each level is a ladder if a migration that is applied or rolled back leads to the next level
or the one before, and from that alone follows what is read from the record. A store is at a level of
the first ladder if the record names the first migrations and the rest of the store is what they make
of one that had nothing of them.
-/

namespace FundsLedger

open Database (Parent Row)
open Database.Program (Succeeds)
open Migration (all ownerComment)
open Time (Timestamp)

/-- The seconds of a timestamp fit in a column of 64 bits. -/
theorem Time.Timestamp.exists_signed (t : Timestamp) :
    ∃ n : Signed 64, Signed.ofInt? t.unixSeconds = some n := by
  have lower := t.valid.firstDay_le_utc
  have upper := t.valid.utc_lt
  have bound : Signed.bound 64 = 9223372036854775808 := by decide
  rw [Timestamp.firstDay_eq] at lower
  rw [Timestamp.lastDay_eq] at upper
  simp only [Time.secondsPerDay] at lower upper
  have fits : -Signed.bound 64 ≤ t.unixSeconds ∧ t.unixSeconds < Signed.bound 64 := by
    rw [bound, Timestamp.unixSeconds, Time.secondsPerDay]
    omega
  exact ⟨_, dif_pos fits⟩

namespace Store

/-- The versions that are recorded as applied, in the order in which they were. -/
def versions (store : Store) : List String :=
  (store.history.elim [] (·.rows)).map HistoryRow.version

def withHistory (store : Store) : Store :=
  { store with history := some (store.history.getD {}) }

variable {store : Store} {time : Timestamp}

theorem versions_withHistory : store.withHistory.versions = store.versions := by
  rcases store with ⟨users, currencies, deposits, withdrawals, _ | table, others, types, indexes⟩ <;>
    rfl

theorem mapM_historyRows (table : Relation HistoryRow) :
    ∃ versions, (historyRows table).mapM Migration.versionOf = .ok versions ∧
      versions.Perm (table.rows.map HistoryRow.version) := by
  refine ⟨(table.rows.mergeSort fun a b => a.version ≤ b.version).map HistoryRow.version, ?_,
    (List.mergeSort_perm _ _).map _⟩
  rw [historyRows, List.mapM_map]
  refine Eq.trans (congrArg (List.mapM · _) (funext fun h => ?_)) List.mapM_pure
  obtain ⟨n, hn⟩ := h.appliedAt.exists_signed
  simp [hn, Migration.versionOf, Row.text, Row.big, Row.get, Row.cell, List.lookup_cons, bind,
    Except.bind]

end Store

namespace Migration

variable {store : Store} {time : Timestamp}

theorem succeeds_provideHistory (times : Nat) :
    Succeeds time (provideHistory (times + 1)) store () store.withHistory := by
  induction times generalizing store with
  | zero => exact succeeds_actAll_cons rfl .done
  | succ times ih =>
    have again : Succeeds time (provideHistory (times + 1)) store.withHistory () store.withHistory :=
      ih
    exact succeeds_actAll_cons rfl again

/-- What is recorded is told for each migration, if nothing else is recorded. -/
theorem succeeds_standing (known : ∀ v ∈ store.versions, ∃ m ∈ all, m.name = v) :
    Succeeds time standing store (all.map fun m => (m, decide (m.name ∈ store.versions)))
      store.withHistory := by
  obtain ⟨versions, read, perm⟩ := Store.mapM_historyRows (store.history.getD {})
  have same : (store.history.getD {}).rows.map HistoryRow.version = store.versions :=
    Store.versions_withHistory
  rw [same] at perm
  have answered : store.withHistory.execute time .selectHistory =
      .ok (.rows (Store.historyRows (store.history.getD {})), store.withHistory) := rfl
  have none : unknownVersions versions = [] := by
    have kept : versions.filter (fun v => !all.any (·.name == v)) = [] := by
      refine List.filter_eq_nil_iff.mpr fun v hv => ?_
      obtain ⟨m, hm, rfl⟩ := known v (perm.mem_iff.mp hv)
      simpa using ⟨m, hm, rfl⟩
    rw [unknownVersions, kept]
    rfl
  have contains : ∀ name, versions.contains name = decide (name ∈ store.versions) := fun name =>
    Bool.eq_iff_iff.mpr (by simp [perm.mem_iff])
  refine (succeeds_provideHistory 1).bind ((Succeeds.every answered read).bind ?_)
  rw [none]
  simp only [contains]
  exact .done

/-! ### The first migrations -/

variable {k : Nat} {m : Migration}

theorem le_two_of_getElem? (hm : all[k]? = some m) : k + 1 ≤ 2 :=
  (List.getElem?_eq_some_iff.mp hm).1

theorem take_succ (hm : all[k]? = some m) : all.take (k + 1) = all.take k ++ [m] := by
  rw [List.take_add_one, hm, Option.toList_some]

theorem names_take_succ (hm : all[k]? = some m) :
    (all.take (k + 1)).map Migration.name = (all.take k).map Migration.name ++ [m.name] := by
  rw [take_succ hm, List.map_append, List.map_singleton]

theorem name_not_mem (hm : all[k]? = some m) : m.name ∉ (all.take k).map Migration.name := by
  have distinct : (all.map Migration.name).Nodup := by decide
  have nodup := distinct.sublist ((List.take_sublist (k + 1) all).map Migration.name)
  rw [names_take_succ hm, List.nodup_append'] at nodup
  exact fun hmem => nodup.2.2 hmem (List.mem_singleton_self _)

/-- What is said of the stores at each level. A migration leads up one level or down one, and all
that has to be said of the record is which versions it names. -/
structure Ladder (level : Nat → Store → Prop) : Prop where
  le {k : Nat} {store : Store} (h : level k store) : k ≤ 2
  versions {k : Nat} {store : Store} (h : level k store) :
    store.versions = (all.take k).map Migration.name
  withHistory {k : Nat} {store : Store} (h : level k store) : level k store.withHistory
  up {k : Nat} {store : Store} {m : Migration} (h : level k store) (hm : all[k]? = some m) :
    ∃ next : Store, next.history = store.history ∧ (∀ time, Succeeds time m.up store () next) ∧
      ∀ table : Relation HistoryRow,
        table.rows.map HistoryRow.version = (all.take (k + 1)).map Migration.name →
          level (k + 1) { next with history := some table }
  down {k : Nat} {store : Store} {m : Migration} (h : level (k + 1) store)
    (hm : all[k]? = some m) :
    ∃ next : Store, next.history = store.history ∧ (∀ time, Succeeds time m.down store () next) ∧
      ∀ table : Relation HistoryRow,
        table.rows.map HistoryRow.version = (all.take k).map Migration.name →
          level k { next with history := some table }

namespace Ladder

variable {level : Nat → Store → Prop} {table : Relation HistoryRow}

theorem recorded (l : Ladder level) (h : level k store) (here : store.history = some table) :
    table.rows.map HistoryRow.version = (all.take k).map Migration.name := by
  rw [← l.versions h, Store.versions, here]
  rfl

theorem known (l : Ladder level) (h : level k store) :
    ∀ v ∈ store.versions, ∃ m ∈ all, m.name = v := by
  intro v hv
  rw [l.versions h] at hv
  obtain ⟨m, hm, rfl⟩ := List.mem_map.mp hv
  exact ⟨m, List.mem_of_mem_take hm, rfl⟩

/-- The next migration is applied and recorded. -/
theorem step_up (l : Ladder level) (h : level k store) (here : store.history ≠ none)
    (hm : all[k]? = some m) (time : Timestamp) :
    ∃ next store', Succeeds time m.up store () next ∧
      next.execute time (.insertHistory m.name) = .ok (.affected 1, store') ∧
      level (k + 1) store' ∧ store'.history ≠ none := by
  obtain ⟨table, there⟩ := Option.ne_none_iff_exists'.mp here
  obtain ⟨next, same, applied, reached⟩ := l.up h hm
  have fresh : m.name ∉ table.rows.map HistoryRow.version := by
    rw [l.recorded h there]
    exact name_not_mem hm
  have appended : (Store.appendRow table ⟨m.name, time⟩).rows.map HistoryRow.version =
      (all.take (k + 1)).map Migration.name := by
    rw [names_take_succ hm, ← l.recorded h there]
    exact List.map_append
  refine ⟨next, { next with history := some (Store.appendRow table ⟨m.name, time⟩) }, applied time,
    ?_, reached _ appended, Option.some_ne_none _⟩
  simp only [Store.execute, same, there, Store.require, Store.check]
  simp [fresh, bind, Except.bind, pure, Except.pure]

/-- The last migration is rolled back and struck from the record. -/
theorem step_down (l : Ladder level) (h : level (k + 1) store) (here : store.history ≠ none)
    (hm : all[k]? = some m) (time : Timestamp) :
    ∃ next answer store', Succeeds time m.down store () next ∧
      next.execute time (.deleteHistory m.name) = .ok (answer, store') ∧
      level k store' ∧ store'.history ≠ none := by
  obtain ⟨table, there⟩ := Option.ne_none_iff_exists'.mp here
  obtain ⟨next, same, rolledBack, reached⟩ := l.down h hm
  let kept := table.rows.filter (·.version ≠ m.name)
  have struck : kept.map HistoryRow.version = (all.take k).map Migration.name := by
    have others : ((all.take k).map Migration.name).filter (· ≠ m.name) =
        (all.take k).map Migration.name :=
      List.filter_eq_self.mpr fun v hv => decide_eq_true fun same => name_not_mem hm (same ▸ hv)
    calc kept.map HistoryRow.version
        = (table.rows.map HistoryRow.version).filter (· ≠ m.name) := by rw [List.filter_map]; rfl
      _ = (all.take k).map Migration.name := by
        rw [l.recorded h there, names_take_succ hm, List.filter_append, others,
          List.filter_cons_of_neg (by simp), List.filter_nil, List.append_nil]
  refine ⟨next, .affected (table.rows.length - kept.length),
    { next with history := some { table with rows := kept } }, rolledBack time, ?_,
    reached { table with rows := kept } struck, Option.some_ne_none _⟩
  simp only [Store.execute, same, there, Store.require]
  rfl

/-! ### Reading the record -/

theorem succeeds_standing (l : Ladder level) (h : level k store) :
    Succeeds time standing store
      (all.map fun m => (m, decide (m.name ∈ (all.take k).map Migration.name)))
      store.withHistory := by
  rw [← l.versions h]
  exact Migration.succeeds_standing (l.known h)

theorem cases_level (l : Ladder level) (h : level k store) : k = 0 ∨ k = 1 ∨ k = 2 := by
  have le := l.le h
  omega

theorem succeeds_applied (l : Ladder level) (h : level k store) :
    Succeeds time applied store (all.take k) store.withHistory := by
  have told : ((all.map fun m => (m, decide (m.name ∈ (all.take k).map Migration.name))).filterMap
      fun x => if x.2 then some x.1 else none) = all.take k := by
    rcases l.cases_level h with rfl | rfl | rfl <;> rfl
  rw [← told]
  exact (succeeds_provideHistory 0).bind ((l.succeeds_standing (l.withHistory h)).bind .done)

theorem succeeds_pending (l : Ladder level) (h : level k store) :
    Succeeds time pending store (all.drop k) store.withHistory := by
  have told : ((all.map fun m => (m, decide (m.name ∈ (all.take k).map Migration.name))).filterMap
      fun x => if x.2 then none else some x.1) = all.drop k := by
    rcases l.cases_level h with rfl | rfl | rfl <;> rfl
  rw [← told]
  exact (succeeds_provideHistory 0).bind ((l.succeeds_standing (l.withHistory h)).bind .done)

end Ladder

end Migration

namespace Store

/-- A store that has nothing of the migrations. Users and currencies may be there, as long as they
belong to somebody else. -/
structure Untouched (store : Store) : Prop where
  versions : store.versions = []
  foreign : ∀ parent : Parent, store.commentOf parent.table ≠ some (some ownerComment)
  deposits : store.deposits = none
  withdrawals : store.withdrawals = none
  types : TypeName.status ∉ store.types
  indexes : store.indexes = []
  named : store.Named

/-- What the first `k` migrations make of a store. -/
def reached (base : Store) : Nat → Store
  | 0 => base
  | 1 => base.provideParents
  | _ => base.provideParents.provideLedger

/-- The record names the first `k` migrations, and they have made the rest of the store of `base`. -/
structure At (base : Store) (k : Nat) (store : Store) : Prop where
  le : k ≤ 2
  versions : store.versions = (all.take k).map Migration.name
  schema : store = { base.reached k with history := store.history }

variable {base store : Store} {time : Timestamp} {k : Nat} {m : Migration}

theorem untouched_blank : Store.blank.Untouched where
  versions := rfl
  foreign parent := by cases parent <;> decide
  deposits := rfl
  withdrawals := rfl
  types := List.not_mem_nil
  indexes := rfl
  named x hx := absurd hx List.not_mem_nil

theorem Untouched.at (h : base.Untouched) : base.At 0 base where
  le := by decide
  versions := h.versions
  schema := rfl

theorem At.withHistory (h : base.At k store) : base.At k store.withHistory where
  le := h.le
  versions := versions_withHistory.trans h.versions
  schema := congrArg Store.withHistory h.schema

theorem At.succeeds_up (h : base.At k store) (clean : base.Untouched) (hm : all[k]? = some m) :
    Succeeds time m.up store () { base.reached (k + 1) with history := store.history } := by
  have schema := h.schema
  generalize store.history = history at schema ⊢
  subst schema
  have named : Store.Named { base with history } := clean.named
  match k, hm with
  | 0, rfl => exact Migration.succeeds_provideParents named
  | 1, rfl =>
    exact Migration.succeeds_provideLedger (Option.some_ne_none _) (Option.some_ne_none _)

theorem At.succeeds_down (h : base.At (k + 1) store) (clean : base.Untouched)
    (hm : all[k]? = some m) :
    Succeeds time m.down store () { base.reached k with history := store.history } := by
  have schema := h.schema
  generalize store.history = history at schema ⊢
  subst schema
  match k, hm with
  | 0, rfl =>
    let start : Store := { base with history }
    have named : start.provideParents.Named := clean.named
    have unused : start.provideParents.hasLedger = false := by
      change (base.deposits.isSome || base.withdrawals.isSome) = false
      rw [clean.deposits, clean.withdrawals]
      rfl
    have foreign : ∀ parent : Parent, start.commentOf parent.table ≠ some (some ownerComment) :=
      clean.foreign
    have back : Succeeds time Migration.usersAndCurrencies.down start.provideParents ()
        start.provideParents.withdrawParents := Migration.succeeds_withdrawParents named unused
    rw [withdrawParents_provideParents foreign] at back
    exact back
  | 1, rfl =>
    let start : Store := { base.provideParents with history }
    have onTables : ∀ i ∈ start.provideLedger.indexes,
        start.provideLedger.ledger i.direction ≠ none := by
      intro i _
      cases i.direction with
      | deposit => exact Option.some_ne_none _
      | withdrawal => exact Option.some_ne_none _
    have undone : start.provideLedger.withdrawLedger = start :=
      withdrawLedger_provideLedger clean.deposits clean.withdrawals clean.types clean.indexes
    have back : Succeeds time Migration.depositsAndWithdrawals.down start.provideLedger ()
        start.provideLedger.withdrawLedger := Migration.succeeds_withdrawLedger onTables
    rw [undone] at back
    exact back

/-- The levels of a store that had nothing of the migrations before them. -/
theorem Untouched.ladder (clean : base.Untouched) : Migration.Ladder base.At where
  le h := h.le
  versions h := h.versions
  withHistory h := h.withHistory
  up {k store _} h hm :=
    ⟨{ base.reached (k + 1) with history := store.history }, rfl,
      fun _ => h.succeeds_up clean hm, fun _ recorded =>
        ⟨Migration.le_two_of_getElem? hm, recorded, rfl⟩⟩
  down {k store _} h hm :=
    ⟨{ base.reached k with history := store.history }, rfl,
      fun _ => h.succeeds_down clean hm, fun _ recorded => ⟨Nat.le_of_succ_le h.le, recorded, rfl⟩⟩

end Store

end FundsLedger
