import FundsLedger.Command.Migrate
import FundsLedger.Proofs.Migration.Failures
import FundsLedger.Proofs.Migration.Record

/-!
# Histories of migration tasks

The record of the migrations and the objects of the schema are changed by statements of their own, and
yet the two agree after every history of tasks: each task leads from one level to another. The main
statement is `record_agrees`.
-/

namespace FundsLedger

open Database (Failure Index Parent Program)
open Database.Program (Succeeds)
open Migration (Task all ledgerIndexes)
open Time (Timestamp)

theorem Migration.limited_eq_take {ms : List Migration} (few : ms.length ≤ 2)
    (steps : Option Nat) : limited steps ms = ms.take (steps.getD 2) := by
  cases steps with
  | none => exact (List.take_of_length_le few).symm
  | some n => rfl

namespace Migration.Ladder

variable {level : Nat → Store → Prop} {store : Store} {k : Nat}

/-- Applying migrations goes up by as many as there are, and no further than there are any. -/
theorem succeeds_applyAll (l : Ladder level) (h : level k store) (here : store.history ≠ none)
    (n : Nat) (time : Timestamp) :
    ∃ store', Succeeds time (applyAll ((all.drop k).take n)) store () store' ∧
      level (min 2 (k + n)) store' ∧ store'.history ≠ none := by
  induction n generalizing k store with
  | zero =>
    refine ⟨store, .done, ?_, here⟩
    rw [Nat.add_zero, Nat.min_eq_right (l.le h)]
    exact h
  | succ n ih =>
    rw [List.drop_eq_getElem?_toList_append]
    -- Past the last migration there is nothing more to apply, however many steps are left.
    cases hm : all[k]? with
    | none =>
      have hk : 2 ≤ k := List.getElem?_eq_none_iff.mp hm
      have last : k = 2 := Nat.le_antisymm (l.le h) hk
      subst last
      refine ⟨store, .done, ?_, here⟩
      rw [Nat.min_eq_left (by omega)]
      exact h
    | some m =>
      obtain ⟨next, store', applied, recorded, reached, there⟩ := l.step_up h here hm time
      obtain ⟨last, hrest, hlast, there'⟩ := ih reached there
      refine ⟨last, ?_, ?_, there'⟩
      · exact (Succeeds.report _).bind (applied.bind ((Succeeds.report _).bind
          ((Succeeds.act recorded).bind hrest)))
      · rw [show k + (n + 1) = k + 1 + n by omega]
        exact hlast

/-- Rolling migrations back, the last one first, goes down by as many as there are. -/
theorem succeeds_rollBackAll (l : Ladder level) (h : level k store) (here : store.history ≠ none)
    (n : Nat) (time : Timestamp) :
    ∃ store', Succeeds time (rollBackAll ((all.take k).reverse.take n)) store () store' ∧
      level (k - n) store' ∧ store'.history ≠ none := by
  induction n generalizing k store with
  | zero => exact ⟨store, .done, h, here⟩
  | succ n ih =>
    cases k with
    | zero =>
      refine ⟨store, .done, ?_, here⟩
      rw [Nat.zero_sub]
      exact h
    | succ k =>
      obtain ⟨m, hm⟩ : ∃ m, all[k]? = some m := ⟨_, List.getElem?_eq_getElem (l.le h)⟩
      obtain ⟨next, answer, store', rolledBack, struck, reached, there⟩ := l.step_down h here hm time
      obtain ⟨last, hrest, hlast, there'⟩ := ih reached there
      refine ⟨last, ?_, ?_, there'⟩
      · rw [take_succ hm, List.reverse_append, List.reverse_singleton]
        exact (Succeeds.report _).bind (rolledBack.bind ((Succeeds.report _).bind
          ((Succeeds.act struck).bind hrest)))
      · rw [Nat.add_sub_add_right]
        exact hlast

/-! ### Commands -/

/-- Applying what is pending does what applying the pending migrations one after the other does. -/
theorem succeeds_applyPending_of (l : Ladder level) (h : level k store) {steps : Option Nat}
    {time : Timestamp} {store' : Store}
    (applied : Succeeds time (applyAll (limited steps (all.drop k))) store.withHistory () store') :
    Succeeds time (applyPending steps) store () store' := by
  have rest : Succeeds time (do
      let migrations ← pending
      if migrations.isEmpty then Program.report "No pending migrations"
      applyAll (limited steps migrations)) store.withHistory () store' := by
    refine (l.succeeds_pending (l.withHistory h)).bind ?_
    split
    · exact (Succeeds.report _).bind applied
    · exact applied
  refine (succeeds_provideHistory 0).bind ?_
  cases steps with
  | none => exact (Succeeds.report _).bind rest
  | some n => exact (Succeeds.report _).bind rest

theorem succeeds_applyPending (l : Ladder level) (h : level k store) (steps : Option Nat)
    (time : Timestamp) :
    ∃ store', Succeeds time (applyPending steps) store () store' ∧
      level (min 2 (k + steps.getD 2)) store' ∧ store'.history ≠ none := by
  have limited : limited steps (all.drop k) = (all.drop k).take (steps.getD 2) :=
    limited_eq_take (by rw [List.length_drop]; exact Nat.sub_le _ _) steps
  obtain ⟨store', applied, reached, there⟩ :=
    l.succeeds_applyAll (l.withHistory h) (Option.some_ne_none _) (steps.getD 2) time
  rw [← limited] at applied
  exact ⟨store', l.succeeds_applyPending_of h applied, reached, there⟩

/-- Where every migration is applied, there is nothing left to do. -/
theorem succeeds_applyPending_last (l : Ladder level) (h : level 2 store) (steps : Option Nat)
    (time : Timestamp) : Succeeds time (applyPending steps) store () store.withHistory := by
  refine l.succeeds_applyPending_of h ?_
  have none : limited steps (all.drop 2) = [] :=
    (limited_eq_take (by decide) steps).trans List.take_nil
  rw [none]
  exact .done

theorem succeeds_rollBackApplied (l : Ladder level) (h : level k store) (steps : Option Nat)
    (time : Timestamp) :
    ∃ store', Succeeds time (rollBackApplied steps) store () store' ∧
      level (k - steps.getD 2) store' := by
  have limited : limited steps (all.take k).reverse = (all.take k).reverse.take (steps.getD 2) := by
    refine limited_eq_take ?_ steps
    rw [List.length_reverse, List.length_take]
    exact Nat.min_le_right _ _
  obtain ⟨store', rolledBack, reached, -⟩ :=
    l.succeeds_rollBackAll (l.withHistory h) (Option.some_ne_none _) (steps.getD 2) time
  rw [← limited] at rolledBack
  have rest : Succeeds time (do
      let migrations ← applied
      if migrations.isEmpty then Program.report "No applied migrations"
      rollBackAll (Migration.limited steps migrations.reverse)) store.withHistory () store' := by
    refine (l.succeeds_applied (l.withHistory h)).bind ?_
    split
    · exact (Succeeds.report _).bind rolledBack
    · exact rolledBack
  refine ⟨store', (succeeds_provideHistory 0).bind ?_, reached⟩
  cases steps with
  | none => exact (Succeeds.report _).bind rest
  | some n => exact (Succeeds.report _).bind rest

end Migration.Ladder

theorem Migration.succeeds_tell (told : List (Migration × Bool)) {store : Store} {time : Timestamp} :
    Succeeds time (Migration.status.tell told) store () store := by
  induction told with
  | nil => exact .done
  | cons x rest ih => exact (Succeeds.report _).bind ih

theorem Migration.Ladder.succeeds_status {level : Nat → Store → Prop} (l : Ladder level)
    {store : Store} {time : Timestamp} {k : Nat} (h : level k store) :
    Succeeds time Migration.status store () store.withHistory :=
  (succeeds_provideHistory 0).bind ((Succeeds.report _).bind
    ((l.succeeds_standing (l.withHistory h)).bind (succeeds_tell _)))

namespace Migration

def Task.level : Task → Nat → Nat
  | .up none, _ => 2
  | .up (some n), k => min 2 (k + n)
  | .down n, k => k - n
  | .reset, _ => 0
  | .refresh, _ => 2
  | .status, k => k

def levelAfter (k : Nat) (tasks : List (Task × Int)) : Nat :=
  tasks.foldl (fun k x => x.1.level k) k

end Migration

/-- The store after some migration tasks, each of them done at a time of its own. -/
def Store.migrate (store : Store) (tasks : List (Task × Int)) : Store :=
  tasks.foldl (fun store x => (store.perform x.2 (fun _ => none) x.1).state.store) store

theorem Store.perform_of_succeeds {store store' : Store} {clock : Int} (task : Task)
    {body : Program Failure Unit} (hbody : task.program = body.inTransaction)
    (h : Succeeds (Timestamp.ofUnixSeconds clock) body store () store') :
    (store.perform clock (fun _ => none) task).result = .ok () ∧
      ∃ count, (store.perform clock (fun _ => none) task).state =
        { store := store', clock, count } := by
  have start : Succeeds (Session.now { store, clock }) body (Session.store { store, clock }) ()
      store' := h
  rw [Store.perform, hbody]
  exact start.run_inTransaction rfl

/-- Every task succeeds and leaves the store at its level. -/
theorem Migration.Ladder.perform {level : Nat → Store → Prop} (l : Ladder level) {store : Store}
    {k : Nat} (h : level k store) (task : Task) (clock : Int) :
    (store.perform clock (fun _ => none) task).result = .ok () ∧
      ∃ store' count, (store.perform clock (fun _ => none) task).state =
        { store := store', clock, count } ∧ level (task.level k) store' := by
  let time := Timestamp.ofUnixSeconds clock
  have bottom : k - 2 = 0 := Nat.sub_eq_zero_of_le (l.le h)
  cases task with
  | up steps =>
    obtain ⟨store', applied, reached, -⟩ := l.succeeds_applyPending h steps time
    obtain ⟨result, count, state⟩ := Store.perform_of_succeeds (.up steps) rfl applied
    refine ⟨result, store', count, state, ?_⟩
    cases steps with
    | none =>
      rw [Option.getD_none, Nat.min_eq_left (Nat.le_add_left 2 k)] at reached
      exact reached
    | some n => exact reached
  | down n =>
    obtain ⟨store', rolledBack, reached⟩ := l.succeeds_rollBackApplied h (some n) time
    obtain ⟨result, count, state⟩ := Store.perform_of_succeeds (.down n) rfl rolledBack
    exact ⟨result, store', count, state, reached⟩
  | reset =>
    obtain ⟨store', rolledBack, reached⟩ := l.succeeds_rollBackApplied h none time
    obtain ⟨result, count, state⟩ := Store.perform_of_succeeds .reset rfl rolledBack
    rw [Option.getD_none, bottom] at reached
    exact ⟨result, store', count, state, reached⟩
  | refresh =>
    obtain ⟨between, rolledBack, reached⟩ := l.succeeds_rollBackApplied h none time
    rw [Option.getD_none, bottom] at reached
    obtain ⟨store', applied, reached, -⟩ := l.succeeds_applyPending reached none time
    obtain ⟨result, count, state⟩ :=
      Store.perform_of_succeeds .refresh rfl (rolledBack.bind applied)
    exact ⟨result, store', count, state, reached⟩
  | status =>
    have told : Succeeds time Task.status.program store () store.withHistory := l.succeeds_status h
    have start : Session.store { store, clock } = store := rfl
    obtain ⟨result, count, state⟩ := told.run start rfl rfl
    exact ⟨result, _, count, state, l.withHistory h⟩

theorem Store.At.perform {base store : Store} {k : Nat} (h : base.At k store)
    (clean : base.Untouched) (task : Task) (clock : Int) :
    (store.perform clock (fun _ => none) task).result = .ok () ∧
      ∃ store' count, (store.perform clock (fun _ => none) task).state =
        { store := store', clock, count } ∧ base.At (task.level k) store' :=
  clean.ladder.perform h task clock

/-- After every history of tasks the store is at the level that they lead to. -/
theorem Store.At.migrate {base store : Store} {k : Nat} (h : base.At k store)
    (clean : base.Untouched) (tasks : List (Task × Int)) :
    base.At (Migration.levelAfter k tasks) (store.migrate tasks) := by
  induction tasks generalizing k store with
  | nil => exact h
  | cons x rest ih =>
    obtain ⟨_, store', count, state, level⟩ := h.perform clean x.1 x.2
    have done : store.migrate (x :: rest) = store'.migrate rest := by
      rw [Store.migrate, List.foldl_cons, state]
      rfl
    rw [done]
    exact ih level

/-! ### What is there at a level -/

namespace Store.At

variable {base store : Store} {k : Nat}

theorem hasTable_parent (h : base.At k store) (parent : Parent) :
    store.hasTable parent.table ↔ 1 ≤ k ∨ base.hasTable parent.table := by
  rw [h.schema]
  match k, h.le with
  | 0, _ => cases parent <;> simp [reached, hasTable, Parent.table]
  | 1, _ => cases parent <;> simp [reached, hasTable, Parent.table, provideParents, provideParent]
  | 2, _ =>
    cases parent <;>
      simp [reached, hasTable, Parent.table, provideParents, provideParent, provideLedger]

theorem hasTable_ledger (h : base.At k store) (clean : base.Untouched) (d : Direction) :
    store.hasTable (.ledger d) ↔ k = 2 := by
  have absent : base.ledger d = none := by
    cases d with
    | deposit => exact clean.deposits
    | withdrawal => exact clean.withdrawals
  rw [h.schema]
  match k, h.le with
  | 0, _ =>
    change (base.ledger d).isSome = true ↔ _
    simp [absent]
  | 1, _ =>
    change (base.ledger d).isSome = true ↔ _
    simp [absent]
  | 2, _ => cases d <;> simp [reached, hasTable, ledger, provideLedger]

theorem mem_indexes (h : base.At k store) (clean : base.Untouched) (i : Index) :
    i ∈ store.indexes ↔ k = 2 := by
  rw [h.schema]
  match k, h.le with
  | 0, _ =>
    change i ∈ base.indexes ↔ _
    simp [clean.indexes]
  | 1, _ =>
    change i ∈ base.indexes ↔ _
    simp [clean.indexes]
  | 2, _ =>
    change i ∈ ledgerIndexes.foldl addIndex base.indexes ↔ _
    rw [clean.indexes]
    rcases i with ⟨d, parent⟩
    cases d <;> cases parent <;> decide

theorem mem_types (h : base.At k store) (clean : base.Untouched) :
    TypeName.status ∈ store.types ↔ k = 2 := by
  rw [h.schema]
  match k, h.le with
  | 0, _ =>
    change TypeName.status ∈ base.types ↔ _
    simp [clean.types]
  | 1, _ =>
    change TypeName.status ∈ base.types ↔ _
    simp [clean.types]
  | 2, _ =>
    change TypeName.status ∈ (if TypeName.status ∈ base.types then _ else _) ↔ _
    simp [clean.types]

end Store.At

/-- After every history of tasks, at a store that had nothing of the migrations before: the next task
succeeds, whatever it is, and is committed; the record names the first migrations, as many as the
tasks lead to; and what those migrations create is there, and nothing of the others. -/
theorem record_agrees (base : Store) (clean : base.Untouched) (tasks : List (Task × Int)) :
    (∀ task clock, ((base.migrate tasks).perform clock (fun _ => none) task).result = .ok () ∧
      ∃ count, ((base.migrate tasks).perform clock (fun _ => none) task).state =
        { store := base.migrate (tasks ++ [(task, clock)]), clock, count }) ∧
    (base.migrate tasks).versions =
      (all.take (Migration.levelAfter 0 tasks)).map Migration.name ∧
    (∀ parent : Parent, (base.migrate tasks).hasTable parent.table ↔
      1 ≤ Migration.levelAfter 0 tasks ∨ base.hasTable parent.table) ∧
    (∀ d, (base.migrate tasks).hasTable (.ledger d) ↔ Migration.levelAfter 0 tasks = 2) ∧
    (∀ i, i ∈ (base.migrate tasks).indexes ↔ Migration.levelAfter 0 tasks = 2) ∧
    (TypeName.status ∈ (base.migrate tasks).types ↔ Migration.levelAfter 0 tasks = 2) ∧
    Command.taskOf? "down" none = some (.down 1) := by
  have level := clean.at.migrate clean tasks
  refine ⟨fun task clock => ?_, level.versions, level.hasTable_parent, level.hasTable_ledger clean,
    level.mem_indexes clean, level.mem_types clean, rfl⟩
  obtain ⟨result, store', count, state, -⟩ := level.perform clean task clock
  refine ⟨result, count, ?_⟩
  have next : base.migrate (tasks ++ [(task, clock)]) = store' := by
    rw [Store.migrate, List.foldl_append]
    exact congrArg Session.store state
  rw [next, state]

/-- Users of somebody else, and a type of the same name elsewhere. -/
def Store.foreignUsers : Store where
  users := some { comment := some "accounts" }
  types := [⟨"audit", Database.statusType⟩]

theorem record_agrees_foreignUsers :
    Store.foreignUsers.Untouched ∧
      (Store.foreignUsers.migrate [(.up none, 0), (.down 1, 1)]).versions =
        ["m20250301_000001_create_users_and_currencies"] ∧
      (Store.foreignUsers.migrate [(.up none, 0), (.down 1, 1)]).hasTable .currencies ∧
      ¬ (Store.foreignUsers.migrate [(.up none, 0), (.down 1, 1)]).hasTable (.ledger .deposit) := by
  have clean : Store.foreignUsers.Untouched := {
    versions := rfl
    foreign := by
      intro parent
      cases parent <;> decide
    deposits := rfl
    withdrawals := rfl
    types := by decide
    indexes := rfl
    named := fun x hx => absurd hx List.not_mem_nil }
  obtain ⟨_, versions, parents, ledger, _⟩ :=
    record_agrees .foreignUsers clean [(.up none, 0), (.down 1, 1)]
  exact ⟨clean, versions, (parents .currency).mpr (.inl (by decide)),
    fun there => absurd ((ledger .deposit).mp there) (by decide)⟩

end FundsLedger
