import FundsLedger.Proofs.Migration.Rollback
import FundsLedger.Proofs.Session.Cuts

/-!
# Schema and record in step

The tables that are there and the migrations that are recorded stay in step whatever is done with a
store: migration tasks are done, of which any statement may be rejected, and the ledger is used while
others add rows. Nothing is said of the rows here, so that a store is at a level of this ladder
whether or not its tables have been used. The main statements are `inStep_ladder`, `InStep.busy` and
`InStep.perform`.
-/

namespace FundsLedger

open Database (Connection Manner Mishap Note Parent Program Table)
open Database.Program (Stops)
open Migration (Ladder Task all)
open Time (Timestamp)

namespace Migration

/-- While migrations are applied, nothing is said but on their progress. -/
theorem notes_upTo {σ : Type} (c : Connection σ) (state : σ) (steps : Option Nat) :
    ∀ note ∈ ((upTo steps).run c state).notes, IsProgress note := by
  rw [upTo, Program.notes_inTransaction]
  exact (stops_applyPending steps).notes c _

variable {keep : Store → Prop} {speak : Note → Prop}

/-- Where the table of the record may be made, the record may be read. -/
theorem keeps_createHistory (kept : ∀ store, keep store → keep store.withHistory) :
    (Manner.keeping keep speak).may .createHistory :=
  fun store _ h => kept store h

theorem keeps_selectHistory : (Manner.keeping keep speak).may .selectHistory := by
  intro store time h
  have same : (store.respond time .selectHistory).2 = store := by
    cases here : store.history with
    | none => simp only [Store.respond, Store.execute, here]; rfl
    | some table => simp only [Store.respond, Store.execute, here]; rfl
  rw [same]
  exact h

end Migration

/-! ### Levels with any rows -/

namespace Store

/-- The record names the first `k` migrations, and the tables that those create are there. -/
structure InStep (k : Nat) (store : Store) : Prop where
  le : k ≤ 2
  versions : store.versions = (all.take k).map Migration.name
  parents : 1 ≤ k → ∀ parent : Parent, store.hasTable parent.table = true
  ledger : ∀ d, store.hasTable (.ledger d) = true ↔ k = 2
  named : store.Named

variable {base store store' : Store} {k : Nat}

theorem Untouched.inStep (clean : base.Untouched) : base.InStep 0 where
  le := by decide
  versions := clean.versions
  parents positive := absurd positive (by decide)
  ledger d := by
    cases d with
    | deposit => simp [hasTable, Store.ledger, clean.deposits]
    | withdrawal => simp [hasTable, Store.ledger, clean.withdrawals]
  named := clean.named

theorem InStep.hasTable (h : store.InStep 2) (t : Table) : store.hasTable t = true := by
  rcases t with _ | _ | d
  · exact h.parents (by decide) .user
  · exact h.parents (by decide) .currency
  · exact (h.ledger d).mpr rfl

/-- A change of rows alone. -/
theorem InStep.congr (h : store.InStep k) (history : store'.history = store.history)
    (others : store'.others = store.others)
    (tables : ∀ t, store'.hasTable t = store.hasTable t) : store'.InStep k where
  le := h.le
  versions := by
    rw [← h.versions, Store.versions, history]
    rfl
  parents positive parent := by rw [tables]; exact h.parents positive parent
  ledger d := by rw [tables]; exact h.ledger d
  named := by
    intro x hx
    rw [others] at hx
    exact h.named x hx

theorem InStep.withHistory (h : store.InStep k) : store.withHistory.InStep k where
  le := h.le
  versions := versions_withHistory.trans h.versions
  parents := h.parents
  ledger := h.ledger
  named := h.named

theorem InStep.users (h : store.InStep (k + 1)) : store.users ≠ none :=
  Option.isSome_iff_ne_none.mp (h.parents (Nat.le_add_left 1 k) .user)

theorem InStep.currencies (h : store.InStep (k + 1)) : store.currencies ≠ none :=
  Option.isSome_iff_ne_none.mp (h.parents (Nat.le_add_left 1 k) .currency)

theorem InStep.no_ledger (h : store.InStep k) (before : k ≠ 2) (d : Direction) :
    store.hasTable (.ledger d) = false :=
  Bool.eq_false_iff.mpr fun there => before ((h.ledger d).mp there)

/-- Each migration keeps the schema in step with the record, whatever rows there are. -/
theorem inStep_ladder : Ladder InStep where
  le h := h.le
  versions h := h.versions
  withHistory h := h.withHistory
  up {k store m} h hm := by
    match k, hm with
    | 0, rfl =>
      refine ⟨store.provideParents, rfl, fun _ => Migration.succeeds_provideParents h.named,
        fun table recorded => ⟨by decide, recorded, fun _ parent => ?_, fun d => ?_, h.named⟩⟩
      · cases parent <;> rfl
      · have same : hasTable { store.provideParents with history := some table } (.ledger d) =
            store.hasTable (.ledger d) := by cases d <;> rfl
        rw [same, h.no_ledger (by decide)]
        decide
    | 1, rfl =>
      refine ⟨store.provideLedger, rfl,
        fun _ => Migration.succeeds_provideLedger h.users h.currencies,
        fun table recorded => ⟨by decide, recorded, fun _ parent => ?_, fun d => ?_, h.named⟩⟩
      · cases parent with
        | user => exact h.parents (by decide) .user
        | currency => exact h.parents (by decide) .currency
      · cases d <;> exact ⟨fun _ => rfl, fun _ => rfl⟩
  down {k store m} h hm := by
    match k, hm with
    | 0, rfl =>
      have unused : store.hasLedger = false :=
        Bool.or_eq_false_iff.mpr
          ⟨h.no_ledger (by decide) .deposit, h.no_ledger (by decide) .withdrawal⟩
      refine ⟨store.withdrawParents, rfl,
        fun _ => Migration.succeeds_withdrawParents h.named unused,
        fun table recorded => ⟨by decide, recorded, fun positive => absurd positive (by decide),
          fun d => ?_, h.named⟩⟩
      have same : hasTable { store.withdrawParents with history := some table } (.ledger d) =
          store.hasTable (.ledger d) := by cases d <;> rfl
      rw [same, h.no_ledger (by decide)]
      decide
    | 1, rfl =>
      have onTables : ∀ i ∈ store.indexes, store.ledger i.direction ≠ none := fun i _ =>
        Option.isSome_iff_ne_none.mp ((h.ledger i.direction).mpr rfl)
      refine ⟨store.withdrawLedger, rfl, fun _ => Migration.succeeds_withdrawLedger onTables,
        fun table recorded => ⟨by decide, recorded, fun _ parent => ?_, fun d => ?_, h.named⟩⟩
      · cases parent with
        | user => exact h.parents (by decide) .user
        | currency => exact h.parents (by decide) .currency
      · have absent : hasTable { store.withdrawLedger with history := some table } (.ledger d) =
            false := by cases d <;> rfl
        rw [absent]
        decide

/-! ### What is done with a store -/

theorem InStep.ledgerOnly (h : store.InStep k) (change : store.LedgerOnly store') :
    store'.InStep k := by
  have same := change.others
  refine h.congr ?_ ?_ fun t => ?_
  · rw [same]
  · rw [same]
  · rcases t with _ | _ | d
    · rw [same]
      rfl
    · rw [same]
      rfl
    · have both := change.tables d
      rw [← Option.not_isSome_iff_eq_none, ← Option.not_isSome_iff_eq_none] at both
      exact Bool.eq_iff_iff.mpr (not_iff_not.mp both)

theorem InStep.afterInsert {ρ : Type} {inserted : Except Refusal (ρ × Store)} (h : store.InStep k)
    (kept : ∀ row store', inserted = .ok (row, store') → store'.InStep k) :
    (store.afterInsert inserted).InStep k := by
  cases inserted with
  | error refusal => exact h
  | ok result => exact kept _ _ rfl

theorem InStep.add (h : store.InStep k) (time : Timestamp) (what : Addition) :
    (store.add time what).InStep k := by
  cases what with
  | user id =>
    refine h.afterInsert fun row store' inserted => ?_
    simp only [insertUser, bind_eq_ok, require_eq_ok, check_eq_ok] at inserted
    obtain ⟨table, here, _, _, inserted⟩ := inserted
    cases inserted
    refine h.congr rfl rfl fun t => ?_
    rcases t with _ | _ | _
    · exact (congrArg Option.isSome here).symm
    · rfl
    · rfl
  | currency id code digits =>
    refine h.afterInsert fun row store' inserted => ?_
    simp only [insertCurrency, bind_eq_ok, require_eq_ok, check_eq_ok] at inserted
    obtain ⟨table, here, _, _, _, _, _, _, inserted⟩ := inserted
    cases inserted
    refine h.congr rfl rfl fun t => ?_
    rcases t with _ | _ | _
    · rfl
    · exact (congrArg Option.isSome here).symm
    · rfl
  | row d drawn draft =>
    exact h.afterInsert fun row store' inserted => h.ledgerOnly (ledgerOnly_insertDraft inserted)

end Store

theorem Traffic.inStep_happen {t : Traffic} {k : Nat} (h : t.store.InStep k) (what : Happening) :
    (t.happen what).store.InStep k := by
  cases what with
  | event event => exact h.ledgerOnly (t.ledgerOnly_happen trivial)
  | addition what time delivery =>
    rw [happen]
    dsimp only
    split
    · exact h.add time what
    · exact h

namespace Store

variable {store : Store} {k : Nat}

theorem InStep.busy (h : store.InStep k) (happenings : List Happening) :
    (store.busy happenings).store.InStep k := by
  have run : ∀ t : Traffic, t.store.InStep k →
      (happenings.foldl Traffic.happen t).store.InStep k := by
    induction happenings with
    | nil => exact fun t h => h
    | cons what rest ih => exact fun t h => ih _ (Traffic.inStep_happen h what)
  exact run { store } h

/-- A migration task leaves the store at a level, also where statements are rejected. -/
theorem InStep.perform (h : store.InStep k) (task : Task) (clock : Int)
    (faults : Nat → Option Mishap) :
    ∃ k', (store.perform clock faults task).state.store.InStep k' := by
  by_cases changes : task = .status
  · subst changes
    have stops : Stops (.keeping (InStep k) fun _ => True) id (fun _ => True) Task.status.program :=
      Migration.stops_status (Migration.keeps_createHistory fun _ h => h.withHistory)
        Migration.keeps_selectHistory fun _ => trivial
    obtain ⟨store', count, state, kept⟩ := stops.state faults h clock 0
    exact ⟨k, by rw [Store.perform, state]; exact kept⟩
  · obtain ⟨body, hprogram, stops⟩ := Migration.Task.program_eq_inTransaction changes
    obtain ⟨_, store', count, state, reached⟩ := inStep_ladder.perform h task clock
    have cut := (Session.cut_of_stops stops faults
      ((Session.connection {}).move .start { store, clock })).inTransaction
    rw [← hprogram] at cut
    cases cut with
    | whole run _ =>
      have same : store.perform clock faults task = store.perform clock (fun _ => none) task := run
      exact ⟨task.level k, by rw [same, state]; exact reached⟩
    | short f _ _ result _ =>
      obtain ⟨count, same⟩ := state_perform_of_error changes result
      exact ⟨k, by rw [same]; exact h⟩

end Store

end FundsLedger
