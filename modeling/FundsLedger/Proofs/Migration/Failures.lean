import FundsLedger.Migration.Task
import FundsLedger.Proofs.Session.Transactions

/-!
# Commands that fail

Every command that changes the schema runs in one transaction and stops at the first statement that
is rejected. So wherever it is rejected, nothing of the command is left behind. The main statement
is `all_or_nothing`.
-/

namespace FundsLedger

open Database (Failure Manner Mishap Note Outcome Program Response Statement Table)
open Database.Program (Stops)

namespace Migration

def IsProgress (note : Note) : Prop :=
  ∃ message, note = .progress message

/-- Migrations send anything and talk of their progress alone. -/
def manner : Manner where
  speak := IsProgress

theorem speaks_progress (message : String) : manner.speak (.progress message) :=
  ⟨message, rfl⟩

theorem stops_actAll {rule : Manner} {statements : List Statement}
    (may : ∀ s ∈ statements, rule.may s) : Stops rule id (fun _ => True) (actAll statements) := by
  induction statements with
  | nil => exact .done trivial
  | cons s rest ih =>
    exact (Program.stops_act (may s List.mem_cons_self)).bind fun _ _ =>
      ih fun s' hs' => may s' (List.mem_cons_of_mem _ hs')

/-! ### The record -/

theorem mem_all_of_mem_filterMap {found : List (Migration × Bool)}
    {pick : Migration × Bool → Option Migration} (own : ∀ x m, pick x = some m → m = x.1)
    (h : ∀ x ∈ found, x.1 ∈ all) : ∀ m ∈ found.filterMap pick, m ∈ all := by
  intro m hm
  obtain ⟨x, hx, heq⟩ := List.mem_filterMap.mp hm
  rw [own x m heq]
  exact h x hx

section Record

variable {rule : Manner} (creates : rule.may .createHistory)

include creates

theorem stops_provideHistory (times : Nat) :
    Stops rule id (fun _ => True) (provideHistory times) :=
  stops_actAll fun s hs => by
    rw [List.eq_of_mem_replicate hs]
    exact creates

variable (reads : rule.may .selectHistory)

include reads

theorem stops_standing : Stops rule id (fun found => ∀ x ∈ found, x.1 ∈ all) standing := by
  refine (stops_provideHistory creates 2).bind fun _ _ =>
    (Program.stops_every reads).bind fun versions _ => ?_
  split
  · refine .done fun x hx => ?_
    obtain ⟨m, hm, rfl⟩ := List.mem_map.mp hx
    exact hm
  · exact .fail _

theorem stops_applied : Stops rule id (fun ms => ∀ m ∈ ms, m ∈ all) applied := by
  refine (stops_provideHistory creates 1).bind fun _ _ => (stops_standing creates reads).bind
    fun found h => .done (mem_all_of_mem_filterMap ?_ h)
  rintro ⟨m, _ | _⟩ m' heq <;> cases heq
  rfl

theorem stops_pending : Stops rule id (fun ms => ∀ m ∈ ms, m ∈ all) pending := by
  refine (stops_provideHistory creates 1).bind fun _ _ => (stops_standing creates reads).bind
    fun found h => .done (mem_all_of_mem_filterMap ?_ h)
  rintro ⟨m, _ | _⟩ m' heq <;> cases heq
  rfl

theorem stops_status (speaks : ∀ message, rule.speak (.progress message)) :
    Stops rule id (fun _ => True) status := by
  have tell (told : List (Migration × Bool)) : Stops rule id (fun _ => True) (status.tell told) := by
    induction told with
    | nil => exact .done trivial
    | cons x rest ih => exact (Stops.report (speaks _)).bind fun _ _ => ih
  exact (stops_provideHistory creates 1).bind fun _ _ => (Stops.report (speaks _)).bind fun _ _ =>
    (stops_standing creates reads).bind fun told _ => tell told

end Record

/-! ### Changes of the schema -/

theorem stops_isPresent (table : Table) : Stops manner id (fun _ => True) (isPresent table) :=
  (Program.stops_first trivial).bind fun _ _ => .done trivial

theorem stops_isOwned (table : Table) : Stops manner id (fun _ => True) (isOwned table) :=
  (Program.stops_first trivial).bind fun _ _ => .done trivial

theorem stops_acts (statements : List Statement) :
    Stops manner id (fun _ => True) (actAll statements) :=
  stops_actAll fun _ _ => trivial

theorem stops_provide (table : Table) : Stops manner id (fun _ => True) (provide table) := by
  refine (stops_isPresent table).bind fun found _ => ?_
  cases found with
  | false => exact stops_acts _
  | true => exact .done trivial

theorem stops_withdraw (table : Table) : Stops manner id (fun _ => True) (withdraw table) := by
  refine (stops_isOwned table).bind fun owned _ => ?_
  cases owned with
  | false => exact .done trivial
  | true => exact stops_acts _

theorem stops_up {m : Migration} (h : m ∈ all) : Stops manner id (fun _ => True) m.up := by
  simp only [all, List.mem_cons, List.not_mem_nil, or_false] at h
  rcases h with rfl | rfl
  · exact (stops_provide _).bind fun _ _ => stops_provide _
  · refine (Program.stops_first trivial).bind fun found _ => ?_
    have tables : Stops manner id (fun _ => True) (do
        actAll [.createTable (.ledger .deposit), .createTable (.ledger .withdrawal)]
        actAll (ledgerIndexes.map .createIndex)) :=
      (stops_acts _).bind fun _ _ => stops_acts _
    cases found with
    | none => exact (stops_acts _).bind fun _ _ => tables
    | some _ => exact tables

theorem stops_down {m : Migration} (h : m ∈ all) : Stops manner id (fun _ => True) m.down := by
  simp only [all, List.mem_cons, List.not_mem_nil, or_false] at h
  rcases h with rfl | rfl
  · exact (stops_withdraw _).bind fun _ _ => stops_withdraw _
  · exact stops_acts _

theorem mem_of_mem_limited {steps : Option Nat} {ms : List Migration} {m : Migration}
    (h : m ∈ limited steps ms) : m ∈ ms := by
  cases steps with
  | none => exact h
  | some n => exact List.mem_of_mem_take h

theorem stops_report (message : String) :
    Stops manner id (fun _ => True) (Program.report message : Program Failure Unit) :=
  .report (speaks_progress message)

theorem stops_applyAll {ms : List Migration} (h : ∀ m ∈ ms, m ∈ all) :
    Stops manner id (fun _ => True) (applyAll ms) := by
  induction ms with
  | nil => exact .done trivial
  | cons m rest ih =>
    refine (stops_report _).bind fun _ _ => (stops_up (h m List.mem_cons_self)).bind fun _ _ =>
      (stops_report _).bind fun _ _ => (Program.stops_act trivial).bind fun inserted _ => ?_
    split
    · exact .fail _
    · exact ih fun m' hm' => h m' (List.mem_cons_of_mem _ hm')

theorem stops_rollBackAll {ms : List Migration} (h : ∀ m ∈ ms, m ∈ all) :
    Stops manner id (fun _ => True) (rollBackAll ms) := by
  induction ms with
  | nil => exact .done trivial
  | cons m rest ih =>
    exact (stops_report _).bind fun _ _ => (stops_down (h m List.mem_cons_self)).bind fun _ _ =>
      (stops_report _).bind fun _ _ => (Program.stops_act trivial).bind fun _ _ =>
        ih fun m' hm' => h m' (List.mem_cons_of_mem _ hm')

theorem stops_applyPending (steps : Option Nat) :
    Stops manner id (fun _ => True) (applyPending steps) := by
  refine (stops_provideHistory trivial 1).bind fun _ _ => ?_
  have rest : Stops manner id (fun _ => True) (do
      let migrations ← pending
      if migrations.isEmpty then Program.report "No pending migrations"
      applyAll (limited steps migrations)) := by
    refine (stops_pending trivial trivial).bind fun ms h => ?_
    have apply : Stops manner id (fun _ => True) (applyAll (limited steps ms)) :=
      stops_applyAll fun m hm => h m (mem_of_mem_limited hm)
    split
    · exact (stops_report _).bind fun _ _ => apply
    · exact apply
  cases steps with
  | none => exact (stops_report _).bind fun _ _ => rest
  | some n => exact (stops_report _).bind fun _ _ => rest

theorem stops_rollBackApplied (steps : Option Nat) :
    Stops manner id (fun _ => True) (rollBackApplied steps) := by
  refine (stops_provideHistory trivial 1).bind fun _ _ => ?_
  have rest : Stops manner id (fun _ => True) (do
      let migrations ← applied
      if migrations.isEmpty then Program.report "No applied migrations"
      rollBackAll (limited steps migrations.reverse)) := by
    refine (stops_applied trivial trivial).bind fun ms h => ?_
    have rollBack : Stops manner id (fun _ => True) (rollBackAll (limited steps ms.reverse)) :=
      stops_rollBackAll fun m hm => h m (List.mem_reverse.mp (mem_of_mem_limited hm))
    split
    · exact (stops_report _).bind fun _ _ => rollBack
    · exact rollBack
  cases steps with
  | none => exact (stops_report _).bind fun _ _ => rest
  | some n => exact (stops_report _).bind fun _ _ => rest

/-- Every task but to tell the status is one transaction. -/
theorem Task.program_eq_inTransaction {task : Task} (h : task ≠ .status) :
    ∃ body, task.program = Program.inTransaction body ∧ Stops manner id (fun _ => True) body := by
  cases task with
  | up steps => exact ⟨_, rfl, stops_applyPending steps⟩
  | down steps => exact ⟨_, rfl, stops_rollBackApplied _⟩
  | reset => exact ⟨_, rfl, stops_rollBackApplied none⟩
  | refresh =>
    exact ⟨_, rfl, (stops_rollBackApplied none).bind fun _ _ => stops_applyPending none⟩
  | status => exact absurd rfl h

end Migration

namespace Store

/-- A migration task at a store that nobody else uses, where the database rejects some of the
statements. -/
def perform (store : Store) (clock : Int) (faults : Nat → Option Mishap) (task : Migration.Task) :
    Outcome Session Failure Unit :=
  task.program.run (Session.connection { faults }) { store, clock }

def exchanges (store : Store) (clock : Int) (faults : Nat → Option Mishap) (task : Migration.Task) :
    List (Statement × Response) :=
  task.program.exchanges (Session.connection { faults }) { store, clock }

/-- The database rejects the statement of the given number, counted from one, and no other. -/
def rejecting (n : Nat) (m : Mishap) : Nat → Option Mishap := fun k =>
  if k = n then some m else none

variable {store : Store} {clock : Int} {faults : Nat → Option Mishap} {task : Migration.Task}

theorem state_perform_of_error (changes : task ≠ .status) {e : Failure}
    (failed : (store.perform clock faults task).result = .error e) :
    ∃ count, (store.perform clock faults task).state = { store, clock, count } := by
  obtain ⟨body, hprogram, stops⟩ := Migration.Task.program_eq_inTransaction changes
  rw [perform, hprogram] at failed ⊢
  exact Session.state_of_error stops _ _ failed

theorem result_perform_of_rejected (changes : task ≠ .status) {s : Statement} {f : Failure}
    (rejected : (s, .error f) ∈ store.exchanges clock faults task) :
    (store.perform clock faults task).result = .error f := by
  obtain ⟨body, hprogram, stops⟩ := Migration.Task.program_eq_inTransaction changes
  rw [exchanges, hprogram, Program.exchanges_inTransaction] at rejected
  have hbody := stops.result_eq _ _ rejected
  rw [perform, hprogram, Program.run_inTransaction, hbody]
  rfl

end Store

/-- A task that changes the schema and does not succeed leaves the store as it was, with no
transaction open. If one of its statements is rejected, whatever the reason, the task fails for that
reason. And each statement that it sends can be rejected, with that effect. -/
theorem all_or_nothing (store : Store) (clock : Int) (task : Migration.Task)
    (changes : task ≠ .status) :
    (∀ faults e, (store.perform clock faults task).result = .error e →
      ∃ count, (store.perform clock faults task).state = { store, clock, count }) ∧
    (∀ faults s f, (s, .error f) ∈ store.exchanges clock faults task →
      (store.perform clock faults task).result = .error f) ∧
    ∀ n s r m, (store.exchanges clock (fun _ => none) task)[n]? = some (s, r) →
      (store.perform clock (Store.rejecting (n + 1) m) task).result = .error (m s.channel) ∧
        ∃ count, (store.perform clock (Store.rejecting (n + 1) m) task).state =
          { store, clock, count } := by
  refine ⟨fun faults e => Store.state_perform_of_error changes,
    fun faults s f => Store.result_perform_of_rejected changes, fun n s r m clean => ?_⟩
  have heard : (store.exchanges clock (Store.rejecting (n + 1) m) task)[n]? =
      some (s, .error (m s.channel)) := by
    refine Session.exchanges_of_fault _ _ clean (fun k hk => if_neg ?_) (if_pos (by simp))
    rw [Nat.zero_add] at hk
    omega
  have result := Store.result_perform_of_rejected changes (List.mem_of_getElem? heard)
  exact ⟨result, Store.state_perform_of_error changes result⟩

/-- The users table is created and cannot be marked as owned: it is not there afterwards. -/
theorem all_or_nothing_comment :
    (Store.blank.perform 0 (Store.rejecting 8 fun channel => .server channel "53100" "disk full")
        (.up none)).result = .error (.server .execution "53100" "disk full") ∧
      (Store.blank.perform 0 (Store.rejecting 8 fun channel => .server channel "53100" "disk full")
        (.up none)).state.store = .blank := by
  have sent : ((Store.blank.exchanges 0 (fun _ => none) (.up none))[7]?).map Prod.fst =
      some (.commentOnTable .users Migration.ownerComment) := by decide +kernel
  obtain ⟨⟨_, r⟩, here, rfl⟩ := Option.map_eq_some_iff.mp sent
  obtain ⟨_, _, position⟩ := all_or_nothing .blank 0 (.up none) (by decide)
  obtain ⟨result, count, state⟩ := position 7 _ r (fun channel => .server channel "53100" "disk full")
    here
  exact ⟨result, congrArg Session.store state⟩

end FundsLedger
