import FundsLedger.Proofs.Ledger.Runs
import FundsLedger.Proofs.Traffic.Lifecycle
import FundsLedger.Store.Session

/-!
# Changes of status that fail

A change of status sends up to three statements, and outside a transaction each of them takes effect
by itself. Wherever it fails, the store is as it was, but for one case: after the update the row is
read once more, and when that is rejected the row has been moved all the same. The main statement is
`failed_move`.
-/

namespace FundsLedger

open Database (Answer Failure Mishap Outcome Response Row Statement)
open Time (Timestamp)

namespace Session

variable {store : Store} {clock : Int} {faults : Nat → Option Mishap} {n : Nat} {s : Statement}

theorem answer_of_fault {f : Mishap} (h : faults (n + 1) = some f) :
    (connection { faults }).answer s { store, clock, count := n } =
      (.error (f s.channel), { store, clock, count := n + 1 }) := by
  simp only [connection, answer, List.foldl_nil, h]
  rfl

/-- Outside a transaction a statement that is not rejected does what it does to the store. -/
theorem answer_of_none (h : faults (n + 1) = none) :
    (connection { faults }).answer s { store, clock, count := n } =
      ((store.respond (.ofUnixSeconds clock) s).1,
        { store := (store.respond (.ofUnixSeconds clock) s).2, clock, count := n + 1 }) := by
  simp only [connection, answer, List.foldl_nil, h, Store.respond, now]
  cases store.execute (.ofUnixSeconds clock) s with
  | error refusal => rfl
  | ok out => rfl

end Session

/-- A change of status at a store that nobody else uses, outside any transaction, where the database
rejects some of the statements. -/
def Store.move (store : Store) (clock : Int) (faults : Nat → Option Mishap) (d : Direction)
    (id : Uuid) (next : Status) : Outcome Session LedgerError Entry :=
  (Ledger.updateStatus d id next).run (Session.connection { faults }) { store, clock }

namespace Session

variable {store : Store} {clock : Int} {faults : Nat → Option Mishap} {n : Nat} {d : Direction}
  {id : Uuid} {expected next : Status} {r : Response} {state : Session}

theorem answer_selectById
    (h : (connection { faults }).answer (.selectById (.ledger d) id) { store, clock, count := n } =
      (r, state)) :
    state = { store, clock, count := n + 1 } ∧
      ((∃ f, faults (n + 1) = some f ∧ r = .error (f .query)) ∨
        faults (n + 1) = none ∧
          r = (store.respond (.ofUnixSeconds clock) (.selectById (.ledger d) id)).1) := by
  cases hf : faults (n + 1) with
  | some f =>
    rw [answer_of_fault hf] at h
    cases h
    exact ⟨rfl, .inl ⟨f, rfl, rfl⟩⟩
  | none =>
    rw [answer_of_none hf] at h
    cases h
    refine ⟨?_, .inr ⟨rfl, rfl⟩⟩
    rcases store.respond_selectById (.ofUnixSeconds clock) d id with ⟨_, f, hr⟩ | ⟨_, hr⟩
    · rw [hr]
    · rw [hr]

theorem answer_updateStatus
    (h : (connection { faults }).answer (.updateStatus d id expected next)
      { store, clock, count := n } = (r, state))
    (idle : ∀ answer, r = .ok answer → answer.count = 0) :
    state = { store, clock, count := n + 1 } := by
  cases hf : faults (n + 1) with
  | some f =>
    rw [answer_of_fault hf] at h
    cases h
    rfl
  | none =>
    rw [answer_of_none hf] at h
    rcases store.respond_updateStatus (.ofUnixSeconds clock) d id expected next with
      ⟨_, f, hr⟩ | ⟨table, here, hr⟩
    · rw [hr] at h
      cases h
      rfl
    · rw [hr] at h
      cases h
      have none : table.rows.countP (Store.isTarget id expected) = 0 := idle _ rfl
      rw [Store.setLedger_turned_eq_self here (List.countP_eq_zero.mp none)]

end Session

namespace Store

variable {store : Store} {clock : Int} {faults : Nat → Option Mishap} {d : Direction} {id : Uuid}
  {next : Status} {f : Mishap} {p : Posting} {e : LedgerError}

/-- The row may be moved and is moved, but the database rejects the look-up that follows. -/
def RereadFails (store : Store) (faults : Nat → Option Mishap) (d : Direction) (id : Uuid)
    (next : Status) (f : Mishap) (p : Posting) : Prop :=
  faults 1 = none ∧ faults 2 = none ∧ faults 3 = some f ∧ store.posting? d id = some p ∧
    p.status.canMoveTo next = true

theorem move_of_rereadFails (h : store.RereadFails faults d id next f p) (clock : Int) :
    (store.move clock faults d id next).result = .error (.database (f .query)) ∧
      (store.move clock faults d id next).state.store.posting? d id =
        some (moved (.ofUnixSeconds clock) next p) ∧
      ∃ table, store.ledger d = some table ∧ (store.move clock faults d id next).state.store =
        store.setLedger d (some { table with
          rows := table.rows.map (turned (.ofUnixSeconds clock) id p.status next) }) := by
  rcases h with ⟨first, second, third, there, allowed⟩
  obtain ⟨table, n, here, affected, hupdate, hmoved⟩ :=
    respond_updateStatus_of_posting? there (.ofUnixSeconds clock) next
  have read : (Session.connection { faults }).answer (.selectById (.ledger d) id) { store, clock } =
      (.ok (.rows [.ofPosting p]), { store, clock, count := 1 }) := by
    rw [Session.answer_of_none first, respond_selectById_of_posting? there]
  have update := @Session.answer_of_none store clock faults 1 (.updateStatus d id p.status next)
    second
  rw [hupdate] at update hmoved
  obtain ⟨notes, hrun⟩ := Ledger.run_updateStatus read (firstRow_row p) allowed update affected
    (Session.answer_of_fault third)
  rw [move, hrun]
  exact ⟨rfl, hmoved, table, here, rfl⟩

/-- A change of status that fails otherwise leaves the store as it is. -/
theorem move_of_not_rereadFails (failed : (store.move clock faults d id next).result = .error e)
    (h : ∀ f p, ¬ store.RereadFails faults d id next f p) :
    (store.move clock faults d id next).state.store = store := by
  have hmoves := Ledger.moves_run (Session.connection { faults }) d id next { store, clock }
  change Ledger.Moves _ d id next _ (store.move clock faults d id next).result
    (store.move clock faults d id next).state (store.move clock faults d id next).sent at hmoves
  generalize store.move clock faults d id next = out at failed hmoves ⊢
  rcases out with ⟨result, state, sent, notes⟩
  dsimp only at failed hmoves ⊢
  cases hmoves with
  | unseen read unseen => rw [(Session.answer_selectById read).1]
  | barred read saw barred => rw [(Session.answer_selectById read).1]
  | refused read saw allowed update =>
    rcases Session.answer_selectById read with ⟨rfl, _⟩
    rw [Session.answer_updateStatus update fun answer hr => by cases hr]
  | conflict read saw allowed update none =>
    rcases Session.answer_selectById read with ⟨rfl, _⟩
    rw [Session.answer_updateStatus update fun answer' hr => by cases hr; exact none]
  | @confirmed r _ p answer _ r' _ read saw allowed update affected confirm =>
    rcases Session.answer_selectById read with ⟨rfl, ⟨f, _, rfl⟩ | ⟨first, rfl⟩⟩
    · cases saw
    have there := posting?_of_firstRow saw
    cases second : faults 2 with
    | some f =>
      rw [Session.answer_of_fault second] at update
      cases update
    | none =>
      obtain ⟨table, n, here, _, hupdate, moved⟩ :=
        respond_updateStatus_of_posting? there (.ofUnixSeconds clock) next
      rw [Session.answer_of_none second, Prod.mk.injEq] at update
      rcases update with ⟨_, rfl⟩
      rcases Session.answer_selectById confirm with ⟨_, ⟨f, third, _⟩ | ⟨_, rfl⟩⟩
      · exact absurd ⟨first, second, third, there, allowed⟩ (h f p)
      · rw [respond_selectById_of_posting? moved, Ledger.found_row] at failed
        cases failed

end Store

/-- A change of status that fails leaves the store as it is, unless it moved the row and the look-up
that follows was rejected. Then it fails for that reason, and the row alone has been moved. -/
theorem failed_move (store : Store) (clock : Int) (faults : Nat → Option Mishap) (d : Direction)
    (id : Uuid) (next : Status) (e : LedgerError)
    (failed : (store.move clock faults d id next).result = .error e) :
    ((∀ f p, ¬ store.RereadFails faults d id next f p) →
      (store.move clock faults d id next).state.store = store) ∧
    ∀ f p, store.RereadFails faults d id next f p →
      e = .database (f .query) ∧
        (store.move clock faults d id next).state.store.posting? d id =
          some (Store.moved (.ofUnixSeconds clock) next p) ∧
        ∃ table, store.ledger d = some table ∧ (store.move clock faults d id next).state.store =
          store.setLedger d (some { table with
            rows := table.rows.map (Store.turned (.ofUnixSeconds clock) id p.status next) }) := by
  refine ⟨Store.move_of_not_rereadFails failed, fun f p h => ?_⟩
  rcases Store.move_of_rereadFails h clock with ⟨result, moved⟩
  rw [failed] at result
  cases result
  exact ⟨rfl, moved⟩

namespace Race

/-- The database goes away before it is sent the statement of the given number. -/
def outage (n : Nat) : Nat → Option Mishap := fun k =>
  if k = n then some fun channel => .server channel "57P01" "terminating connection" else none

end Race

theorem failed_move_before_update :
    (Race.store.move 30 (Race.outage 2) .deposit Race.row .completed).result =
        .error (.database (.server .execution "57P01" "terminating connection")) ∧
      (Race.store.move 30 (Race.outage 2) .deposit Race.row .completed).state.store =
        Race.store := by
  have failed : (Race.store.move 30 (Race.outage 2) .deposit Race.row .completed).result =
      .error (.database (.server .execution "57P01" "terminating connection")) := by decide
  refine ⟨failed, (failed_move _ _ _ _ _ _ _ failed).1 ?_⟩
  intro f p ⟨_, second, _⟩
  cases second

/-- The deposit was pending, and is completed although the call failed. -/
theorem failed_move_after_update :
    (Race.store.move 30 (Race.outage 3) .deposit Race.row .completed).result =
        .error (.database (.server .query "57P01" "terminating connection")) ∧
      (Race.store.move 30 (Race.outage 3) .deposit Race.row .completed).state.store.deposits =
        some { rows := [Race.deposit .completed (Race.time 30)] } ∧
      Race.store.deposits = some { rows := [Race.deposit .pending (Race.time 20)] } ∧
      (Race.store.move 30 (Race.outage 3) .deposit Race.row .completed).state.store ≠
        Race.store := by
  decide

end FundsLedger
