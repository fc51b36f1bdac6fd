import FundsLedger.Proofs.Ledger.Requests
import FundsLedger.Proofs.Store.Statements

/-!
# Operations from start to end

What an operation comes to when it is run over a connection, whatever the connection answers. The
main statement is `moves_run`: a change of status ends in one of five ways.
-/

namespace FundsLedger

open Database (Answer Connection Failure Outcome Program Response Row Sent Statement)
open Time (Timestamp)

theorem firstRow_row (p : Posting) :
    firstRow Row.posting (.ok (.rows [.ofPosting p])) = .ok (some p) := by
  dsimp only [firstRow, Answer.toRows]
  rw [Row.posting_ofPosting]
  rfl

theorem firstRow_rows {rows : List Posting} {p : Posting}
    (h : firstRow Row.posting (.ok (.rows (rows.map .ofPosting))) = .ok (some p)) :
    p ∈ rows := by
  cases rows with
  | nil => cases h
  | cons q rows =>
    rw [List.map_cons] at h
    dsimp only [firstRow, Answer.toRows] at h
    rw [Row.posting_ofPosting] at h
    cases h
    exact List.mem_cons_self

/-- What a look-up shows is the row that is there. -/
theorem Store.posting?_of_firstRow {store : Store} {time : Timestamp} {d : Direction} {id : Uuid}
    {p : Posting}
    (h : firstRow Row.posting (store.respond time (.selectById (.ledger d) id)).1 = .ok (some p)) :
    store.posting? d id = some p := by
  rcases store.respond_selectById time d id with ⟨_, f, hr⟩ | ⟨_, hr⟩
  · rw [hr] at h
    cases h
  · rw [hr] at h
    exact Option.mem_toList.mp (firstRow_rows h)

namespace Ledger

theorem recorded_row (d : Direction) (p : Posting) :
    recorded d (.ok (.rows [.ofPosting p])) = .ok (p.entry d) := by
  rw [recorded, returned, firstRow_row]

theorem found_row (d : Direction) (id : Uuid) (p : Posting) :
    found d id (.ok (.rows [.ofPosting p])) = .ok (p.entry d) := by
  rw [found, firstRow_row]

variable {σ : Type} {c : Connection σ} {state state₁ state₂ state₃ : σ} {d : Direction} {id : Uuid}
  {next : Status} {r : Response}

theorem run_find (h : c.answer (.selectById (.ledger d) id) state = (r, state₁)) :
    (find d id).run c state =
      ⟨found d id r, state₁, [.statement (.selectById (.ledger d) id)], []⟩ := by
  rw [find_eq, Program.run_send c state _ _ h, Program.run_ofExcept]

theorem run_record {e : NewEntry} (positive : 0 < e.amount.toInt)
    (h : c.answer (.insertPosting d id e) state = (r, state₁)) :
    ∃ notes, (record id d e).run c state =
      ⟨recorded d r, state₁, [.statement (.insertPosting d id e)], notes⟩ := by
  unfold record recorded
  rw [if_neg (by omega), Statement.insertAnd_eq]
  change ∃ notes, Program.run c (.send _ fun r =>
    Program.mapError _ (.ofExcept (returned Row.posting r)) >>= _) state = _
  rw [Program.run_send c state _ _ h]
  cases returned Row.posting r with
  | error failure => exact ⟨_, rfl⟩
  | ok p => exact ⟨_, rfl⟩

theorem run_listForUser {user : Uuid} (h : c.answer (.selectByUser d user) state = (r, state₁)) :
    ∃ notes, (listForUser d user).run c state =
      ⟨listed d r, state₁, [.statement (.selectByUser d user)], notes⟩ := by
  unfold listForUser listed
  rw [Statement.every_eq]
  change ∃ notes, Program.run c (.send _ fun r =>
    Program.mapError _ (.ofExcept (everyRow Row.posting r)) >>= _) state = _
  rw [Program.run_send c state _ _ h]
  cases everyRow Row.posting r with
  | error failure => exact ⟨_, rfl⟩
  | ok ps => exact ⟨_, rfl⟩

theorem run_confirmMove {n : Nat} (current next : Status) (affected : n ≠ 0)
    (h : c.answer (.selectById (.ledger d) id) state = (r, state₁)) :
    ∃ notes, (confirmMove d id current next n).run c state =
      ⟨found d id r, state₁, [.statement (.selectById (.ledger d) id)], notes⟩ := by
  unfold confirmMove
  rw [if_neg affected]
  change ∃ notes, Program.run c (.say _ (find d id)) state = _
  rw [Program.run, run_find h]
  exact ⟨_, rfl⟩

/-- The ways in which a change of status ends, with its result, the state after it and all that it
sent. -/
inductive Moves (c : Connection σ) (d : Direction) (id : Uuid) (next : Status) (state : σ) :
    Except LedgerError Entry → σ → List Sent → Prop
  | unseen {r state₁ e} (read : c.answer (.selectById (.ledger d) id) state = (r, state₁))
      (unseen : found d id r = .error e) :
      Moves c d id next state (.error e) state₁ [.statement (.selectById (.ledger d) id)]
  | barred {r state₁ p} (read : c.answer (.selectById (.ledger d) id) state = (r, state₁))
      (saw : firstRow Row.posting r = .ok (some p)) (barred : p.status.canMoveTo next = false) :
      Moves c d id next state (.error (.invalidMove p.status next)) state₁
        [.statement (.selectById (.ledger d) id)]
  | refused {r state₁ p f state₂} (read : c.answer (.selectById (.ledger d) id) state = (r, state₁))
      (saw : firstRow Row.posting r = .ok (some p)) (allowed : p.status.canMoveTo next = true)
      (update : c.answer (.updateStatus d id p.status next) state₁ = (.error f, state₂)) :
      Moves c d id next state (.error (.database f)) state₂
        [.statement (.selectById (.ledger d) id), .statement (.updateStatus d id p.status next)]
  | conflict {r state₁ p answer state₂}
      (read : c.answer (.selectById (.ledger d) id) state = (r, state₁))
      (saw : firstRow Row.posting r = .ok (some p)) (allowed : p.status.canMoveTo next = true)
      (update : c.answer (.updateStatus d id p.status next) state₁ = (.ok answer, state₂))
      (none : answer.count = 0) :
      Moves c d id next state (.error (.statusConflict d id p.status)) state₂
        [.statement (.selectById (.ledger d) id), .statement (.updateStatus d id p.status next)]
  | confirmed {r state₁ p answer state₂ r' state₃}
      (read : c.answer (.selectById (.ledger d) id) state = (r, state₁))
      (saw : firstRow Row.posting r = .ok (some p)) (allowed : p.status.canMoveTo next = true)
      (update : c.answer (.updateStatus d id p.status next) state₁ = (.ok answer, state₂))
      (affected : answer.count ≠ 0)
      (confirm : c.answer (.selectById (.ledger d) id) state₂ = (r', state₃)) :
      Moves c d id next state (found d id r') state₃
        [.statement (.selectById (.ledger d) id), .statement (.updateStatus d id p.status next),
          .statement (.selectById (.ledger d) id)]

/-- A change of status whose update affects a row gives what the second look-up shows. -/
theorem run_updateStatus {p : Posting} {answer : Answer} {r' : Response}
    (read : c.answer (.selectById (.ledger d) id) state = (r, state₁))
    (saw : firstRow Row.posting r = .ok (some p)) (allowed : p.status.canMoveTo next = true)
    (update : c.answer (.updateStatus d id p.status next) state₁ = (.ok answer, state₂))
    (affected : answer.count ≠ 0)
    (confirm : c.answer (.selectById (.ledger d) id) state₂ = (r', state₃)) :
    ∃ notes, (updateStatus d id next).run c state =
      ⟨found d id r', state₃, [.statement (.selectById (.ledger d) id),
        .statement (.updateStatus d id p.status next), .statement (.selectById (.ledger d) id)],
        notes⟩ := by
  have hfound : found d id r = .ok (p.entry d) := by rw [found, saw]
  obtain ⟨notes, hrun⟩ := run_confirmMove p.status next affected confirm
  rw [updateStatus_eq, Program.run_send c state _ _ read]
  dsimp only
  rw [hfound]
  dsimp only [Posting.entry]
  rw [moveFrom_eq allowed, Program.run_send c state₁ _ _ update]
  dsimp only
  rw [hrun]
  exact ⟨notes, rfl⟩

theorem moves_of_saw {p : Posting}
    (read : c.answer (.selectById (.ledger d) id) state = (r, state₁))
    (saw : firstRow Row.posting r = .ok (some p)) :
    Moves c d id next state ((moveFrom d id p.status next).run c state₁).result
      ((moveFrom d id p.status next).run c state₁).state
      (.statement (.selectById (.ledger d) id) ::
        ((moveFrom d id p.status next).run c state₁).sent) := by
  cases allowed : p.status.canMoveTo next with
  | false =>
    have hmove : moveFrom d id p.status next = .fail (.invalidMove p.status next) := by
      rw [moveFrom, allowed]
      rfl
    rw [hmove]
    exact .barred read saw allowed
  | true =>
    obtain ⟨⟨r', state₂⟩, update⟩ :
      ∃ out, c.answer (.updateStatus d id p.status next) state₁ = out := ⟨_, rfl⟩
    rw [moveFrom_eq allowed, Program.run_send c state₁ _ _ update]
    cases r' with
    | error f => exact .refused read saw allowed update
    | ok answer =>
      dsimp only
      by_cases affected : answer.count = 0
      · rw [affected]
        exact .conflict read saw allowed update affected
      · obtain ⟨⟨r', state₃⟩, confirm⟩ :
          ∃ out, c.answer (.selectById (.ledger d) id) state₂ = out := ⟨_, rfl⟩
        obtain ⟨notes, hrun⟩ := run_confirmMove p.status next affected confirm
        rw [hrun]
        exact .confirmed read saw allowed update affected confirm

/-- A change of status ends in one of these ways. -/
theorem moves_run (c : Connection σ) (d : Direction) (id : Uuid) (next : Status) (state : σ) :
    Moves c d id next state ((updateStatus d id next).run c state).result
      ((updateStatus d id next).run c state).state
      ((updateStatus d id next).run c state).sent := by
  obtain ⟨⟨r, state₁⟩, read⟩ : ∃ out, c.answer (.selectById (.ledger d) id) state = out := ⟨_, rfl⟩
  rw [updateStatus_eq, Program.run_send c state _ _ read]
  dsimp only
  cases saw : firstRow Row.posting r with
  | error f =>
    have hfound : found d id r = .error (.database f) := by rw [found, saw]
    rw [hfound]
    exact .unseen read hfound
  | ok p? =>
    cases p? with
    | none =>
      have hfound : found d id r = .error (.notFound d id) := by rw [found, saw]
      rw [hfound]
      exact .unseen read hfound
    | some p =>
      have hfound : found d id r = .ok (p.entry d) := by rw [found, saw]
      rw [hfound]
      exact moves_of_saw read saw

end Ledger

end FundsLedger
