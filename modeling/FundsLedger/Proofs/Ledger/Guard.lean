import FundsLedger.Database.Script
import FundsLedger.Proofs.Database.Wording
import FundsLedger.Proofs.Ledger.Runs
import FundsLedger.Proofs.Traffic.Lifecycle

/-!
# What is written, and when

A database may answer anything. Whatever it answers, a status is changed by no other statement than
the update that names the status that was read, and that update is sent only where the lifecycle has
the step. The main statement is `guarded_writes`.
-/

namespace FundsLedger

open Database (Answer Connection Program Reply Response Row Sent Statement
  asStatus column ident scripted)

theorem Database.Row.status_of_posting {row : Row} {p : Posting} (h : row.posting = .ok p) :
    row.status "status" = .ok p.status := by
  simp only [posting, Store.bind_eq_ok] at h
  rcases h with ⟨_, _, _, _, _, _, _, _, s, hs, _, _, _, _, hp⟩
  cases hp
  exact hs

namespace Request

def direction : Request → Direction
  | record _ d _ | find d _ | list d _ | move d _ _ => d

end Request

namespace Ledger

variable {σ : Type} {c : Connection σ} {d : Direction} {id : Uuid} {next : Status} {state state' : σ}
  {result : Except LedgerError Entry} {sent : List Sent} {x : Sent}

theorem Moves.statement_of_mem (h : Moves c d id next state result state' sent) (hx : x ∈ sent) :
    x = .statement (.selectById (.ledger d) id) ∨
      ∃ s, x = .statement (.updateStatus d id s next) := by
  cases h with
  | unseen read unseen => exact .inl (List.mem_singleton.mp hx)
  | barred read saw barred => exact .inl (List.mem_singleton.mp hx)
  | refused read saw allowed update =>
    simp only [List.mem_cons, List.not_mem_nil, or_false] at hx
    exact hx.imp_right fun h => ⟨_, h⟩
  | conflict read saw allowed update none =>
    simp only [List.mem_cons, List.not_mem_nil, or_false] at hx
    exact hx.imp_right fun h => ⟨_, h⟩
  | confirmed read saw allowed update affected confirm =>
    simp only [List.mem_cons, List.not_mem_nil, or_false] at hx
    rcases hx with h | h | h
    · exact .inl h
    · exact .inr ⟨_, h⟩
    · exact .inl h

end Ledger

namespace Request

variable {σ : Type} {c : Connection σ} {state : σ} {q : Request} {x : Sent}

/-- Everything that a request sends concerns the table of its direction, and only a request to move
a row sends an update, of that row. -/
theorem concerns_of_sent (hx : x ∈ (q.program.run c state).sent) :
    ∃ s, x = .statement s ∧ s.Concerns q.direction ∧
      ∀ d id expected next, s = .updateStatus d id expected next → q = .move d id next := by
  cases q with
  | record id d e =>
    rw [program, Program.run_map] at hx
    by_cases positive : 0 < e.amount.toInt
    · obtain ⟨⟨r, state₁⟩, h⟩ : ∃ out, c.answer (.insertPosting d id e) state = out := ⟨_, rfl⟩
      obtain ⟨notes, hrun⟩ := Ledger.run_record positive h
      rw [hrun] at hx
      exact ⟨_, List.mem_singleton.mp hx, .insert id e, fun _ _ _ _ heq => by cases heq⟩
    · rw [Ledger.record, if_pos (by omega)] at hx
      cases hx
  | find d id =>
    rw [program, Program.run_map, Ledger.run_find rfl] at hx
    exact ⟨_, List.mem_singleton.mp hx, .look id, fun _ _ _ _ heq => by cases heq⟩
  | list d user =>
    obtain ⟨⟨r, state₁⟩, h⟩ : ∃ out, c.answer (.selectByUser d user) state = out := ⟨_, rfl⟩
    obtain ⟨notes, hrun⟩ := Ledger.run_listForUser h
    rw [program, hrun] at hx
    exact ⟨_, List.mem_singleton.mp hx, .list user, fun _ _ _ _ heq => by cases heq⟩
  | move d id next =>
    rw [program, Program.run_map] at hx
    rcases (Ledger.moves_run c d id next state).statement_of_mem hx with h | ⟨s, h⟩
    · exact ⟨_, h, .look id, fun _ _ _ _ heq => by cases heq⟩
    · exact ⟨_, h, .update id s next, fun _ _ _ _ heq => by cases heq; rfl⟩

end Request

/-- Whatever the database answers, a change of status looks the row up, may then send one update, and
may then look the row up again. It sends the update only after it was shown a row with a status from
which the lifecycle has the step; that update sets the new status and the time of the change, where
the id is the one asked for and the status the one that was seen. It looks again only after the
update affected a row. No request deletes anything, names the other direction's table or sends an
update of any other kind. -/
theorem guarded_writes {σ : Type} (c : Connection σ) (state : σ) :
    (∀ d id next, ∃ r state₁, c.answer (.selectById (.ledger d) id) state = (r, state₁) ∧
      (((Ledger.updateStatus d id next).run c state).sent =
          [.statement (.selectById (.ledger d) id)] ∨
        ∃ row rows s, r = .ok (.rows (row :: rows)) ∧ row.status "status" = .ok s ∧
          s.canMoveTo next = true ∧
          (Statement.updateStatus d id s next).sql =
            ⟨"UPDATE " ++ ident d.table ++ " SET \"status\" = " ++ asStatus "$1" ++
              ", \"updated_at\" = CURRENT_TIMESTAMP " ++
              ("WHERE " ++ column d.table "id" ++ " = $2 AND " ++ column d.table "status" ++
                " = (" ++ asStatus "$3" ++ ")"),
              some [.text next.name, .uuid id, .text s.name]⟩ ∧
          ∃ r' state₂, c.answer (.updateStatus d id s next) state₁ = (r', state₂) ∧
            (((Ledger.updateStatus d id next).run c state).sent =
                [.statement (.selectById (.ledger d) id),
                  .statement (.updateStatus d id s next)] ∨
              (∃ answer, r' = .ok answer ∧ 1 ≤ answer.count) ∧
                ((Ledger.updateStatus d id next).run c state).sent =
                  [.statement (.selectById (.ledger d) id),
                    .statement (.updateStatus d id s next),
                    .statement (.selectById (.ledger d) id)]))) ∧
    ∀ q : Request, ∀ x ∈ (q.program.run c state).sent, ∃ s, x = .statement s ∧
      s.sql.Mentions q.direction.table ∧ (∀ d, d ≠ q.direction → ¬ s.sql.Mentions d.table) ∧
      ¬ s.sql.Mentions "DELETE" ∧
      (s.sql.Mentions "UPDATE" →
        ∃ id expected next, q = .move q.direction id next ∧
          s = .updateStatus q.direction id expected next) := by
  refine ⟨fun d id next => ?_, fun q x hx => ?_⟩
  · have hmoves := Ledger.moves_run c d id next state
    generalize ((Ledger.updateStatus d id next).run c state).sent = sent at hmoves ⊢
    generalize ((Ledger.updateStatus d id next).run c state).result = result at hmoves
    generalize ((Ledger.updateStatus d id next).run c state).state = state' at hmoves
    cases hmoves with
    | unseen read unseen => exact ⟨_, _, read, .inl rfl⟩
    | barred read saw barred => exact ⟨_, _, read, .inl rfl⟩
    | refused read saw allowed update =>
      obtain ⟨row, rows, rfl, hrow⟩ := firstRow_eq_ok saw
      exact ⟨_, _, read, .inr ⟨row, rows, _, rfl, Row.status_of_posting hrow, allowed, rfl, _, _,
        update, .inl rfl⟩⟩
    | conflict read saw allowed update none =>
      obtain ⟨row, rows, rfl, hrow⟩ := firstRow_eq_ok saw
      exact ⟨_, _, read, .inr ⟨row, rows, _, rfl, Row.status_of_posting hrow, allowed, rfl, _, _,
        update, .inl rfl⟩⟩
    | confirmed read saw allowed update affected confirm =>
      obtain ⟨row, rows, rfl, hrow⟩ := firstRow_eq_ok saw
      exact ⟨_, _, read, .inr ⟨row, rows, _, rfl, Row.status_of_posting hrow, allowed, rfl, _, _,
        update, .inr ⟨⟨_, rfl, Nat.one_le_iff_ne_zero.mpr affected⟩, rfl⟩⟩⟩
  · obtain ⟨s, rfl, concerns, moves⟩ := Request.concerns_of_sent hx
    obtain ⟨own, other, kept⟩ := concerns.words
    refine ⟨s, rfl, own, other, kept, fun update => ?_⟩
    obtain ⟨id, expected, next, rfl⟩ := concerns.update_of_mentions update
    exact ⟨id, expected, next, moves _ id expected next rfl, rfl⟩

/-- The deposit is read as pending, an update affects it, and it is read again. -/
def Race.answers : List Reply :=
  [.answer (.rows [.ofPosting (deposit .pending (time 20))]), .answer (.affected 1),
    .answer (.rows [.ofPosting (deposit .completed (time 30))])]

theorem guarded_writes_completed :
    ((Ledger.updateStatus .deposit Race.row .completed).run scripted Race.answers).sent =
        [.statement (.selectById (.ledger .deposit) Race.row),
          .statement (.updateStatus .deposit Race.row .pending .completed),
          .statement (.selectById (.ledger .deposit) Race.row)] ∧
      ¬ (Statement.updateStatus .deposit Race.row .pending .completed).sql.Mentions "DELETE" ∧
      ¬ (Statement.updateStatus .deposit Race.row .pending .completed).sql.Mentions
        Direction.withdrawal.table := by
  have sent : ((Ledger.updateStatus .deposit Race.row .completed).run scripted Race.answers).sent =
      [.statement (.selectById (.ledger .deposit) Race.row),
        .statement (.updateStatus .deposit Race.row .pending .completed),
        .statement (.selectById (.ledger .deposit) Race.row)] := by rfl
  have update : Sent.statement (.updateStatus .deposit Race.row .pending .completed) ∈
      ((Request.move .deposit Race.row .completed).program.run scripted Race.answers).sent := by
    rw [Request.program, Program.run_map, sent]
    simp
  obtain ⟨s, heq, _, other, kept, _⟩ := (guarded_writes scripted Race.answers).2 _ _ update
  cases heq
  exact ⟨sent, kept, other .withdrawal (by decide)⟩

end FundsLedger
