import FundsLedger.Database.Script
import FundsLedger.Proofs.Database.Failures
import FundsLedger.Proofs.Ledger.Runs
import FundsLedger.Proofs.Traffic.Lifecycle

/-!
# Failures that are passed on

When the database fails to answer a statement, the operation that sent it sends nothing more and tells
of that failure as it is. Only one who records a row is told more where the server has refused the
insert because a user or currency is not there. The main statement is `failures_passed_on`.
-/

namespace FundsLedger

open Database (Answer Cell Channel Connection Failure Program Reply Response Row Sent Statement
  scripted)

namespace Database.Failure

/-- A failure is taken for a missing reference where the server has refused a query or an execution
with the code of one. -/
theorem missingReference?_eq_some_iff {f : Failure} {message : String} :
    f.missingReference? = some message ↔
      ∃ channel, channel ≠ .connection ∧ f = .server channel "23503" message := by
  constructor
  · intro h
    unfold missingReference? at h
    split at h
    · rename_i code text
      split at h
      · rename_i hcode
        cases h
        exact ⟨.query, by decide, by rw [hcode]; rfl⟩
      · cases h
    · rename_i code text
      split at h
      · rename_i hcode
        cases h
        exact ⟨.execution, by decide, by rw [hcode]; rfl⟩
      · cases h
    · cases h
  · rintro ⟨channel, noConnection, rfl⟩
    cases channel with
    | query => rfl
    | execution => rfl
    | connection => exact absurd rfl noConnection

/-- The code and the message that the server has given, whatever the channel. -/
def report? : Failure → Option (String × String)
  | .server _ code message => some (code, message)
  | _ => none

end Database.Failure

namespace LedgerError

variable {f : Failure} {message : String}

theorem ofInsert_of_missing (h : f.missingReference? = some message) :
    ofInsert f = .unknownReference message := by
  rw [ofInsert, h]

theorem ofInsert_of_not_missing (h : f.missingReference? = none) : ofInsert f = .database f := by
  rw [ofInsert, h]

theorem missing_of_ofInsert (h : ofInsert f = .unknownReference message) :
    f.missingReference? = some message := by
  cases hf : f.missingReference? with
  | none =>
    rw [ofInsert_of_not_missing hf] at h
    cases h
  | some m =>
    rw [ofInsert_of_missing hf] at h
    cases h
    rfl

end LedgerError

/-! ### Rows that cannot be read -/

namespace Database.Row

variable {row : Row} {column : String} {f : Failure}

theorem bind_eq_error {ε α β : Type} {x : Except ε α} {g : α → Except ε β} {e : ε} :
    (x >>= g) = .error e ↔ x = .error e ∨ ∃ a, x = .ok a ∧ g a = .error e := by
  cases x with
  | error e' => simp [bind, Except.bind]
  | ok a => simp [bind, Except.bind]

theorem not_missing_of_get {α : Type} {content? : Cell → Option α}
    (h : row.get column content? = .error f) : f.missingReference? = none := by
  unfold get at h
  split at h
  · cases h
  · cases h
    rfl

theorem not_missing_of_status (h : row.status column = .error f) : f.missingReference? = none := by
  unfold status at h
  split at h
  · rename_i failure hread
    cases h
    exact not_missing_of_get hread
  · split at h
    · cases h
    · cases h
      rfl

/-- What is wrong with a row is never taken for a missing reference. -/
theorem not_missing_of_posting (h : row.posting = .error f) : f.missingReference? = none := by
  simp only [posting, bind_eq_error] at h
  rcases h with h | ⟨_, _, h | ⟨_, _, h | ⟨_, _, h | ⟨_, _, h | ⟨_, _, h | ⟨_, _, h | ⟨_, _, h⟩⟩⟩⟩⟩⟩⟩
  · exact not_missing_of_get h
  · exact not_missing_of_get h
  · exact not_missing_of_get h
  · exact not_missing_of_get h
  · exact not_missing_of_status h
  · exact not_missing_of_get h
  · exact not_missing_of_get h
  · cases h

end Database.Row

/-! ### The operations -/

namespace Ledger

open Database.Program (Stops)

variable {σ : Type} {c : Connection σ} {state : σ} {d : Direction} {id : Uuid} {r : Response}
  {e : LedgerError} {message : String}

theorem stops_record {entry : NewEntry} :
    Stops {} LedgerError.ofInsert (fun _ => True) (record id d entry) := by
  unfold record
  split
  · exact .fail _
  · refine (Program.stops_insertAnd trivial).mapError.bind fun p _ => ?_
    exact .say trivial (.done trivial)

theorem stops_find : Stops {} .database (fun _ => True) (find d id) := by
  refine (Program.stops_first trivial).mapError.bind fun found _ => ?_
  cases found with
  | none => exact .fail _
  | some p => exact .done trivial

theorem stops_listForUser {user : Uuid} :
    Stops {} .database (fun _ => True) (listForUser d user) := by
  refine (Program.stops_every trivial).mapError.bind fun ps _ => ?_
  exact .say trivial (.done trivial)

theorem stops_updateStatus {next : Status} :
    Stops {} .database (fun _ => True) (updateStatus d id next) := by
  refine stops_find.bind fun current _ => ?_
  unfold moveFrom
  split
  · exact .fail _
  · refine (Program.stops_act trivial).mapError.bind fun affected _ => ?_
    unfold confirmMove
    split
    · exact .say trivial (.fail _)
    · exact .say trivial stops_find

theorem exchanges_record {entry : NewEntry} (positive : 0 < entry.amount.toInt) :
    (record id d entry).exchanges c state =
      [(.insertPosting d id entry, (c.answer (.insertPosting d id entry) state).1)] := by
  unfold record
  rw [if_neg (by omega), Statement.insertAnd_eq]
  change (_, _) :: Program.exchanges c
    (Program.mapError _ (.ofExcept (returned Row.posting _)) >>= _) _ = _
  cases returned Row.posting (c.answer (.insertPosting d id entry) state).1 with
  | error failure => rfl
  | ok p => rfl

/-- A look-up never tells of a missing reference. -/
theorem found_ne_unknownReference : found d id r ≠ .error (.unknownReference message) := by
  unfold found
  intro h
  split at h <;> cases h

theorem listed_ne_unknownReference : listed d r ≠ .error (.unknownReference message) := by
  unfold listed
  intro h
  split at h <;> cases h

theorem not_missing_of_returned {answer : Answer} {f : Failure}
    (h : returned Row.posting (.ok answer) = .error f) : f.missingReference? = none := by
  unfold returned firstRow at h
  dsimp only at h
  cases hrows : answer.toRows with
  | nil =>
    rw [hrows] at h
    cases h
    rfl
  | cons row rows =>
    rw [hrows] at h
    dsimp only at h
    cases hrow : row.posting with
    | ok p =>
      rw [hrow] at h
      cases h
    | error failure =>
      rw [hrow] at h
      cases h
      exact Row.not_missing_of_posting hrow

/-- One who records a row is told of a missing reference only by the server. -/
theorem response_of_recorded (h : recorded d r = .error (.unknownReference message)) :
    ∃ channel, channel ≠ .connection ∧ r = .error (.server channel "23503" message) := by
  unfold recorded at h
  split at h
  · rename_i failure hreturned
    have missing := LedgerError.missing_of_ofInsert (Except.error.inj h)
    cases r with
    | error f =>
      cases hreturned
      obtain ⟨channel, noConnection, rfl⟩ := Failure.missingReference?_eq_some_iff.mp missing
      exact ⟨channel, noConnection, rfl⟩
    | ok answer =>
      rw [not_missing_of_returned hreturned] at missing
      cases missing
  · cases h

/-- A change of status never tells of a missing reference. -/
theorem updateStatus_ne_unknownReference {next : Status} :
    ((updateStatus d id next).run c state).result ≠ .error (.unknownReference message) := by
  have moves := moves_run c d id next state
  generalize ((updateStatus d id next).run c state).result = result at moves
  generalize ((updateStatus d id next).run c state).state = state' at moves
  generalize ((updateStatus d id next).run c state).sent = sent at moves
  intro h
  cases moves with
  | unseen read unseen =>
    rw [← unseen] at h
    exact found_ne_unknownReference h
  | barred read saw barred => cases h
  | refused read saw allowed update => cases h
  | conflict read saw allowed update none => cases h
  | confirmed read saw allowed update affected confirm => exact found_ne_unknownReference h

end Ledger

namespace Request

open Database.Program (Stops)

variable {σ : Type} {c : Connection σ} {state : σ} {q : Request} {message : String}

/-- What a request makes of the failure of a statement. -/
def failed : Request → Failure → LedgerError
  | record .. => LedgerError.ofInsert
  | _ => .database

theorem stops (q : Request) : Stops {} q.failed (fun _ => True) q.program := by
  cases q with
  | record id d e => exact Ledger.stops_record.map fun _ _ h => h
  | find d id => exact Ledger.stops_find.map fun _ _ h => h
  | list d user => exact Ledger.stops_listForUser
  | move d id next => exact Ledger.stops_updateStatus.map fun _ _ h => h

/-- Only a request to record a row tells of a missing reference, and only if the server did. -/
theorem response_of_unknownReference
    (h : (q.program.run c state).result = .error (.unknownReference message)) :
    ∃ id d e channel, q = .record id d e ∧ channel ≠ .connection ∧
      (.insertPosting d id e, .error (.server channel "23503" message)) ∈
        q.program.exchanges c state := by
  have result_of_map : ∀ {x : Except LedgerError Entry},
      (fun entry => [entry]) <$> x = .error (.unknownReference message) →
        x = .error (.unknownReference message) := by
    intro x hx
    cases x with
    | error e =>
      cases hx
      rfl
    | ok entry => cases hx
  cases q with
  | record id d e =>
    rw [program, Program.run_map] at h
    have h := result_of_map h
    by_cases positive : 0 < e.amount.toInt
    · obtain ⟨notes, hrun⟩ := Ledger.run_record positive (Prod.eta (c.answer _ state)).symm
      rw [hrun] at h
      obtain ⟨channel, noConnection, hr⟩ := Ledger.response_of_recorded h
      refine ⟨id, d, e, channel, rfl, noConnection, ?_⟩
      rw [program, Program.exchanges_map, Ledger.exchanges_record positive, hr]
      exact List.mem_singleton_self _
    · rw [Ledger.record, if_pos (by omega)] at h
      cases h
  | find d id =>
    rw [program, Program.run_map] at h
    have h := result_of_map h
    rw [Ledger.run_find (Prod.eta (c.answer _ state)).symm] at h
    exact absurd h Ledger.found_ne_unknownReference
  | list d user =>
    obtain ⟨notes, hrun⟩ := Ledger.run_listForUser (Prod.eta (c.answer (.selectByUser d user) state)).symm
    rw [program, hrun] at h
    exact absurd h Ledger.listed_ne_unknownReference
  | move d id next =>
    rw [program, Program.run_map] at h
    exact absurd (result_of_map h) Ledger.updateStatus_ne_unknownReference

end Request

/-- Whatever the database answers, a request sends nothing after a statement that failed, and then
fails itself. It tells of a missing reference, with the message of the server, where it is to record a
row and the server has refused a query or an execution with the code 23503; in every other case it
tells of the failure as it is. And no request tells of a missing reference for any other reason. -/
theorem failures_passed_on {σ : Type} (c : Connection σ) (state : σ) (q : Request) :
    (q.program.run c state).sent =
        (q.program.exchanges c state).map (fun x => .statement x.1) ∧
      (∀ before s f after, q.program.exchanges c state = before ++ (s, .error f) :: after →
        after = [] ∧
        (∀ id d e channel message, q = .record id d e → channel ≠ .connection →
          f = .server channel "23503" message →
            (q.program.run c state).result = .error (.unknownReference message)) ∧
        ((∀ id d e, q ≠ .record id d e) ∨
          (∀ channel message, channel ≠ .connection → f ≠ .server channel "23503" message) →
            (q.program.run c state).result = .error (.database f))) ∧
      ∀ message, (q.program.run c state).result = .error (.unknownReference message) →
        ∃ id d e channel, q = .record id d e ∧ channel ≠ .connection ∧
          (.insertPosting d id e, .error (.server channel "23503" message)) ∈
            q.program.exchanges c state := by
  refine ⟨q.stops.sent_eq c state, ?_, fun message h => Request.response_of_unknownReference h⟩
  intro before s f after hx
  have failed : (q.program.run c state).result = .error (q.failed f) :=
    q.stops.result_eq c state (s := s) (by simp [hx])
  refine ⟨q.stops.last_of_error c state hx, ?_, ?_⟩
  · rintro id d e channel message rfl noConnection rfl
    have missing : (Failure.server channel "23503" message).missingReference? = some message :=
      Failure.missingReference?_eq_some_iff.mpr ⟨channel, noConnection, rfl⟩
    rw [failed, Request.failed, LedgerError.ofInsert_of_missing missing]
  · intro other
    rw [failed]
    cases q with
    | record id d e =>
      have unclassified : f.missingReference? = none := by
        rw [Option.eq_none_iff_forall_not_mem]
        intro message missing
        obtain ⟨channel, noConnection, heq⟩ := Failure.missingReference?_eq_some_iff.mp missing
        rcases other with other | other
        · exact other id d e rfl
        · exact other channel message noConnection heq
      rw [Request.failed, LedgerError.ofInsert_of_not_missing unclassified]
    | find d id => rfl
    | list d user => rfl
    | move d id next => rfl

namespace Race

def violationText : String :=
  "insert or update on table \"deposits\" violates foreign key constraint \"fk_deposits_user_id\""

def violation (channel : Channel) : Failure :=
  .server channel "23503" violationText

/-- The deposit is read as pending and an update affects it, but reading it again is refused. -/
def refusedAtLast : List Reply :=
  [.answer (.rows [.ofPosting (deposit .pending (time 20))]), .answer (.affected 1),
    .mishap violation]

end Race

theorem failures_passed_on_violation :
    ((Request.record Race.row .deposit Race.asked).program.run scripted
        [.mishap Race.violation]).result = .error (.unknownReference Race.violationText) ∧
      ((Request.move .deposit Race.row .completed).program.run scripted Race.refusedAtLast).result =
        .error (.database (Race.violation .query)) := by
  have insert : (Request.record Race.row .deposit Race.asked).program.exchanges scripted
      [.mishap Race.violation] =
        [] ++ (.insertPosting .deposit Race.row Race.asked, .error (Race.violation .query)) :: [] := by
    rfl
  have reread : (Request.move .deposit Race.row .completed).program.exchanges scripted
      Race.refusedAtLast =
        [(.selectById (.ledger .deposit) Race.row,
            .ok (.rows [.ofPosting (Race.deposit .pending (Race.time 20))])),
          (.updateStatus .deposit Race.row .pending .completed, .ok (.affected 1))] ++
        (.selectById (.ledger .deposit) Race.row, .error (Race.violation .query)) :: [] := by
    rfl
  obtain ⟨_, recording, _⟩ := failures_passed_on scripted [.mishap Race.violation]
    (.record Race.row .deposit Race.asked)
  obtain ⟨_, moving, _⟩ := failures_passed_on scripted Race.refusedAtLast
    (.move .deposit Race.row .completed)
  refine ⟨(recording _ _ _ _ insert).2.1 _ _ _ .query _ rfl (by decide) rfl, ?_⟩
  exact (moving _ _ _ _ reread).2.2 (.inl fun _ _ _ heq => by cases heq)

/-- A refusal with the code of a missing reference that comes as a failure of the connection is not
taken for one. -/
theorem connection_failure_unclassified :
    (Ledger.record Race.row .deposit Race.asked).exchanges scripted
        [.mishap fun _ => Race.violation .connection] =
        [(.insertPosting .deposit Race.row Race.asked, .error (Race.violation .connection))] ∧
      (Race.violation .connection).report? = some ("23503", Race.violationText) ∧
      ((Ledger.record Race.row .deposit Race.asked).run scripted
        [.mishap fun _ => Race.violation .connection]).result =
        .error (.database (Race.violation .connection)) ∧
      ((Ledger.record Race.row .deposit Race.asked).run scripted
        [.mishap fun _ => Race.violation .connection]).result ≠
        .error (.unknownReference Race.violationText) := by
  have result : ((Ledger.record Race.row .deposit Race.asked).run scripted
      [.mishap fun _ => Race.violation .connection]).result =
        .error (.database (Race.violation .connection)) := by rfl
  refine ⟨rfl, rfl, result, ?_⟩
  rw [result]
  intro same
  cases same

end FundsLedger
