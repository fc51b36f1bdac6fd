import FundsLedger.Proofs.Database.Reading

/-!
# What is asked of the ledger

A request names one operation with its arguments. The operations are shown here as trees of
statements, so that what one sends next can be read off the responses it has heard. The main
statement is `updateStatus_eq`: a change of status looks the row up, updates it if the lifecycle
has the step, and looks it up again if a row was affected.
-/

namespace FundsLedger

open Database (Answer Failure Program Response Row Statement)

namespace Ledger

variable {d : Direction} {id : Uuid}

def found (d : Direction) (id : Uuid) (r : Response) : Except LedgerError Entry :=
  match firstRow Row.posting r with
  | .error failure => .error (.database failure)
  | .ok none => .error (.notFound d id)
  | .ok (some p) => .ok (p.entry d)

theorem found_eq_ok {r : Response} {entry : Entry} (h : found d id r = .ok entry) :
    ∃ p, firstRow Row.posting r = .ok (some p) ∧ entry = p.entry d := by
  unfold found at h
  split at h
  · cases h
  · cases h
  · rename_i p saw
    exact ⟨p, saw, (Except.ok.inj h).symm⟩

theorem find_eq (d : Direction) (id : Uuid) :
    find d id = .send (.selectById (.ledger d) id) fun r => .ofExcept (found d id r) := by
  unfold find
  rw [Statement.first_eq, Program.mapError_send, Program.send_bind]
  congr 1
  funext r
  unfold found
  cases firstRow Row.posting r with
  | error failure => rfl
  | ok p =>
    cases p with
    | none => rfl
    | some p => rfl

theorem updateStatus_eq (d : Direction) (id : Uuid) (next : Status) :
    updateStatus d id next = .send (.selectById (.ledger d) id) fun r =>
      match found d id r with
      | .error e => .fail e
      | .ok current => moveFrom d id current.status next := by
  unfold updateStatus
  rw [find_eq, Program.send_bind]
  congr 1
  funext r
  cases found d id r with
  | error e => rfl
  | ok current => rfl

theorem moveFrom_eq {current next : Status} (h : current.canMoveTo next = true) :
    moveFrom d id current next = .send (.updateStatus d id current next) fun
      | .error failure => .fail (.database failure)
      | .ok answer => confirmMove d id current next answer.count := by
  unfold moveFrom
  rw [h]
  refine congrArg (Program.send _) (funext fun r => ?_)
  cases r with
  | error failure => rfl
  | ok answer => rfl

def recorded (d : Direction) (r : Response) : Except LedgerError Entry :=
  match returned Row.posting r with
  | .error failure => .error (.ofInsert failure)
  | .ok p => .ok (p.entry d)

theorem recorded_eq_ok {r : Response} {entry : Entry} (h : recorded d r = .ok entry) :
    ∃ p, firstRow Row.posting r = .ok (some p) ∧ entry = p.entry d := by
  unfold recorded returned at h
  cases hr : firstRow Row.posting r with
  | error failure =>
    rw [hr] at h
    cases h
  | ok p? =>
    rw [hr] at h
    cases p? with
    | none => cases h
    | some p =>
      cases h
      exact ⟨p, rfl, rfl⟩

theorem record_next? {e : NewEntry} (h : 0 < e.amount.toInt) :
    ((record id d e).after []).next? = some (.insertPosting d id e) := by
  unfold record
  rw [if_neg (by omega)]
  rfl

theorem record_after {e : NewEntry} (h : 0 < e.amount.toInt) (r : Response) (rs : List Response) :
    (record id d e).after (r :: rs) = .ofExcept (recorded d r) := by
  unfold record recorded
  rw [if_neg (by omega), Statement.insertAnd_eq]
  change Program.after (Program.mapError _ (.ofExcept (returned Row.posting r)) >>= _) rs = _
  cases returned Row.posting r with
  | error failure => rfl
  | ok p => rfl

def listed (d : Direction) (r : Response) : Except LedgerError (List Entry) :=
  match everyRow Row.posting r with
  | .error failure => .error (.database failure)
  | .ok ps => .ok (ps.map (·.entry d))

theorem listForUser_after (d : Direction) (user : Uuid) (r : Response) (rs : List Response) :
    (listForUser d user).after (r :: rs) = .ofExcept (listed d r) := by
  unfold listForUser listed
  rw [Statement.every_eq]
  change Program.after (Program.mapError _ (.ofExcept (everyRow Row.posting r)) >>= _) rs = _
  cases everyRow Row.posting r with
  | error failure => rfl
  | ok ps => rfl

end Ledger

/-- What can be asked of the ledger. A row is recorded under an id that was drawn for it. -/
inductive Request where
  | record (id : Uuid) (direction : Direction) (entry : NewEntry)
  | find (direction : Direction) (id : Uuid)
  | list (direction : Direction) (user : Uuid)
  | move (direction : Direction) (id : Uuid) (next : Status)
deriving DecidableEq

namespace Request

/-- The operation that a request names. All but a listing give a single entry. -/
def program : Request → Program LedgerError (List Entry)
  | record id d e => (fun entry => [entry]) <$> Ledger.record id d e
  | find d id => (fun entry => [entry]) <$> Ledger.find d id
  | list d user => Ledger.listForUser d user
  | move d id next => (fun entry => [entry]) <$> Ledger.updateStatus d id next

/-- What a request that has heard the given responses sends next. A change of status looks its row
up, sends an update that names the status it saw, and after a row was affected looks it up again. -/
inductive Sends : Request → List Response → Statement → Prop
  | insert {id d e} (positive : 0 < e.amount.toInt) :
      Sends (record id d e) [] (.insertPosting d id e)
  | look {d id} : Sends (find d id) [] (.selectById (.ledger d) id)
  | list {d user} : Sends (list d user) [] (.selectByUser d user)
  | read {d id next} : Sends (move d id next) [] (.selectById (.ledger d) id)
  | update {d id next r p} (saw : firstRow Row.posting r = .ok (some p))
      (allowed : p.status.canMoveTo next = true) :
      Sends (move d id next) [r] (.updateStatus d id p.status next)
  | confirm {d id next r p answer} (saw : firstRow Row.posting r = .ok (some p))
      (allowed : p.status.canMoveTo next = true) (affected : answer.count ≠ 0) :
      Sends (move d id next) [r, .ok answer] (.selectById (.ledger d) id)

variable {d : Direction} {id : Uuid} {next : Status} {r : Response} {p : Posting} {answer : Answer}

theorem move_after_look (h : firstRow Row.posting r = .ok (some p)) (rs : List Response) :
    (move d id next).program.after (r :: rs) =
      (fun entry => [entry]) <$> (Ledger.moveFrom d id p.status next).after rs := by
  rw [program, Program.after_map, Ledger.updateStatus_eq]
  dsimp only [Program.after]
  rw [Ledger.found, h]
  rfl

theorem move_after_update (h : firstRow Row.posting r = .ok (some p))
    (hp : p.status.canMoveTo next = true) (rs : List Response) :
    (move d id next).program.after (r :: .ok answer :: rs) =
      (fun entry => [entry]) <$>
        (Ledger.confirmMove d id p.status next answer.count).after rs := by
  rw [move_after_look h, Ledger.moveFrom_eq hp]
  rfl

theorem confirmMove_after_zero (current : Status) (rs : List Response) :
    (Ledger.confirmMove d id current next 0).after rs = .fail (.statusConflict d id current) :=
  rfl

theorem confirmMove_after {n : Nat} (h : n ≠ 0) (current : Status) (rs : List Response) :
    (Ledger.confirmMove d id current next n).after rs = (Ledger.find d id).after rs := by
  rw [Ledger.confirmMove, if_neg h]
  rfl

theorem find_after (r : Response) (rs : List Response) :
    (Ledger.find d id).after (r :: rs) = .ofExcept (Ledger.found d id r) := by
  rw [Ledger.find_eq]
  exact Program.after_ofExcept _ rs

theorem next?_of_not_seen (h : ∀ p, firstRow Row.posting r ≠ .ok (some p)) (rs : List Response) :
    ((move d id next).program.after (r :: rs)).next? = none := by
  rw [program, Program.after_map, Program.next?_map, Ledger.updateStatus_eq]
  dsimp only [Program.after]
  unfold Ledger.found
  cases hr : firstRow Row.posting r with
  | error failure => rfl
  | ok p? =>
    cases p? with
    | none => rfl
    | some p => exact absurd hr (h p)

theorem Sends.next? {q : Request} {heard : List Response} {s : Statement} (h : Sends q heard s) :
    (q.program.after heard).next? = some s := by
  cases h with
  | insert positive =>
    rw [program, Program.after_map, Program.next?_map]
    exact Ledger.record_next? positive
  | look => rfl
  | list => rfl
  | read => rfl
  | update saw allowed =>
    rw [move_after_look saw, Program.next?_map, Ledger.moveFrom_eq allowed]
    rfl
  | confirm saw allowed affected =>
    rw [move_after_update saw allowed, Program.next?_map, confirmMove_after affected]
    rfl

theorem sends_record {e : NewEntry} {heard : List Response} {s : Statement}
    (h : ((record id d e).program.after heard).next? = some s) : Sends (record id d e) heard s := by
  rw [program, Program.after_map, Program.next?_map] at h
  by_cases positive : 0 < e.amount.toInt
  · cases heard with
    | nil =>
      rw [Ledger.record_next? positive] at h
      cases h
      exact .insert positive
    | cons r rs =>
      rw [Ledger.record_after positive, Program.next?_ofExcept] at h
      cases h
  · rw [Ledger.record, if_pos (by omega)] at h
    cases h

theorem sends_find {heard : List Response} {s : Statement}
    (h : ((find d id).program.after heard).next? = some s) : Sends (find d id) heard s := by
  rw [program, Program.after_map, Program.next?_map] at h
  cases heard with
  | nil =>
    cases h
    exact .look
  | cons r rs =>
    rw [find_after, Program.next?_ofExcept] at h
    cases h

theorem sends_list {user : Uuid} {heard : List Response} {s : Statement}
    (h : ((list d user).program.after heard).next? = some s) : Sends (list d user) heard s := by
  cases heard with
  | nil =>
    cases h
    exact .list
  | cons r rs =>
    rw [program, Ledger.listForUser_after, Program.next?_ofExcept] at h
    cases h

theorem sends_move {heard : List Response} {s : Statement}
    (h : ((move d id next).program.after heard).next? = some s) :
    Sends (move d id next) heard s := by
  rcases heard with _ | ⟨r, heard⟩
  · cases h
    exact .read
  by_cases saw : ∃ p, firstRow Row.posting r = .ok (some p)
  · rcases saw with ⟨p, saw⟩
    by_cases allowed : p.status.canMoveTo next = true
    · rcases heard with _ | ⟨failure | answer, heard⟩
      · rw [move_after_look saw, Program.next?_map, Ledger.moveFrom_eq allowed] at h
        cases h
        exact .update saw allowed
      · rw [move_after_look saw, Program.next?_map, Ledger.moveFrom_eq allowed] at h
        cases h
      · rw [move_after_update saw allowed, Program.next?_map] at h
        by_cases affected : answer.count = 0
        · rw [affected, confirmMove_after_zero] at h
          cases h
        · rw [confirmMove_after affected] at h
          cases heard with
          | nil =>
            cases h
            exact .confirm saw allowed affected
          | cons r' heard =>
            rw [find_after, Program.next?_ofExcept] at h
            cases h
    · rw [move_after_look saw, Program.next?_map, Ledger.moveFrom, if_pos (by simpa using allowed)]
        at h
      cases h
  · rw [next?_of_not_seen (fun p hp => saw ⟨p, hp⟩)] at h
    cases h

/-- The statement that a request sends next is settled by the responses it has heard. -/
theorem next?_eq_some_iff {q : Request} {heard : List Response} {s : Statement} :
    (q.program.after heard).next? = some s ↔ Sends q heard s := by
  constructor
  · intro h
    cases q with
    | record id d e => exact sends_record h
    | find d id => exact sends_find h
    | list d user => exact sends_list h
    | move d id next => exact sends_move h
  · exact Sends.next?

end Request

end FundsLedger
