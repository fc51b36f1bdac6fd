import FundsLedger.Ledger.Operations
import FundsLedger.Proofs.Database.Program

/-!
# Statements whose response is read

A single statement, with what is read from its response. Each way of asking is shown here as one node
of a program, and a failure is read as that failure.
-/

namespace FundsLedger

open Database (Answer Failure Program Response Row Statement)

/-- The first row of a response, read with `read`, if there is one. -/
def firstRow {α : Type} (read : Row → Except Failure α) : Response → Except Failure (Option α)
  | .error failure => .error failure
  | .ok answer =>
    match answer.toRows with
    | [] => .ok none
    | row :: _ => some <$> read row

def everyRow {α : Type} (read : Row → Except Failure α) : Response → Except Failure (List α)
  | .error failure => .error failure
  | .ok answer => answer.toRows.mapM read

/-- The row that an insert returned, read with `read`. -/
def Ledger.returned {α : Type} (read : Row → Except Failure α) (r : Response) : Except Failure α :=
  match firstRow read r with
  | .error failure => .error failure
  | .ok none => .error .notReturned
  | .ok (some a) => .ok a

theorem firstRow_eq_ok {r : Response} {p : Posting} (h : firstRow Row.posting r = .ok (some p)) :
    ∃ row rows, r = .ok (.rows (row :: rows)) ∧ row.posting = .ok p := by
  rcases r with failure | (_ | ⟨row, rows⟩) | n
  · cases h
  · cases h
  · refine ⟨row, rows, rfl, ?_⟩
    dsimp only [firstRow, Answer.toRows] at h
    cases hp : row.posting with
    | error failure =>
      rw [hp] at h
      cases h
    | ok q =>
      rw [hp] at h
      cases h
      rfl
  · cases h

namespace Database.Statement

variable {α : Type} (s : Statement) (read : Row → Except Failure α)

theorem act_eq : s.act = .send s fun r => .ofExcept (r.map Answer.count) := by
  refine congrArg (Program.send s) (funext fun r => ?_)
  cases r with
  | error failure => rfl
  | ok answer => rfl

theorem first_eq : s.first read = .send s fun r => .ofExcept (firstRow read r) := by
  refine congrArg (Program.send s) (funext fun r => ?_)
  cases r with
  | error failure => rfl
  | ok answer =>
    rw [Program.ofExcept_ok]
    dsimp only [firstRow, Program.bind]
    cases answer.toRows with
    | nil => rfl
    | cons row rows =>
      dsimp only
      cases read row with
      | error failure => rfl
      | ok a => rfl

theorem insertAnd_eq : s.insertAnd read = .send s fun r => .ofExcept (Ledger.returned read r) := by
  refine congrArg (Program.send s) (funext fun r => ?_)
  cases r with
  | error failure => rfl
  | ok answer =>
    rw [Program.ofExcept_ok]
    dsimp only [Ledger.returned, firstRow, Program.bind]
    cases answer.toRows with
    | nil => rfl
    | cons row rows =>
      dsimp only
      cases read row with
      | error failure => rfl
      | ok a => rfl

theorem every_eq : s.every read = .send s fun r => .ofExcept (everyRow read r) := by
  refine congrArg (Program.send s) (funext fun r => ?_)
  cases r with
  | error failure => rfl
  | ok answer => rfl

end Database.Statement

end FundsLedger
