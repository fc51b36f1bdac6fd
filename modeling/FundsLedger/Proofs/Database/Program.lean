import FundsLedger.Database.Program

/-!
# Programs step by step

The combinators of programs, opened one node at a time, and programs that were interrupted. Between
two of its statements a program waits, and others may use the database meanwhile. What is left of it
depends only on the responses it has heard. Messages take no time: they are passed over.
-/

namespace FundsLedger.Database

/-- Whether a note is a program's own, and not one of the driver. -/
def Note.isOwn : Note → Bool
  | .statement _ => false
  | _ => true

theorem Note.filter_statement (messages : List String) :
    (messages.map Note.statement).filter isOwn = [] := by
  simp [isOwn]

namespace Program

variable {ε ε' α β : Type}

@[simp] theorem done_bind (a : α) (f : α → Program ε β) : (done a >>= f) = f a := rfl

@[simp] theorem send_bind (s : Statement) (next : Response → Program ε α) (f : α → Program ε β) :
    (send s next >>= f) = send s fun r => next r >>= f := rfl

@[simp] theorem mapError_send (f : ε → ε') (s : Statement) (next : Response → Program ε α) :
    (send s next).mapError f = send s fun r => (next r).mapError f := rfl

@[simp] theorem ofExcept_ok (a : α) : (ofExcept (.ok a) : Program ε α) = done a := rfl

@[simp] theorem map_send (f : α → β) (s : Statement) (next : Response → Program ε α) :
    f <$> send s next = send s fun r => f <$> next r := rfl

@[simp] theorem map_say (f : α → β) (note : Note) (next : Program ε α) :
    f <$> say note next = say note (f <$> next) := rfl

/-- What is left of a program that has heard the given responses in turn. A program that opens a
transaction goes no further, since what others do in between would not be seen in it. -/
def after : Program ε α → List Response → Program ε α
  | send s next, [] => send s next
  | send _ next, r :: rs => (next r).after rs
  | say _ next, rs => next.after rs
  | bound b next, _ => bound b next
  | done a, _ => done a
  | fail e, _ => fail e

def next? : Program ε α → Option Statement
  | send s _ => some s
  | _ => none

def result? : Program ε α → Option (Except ε α)
  | done a => some (.ok a)
  | fail e => some (.error e)
  | _ => none

theorem after_map (f : α → β) (p : Program ε α) (rs : List Response) :
    (f <$> p).after rs = f <$> p.after rs := by
  induction p generalizing rs with
  | done a => rfl
  | fail e => rfl
  | send s next ih =>
    cases rs with
    | nil => rfl
    | cons r rs => exact ih r rs
  | bound b next _ => rfl
  | say note next ih => exact ih rs

@[simp] theorem after_ofExcept (x : Except ε α) (rs : List Response) :
    (ofExcept x).after rs = ofExcept x := by
  cases x <;> rfl

@[simp] theorem next?_map (f : α → β) (p : Program ε α) : (f <$> p).next? = p.next? := by
  cases p <;> rfl

@[simp] theorem next?_ofExcept (x : Except ε α) : (ofExcept x).next? = none := by
  cases x <;> rfl

theorem next?_eq_none {p : Program ε α} {result : Except ε α} (h : p.result? = some result) :
    p.next? = none := by
  cases p with
  | done a => rfl
  | fail e => rfl
  | send s next => cases h
  | bound b next => cases h
  | say note next => cases h

section Run

variable {σ : Type} (c : Connection σ) (state : σ)

theorem run_send (s : Statement) (next : Response → Program ε α) {r : Response} {state' : σ}
    (h : c.answer s state = (r, state')) :
    (send s next).run c state =
      { (next r).run c state' with sent := .statement s :: ((next r).run c state').sent } := by
  rw [run, h]

theorem run_ofExcept (x : Except ε α) : (ofExcept x).run c state = ⟨x, state, [], []⟩ := by
  cases x <;> rfl

theorem run_map (f : α → β) (p : Program ε α) :
    (f <$> p).run c state =
      ⟨f <$> (p.run c state).result, (p.run c state).state, (p.run c state).sent,
        (p.run c state).notes⟩ := by
  induction p generalizing state with
  | done a => rfl
  | fail e => rfl
  | send s next ih => simp only [map_send, run, ih]
  | bound b next ih =>
    change (bound b (f <$> next)).run c state = _
    simp only [run, ih]
  | say note next ih => simp only [map_say, run, ih]

theorem run_bind (p : Program ε α) (f : α → Program ε β) :
    (p >>= f).run c state =
      match (p.run c state).result with
      | .error e => ⟨.error e, (p.run c state).state, (p.run c state).sent, (p.run c state).notes⟩
      | .ok a =>
        ⟨((f a).run c (p.run c state).state).result, ((f a).run c (p.run c state).state).state,
          (p.run c state).sent ++ ((f a).run c (p.run c state).state).sent,
          (p.run c state).notes ++ ((f a).run c (p.run c state).state).notes⟩ := by
  induction p generalizing state with
  | done a => rfl
  | fail e => rfl
  | send s next ih =>
    simp only [send_bind, run, ih]
    cases ((next (c.answer s state).1).run c (c.answer s state).2).result with
    | error e => rfl
    | ok a => rfl
  | bound b next ih =>
    change (bound b (next >>= f)).run c state = _
    simp only [run, ih]
    cases (next.run c (c.move b state)).result with
    | error e => rfl
    | ok a => rfl
  | say note next ih =>
    change (say note (next >>= f)).run c state = _
    simp only [run, ih]
    cases (next.run c state).result with
    | error e => rfl
    | ok a => rfl

theorem run_attempt (p : Program ε α) :
    (p.attempt : Program ε' (Except ε α)).run c state =
      ⟨.ok (p.run c state).result, (p.run c state).state, (p.run c state).sent,
        (p.run c state).notes⟩ := by
  induction p generalizing state with
  | done a => rfl
  | fail e => rfl
  | send s next ih => simp only [attempt, run, ih]
  | bound b next ih => simp only [attempt, run, ih]
  | say note next ih => simp only [attempt, run, ih]

theorem run_mapError (f : ε → ε') (p : Program ε α) :
    (p.mapError f).run c state =
      ⟨(p.run c state).result.mapError f, (p.run c state).state, (p.run c state).sent,
        (p.run c state).notes⟩ := by
  induction p generalizing state with
  | done a => rfl
  | fail e => rfl
  | send s next ih => simp only [mapError_send, run, ih]
  | bound b next ih => simp only [mapError, run, ih]
  | say note next ih => simp only [mapError, run, ih]

/-- A transaction ends with a commit where its body succeeds, and is rolled back where it fails. -/
theorem run_inTransaction (body : Program ε α) :
    (inTransaction body).run c state =
      match (body.run c (c.move .start state)).result with
      | .error e =>
        ⟨.error e, c.move .rollback (body.run c (c.move .start state)).state,
          .bound .start :: ((body.run c (c.move .start state)).sent ++ [.bound .rollback]),
          (body.run c (c.move .start state)).notes⟩
      | .ok a =>
        ⟨.ok a, c.move .commit (body.run c (c.move .start state)).state,
          .bound .start :: ((body.run c (c.move .start state)).sent ++ [.bound .commit]),
          (body.run c (c.move .start state)).notes⟩ := by
  rw [inTransaction, run]
  change (let rest := (body.attempt >>= _).run c (c.move .start state)
    ({ rest with sent := .bound .start :: rest.sent } : Outcome σ ε α)) = _
  rw [run_bind, run_attempt]
  dsimp only
  cases (body.run c (c.move .start state)).result with
  | error e => simp only [run, List.append_nil]
  | ok a => simp only [run, List.append_nil]

theorem run_inTransaction_of_ok {body : Program ε α} {a : α} {final : σ} {sent : List Sent}
    {notes : List Note} (h : body.run c (c.move .start state) = ⟨.ok a, final, sent, notes⟩) :
    (inTransaction body).run c state =
      ⟨.ok a, c.move .commit final, .bound .start :: (sent ++ [.bound .commit]), notes⟩ := by
  rw [run_inTransaction, h]

theorem run_inTransaction_of_error {body : Program ε α} {e : ε} {final : σ} {sent : List Sent}
    {notes : List Note} (h : body.run c (c.move .start state) = ⟨.error e, final, sent, notes⟩) :
    (inTransaction body).run c state =
      ⟨.error e, c.move .rollback final, .bound .start :: (sent ++ [.bound .rollback]), notes⟩ := by
  rw [run_inTransaction, h]

end Run

/-! ### What is sent -/

section Exchanges

variable {σ : Type}

/-- The statements that a program sends over a connection, each with its response. -/
def exchanges (c : Connection σ) : Program ε α → σ → List (Statement × Response)
  | done _, _ => []
  | fail _, _ => []
  | send s next, state =>
    (s, (c.answer s state).1) :: (next (c.answer s state).1).exchanges c (c.answer s state).2
  | bound b next, state => next.exchanges c (c.move b state)
  | say _ next, state => next.exchanges c state

variable (c : Connection σ) (state : σ)

theorem exchanges_bind (p : Program ε α) (f : α → Program ε β) :
    (p >>= f).exchanges c state =
      p.exchanges c state ++
        match (p.run c state).result with
        | .error _ => []
        | .ok a => (f a).exchanges c (p.run c state).state := by
  induction p generalizing state with
  | done a => rfl
  | fail e => rfl
  | send s next ih =>
    simp only [send_bind, exchanges, run, ih]
    rfl
  | bound b next ih => exact ih (c.move b state)
  | say note next ih => exact ih state

theorem exchanges_map (f : α → β) (p : Program ε α) :
    (f <$> p).exchanges c state = p.exchanges c state := by
  change (p >>= fun a => done (f a)).exchanges c state = _
  rw [exchanges_bind]
  cases (p.run c state).result with
  | error e => exact List.append_nil _
  | ok a => exact List.append_nil _

theorem exchanges_attempt (p : Program ε α) :
    (p.attempt : Program ε' (Except ε α)).exchanges c state = p.exchanges c state := by
  induction p generalizing state with
  | done a => rfl
  | fail e => rfl
  | send s next ih => simp only [attempt, exchanges, ih]
  | bound b next ih => exact ih (c.move b state)
  | say note next ih => exact ih state

theorem exchanges_mapError (f : ε → ε') (p : Program ε α) :
    (p.mapError f).exchanges c state = p.exchanges c state := by
  induction p generalizing state with
  | done a => rfl
  | fail e => rfl
  | send s next ih => simp only [mapError_send, exchanges, ih]
  | bound b next ih => exact ih (c.move b state)
  | say note next ih => exact ih state

theorem exchanges_inTransaction (body : Program ε α) :
    (inTransaction body).exchanges c state = body.exchanges c (c.move .start state) := by
  change (body.attempt >>= _).exchanges c (c.move .start state) = _
  rw [exchanges_bind, exchanges_attempt, run_attempt]
  dsimp only
  cases (body.run c (c.move .start state)).result with
  | error e => exact List.append_nil _
  | ok a => exact List.append_nil _

end Exchanges

/-! ### A driver that tells of what passes -/

section Overheard

variable {σ : Type} (c : Connection σ) (state : σ) (messages : Nat → Passage → List String)

theorem run_told (told : List String) (p : Program ε α) :
    (p.told told).run c state =
      { p.run c state with notes := told.map .statement ++ (p.run c state).notes } := by
  induction told with
  | nil => rfl
  | cons message rest ih =>
    change (say (.statement message) (p.told rest)).run c state = _
    rw [run, ih]
    rfl

theorem exchanges_told (told : List String) (p : Program ε α) :
    (p.told told).exchanges c state = p.exchanges c state := by
  induction told with
  | nil => rfl
  | cons message rest ih => exact ih

/-- A driver changes nothing but what is said, and there it only adds messages of its own. -/
theorem run_overheard (n : Nat) (p : Program ε α) :
    ∃ notes, (p.overheard messages n).run c state = { p.run c state with notes } ∧
      notes.filter Note.isOwn = (p.run c state).notes.filter Note.isOwn := by
  induction p generalizing n state with
  | done a => exact ⟨[], rfl, rfl⟩
  | fail e => exact ⟨[], rfl, rfl⟩
  | send s next ih =>
    obtain ⟨notes, run, own⟩ := ih (c.answer s state).1 (c.answer s state).2 (n + 1)
    refine ⟨(messages n (.statement s (c.answer s state).1)).map .statement ++ notes, ?_, ?_⟩
    · simp only [overheard, Program.run, run_told, run]
    · rw [List.filter_append, Note.filter_statement, List.nil_append, own]
      rfl
  | bound b next ih =>
    obtain ⟨notes, run, own⟩ := ih (c.move b state) (n + 1)
    refine ⟨(messages n (.bound b)).map .statement ++ notes, ?_, ?_⟩
    · simp only [overheard, Program.run, run_told, run]
    · rw [List.filter_append, Note.filter_statement, List.nil_append, own]
      rfl
  | say note next ih =>
    obtain ⟨notes, run, own⟩ := ih state n
    refine ⟨note :: notes, by simp only [overheard, Program.run, run], ?_⟩
    rw [Program.run, List.filter_cons, List.filter_cons, own]

/-- What is said in the course of two programs, the first of which succeeds. -/
theorem notes_overheard_bind (n : Nat) {p : Program ε α} (f : α → Program ε β) {a : α}
    (succeeds : (p.run c state).result = .ok a) :
    ∃ m told, told.filter Note.isOwn = (p.run c state).notes.filter Note.isOwn ∧
      (((p >>= f).overheard messages n).run c state).notes =
        told ++ (((f a).overheard messages m).run c (p.run c state).state).notes := by
  induction p generalizing n state with
  | done a' =>
    cases succeeds
    exact ⟨n, [], rfl, rfl⟩
  | fail e => cases succeeds
  | send s next ih =>
    obtain ⟨m, told, own, noted⟩ := ih (c.answer s state).1 (c.answer s state).2 (n + 1) succeeds
    refine ⟨m, (messages n (.statement s (c.answer s state).1)).map .statement ++ told, ?_, ?_⟩
    · rw [List.filter_append, Note.filter_statement, List.nil_append, own]
      rfl
    · simp only [send_bind, overheard, Program.run, run_told, noted, List.append_assoc]
  | bound b next ih =>
    obtain ⟨m, told, own, noted⟩ := ih (c.move b state) (n + 1) succeeds
    refine ⟨m, (messages n (.bound b)).map .statement ++ told, ?_, ?_⟩
    · rw [List.filter_append, Note.filter_statement, List.nil_append, own]
      rfl
    · change ((overheard messages n (bound b (next >>= f))).run c state).notes = _
      simp only [overheard, Program.run, run_told, noted, List.append_assoc]
  | say note next ih =>
    obtain ⟨m, told, own, noted⟩ := ih state n succeeds
    refine ⟨m, note :: told, ?_, congrArg (note :: ·) noted⟩
    rw [Program.run, List.filter_cons, List.filter_cons, own]

theorem exchanges_overheard (n : Nat) (p : Program ε α) :
    (p.overheard messages n).exchanges c state = p.exchanges c state := by
  induction p generalizing n state with
  | done a => rfl
  | fail e => rfl
  | send s next ih => simp only [overheard, exchanges, exchanges_told, ih]
  | bound b next ih => simp only [overheard, exchanges, exchanges_told, ih]
  | say note next ih => exact ih state n

end Overheard

end Program

end FundsLedger.Database
