import FundsLedger.Proofs.Database.Failures
import FundsLedger.Store.Session

/-!
# Transactions

A transaction that ends with an error leaves the session as it was when the transaction was started,
but for the count of statements. What is rejected at one position of a program does not depend on
what would have come after it. The main statements are `state_of_error` and `exchanges_of_fault`.
-/

namespace FundsLedger.Session

open Database (Bound Failure Manner Mishap Program Response Statement)
open Database.Program (Stops)

variable {d : Disturbance} {s : Statement} {session : Session} {ε α : Type} {manner : Manner}
  {g : Failure → ε} {post : α → Prop} {p body : Program ε α}

theorem foldl_meddle_eq (races : List (Direction × Uuid × Meddling)) (session : Session) :
    ∃ store, races.foldl meddle session = { session with store } := by
  induction races generalizing session with
  | nil => exact ⟨_, rfl⟩
  | cons race races ih =>
    obtain ⟨store, h⟩ := ih (session.meddle race)
    exact ⟨store, h⟩

/-- A statement changes the store, counts as one more, and may mark the transaction as failed. -/
theorem answer_eq (d : Disturbance) (s : Statement) (session : Session) :
    ∃ store aborted, ((connection d).answer s session).2 =
      { session with store, aborted, count := session.count + 1 } := by
  obtain ⟨store, hmeddle⟩ :=
    foldl_meddle_eq (d.races (session.count + 1)) { session with count := session.count + 1 }
  simp only [connection, answer, hmeddle]
  cases d.faults (session.count + 1) with
  | some mishap => exact ⟨store, _, rfl⟩
  | none =>
    dsimp only
    split
    · exact ⟨_, _, rfl⟩
    · exact ⟨store, _, rfl⟩

/-- A program without transactions of its own leaves those that are open as they are. -/
theorem run_of_stops (h : Stops manner g post p) (d : Disturbance) (session : Session) :
    ∃ store aborted count, (p.run (connection d) session).state =
      { session with store, aborted, count } := by
  have tracks : manner.law.Tracks (connection d) fun _ state _ _ =>
      ∃ store aborted count, state = { session with store, aborted, count } := {
    send := by
      rintro _ _ _ _ s ⟨store, aborted, count, rfl⟩ _
      obtain ⟨store', aborted', state⟩ :=
        answer_eq d s { session with store, aborted, count }
      exact ⟨_, rfl, store', aborted', count + 1, state⟩
    move := fun _ moves => nomatch moves
    say := fun h _ => h }
  obtain ⟨_, left, -⟩ := h.run tracks ⟨_, _, _, rfl⟩
  exact left

/-- A transaction that ends with an error leaves nothing behind. -/
theorem state_of_error (h : Stops manner g post body) (d : Disturbance) (session : Session) {e : ε}
    (failed : ((Program.inTransaction body).run (connection d) session).result = .error e) :
    ∃ count, ((Program.inTransaction body).run (connection d) session).state =
      { session with count } := by
  obtain ⟨store, aborted, count, hstate⟩ := run_of_stops h d ((connection d).move .start session)
  rw [Program.run_inTransaction] at failed ⊢
  cases hr : (body.run (connection d) ((connection d).move .start session)).result with
  | error e' =>
    dsimp only
    rw [hstate]
    exact ⟨count, rfl⟩
  | ok a =>
    rw [hr] at failed
    cases failed

/-! ### A statement that is rejected -/

theorem count_move (b : Bound) (session : Session) : (move b session).count = session.count := by
  rcases session with ⟨store, clock, _ | ⟨save, saved⟩, aborted, count⟩ <;>
    cases b <;> cases aborted <;> rfl

section Faults

variable {faults : Nat → Option Mishap} {n : Nat} {m : Mishap} {r : Response}

theorem answer_eq_of_none (h : faults (session.count + 1) = none) :
    (connection { faults }).answer s session = (connection {}).answer s session := by
  simp only [connection, answer, List.foldl_nil, h]

theorem answer_of_some (h : faults (session.count + 1) = some m) :
    ((connection { faults }).answer s session).1 = .error (m s.channel) := by
  simp only [connection, answer, List.foldl_nil, h]

/-- A program comes to its statement of any number as it would without faults, if there are none
before it, and hears of the fault that waits there. -/
theorem exchanges_of_fault (p : Program ε α) (session : Session)
    (clean : (p.exchanges (connection {}) session)[n]? = some (s, r))
    (before : ∀ k ≤ session.count + n, faults k = none)
    (fault : faults (session.count + n + 1) = some m) :
    (p.exchanges (connection { faults }) session)[n]? = some (s, .error (m s.channel)) := by
  induction p generalizing session n with
  | done a => cases clean
  | fail e => cases clean
  | send s' next ih =>
    rw [Program.exchanges] at clean ⊢
    cases n with
    | zero =>
      cases clean
      exact congrArg some (Prod.ext rfl (answer_of_some fault))
    | succ n =>
      have same : (connection { faults }).answer s' session = (connection {}).answer s' session :=
        answer_eq_of_none (before _ (by omega))
      obtain ⟨store, aborted, hstate⟩ := answer_eq {} s' session
      rw [same]
      rw [List.getElem?_cons_succ] at clean ⊢
      refine ih _ _ clean ?_ ?_
      · intro k hk
        rw [hstate] at hk
        exact before k (by dsimp only at hk; omega)
      · rw [hstate]
        rw [← fault]
        congr 1
        dsimp only
        omega
  | bound b next ih =>
    refine ih _ clean ?_ ?_
    · rw [connection, count_move]
      exact before
    · rw [connection, count_move]
      exact fault
  | say note next ih => exact ih session clean before fault

end Faults

end FundsLedger.Session
