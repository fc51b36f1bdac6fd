import FundsLedger.Proofs.Session.Rejections
import FundsLedger.Proofs.Session.Transactions

/-!
# Runs that are cut short

A program that stops at a failure is compared with itself: once where statements may be rejected from
outside, and once where none is. The two runs are the same up to the first statement that is rejected,
and there the first one ends. A property of the store that each of the statements keeps is kept by all
of the runs.
-/

namespace FundsLedger

open Database (Connection Failure Manner Mishap Note Program Response Statement)
open Database.Program (Stops)

theorem Database.Program.notes_inTransaction {ε α σ : Type} (c : Connection σ) (state : σ)
    (body : Program ε α) :
    ((inTransaction body).run c state).notes = (body.run c (c.move .start state)).notes := by
  rw [run_inTransaction]
  cases (body.run c (c.move .start state)).result <;> rfl

namespace Session

variable {ε α : Type} {manner : Manner} {g : Failure → ε} {post : α → Prop} {p body : Program ε α}
  {faults : Nat → Option Mishap} {session : Session}

/-- A run where statements may be rejected, next to the same run where none is. -/
inductive Cut (g : Failure → ε) (faults : Nat → Option Mishap) (p : Program ε α)
    (session : Session) : Prop
  /-- The runs are the same. -/
  | whole (run : p.run (connection { faults }) session = p.run (connection {}) session)
      (exchanges : p.exchanges (connection { faults }) session =
        p.exchanges (connection {}) session)
  /-- The run ends with its statement number `n`, which is rejected. -/
  | short {n : Nat} {s : Statement} {r : Response} (f : Failure)
      (sent : (p.exchanges (connection {}) session)[n]? = some (s, r))
      (exchanges : p.exchanges (connection { faults }) session =
        (p.exchanges (connection {}) session).take n ++ [(s, .error f)])
      (result : (p.run (connection { faults }) session).result = .error (g f))
      (notes : (p.run (connection { faults }) session).notes <+:
        (p.run (connection {}) session).notes)

namespace Cut

variable {s : Statement} {next : Response → Program ε α} {heard : Response} {state : Session}

/-- A statement that is answered alike in both runs comes first. -/
theorem send (here : (connection { faults }).answer s session = (heard, state))
    (there : (connection {}).answer s session = (heard, state))
    (h : Cut g faults (next heard) state) : Cut g faults (.send s next) session := by
  cases h with
  | whole run exchanges =>
    refine .whole ?_ ?_
    · rw [Program.run_send _ _ _ _ here, Program.run_send _ _ _ _ there, run]
    · rw [Program.exchanges, Program.exchanges, here, there]
      exact congrArg ((s, heard) :: ·) exchanges
  | @short n s' r f sent exchanges result notes =>
    have later : ((Program.send s next).exchanges (connection {}) session)[n + 1]? =
        some (s', r) := by
      rw [Program.exchanges, there]
      exact sent
    refine .short f later ?_ ?_ ?_
    · rw [Program.exchanges, Program.exchanges, here, there]
      exact congrArg ((s, heard) :: ·) exchanges
    · rw [Program.run_send _ _ _ _ here]
      exact result
    · rw [Program.run_send _ _ _ _ here, Program.run_send _ _ _ _ there]
      exact notes

/-- The first statement is rejected. -/
theorem rejected {m : Mishap} (stops : ∀ f, next (.error f) = .fail (g f))
    (fault : faults (session.count + 1) = some m) : Cut g faults (.send s next) session := by
  rcases heard : (connection { faults }).answer s session with ⟨response, state⟩
  have error : response = .error (m s.channel) :=
    (congrArg Prod.fst heard).symm.trans (answer_of_some fault)
  subst error
  refine .short (m s.channel) (List.getElem?_cons_zero ..) ?_ ?_ ?_
  · rw [Program.exchanges, heard]
    dsimp only
    rw [stops]
    rfl
  · rw [Program.run_send _ _ _ _ heard, stops]
    rfl
  · rw [Program.run_send _ _ _ _ heard, stops]
    exact List.nil_prefix

theorem say {note : Note} {rest : Program ε α} (h : Cut g faults rest session) :
    Cut g faults (.say note rest) session := by
  cases h with
  | whole run exchanges =>
    refine .whole ?_ exchanges
    rw [Program.run, Program.run, run]
  | short f sent exchanges result notes =>
    exact .short f sent exchanges result ((List.prefix_cons_inj _).mpr notes)

end Cut

/-- A program that stops at a failure runs as it does without faults, or it is cut short. -/
theorem cut_of_stops (h : Stops manner g post p) (faults : Nat → Option Mishap)
    (session : Session) : Cut g faults p session := by
  induction p generalizing session with
  | done a => exact .whole rfl rfl
  | fail e => exact .whole rfl rfl
  | send s next ih =>
    cases fault : faults (session.count + 1) with
    | some m => exact .rejected h.next_error fault
    | none =>
      have same := answer_eq_of_none (s := s) fault
      rcases there : (connection {}).answer s session with ⟨failure | answer, state⟩
      · refine .send (same.trans there) there ?_
        rw [h.next_error]
        exact .whole rfl rfl
      · exact .send (same.trans there) there (ih _ (h.next_ok answer) state)
  | bound b next ih =>
    cases h with
    | bound moves rest => cases moves
  | say note next ih => exact (ih h.of_say session).say

theorem Cut.inTransaction (h : Cut g faults body ((connection {}).move .start session)) :
    Cut g faults (Program.inTransaction body) session := by
  have start : (connection { faults }).move .start session = (connection {}).move .start session :=
    rfl
  cases h with
  | whole run exchanges =>
    refine .whole ?_ ?_
    · rw [Program.run_inTransaction, Program.run_inTransaction, start, run]
      rfl
    · rw [Program.exchanges_inTransaction, Program.exchanges_inTransaction, start, exchanges]
  | @short n s r f sent exchanges result notes =>
    have sent' : ((Program.inTransaction body).exchanges (connection {}) session)[n]? =
        some (s, r) := by
      rw [Program.exchanges_inTransaction]
      exact sent
    refine .short f sent' ?_ ?_ ?_
    · rw [Program.exchanges_inTransaction, Program.exchanges_inTransaction, start, exchanges]
    · rw [Program.run_inTransaction, start, result]
    · rw [Program.notes_inTransaction, Program.notes_inTransaction, start]
      exact notes

end Session

namespace Database

/-- To send nothing but what keeps a property of the store. -/
def Manner.keeping (keep : Store → Prop) (speak : Note → Prop) : Manner where
  may s := ∀ store time, keep store → keep (store.respond time s).2
  speak

/-- Outside of transactions, whatever statements are rejected, the store keeps its property. -/
theorem Program.Stops.state {ε α : Type} {keep : Store → Prop} {speak : Note → Prop}
    {g : Failure → ε} {post : α → Prop} {p : Program ε α}
    (h : Stops (.keeping keep speak) g post p) (faults : Nat → Option Mishap) {store : Store}
    (kept : keep store) (clock : Int) (n : Nat) :
    ∃ store' count, (p.run (Session.connection { faults }) { store, clock, count := n }).state =
      { store := store', clock, count } ∧ keep store' := by
  have tracks : (Manner.keeping keep speak).law.Tracks (Session.connection { faults })
      fun _ state _ _ => ∃ store' count, state = { store := store', clock, count } ∧ keep store' := {
    send := by
      rintro _ _ _ _ s ⟨store, count, rfl, kept⟩ ⟨-, keeps⟩
      refine ⟨_, rfl, ?_⟩
      cases fault : faults (count + 1) with
      | some m =>
        rw [Session.answer_of_fault fault]
        exact ⟨store, count + 1, rfl, kept⟩
      | none =>
        rw [Session.answer_of_none fault]
        exact ⟨_, count + 1, rfl, keeps store _ kept⟩
    move := fun _ moves => nomatch moves
    say := fun h _ => h }
  obtain ⟨_, left, -⟩ := h.run tracks ⟨store, n, rfl, kept⟩
  exact left

end Database

end FundsLedger
