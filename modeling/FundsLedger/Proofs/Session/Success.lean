import FundsLedger.Proofs.Database.Conduct
import FundsLedger.Proofs.Session.Transactions

/-!
# Programs that succeed

A program succeeds at a store if each of its statements is carried out there and it comes to its
end. What it does to the store can then be put together from what its parts do. It succeeds in every
session as well, and in a transaction of its own, unless others meddle or an open transaction has
failed.
-/

namespace FundsLedger

open Database (Answer Failure Law Program Response Row Statement)
open Time (Timestamp)

namespace Database.Program

/-- The law of programs that leave transactions alone and of which every statement is carried out.
What is known is the store. -/
def carrying (time : Timestamp) : Law Store where
  asks store s := ∃ out, store.execute time s = .ok out
  hears store s r store' := ∃ answer, store.execute time s = .ok (answer, store') ∧ r = .ok answer
  moves _ _ _ := False
  speaks store _ store' := store' = store

/-- A program that leaves transactions alone and succeeds at the store `store` with the result `a`,
leaving the store `store'`. -/
abbrev Succeeds {ε α : Type} (time : Timestamp) (p : Program ε α) (store : Store) (a : α)
    (store' : Store) : Prop :=
  Obeys (carrying time) (fun last b => last = store' ∧ b = a) (fun _ _ => False) store p

/-- In a session without a failed transaction, the store that is known is that of the session. -/
theorem tracks_carrying {session : Session} (sound : session.aborted = false) :
    (carrying session.now).Tracks (Session.connection {}) fun store state _ _ =>
      ∃ count, state = { session with store, count } where
  send {store _ _ _ s} h asks := by
    obtain ⟨count, rfl⟩ := h
    obtain ⟨⟨answer, store'⟩, carried⟩ := asks
    have heard : (Session.connection {}).answer s { session with store, count } =
        (.ok answer, { session with store := store', count := count + 1 }) := by
      dsimp only [Session.now] at carried
      simp only [Session.connection, Session.answer, List.foldl_nil, sound, Bool.false_eq_true,
        if_false, Session.now, carried]
    rw [heard]
    exact ⟨store', ⟨answer, carried, rfl⟩, count + 1, rfl⟩
  move _ moves := nomatch moves
  say h speaks := by
    subst speaks
    exact h

namespace Succeeds

variable {time : Timestamp} {ε α β : Type} {store store' store'' : Store} {a : α} {s : Statement}
  {answer : Answer}

theorem done : Succeeds time (.done a : Program ε α) store a store :=
  Obeys.done ⟨rfl, rfl⟩

theorem bind {p : Program ε α} {f : α → Program ε β} {b : β} (hp : Succeeds time p store a store')
    (hf : Succeeds time (f a) store' b store'') : Succeeds time (p >>= f) store b store'' :=
  Obeys.bind hp fun _ _ ⟨left, result⟩ => left ▸ result ▸ hf

theorem report (message : String) :
    Succeeds time (Program.report message : Program ε Unit) store () store :=
  Obeys.say rfl done

/-- A statement that is carried out, and what is read from its response. -/
theorem read {read : Response → Except ε α} (h : store.execute time s = .ok (answer, store'))
    (hread : read (.ok answer) = .ok a) :
    Succeeds time (.send s fun r => .ofExcept (read r)) store a store' := by
  refine Obeys.read ⟨_, h⟩ ?_ ?_
  · rintro r last b ⟨answer', carried, rfl⟩ hb
    cases h.symm.trans carried
    exact ⟨rfl, Except.ok.inj (hb.symm.trans hread)⟩
  · rintro r last e ⟨answer', carried, rfl⟩ he
    cases h.symm.trans carried
    cases he.symm.trans hread

theorem act (h : store.execute time s = .ok (answer, store')) :
    Succeeds time s.act store answer.count store' := by
  rw [Statement.act_eq]
  exact read h rfl

theorem first {read : Row → Except Failure α} {found : Option α}
    (h : store.execute time s = .ok (answer, store'))
    (hread : firstRow read (.ok answer) = .ok found) :
    Succeeds time (s.first read) store found store' := by
  rw [Statement.first_eq]
  exact .read h hread

theorem every {read : Row → Except Failure α} {found : List α}
    (h : store.execute time s = .ok (answer, store'))
    (hread : answer.toRows.mapM read = .ok found) :
    Succeeds time (s.every read) store found store' := by
  rw [Statement.every_eq]
  exact .read h hread

variable {session : Session}

/-- What succeeds at a store succeeds in a session that has that store. -/
theorem run {p : Program ε α} (h : Succeeds time p store a store') (hstore : session.store = store)
    (hnow : session.now = time) (sound : session.aborted = false) :
    (p.run (Session.connection {}) session).result = .ok a ∧
      ∃ count, (p.run (Session.connection {}) session).state =
        { session with store := store', count } := by
  subst hstore hnow
  obtain ⟨last, ⟨count, state⟩, promised⟩ :=
    Obeys.run h (tracks_carrying sound) ⟨session.count, rfl⟩
  cases result : (p.run (Session.connection {}) session).result with
  | error e =>
    rw [result] at promised
    exact promised.elim
  | ok b =>
    rw [result] at promised
    obtain ⟨rfl, rfl⟩ := promised
    exact ⟨rfl, count, state⟩

/-- What succeeds at a store can be committed. -/
theorem run_inTransaction {body : Program ε α}
    (h : Succeeds session.now body session.store a store') (sound : session.aborted = false) :
    ((Program.inTransaction body).run (Session.connection {}) session).result = .ok a ∧
      ∃ count, ((Program.inTransaction body).run (Session.connection {}) session).state =
        { session with store := store', count } := by
  rw [Program.run_inTransaction]
  have hstore : ((Session.connection {}).move .start session).store = session.store := rfl
  obtain ⟨result, count, state⟩ := h.run hstore rfl sound
  rw [result, state]
  refine ⟨rfl, count, ?_⟩
  simp only [Session.connection, Session.move, sound, Bool.false_eq_true, if_false, List.tail_cons]

end Succeeds

end Database.Program

end FundsLedger
