import FundsLedger.Proofs.Database.Conduct
import FundsLedger.Store.Session
import FundsLedger.Proofs.Store.Statements

/-!
# Programs where statements may be rejected

A statement may be rejected from outside or by the store itself. A program then either has all of
its statements carried out, or it comes to one that is rejected and fails. What follows from its
success is a post-condition on its result and on how the run stands by then. In a transaction of its
own, a program that fails leaves nothing behind. The main statement is `Fares.inTransaction`.
-/

namespace FundsLedger

open Database (Answer Failure Law Mishap Note Outcome Program Response Row Statement)
open Time (Timestamp)

/-- A statement is rejected and leaves the store as it is, or the store carries it out. -/
theorem Session.answer_cases {session : Session} (sound : session.aborted = false)
    (faults : Nat → Option Mishap) (s : Statement) :
    (∃ failure aborted, (connection { faults }).answer s session =
      (.error failure, { session with aborted, count := session.count + 1 })) ∨
    ∃ answer store, faults (session.count + 1) = none ∧
      session.store.execute session.now s = .ok (answer, store) ∧
      (connection { faults }).answer s session =
        (.ok answer, { session with store, count := session.count + 1 }) := by
  simp only [connection, answer, List.foldl_nil, sound]
  cases faults (session.count + 1) with
  | some mishap => exact .inl ⟨_, _, rfl⟩
  | none =>
    dsimp only [now]
    cases session.store.execute (Timestamp.ofUnixSeconds session.clock) s with
    | error refusal => exact .inl ⟨_, _, rfl⟩
    | ok out => exact .inr ⟨out.1, out.2, rfl, rfl, rfl⟩

namespace Database.Program

variable {ε ε' α β : Type} {faults : Nat → Option Mishap} {time : Timestamp} {session : Session}

/-- How a run stands of which no statement has been rejected. -/
structure Standing where
  store : Store
  /-- The number of statements, with those before the run. -/
  count : Nat
  notes : List Note

/-- How a run can stand after a statement, none being a run of which a statement was rejected. -/
inductive Answers (faults : Nat → Option Mishap) (time : Timestamp) :
    Option Standing → Statement → Response → Option Standing → Prop
  | rejected {now s} (failure : Failure) : Answers faults time now s (.error failure) none
  | accepted {now s answer store} (unharmed : faults (now.count + 1) = none)
      (carried : now.store.execute time s = .ok (answer, store)) :
      Answers faults time (some now) s (.ok answer)
        (some { now with store, count := now.count + 1 })

/-- The law of programs without transactions of their own that do nothing more once a statement was
rejected. -/
def faring (faults : Nat → Option Mishap) (time : Timestamp) : Law (Option Standing) where
  asks now _ := now ≠ none
  hears := Answers faults time
  moves _ _ _ := False
  speaks now note next := ∃ standing, now = some standing ∧
    next = some { standing with notes := standing.notes ++ [note] }

/-- A program that succeeds where all of its statements are carried out, and then its result and how
the run stands satisfy `post`, and that fails where one of them is rejected, with an error that
satisfies `blame`. -/
abbrev Fares (faults : Nat → Option Mishap) (time : Timestamp) (p : Program ε α) (start : Standing)
    (post : α → Standing → Prop) (blame : ε → Prop) : Prop :=
  Obeys (faring faults time) (fun now a => ∃ standing, now = some standing ∧ post a standing)
    (fun now e => now = none ∧ blame e) (some start) p

/-- What is known of a run in a session. -/
inductive Stands (faults : Nat → Option Mishap) (session : Session) :
    Option Standing → Session → List (Statement × Response) → List Note → Prop
  | accepted {now heard} (answered : ∀ x ∈ heard, ∃ answer, x.2 = .ok answer)
      (unharmed : ∀ k, session.count < k → k ≤ now.count → faults k = none) :
      Stands faults session (some now) { session with store := now.store, count := now.count }
        heard now.notes
  | rejected {store aborted count heard said s f} (refused : (s, .error f) ∈ heard) :
      Stands faults session none { session with store, aborted, count } heard said

theorem tracks_faring (sound : session.aborted = false) :
    (faring faults session.now).Tracks (Session.connection { faults }) (Stands faults session) where
  send {known _ heard _ s} h asks := by
    cases h with
    | rejected refused => exact absurd rfl asks
    | @accepted now _ answered unharmed =>
      have here : ({ session with store := now.store, count := now.count } : Session).aborted =
        false := sound
      rcases Session.answer_cases here faults s with
        ⟨failure, aborted, response⟩ | ⟨answer, store, none, carried, response⟩
      · rw [response]
        exact ⟨_, .rejected failure, .rejected (List.mem_append_right _ List.mem_cons_self)⟩
      · rw [response]
        refine ⟨_, .accepted none carried, .accepted (fun x hx => ?_) fun k after before => ?_⟩
        · rcases List.mem_append.mp hx with hx | hx
          · exact answered x hx
          · rw [List.mem_singleton.mp hx]
            exact ⟨answer, rfl⟩
        · rcases Nat.lt_or_ge now.count k with later | earlier
          · rwa [Nat.le_antisymm before later]
          · exact unharmed k after earlier
  move _ moves := nomatch moves
  say h speaks := by
    obtain ⟨standing, rfl, rfl⟩ := speaks
    cases h with
    | accepted answered unharmed => exact .accepted answered unharmed

/-- How a program ends in a session where some statements may be rejected. -/
inductive Concludes (faults : Nat → Option Mishap) (p : Program ε α) (session : Session)
    (post : α → Standing → Prop) (blame : ε → Prop) : Prop
  /-- All of its statements are carried out, and it has an effect. -/
  | done {a now} (result : (p.run (Session.connection { faults }) session).result = .ok a)
      (state : (p.run (Session.connection { faults }) session).state =
        { session with store := now.store, count := now.count })
      (notes : (p.run (Session.connection { faults }) session).notes = now.notes)
      (answered : ∀ x ∈ p.exchanges (Session.connection { faults }) session,
        ∃ answer, x.2 = .ok answer)
      (unharmed : ∀ k, session.count < k → k ≤ now.count → faults k = none)
      (holds : post a now)
  /-- One of its statements is rejected, and it has none. -/
  | undone {e count s f} (result : (p.run (Session.connection { faults }) session).result = .error e)
      (blamed : blame e)
      (state : (p.run (Session.connection { faults }) session).state = { session with count })
      (refused : (s, .error f) ∈ p.exchanges (Session.connection { faults }) session)

namespace Fares

variable {p : Program ε α} {start : Standing} {post : α → Standing → Prop}
  {post' : β → Standing → Prop} {blame : ε → Prop} {blame' : ε' → Prop}

theorem done {a : α} (holds : post a start) :
    Fares faults time (.done a : Program ε α) start post blame :=
  Obeys.done ⟨start, rfl, holds⟩

theorem bind {f : α → Program ε β} (hp : Fares faults time p start post blame)
    (hf : ∀ a now, post a now → Fares faults time (f a) now post' blame) :
    Fares faults time (p >>= f) start post' blame :=
  Obeys.bind hp fun _ a ⟨now, here, holds⟩ => here ▸ hf a now holds

theorem mapError (hp : Fares faults time p start post blame) (g : ε → ε')
    (hg : ∀ e, blame e → blame' (g e)) :
    Fares faults time (p.mapError g) start post blame' :=
  Obeys.mapError hp fun _ e => And.imp_right (hg e)

theorem mono {weaker : α → Standing → Prop} (hp : Fares faults time p start post blame)
    (weaken : ∀ a now, post a now → weaker a now) : Fares faults time p start weaker blame :=
  Obeys.mono hp fun _ a ⟨now, here, holds⟩ => ⟨now, here, weaken a now holds⟩

theorem say (note : Note)
    (hp : Fares faults time p { start with notes := start.notes ++ [note] } post blame) :
    Fares faults time (.say note p) start post blame :=
  Obeys.say ⟨start, rfl, rfl⟩ hp

/-- An insert is carried out if the store carries it out and nothing rejects it before. -/
theorem insertAnd {s : Statement} {read : Row → Except Failure α} {post : α → Standing → Prop}
    (inserts : ∀ answer store, start.store.execute time s = .ok (answer, store) →
      ∃ a, Ledger.returned read (.ok answer) = .ok a ∧
        post a { start with store, count := start.count + 1 }) :
    Fares faults time (s.insertAnd read) start post fun _ => True := by
  rw [Statement.insertAnd_eq]
  refine .read (Option.some_ne_none _) ?_ ?_
  · rintro r now a heard hread
    cases heard with
    | rejected failure => cases hread
    | accepted unharmed carried =>
      obtain ⟨a', hread', holds⟩ := inserts _ _ carried
      cases hread.symm.trans hread'
      exact ⟨_, rfl, holds⟩
  · rintro r now e heard hread
    cases heard with
    | rejected failure => exact ⟨rfl, trivial⟩
    | accepted unharmed carried =>
      obtain ⟨a', hread', -⟩ := inserts _ _ carried
      cases hread.symm.trans hread'

/-- A transaction comes to its end and is committed, or a statement of it is rejected and it leaves
nothing behind. -/
theorem inTransaction
    (h : Fares faults session.now p ⟨session.store, session.count, []⟩ post blame)
    (sound : session.aborted = false) :
    Concludes faults (inTransaction p) session post blame := by
  let inside := (Session.connection { faults }).move .start session
  have start : Stands faults inside (some ⟨session.store, session.count, []⟩) inside [] [] :=
    .accepted (fun _ hx => absurd hx List.not_mem_nil)
      fun _ after before => absurd after (Nat.not_lt_of_le before)
  have tracks : (faring faults inside.now).Tracks (Session.connection { faults })
      (Stands faults inside) := tracks_faring sound
  obtain ⟨known, stands, promised⟩ := h.run tracks start
  have asked : (Program.inTransaction p).exchanges (Session.connection { faults }) session =
      p.exchanges (Session.connection { faults }) inside := exchanges_inTransaction _ _ _
  rcases run : p.run (Session.connection { faults }) inside with ⟨result, state, sent, notes⟩
  rw [run] at stands promised
  cases result with
  | ok a =>
    obtain ⟨now, rfl, holds⟩ := promised
    cases stands with
    | accepted answered unharmed =>
      have committed : (Session.connection { faults }).move .commit
          { inside with store := now.store, count := now.count } =
            { session with store := now.store, count := now.count } := by
        simp only [inside, Session.connection, Session.move, sound, Bool.false_eq_true, if_false,
          List.tail_cons]
      have whole := run_inTransaction_of_ok _ session run
      rw [committed] at whole
      rw [← asked] at answered
      exact .done (congrArg Outcome.result whole) (congrArg Outcome.state whole)
        (congrArg Outcome.notes whole) answered unharmed holds
  | error e =>
    obtain ⟨rfl, blamed⟩ := promised
    cases stands with
    | rejected refused =>
      have whole := run_inTransaction_of_error _ session run
      rw [← asked] at refused
      exact .undone (congrArg Outcome.result whole) blamed (congrArg Outcome.state whole) refused

end Fares

end Database.Program

/-! ### Inserts of the ledger -/

theorem Database.Row.user_ofUser (u : User) : user (ofUser u) = .ok u := by
  simp [user, ofUser, uuid, time, get, cell, List.lookup_cons, bind, Except.bind, pure, Except.pure]

theorem Database.Row.currency_ofCurrency (c : Currency) : currency (ofCurrency c) = .ok c := by
  simp [currency, ofCurrency, uuid, text, small, time, get, cell, List.lookup_cons, bind,
    Except.bind, pure, Except.pure]

namespace Ledger

variable {faults : Nat → Option Mishap} {time : Timestamp} {start : Program.Standing}

theorem returned_row {α : Type} {read : Row → Except Failure α} {row : Row} {a : α}
    (h : read row = .ok a) : returned read (.ok (.rows [row])) = .ok a := by
  dsimp only [returned, firstRow, Answer.toRows]
  rw [h]
  rfl

theorem fares_addUser (id : Uuid) :
    Program.Fares faults time (addUser id) start (fun user now =>
      user = ⟨id, time⟩ ∧ ∃ users, start.store.users = some users ∧ id ∉ users.rows.map User.id ∧
        now = { start with
          store := { start.store with users := some (Store.appendRow users ⟨id, time⟩) }
          count := start.count + 1 }) fun _ => True := by
  refine .insertAnd fun answer store carried => ?_
  simp only [Store.execute, Store.insertUser, Store.bind_eq_ok, Store.require_eq_ok,
    Store.check_eq_ok] at carried
  obtain ⟨_, ⟨users, here, _, fresh, inserted⟩, answered⟩ := carried
  cases inserted
  cases answered
  exact ⟨_, returned_row (Row.user_ofUser _), rfl, users, here, fresh, rfl⟩

theorem fares_addCurrency (id : Uuid) {code : String} (fits : code.length ≤ Store.codeLength)
    (digits : DigitCount) :
    Program.Fares faults time (addCurrency id code digits) start (fun currency now =>
      currency = ⟨id, code, digits, time⟩ ∧ ∃ currencies,
        start.store.currencies = some currencies ∧ id ∉ currencies.rows.map Currency.id ∧
        code ∉ currencies.rows.map Currency.code ∧
        now = { start with
          store := { start.store with
            currencies := some (Store.appendRow currencies ⟨id, code, digits, time⟩) }
          count := start.count + 1 }) fun _ => True := by
  refine .insertAnd fun answer store carried => ?_
  simp only [Store.execute, Store.insertCurrency, Store.fitCode_of_le fits, Store.bind_eq_ok,
    Store.require_eq_ok, Store.check_eq_ok, Except.ok.injEq] at carried
  obtain ⟨_, ⟨currencies, here, _, rfl, _, newId, _, newCode, inserted⟩, answered⟩ := carried
  cases inserted
  cases answered
  exact ⟨_, returned_row (Row.currency_ofCurrency _), rfl, currencies, here, newId, newCode, rfl⟩

theorem fares_record (id : Uuid) (d : Direction) {e : NewEntry} (positive : 0 < e.amount.toInt) :
    Program.Fares faults time (record id d e) start (fun entry now =>
      entry = (e.stored id time).entry d ∧ ∃ message table, start.store.ledger d = some table ∧
        id ∉ table.rows.map Posting.id ∧
        now = {
          store := start.store.setLedger d (some (Store.appendRow table (e.stored id time)))
          count := start.count + 1
          notes := start.notes ++ [.log .info message] }) fun _ => True := by
  rw [record, if_neg (by omega)]
  have inserts : Program.Fares faults time ((Statement.insertPosting d id e).insertAnd Row.posting)
      start (fun posting now => posting = e.stored id time ∧ ∃ table,
        start.store.ledger d = some table ∧ id ∉ table.rows.map Posting.id ∧
        now = { start with
          store := start.store.setLedger d (some (Store.appendRow table (e.stored id time)))
          count := start.count + 1 }) fun _ => True := by
    refine .insertAnd fun answer store carried => ?_
    simp only [Store.execute, Store.bind_eq_ok] at carried
    obtain ⟨⟨p, store'⟩, inserted, answered⟩ := carried
    obtain ⟨rfl, hrow⟩ := Store.insertPosting_eq_ok inserted
    obtain ⟨table, here, _, fresh, _, _, rfl⟩ := Store.insertRow_eq_ok hrow
    cases answered
    exact ⟨_, returned_row (Row.posting_ofPosting _), rfl, table, here, fresh, rfl⟩
  refine (inserts.mapError LedgerError.ofInsert fun _ told => told).bind fun posting now holds => ?_
  obtain ⟨rfl, table, here, fresh, rfl⟩ := holds
  exact .say _ (.done ⟨rfl, _, table, here, fresh, rfl⟩)

end Ledger

end FundsLedger
