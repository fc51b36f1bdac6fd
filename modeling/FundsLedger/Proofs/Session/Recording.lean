import FundsLedger.Proofs.Ledger.Runs
import FundsLedger.Proofs.Store.Validity
import FundsLedger.Proofs.Traffic.Lifecycle
import FundsLedger.Store.Session

/-!
# What is recorded

Whether a row is recorded is decided in three layers: the ledger refuses an amount of zero or less
before it sends anything, the table fills in what was not given, and its constraints refuse what
references nothing. Nobody else uses the session here, and no statement fails from outside. The main
statement is `record_exact`.
-/

namespace FundsLedger

open Database (Parent Program Response Row Statement Table)
open Time (Timestamp)

namespace Store

variable {store : Store} {d : Direction} {id : Uuid} {p : Posting} {table : Relation Posting}
  {parent : Parent}

theorem bind_of_ok {ε α β : Type} {x : Except ε α} {f : α → Except ε β} {a : α} (h : x = .ok a) :
    (x >>= f) = f a := by
  rw [h]
  rfl

theorem exists_ledger (tables : ∀ t : Table, store.hasTable t = true) (d : Direction) :
    ∃ table, store.ledger d = some table :=
  Option.isSome_iff_exists.mp (tables (.ledger d))

theorem exists_parentIds (tables : ∀ t : Table, store.hasTable t = true) (parent : Parent) :
    ∃ ids, store.parentIds parent = some ids := by
  cases parent with
  | user =>
    obtain ⟨users, here⟩ := Option.isSome_iff_exists.mp (tables .users)
    exact ⟨_, by simp [parentIds, here]; rfl⟩
  | currency =>
    obtain ⟨currencies, here⟩ := Option.isSome_iff_exists.mp (tables .currencies)
    exact ⟨_, by simp [parentIds, here]; rfl⟩

theorem checkReference_of_holds (h : store.Holds parent id) :
    store.checkReference d parent id = .ok () :=
  checkReference_eq_ok.mpr h

theorem checkReference_of_not_holds (tables : ∀ t : Table, store.hasTable t = true)
    (h : ¬ store.Holds parent id) :
    store.checkReference d parent id = .error (.noReference d.table parent.column) := by
  obtain ⟨ids, there⟩ := exists_parentIds tables parent
  have missing : id ∉ ids := fun mem => h ⟨ids, there, mem⟩
  simp [checkReference, there, check, missing]

/-- A row of a new id and a positive amount is inserted if both of its references are there, and
refused because of one that is not. -/
theorem insertRow_cases (tables : ∀ t : Table, store.hasTable t = true)
    (here : store.ledger d = some table) (positive : 0 < p.amount.toInt)
    (fresh : p.id ∉ table.rows.map Posting.id) :
    ((∀ parent, store.Holds parent (parentId p parent)) ∧
      store.insertRow d p = .ok (store.setLedger d (some (appendRow table p)))) ∨
    ∃ parent, ¬ store.Holds parent (parentId p parent) ∧
      store.insertRow d p = .error (.noReference d.table parent.column) := by
  have start : store.insertRow d p = (do
      store.checkReference d .user p.userId
      store.checkReference d .currency p.currencyId
      return store.setLedger d (some (appendRow table p))) := by
    have unused : check (p.id ∉ table.rows.map Posting.id) (.duplicate (d.table ++ "_pkey")) =
        .ok () := check_eq_ok.mpr fresh
    have allowed : check (0 < p.amount.toInt) (.nonPositiveAmount d.table) = .ok () :=
      check_eq_ok.mpr positive
    rw [insertRow, bind_of_ok (require_eq_ok.mpr here), bind_of_ok allowed, bind_of_ok unused]
  rw [start]
  by_cases user : store.Holds .user p.userId
  · by_cases currency : store.Holds .currency p.currencyId
    · refine .inl ⟨fun parent => by cases parent <;> assumption, ?_⟩
      rw [checkReference_of_holds user, checkReference_of_holds currency]
      rfl
    · refine .inr ⟨.currency, currency, ?_⟩
      rw [checkReference_of_holds user, checkReference_of_not_holds tables currency]
      rfl
  · refine .inr ⟨.user, user, ?_⟩
    rw [checkReference_of_not_holds tables user]
    rfl

/-- The row of a request is inserted, or refused because of a reference that is not there. -/
theorem respond_insertPosting_cases (time : Timestamp) {e : NewEntry}
    (tables : ∀ t : Table, store.hasTable t = true)
    (here : store.ledger d = some table) (positive : 0 < e.amount.toInt)
    (fresh : id ∉ table.rows.map Posting.id) :
    ((∀ parent, store.Holds parent (parentId (e.stored id time) parent)) ∧
      store.respond time (.insertPosting d id e) = (.ok (.rows [.ofPosting (e.stored id time)]),
        store.setLedger d (some (appendRow table (e.stored id time))))) ∨
    ∃ parent, ¬ store.Holds parent (parentId (e.stored id time) parent) ∧
      store.respond time (.insertPosting d id e) =
        (.error (.server .query (Refusal.noReference d.table parent.column).code
          (Refusal.noReference d.table parent.column).message), store) := by
  have insert : store.insertPosting time d id e = (do
      return (e.stored id time, ← store.insertRow d (e.stored id time))) := rfl
  rcases insertRow_cases (p := e.stored id time) tables here positive fresh with
    ⟨holds, hrow⟩ | ⟨parent, missing, hrow⟩
  · refine .inl ⟨holds, ?_⟩
    simp only [respond, execute, insert, hrow]
    rfl
  · refine .inr ⟨parent, missing, ?_⟩
    simp only [respond, execute, insert, hrow]
    rfl

end Store

namespace Session

variable {session : Session} {store : Store} {s : Statement} {r : Response}

/-- Undisturbed, a session responds as its store does. A transaction fails only with a statement. -/
theorem answer_undisturbed (sound : session.aborted = false)
    (h : session.store.respond session.now s = (r, store)) :
    ∃ aborted, (connection {}).answer s session =
        (r, { session with store, aborted, count := session.count + 1 }) ∧
      ∀ answer, r = .ok answer → aborted = false := by
  simp only [connection, answer, List.foldl_nil, sound]
  unfold Store.respond at h
  dsimp only [now] at h ⊢
  cases hs : session.store.execute (Timestamp.ofUnixSeconds session.clock) s with
  | error refusal =>
    rw [hs] at h
    cases h
    exact ⟨_, rfl, fun answer ha => by cases ha⟩
  | ok out =>
    rw [hs] at h
    cases h
    exact ⟨false, by simp, fun _ _ => rfl⟩

end Session

namespace Ledger

variable {d : Direction} {id : Uuid} {p : Posting}

/-- A row that is there is found, and finding it changes nothing. -/
theorem run_find_undisturbed (session : Session) (sound : session.aborted = false)
    (there : session.store.posting? d id = some p) :
    ((find d id).run (Session.connection {}) session).result = .ok (p.entry d) ∧
      ((find d id).run (Session.connection {}) session).state.store = session.store := by
  obtain ⟨aborted, answer, _⟩ := Session.answer_undisturbed sound
    (Store.respond_selectById_of_posting? there session.now)
  rw [run_find answer, found_row]
  exact ⟨rfl, rfl⟩

end Ledger

/-- Recording a row under an id that its table does not have yet, where all tables are there. An
amount of zero or less is refused whatever is referenced, and nothing is sent. Otherwise the row is
refused if it references a user or a currency that is not there, and the message of the database names
that reference. Otherwise it is stored as it was asked for, created unless another status was given,
and with the time of the insert as both of its times; it is returned, it can be found, and nothing
else in the store has changed. -/
theorem record_exact (session : Session) (sound : session.aborted = false)
    (tables : ∀ t : Table, session.store.hasTable t = true) (d : Direction) (id : Uuid)
    (e : NewEntry) (fresh : id ∉ (session.store.postings d).map Posting.id) :
    let out := (Ledger.record id d e).run (Session.connection {}) session
    (e.amount.toInt ≤ 0 → out.result = .error (.nonPositiveAmount e.amount) ∧ out.sent = [] ∧
      out.state = session) ∧
    (0 < e.amount.toInt →
      ¬ (session.store.Holds .user e.userId ∧ session.store.Holds .currency e.currencyId) →
        (∃ parent, ¬ session.store.Holds parent (Store.parentId (e.stored id session.now) parent) ∧
          out.result =
            .error (.unknownReference (Refusal.noReference d.table parent.column).message)) ∧
          out.state.store = session.store) ∧
    (0 < e.amount.toInt → session.store.Holds .user e.userId →
      session.store.Holds .currency e.currencyId →
        ∃ entry : Entry, out.result = .ok entry ∧
          (entry.direction = d ∧ entry.id = id ∧ entry.userId = e.userId ∧
            entry.currencyId = e.currencyId ∧ entry.amount = e.amount ∧
            entry.status = e.status.getD .created ∧ entry.createdAt = session.now ∧
            entry.updatedAt = session.now) ∧
          (∃ table, session.store.ledger d = some table ∧ out.state.store =
            session.store.setLedger d (some { table with rows := table.rows ++ [entry.toPosting] })) ∧
          ((Ledger.find d entry.id).run (Session.connection {}) out.state).result = .ok entry) := by
  obtain ⟨table, here⟩ := Store.exists_ledger tables d
  rw [Store.postings_of_ledger here] at fresh
  intro out
  refine ⟨fun small => ?refused, fun positive missing => ?unknown,
    fun positive user currency => ?stored⟩
  case refused =>
    have program : Ledger.record id d e = .fail (.nonPositiveAmount e.amount) := if_pos small
    simp [out, program, Program.run]
  case unknown =>
    rcases Store.respond_insertPosting_cases session.now tables here positive fresh with
      ⟨holds, _⟩ | ⟨parent, unheld, respond⟩
    · exact absurd ⟨holds .user, holds .currency⟩ missing
    · obtain ⟨aborted, answer, _⟩ := Session.answer_undisturbed sound respond
      obtain ⟨notes, hrun⟩ := Ledger.run_record positive answer
      simp only [out, hrun, and_true]
      exact ⟨parent, unheld, rfl⟩
  case stored =>
    rcases Store.respond_insertPosting_cases session.now tables here positive fresh with
      ⟨_, respond⟩ | ⟨parent, missing, _⟩
    · obtain ⟨aborted, answer, unharmed⟩ := Session.answer_undisturbed sound respond
      obtain ⟨notes, hrun⟩ := Ledger.run_record positive answer
      refine ⟨(e.stored id session.now).entry d, ?_, ⟨rfl, rfl, rfl, rfl, rfl, rfl, rfl, rfl⟩,
        ⟨table, here, ?_⟩, ?_⟩
      · simp only [out, hrun]
        exact Ledger.recorded_row d _
      · simp only [out, hrun]
        rfl
      · simp only [out, hrun]
        refine (Ledger.run_find_undisturbed _ (unharmed _ rfl) ?_).1
        exact Store.posting?_appendRow_self here fresh
    · cases parent
      · exact absurd user missing
      · exact absurd currency missing

/-- A withdrawal may have the id of a deposit. -/
theorem record_exact_withdrawal :
    let session : Session := { store := Race.store, clock := 30 }
    let e : NewEntry :=
      { userId := Race.user.id, currencyId := Race.currency.id, amount := ⟨5, by decide, by decide⟩ }
    Race.row ∉ (session.store.postings .withdrawal).map Posting.id ∧
      ∃ entry : Entry,
        ((Ledger.record Race.row .withdrawal e).run (Session.connection {}) session).result =
          .ok entry ∧ entry.status = .created ∧ entry.createdAt = Race.time 30 := by
  intro session e
  have fresh : Race.row ∉ (session.store.postings .withdrawal).map Posting.id := by decide
  have tables : ∀ t : Table, session.store.hasTable t = true := by
    rintro (_ | _ | _ | _) <;> rfl
  obtain ⟨_, _, stored⟩ := record_exact session rfl tables .withdrawal Race.row e fresh
  obtain ⟨entry, result, ⟨_, _, _, _, _, status, created, _⟩, _⟩ := stored (by decide)
    ⟨_, rfl, List.mem_singleton_self _⟩ ⟨_, rfl, List.mem_singleton_self _⟩
  exact ⟨fresh, entry, result, status, created⟩

end FundsLedger
